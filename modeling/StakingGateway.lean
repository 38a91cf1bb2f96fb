import StakingGateway.Abi.Function
import StakingGateway.Abi.Token
import StakingGateway.Address
import StakingGateway.Amount.Format
import StakingGateway.Amount.Parse
import StakingGateway.Amount.Percent
import StakingGateway.Bytes.Hex
import StakingGateway.Bytes.HexText
import StakingGateway.Bytes.Percent
import StakingGateway.Chain.Dialogue
import StakingGateway.Chain.Error
import StakingGateway.Chain.Program
import StakingGateway.Chain.Receipt
import StakingGateway.Chain.Run
import StakingGateway.Contract.Call
import StakingGateway.Contract.Deployed
import StakingGateway.Contract.Interface
import StakingGateway.Crypto.Keccak
import StakingGateway.Crypto.Secp256k1
import StakingGateway.Crypto.SigningKey
import StakingGateway.Decimal.Binary64
import StakingGateway.Decimal.Shortest
import StakingGateway.DomainName.Basic
import StakingGateway.DomainName.Label
import StakingGateway.DomainName.Mapping
import StakingGateway.DomainName.MappingTable
import StakingGateway.DomainName.Punycode
import StakingGateway.Gateway
import StakingGateway.Json.Basic
import StakingGateway.Json.Cursor
import StakingGateway.Json.Fault
import StakingGateway.Json.Inspect
import StakingGateway.Json.Numeral
import StakingGateway.Json.Parser
import StakingGateway.Json.Printer
import StakingGateway.Json.Record
import StakingGateway.Json.Skip
import StakingGateway.Main
import StakingGateway.Network
import StakingGateway.Node.Answer
import StakingGateway.Node.Client
import StakingGateway.Node.Endpoint
import StakingGateway.Node.Question
import StakingGateway.Node.Session
import StakingGateway.Operation.Catalogue
import StakingGateway.Operation.Directory
import StakingGateway.Operation.Farm
import StakingGateway.Operation.Liquid
import StakingGateway.Operation.LiquidStats
import StakingGateway.Operation.Params
import StakingGateway.Operation.Pool
import StakingGateway.Operation.Reading
import StakingGateway.Operation.Sending
import StakingGateway.Operation.Stake
import StakingGateway.Proofs.AcceptedReadings
import StakingGateway.Proofs.AcceptedTransaction
import StakingGateway.Proofs.AmountBlindness
import StakingGateway.Proofs.AmountReading
import StakingGateway.Proofs.AmountWriting
import StakingGateway.Proofs.ApprovalGate
import StakingGateway.Proofs.ByteOrder
import StakingGateway.Proofs.CallEncoding
import StakingGateway.Proofs.CarriedAmount
import StakingGateway.Proofs.ChangedField
import StakingGateway.Proofs.CheckedAmounts
import StakingGateway.Proofs.CheckedWords
import StakingGateway.Proofs.ConfiguredEndpoints
import StakingGateway.Proofs.Course
import StakingGateway.Proofs.CrashFree
import StakingGateway.Proofs.CursorSteps
import StakingGateway.Proofs.DecimalDigits
import StakingGateway.Proofs.DecimalText
import StakingGateway.Proofs.DegradedReads
import StakingGateway.Proofs.DescribedReports
import StakingGateway.Proofs.EncodingErrors
import StakingGateway.Proofs.EndpointEntries
import StakingGateway.Proofs.EnvelopeCodec
import StakingGateway.Proofs.EnvelopeStatus
import StakingGateway.Proofs.EnvelopeText
import StakingGateway.Proofs.ExactPercent
import StakingGateway.Proofs.ExactValidation
import StakingGateway.Proofs.FieldPaths
import StakingGateway.Proofs.Fields
import StakingGateway.Proofs.GatheredReads
import StakingGateway.Proofs.HeldChains
import StakingGateway.Proofs.HeldSessions
import StakingGateway.Proofs.HexDigits
import StakingGateway.Proofs.HiddenKey
import StakingGateway.Proofs.InterfaceUse
import StakingGateway.Proofs.Interleaving
import StakingGateway.Proofs.Invocation
import StakingGateway.Proofs.JsonGrammar
import StakingGateway.Proofs.LineCutting
import StakingGateway.Proofs.LineService
import StakingGateway.Proofs.LowerCase
import StakingGateway.Proofs.NetworkNames
import StakingGateway.Proofs.NetworkSpellings
import StakingGateway.Proofs.NormalArguments
import StakingGateway.Proofs.Omissions
import StakingGateway.Proofs.OpenedClients
import StakingGateway.Proofs.ParallelRuns
import StakingGateway.Proofs.ParseErrors
import StakingGateway.Proofs.PassedScalars
import StakingGateway.Proofs.PassedText
import StakingGateway.Proofs.Plan
import StakingGateway.Proofs.Preflight
import StakingGateway.Proofs.Preparation
import StakingGateway.Proofs.ReadFields
import StakingGateway.Proofs.ReadOrder
import StakingGateway.Proofs.ReadReports
import StakingGateway.Proofs.ReadingTools
import StakingGateway.Proofs.ReceiptPolling
import StakingGateway.Proofs.RecordText
import StakingGateway.Proofs.Records
import StakingGateway.Proofs.Registrations
import StakingGateway.Proofs.RegistryOrder
import StakingGateway.Proofs.RenderedText
import StakingGateway.Proofs.ReportedErrors
import StakingGateway.Proofs.RequestHandling
import StakingGateway.Proofs.RouteAgreement
import StakingGateway.Proofs.SchemaAgreement
import StakingGateway.Proofs.SchemaMeaning
import StakingGateway.Proofs.SchemaPattern
import StakingGateway.Proofs.SendDiscipline
import StakingGateway.Proofs.SentAsSimulated
import StakingGateway.Proofs.SharePrice
import StakingGateway.Proofs.ShownBalances
import StakingGateway.Proofs.SigningCalls
import StakingGateway.Proofs.SigningTools
import StakingGateway.Proofs.SingleSend
import StakingGateway.Proofs.ToolTargets
import StakingGateway.Proofs.Transactions
import StakingGateway.Proofs.Trimming
import StakingGateway.Proofs.Validation
import StakingGateway.Proofs.YearlyRate
import StakingGateway.Rehearsal.Chain
import StakingGateway.Rehearsal.Node
import StakingGateway.Rehearsal.Script
import StakingGateway.Service.Dispatch
import StakingGateway.Service.Http
import StakingGateway.Service.Lines
import StakingGateway.Service.MediaType
import StakingGateway.Service.Message
import StakingGateway.Settings.Config
import StakingGateway.Settings.EnvFile
import StakingGateway.Settings.Host
import StakingGateway.Settings.Url
import StakingGateway.Text.Alphanumeric
import StakingGateway.Text.Blank
import StakingGateway.Text.CaseTable
import StakingGateway.Text.Composed
import StakingGateway.Text.CompositionTable
import StakingGateway.Text.Digits
import StakingGateway.Text.Direction
import StakingGateway.Text.Joining
import StakingGateway.Text.Lowercase
import StakingGateway.Text.Mark
import StakingGateway.Text.MarkTable
import StakingGateway.Text.PrintableTable
import StakingGateway.Text.Quoted
import StakingGateway.Text.Ranges
import StakingGateway.Tool.Action
import StakingGateway.Tool.Args
import StakingGateway.Tool.Envelope
import StakingGateway.Tool.Error
import StakingGateway.Tool.Param
import StakingGateway.Tool.Registry
import StakingGateway.Word
