import StakingGateway.Amount.Format
import StakingGateway.Contract.Deployed
import StakingGateway.Operation.Params
import StakingGateway.Operation.Reading
import StakingGateway.Operation.Sending

/-!
Liquid staking transactions: deposits of ether, and wrapping and unwrapping of the token.
-/

namespace StakingGateway.Operation

open Tool Chain Contract

/-- Deposits and statistics are on the main network only. -/
def lidoNetworkParam : Param :=
  (Param.optional "network" (.choice ["ethereum"])
    "Network (Lido only on Ethereum mainnet)").withDefault "ethereum"

/-- The address of a token without which the tool cannot work. -/
def requireToken (network : Network) (symbol missing : String) : Action Address :=
  match liquidToken? network symbol with
  | some address => pure address
  | none => Action.refuse (.unavailable missing)

def stethCall (token : Address) (function : String) (args : List Abi.Token := []) : Call :=
  { interface := .lidoSteth, target := token, function, args }

def wstethCall (token : Address) (function : String) (args : List Abi.Token := []) : Call :=
  { interface := .wsteth, target := token, function, args }

def referralArg (args : Args) : Except ArgumentError Address := do
  match ← args.address? "referral" with
  | some referral => return referral
  | none =>
    match Address.ofText? defaultReferral with
    | some referral => return referral
    | none => throw ⟨"referral", "default referral is not an address"⟩

def depositCall (token referral : Address) (amount : Uint256) : Call :=
  { stethCall token "submit" [.address referral] with value := some amount }

/-- The deposit counts even if the balance behind it cannot be read any more. -/
def stakeEther : Tool where
  name := "stake_eth_lido"
  description := "Stake ETH with Lido to receive stETH (liquid staking)"
  operation := "staking ETH via Lido"
  params := [
    lidoNetworkParam,
    .mandatory "amount" .decimal "Amount of ETH to stake",
    keyParam,
    .optional "referral" .address "Referral address (optional)"]
  run context args := do
    let identifier ← textArg args "network"
    let amount ← etherArg args "amount"
    let referral ← Action.ofArgument (referralArg args)
    let key ← keyArg context args
    let network ← Action.reader identifier
    let account ← Action.account key identifier
    let steth ← requireToken network "stETH" "Lido stETH not available on this network"
    let balance := stethCall steth "balanceOf" [.address account.address]
    let before ← readUint network balance
    let receipt ← submitAndConfirm account (depositCall steth referral amount)
    let after ← readUintOrZero network balance
    let received := Word.saturatingSub after before
    return .obj [
      ("network", .string identifier),
      ("action", "stake_eth_lido"),
      ("ethStaked", .string (Amount.formatEther amount)),
      ("stETHReceived", .string (Amount.formatEther received)),
      ("referral", .string referral.checksum),
      ("transactionHash", .string receipt.hash.text),
      ("status", .string receipt.status.text),
      ("gasUsed", .string receipt.gasText),
      ("stETHAddress", .string steth.checksum),
      ("note",
        "stETH is a rebasing token - your balance will increase daily with staking rewards")]

/-- Where there is no token to be wrapped beside the wrapped one, there is nothing to approve. -/
def wrapSteth : Tool where
  name := "wrap_steth"
  description := "Wrap stETH to wstETH (non-rebasing wrapped staked ETH)"
  operation := "wrapping stETH"
  params := [
    networkParam,
    .mandatory "amount" .decimal "Amount of stETH to wrap",
    keyParam]
  run context args := do
    let identifier ← textArg args "network"
    let amount ← etherArg args "amount"
    let key ← keyArg context args
    let network ← Action.reader identifier
    let account ← Action.account key identifier
    let wsteth ← requireToken network "wstETH" "wstETH not available on this network"
    let approval ← (liquidToken? network "stETH").mapM fun steth =>
      approve account steth wsteth amount
    let receipt ← submitAndConfirm account (wstethCall wsteth "wrap" [.uint amount])
    let expected ← readUintOrZero network (wstethCall wsteth "getWstETHByStETH" [.uint amount])
    return .obj [
      ("network", .string identifier),
      ("action", "wrap_steth"),
      ("stETHWrapped", .string (Amount.formatEther amount)),
      ("expectedWstETH", .string (Amount.formatEther expected)),
      ("approvalTransactionHash", .ofOptionString (approval.map (·.hash.text))),
      ("transactionHash", .string receipt.hash.text),
      ("status", .string receipt.status.text),
      ("gasUsed", .string receipt.gasText),
      ("wstETHAddress", .string wsteth.checksum),
      ("note", "wstETH is a non-rebasing token - better for DeFi and L2s")]

def unwrapWsteth : Tool where
  name := "unwrap_wsteth"
  description := "Unwrap wstETH back to stETH"
  operation := "unwrapping wstETH"
  params := [
    networkParam,
    .mandatory "amount" .decimal "Amount of wstETH to unwrap",
    keyParam]
  run context args := do
    let identifier ← textArg args "network"
    let amount ← etherArg args "amount"
    let key ← keyArg context args
    let network ← Action.reader identifier
    let account ← Action.account key identifier
    let wsteth ← requireToken network "wstETH" "wstETH not available on this network"
    let expected ← readUint network (wstethCall wsteth "getStETHByWstETH" [.uint amount])
    let receipt ← submitAndConfirm account (wstethCall wsteth "unwrap" [.uint amount])
    return .obj [
      ("network", .string identifier),
      ("action", "unwrap_wsteth"),
      ("wstETHUnwrapped", .string (Amount.formatEther amount)),
      ("expectedStETH", .string (Amount.formatEther expected)),
      ("transactionHash", .string receipt.hash.text),
      ("status", .string receipt.status.text),
      ("gasUsed", .string receipt.gasText)]

end StakingGateway.Operation
