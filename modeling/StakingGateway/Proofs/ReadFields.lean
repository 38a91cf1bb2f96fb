import StakingGateway.Proofs.FieldPaths
import StakingGateway.Proofs.ReadReports

/-!
# What reports show of reads

A reading tool cannot do without some outputs of its reads, and fails when one of them is missing.
In place of any other it shows zero or null. `readReports` says of every tool which outputs these
are, in which fields they are shown, and what else is computed from which function.
-/

namespace StakingGateway.Operation

open Tool Chain Contract Tool.Action

/-! ## What reports show -/

abbrev Readings := String → ReadAnswer

def Readings.uint? (answers : Readings) (function : String) (index : Nat := 0) : Option Uint256 :=
  (answers function).toOption.bind fun tokens => tokens[index]?.bind Abi.Token.uint?

def Readings.address? (answers : Readings) (function : String) (index : Nat := 0) :
    Option Address :=
  (answers function).toOption.bind fun tokens => tokens[index]?.bind Abi.Token.address?

def Readings.number (answers : Readings) (function : String) (index : Nat := 0) : Uint256 :=
  (answers.uint? function index).getD 0

inductive Display where
  | number
  | ether
  | address

def Display.absent : Display → Json
  | number | ether => "0"
  | address => .null

structure Output where
  function : String
  index : Nat
  display : Display

/-- The output as it is shown, if the read succeeds and gives a token of that type. -/
def Output.shown? (output : Output) (answers : Readings) : Option Json :=
  match output.display with
  | .number => (answers.uint? output.function output.index).map fun value => .string value.text
  | .ether =>
    (answers.uint? output.function output.index).map fun value => .string (Amount.formatEther value)
  | .address =>
    (answers.address? output.function output.index).map fun value => .string value.checksum

/-- What the report of a tool makes of its reads. -/
structure ReadReport where
  tool : Tool
  /-- The outputs that the tool cannot do without. -/
  needed : List Output := []
  /-- The fields that show a single output. -/
  shown : List (Json.Path × Output)
  /-- The other fields that are computed from reads, and the functions behind them. -/
  derived : List (Json.Path × List String) := []

def ReadReport.computedFrom (report : ReadReport) (function : String) : List Json.Path :=
  (report.shown.filter fun field => field.2.function == function).map Prod.fst ++
    (report.derived.filter fun field => field.2.contains function).map Prod.fst

def positionFields : ReadReport where
  tool := stakingPosition
  shown := [
    (["position", "stakedBalance"], ⟨"balanceOf", 0, .number⟩),
    (["position", "pendingRewards"], ⟨"earned", 0, .number⟩),
    (["pool", "totalStaked"], ⟨"totalSupply", 0, .number⟩),
    (["tokens", "stakingToken"], ⟨"stakingToken", 0, .address⟩),
    (["tokens", "rewardsToken"], ⟨"rewardsToken", 0, .address⟩)]
  derived := [
    (["position", "stakedFormatted"], ["balanceOf"]),
    (["position", "rewardsFormatted"], ["earned"]),
    (["pool", "totalStakedFormatted"], ["totalSupply"]),
    (["pool", "userSharePercent"], ["balanceOf", "totalSupply"])]

def rateFields : ReadReport where
  tool := stakingRate
  shown := [
    (["rewardRate"], ⟨"rewardRate", 0, .number⟩),
    (["rewardRatePerSecond"], ⟨"rewardRate", 0, .ether⟩),
    (["totalStaked"], ⟨"totalSupply", 0, .number⟩)]
  derived := [(["estimatedAPR"], ["rewardRate", "totalSupply"])]

def farmFields : ReadReport where
  tool := farmingPosition
  needed := [
    ⟨"userInfo", 0, .number⟩, ⟨"userInfo", 1, .number⟩,
    ⟨"poolInfo", 0, .address⟩, ⟨"poolInfo", 1, .number⟩]
  shown := [
    (["position", "stakedAmount"], ⟨"userInfo", 0, .ether⟩),
    (["position", "stakedAmountRaw"], ⟨"userInfo", 0, .number⟩),
    (["position", "rewardDebt"], ⟨"userInfo", 1, .number⟩),
    (["position", "pendingRewards"], ⟨"pendingReward", 0, .ether⟩),
    (["position", "pendingRewardsRaw"], ⟨"pendingReward", 0, .number⟩),
    (["pool", "lpToken"], ⟨"poolInfo", 0, .address⟩),
    (["pool", "allocPoint"], ⟨"poolInfo", 1, .number⟩)]

def lidoFields : ReadReport where
  tool := lidoStats
  needed := [
    ⟨"getTotalPooledEther", 0, .number⟩, ⟨"getTotalShares", 0, .number⟩,
    ⟨"stEthPerToken", 0, .number⟩]
  shown := [
    (["lido", "totalPooledEther"], ⟨"getTotalPooledEther", 0, .ether⟩),
    (["lido", "totalShares"], ⟨"getTotalShares", 0, .number⟩),
    (["lido", "stEthPerWstETH"], ⟨"stEthPerToken", 0, .ether⟩)]
  derived := [(["lido", "sharePrice"], ["getTotalPooledEther", "getTotalShares"])]

def readReports : List ReadReport := [positionFields, rateFields, farmFields, lidoFields]

/-- The tool has everything that it cannot do without. -/
def ReadReport.Complete (report : ReadReport) (answers : Readings) : Prop :=
  ∀ output ∈ report.needed, output.shown? answers ≠ none

def ReadReport.Shows (report : ReadReport) (answers : Readings) (data : Json) : Prop :=
  ∀ field ∈ report.shown,
    data.at? field.1 = some ((field.2.shown? answers).getD field.2.display.absent)

/-- The outcome of a tool call is the one that the answers to its reads call for. -/
structure Follows (report : ReadReport) (answers : Readings) (outcome : Except String Envelope) :
    Prop where
  succeeds : (∃ data, outcome = .ok (.ok data)) ↔ report.Complete answers
  fails : (∃ kind, FailsAs kind outcome) ↔ ∃ output ∈ report.needed, output.shown? answers = none
  shows : ∀ data, outcome = .ok (.ok data) → report.Shows answers data

/-- Two reports differ in the fields that are computed from a function, and nowhere else. -/
def ReadReport.DiffersBy (report : ReadReport) (function : String) (data other : Json) : Prop :=
  ∀ path, (∀ changed ∈ report.computedFrom function, Json.Apart changed path) →
    data.at? path = other.at? path

/-! ## Readings of functions -/

theorem mapError_eq_ok {α : Type} {outcome : Except Chain.Error α} {value : α} :
    outcome.mapError Fault.ofChain = .ok value ↔ outcome = .ok value := by
  cases outcome with
  | error e => exact ⟨nofun, nofun⟩
  | ok x => exact ⟨fun h => congrArg _ (Except.ok.inj h), fun h => congrArg _ (Except.ok.inj h)⟩

section Readings

variable (answers : Readings)

theorem uintAt_eq_ok {tokens : List Abi.Token} {index : Nat} {function : String}
    {value : Uint256} :
    uintAt tokens index function = .ok value ↔
      tokens[index]?.bind Abi.Token.uint? = some value := by
  unfold uintAt
  cases tokens[index]?.bind Abi.Token.uint? <;> simp

theorem addressAt_eq_ok {tokens : List Abi.Token} {index : Nat} {function : String}
    {value : Address} :
    addressAt tokens index function = .ok value ↔
      tokens[index]?.bind Abi.Token.address? = some value := by
  unfold addressAt
  cases tokens[index]?.bind Abi.Token.address? <;> simp

theorem uint?_eq_some {f : String} {index : Nat} {value : Uint256} :
    answers.uint? f index = some value ↔
      ∃ tokens, answers f = .ok tokens ∧ tokens[index]?.bind Abi.Token.uint? = some value := by
  unfold Readings.uint?
  cases answers f with
  | error e => simp [Except.toOption]
  | ok tokens => simp [Except.toOption]

theorem address?_eq_some {f : String} {index : Nat} {value : Address} :
    answers.address? f index = some value ↔
      ∃ tokens, answers f = .ok tokens ∧ tokens[index]?.bind Abi.Token.address? = some value := by
  unfold Readings.address?
  cases answers f with
  | error e => simp [Except.toOption]
  | ok tokens => simp [Except.toOption]

theorem uintOf_eq_ok {call : Call} {value : Uint256} :
    uintOf call (answers call.function) = .ok value ↔ answers.uint? call.function = some value := by
  unfold uintOf Readings.uint?
  cases answers call.function with
  | error e => exact ⟨nofun, nofun⟩
  | ok tokens => exact uintAt_eq_ok

theorem uintOrZero_eq (call : Call) :
    uintOrZero call (answers call.function) = answers.number call.function := by
  unfold uintOrZero Readings.number
  cases hread : uintOf call (answers call.function) with
  | ok value => rw [(uintOf_eq_ok answers).mp hread, Option.getD_some]
  | error e =>
      cases hvalue : answers.uint? call.function with
      | none => rfl
      | some value =>
          rw [(uintOf_eq_ok answers).mpr hvalue] at hread
          cases hread

theorem addressOrNone_eq (call : Call) :
    addressOrNone call (answers call.function) = answers.address? call.function := by
  unfold addressOrNone addressOf Readings.address?
  cases answers call.function with
  | error e => rfl
  | ok tokens =>
      cases hvalue : tokens[0]?.bind Abi.Token.address? with
      | some value => simp [Except.bind, Except.toOption, addressAt_eq_ok.mpr hvalue, hvalue]
      | none => simp [Except.bind, Except.toOption, addressAt, hvalue]

variable {answers} in
theorem number_of_uint? {f : String} {index : Nat} {value : Uint256}
    (h : answers.uint? f index = some value) : answers.number f index = value := by
  rw [Readings.number, h, Option.getD_some]

end Readings

/-! ## Shapes and their fields -/

/-- What a shape can gather when every function has its own answer. -/
inductive Shape.Gathers (shape : Shape) (answers : Readings) : Gathered → Prop
  | all (hcalm : ∀ call ∈ shape.calls, shape.decisive call (answers call.function) = false) :
      shape.Gathers answers (.all (shape.calls.map fun call => answers call.function))
  | stopped {call : Call} (hcall : call ∈ shape.calls)
      (hdecisive : shape.decisive call (answers call.function) = true) :
      shape.Gathers answers (.stopped call (answers call.function))

theorem Shape.Gathers.eq_all {shape : Shape} {answers : Readings} {gathered : Gathered}
    (h : shape.Gathers answers gathered)
    (hcalm : ∀ call answer, shape.decisive call answer = false) :
    gathered = .all (shape.calls.map fun call => answers call.function) := by
  cases h with
  | all _ => rfl
  | @stopped call _ hdecisive =>
      rw [hcalm] at hdecisive
      cases hdecisive

/-- The fields of a shape are those of a report; `Made answers data` says what data the answers
make. -/
structure ReadReport.Describes (report : ReadReport) (shape : Shape)
    (Made : Readings → Json → Prop) : Prop where
  made : ∀ {answers gathered data}, shape.Gathers answers gathered →
    shape.result gathered = .ok data → report.Complete answers ∧ Made answers data
  complete : ∀ {answers gathered}, shape.Gathers answers gathered → report.Complete answers →
    ∃ data, shape.result gathered = .ok data
  shows : ∀ {answers data}, Made answers data → report.Shows answers data
  differs : ∀ {function answers others data other}, (∀ f ≠ function, others f = answers f) →
    Made answers data → Made others other → report.DiffersBy function data other

section Fields

variable {report : ReadReport} {answers others : Readings} {function label : String}

theorem follows_of_complete {data : Json} (hcomplete : report.Complete answers)
    (hshows : report.Shows answers data) :
    Follows report answers (Envelope.ofResult label (.ok data)) := by
  refine ⟨⟨fun _ => hcomplete, fun _ => ⟨data, rfl⟩⟩, ⟨?_, ?_⟩, ?_⟩
  · rintro ⟨kind, envelope, failure, houtcome, -, hdata, -⟩
    rw [← Except.ok.inj houtcome] at hdata
    cases hdata
  · rintro ⟨output, houtput, hmissing⟩
    exact absurd hmissing (hcomplete output houtput)
  · intro other hother
    have hresult : Except.ok data = Except.ok other := Envelope.eq_ok_of_ofResult hother
    rwa [← Except.ok.inj hresult]

theorem follows_of_incomplete {cause : Tool.Error} (hincomplete : ¬ report.Complete answers) :
    Follows report answers (Envelope.ofResult label (.error (.refused cause))) := by
  have hfails : ∀ data, Envelope.ofResult label (.error (.refused cause)) ≠ .ok (.ok data) := by
    intro data hdata
    have hresult := Envelope.eq_ok_of_ofResult hdata
    cases hresult
  have hmissing : ∃ output ∈ report.needed, output.shown? answers = none := by
    unfold ReadReport.Complete at hincomplete
    push Not at hincomplete
    exact hincomplete
  refine ⟨⟨?_, ?_⟩, ⟨fun _ => hmissing, fun _ => ⟨_, failsAs_refused label cause⟩⟩, ?_⟩
  · rintro ⟨data, hdata⟩
    exact absurd hdata (hfails data)
  · exact fun hcomplete => absurd hcomplete hincomplete
  · exact fun data hdata => absurd hdata (hfails data)

theorem ReadReport.Describes.follows {shape : Shape} {Made : Readings → Json → Prop}
    (h : report.Describes shape Made) {gathered : Gathered}
    (hsettled : (∃ data, shape.result gathered = .ok data) ∨
      ∃ cause, shape.result gathered = .error (.refused cause))
    (hgathers : shape.Gathers answers gathered) :
    Follows report answers (Envelope.ofResult label (shape.result gathered)) := by
  rcases hsettled with ⟨data, hdata⟩ | ⟨cause, hcause⟩
  · obtain ⟨hcomplete, hmade⟩ := h.made hgathers hdata
    rw [hdata]
    exact follows_of_complete hcomplete (h.shows hmade)
  · rw [hcause]
    refine follows_of_incomplete fun hcomplete => ?_
    obtain ⟨data, hdata⟩ := h.complete hgathers hcomplete
    rw [hcause] at hdata
    cases hdata

/-- A tool that needs nothing and waits for every read always makes its report. -/
theorem describes_of_always {shape : Shape} {Made : Readings → Json → Prop}
    (hneeded : report.needed = []) (hcalm : ∀ call answer, shape.decisive call answer = false)
    (halways : ∀ answers, ∃ data, Made answers data ∧
      shape.result (.all (shape.calls.map fun call => answers call.function)) = .ok data)
    (hshows : ∀ {answers data}, Made answers data → report.Shows answers data)
    (hdiffers : ∀ {function answers others data other}, (∀ f ≠ function, others f = answers f) →
      Made answers data → Made others other → report.DiffersBy function data other) :
    report.Describes shape Made where
  made := by
    intro answers gathered data hgathers hdata
    obtain rfl := hgathers.eq_all hcalm
    obtain ⟨other, hmade, hother⟩ := halways answers
    obtain rfl : other = data := Except.ok.inj (hother.symm.trans hdata)
    exact ⟨by simp [ReadReport.Complete, hneeded], hmade⟩
  complete := by
    intro answers gathered hgathers _
    obtain rfl := hgathers.eq_all hcalm
    obtain ⟨data, -, hdata⟩ := halways answers
    exact ⟨data, hdata⟩
  shows := hshows
  differs := hdiffers

/-- A field that is computed from some functions keeps its value, unless one of them is the function
whose answer differs. -/
theorem agreeBeside_of_sources {place : Json.Path} {left right : Json}
    (hsame : ∀ f ≠ function, others f = answers f) (sources : List String)
    (hplace : ∀ f ∈ sources, place ∈ report.computedFrom f)
    (h : (∀ f ∈ sources, others f = answers f) → left = right) :
    Json.AgreeBeside (report.computedFrom function) place left right := by
  by_cases hfunction : function ∈ sources
  · exact Json.agreeBeside_of_mem (hplace function hfunction)
  · rw [h fun f hf => hsame f (ne_of_mem_of_not_mem hf hfunction)]
    exact Json.agreeBeside_refl right

theorem agreeBeside_of_source {place : Json.Path} {left right : Json}
    (hsame : ∀ f ≠ function, others f = answers f) (source : String)
    (hplace : place ∈ report.computedFrom source)
    (h : others source = answers source → left = right) :
    Json.AgreeBeside (report.computedFrom function) place left right :=
  agreeBeside_of_sources hsame [source] (by simpa using hplace) fun hsources =>
    h (hsources source List.mem_cons_self)

theorem differsBy_of_agreeBeside {data other : Json}
    (h : Json.AgreeBeside (report.computedFrom function) [] data other) :
    report.DiffersBy function data other := h

theorem number_congr {f : String} {index : Nat} (h : others f = answers f) :
    answers.number f index = others.number f index := by
  rw [Readings.number, Readings.number, Readings.uint?, Readings.uint?, h]

theorem address?_congr {f : String} {index : Nat} (h : others f = answers f) :
    answers.address? f index = others.address? f index := by
  rw [Readings.address?, Readings.address?, h]

end Fields

theorem shown_number (answers : Readings) (f : String) (index : Nat) :
    ((⟨f, index, .number⟩ : Output).shown? answers).getD Display.number.absent =
      .string (answers.number f index).text := by
  simp only [Output.shown?, Readings.number]
  cases answers.uint? f index <;> rfl

theorem shown_ether (answers : Readings) (f : String) (index : Nat) :
    ((⟨f, index, .ether⟩ : Output).shown? answers).getD Display.ether.absent =
      .string (Amount.formatEther (answers.number f index)) := by
  have hzero : Amount.formatEther 0 = "0" := by decide +kernel
  simp only [Output.shown?, Readings.number]
  cases answers.uint? f index with
  | none => simp only [Option.map_none, Option.getD_none, Display.absent, hzero]
  | some value => rfl

theorem shown_address (answers : Readings) (f : String) (index : Nat) :
    ((⟨f, index, .address⟩ : Output).shown? answers).getD Display.address.absent =
      checksumOrNull (answers.address? f index) := by
  simp only [Output.shown?]
  cases answers.address? f index <;> rfl

end StakingGateway.Operation
