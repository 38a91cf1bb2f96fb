import StakingGateway.Node.Endpoint
import StakingGateway.Proofs.HeldSessions
import StakingGateway.Proofs.OpenedClients

/-!
# What is simulated is what is signed

A reader and an account are opened apart from each other, and each of them makes its own request of
a call. The rehearsal and the transaction go to the same network all the same, and agree in the
sender, the recipient, the data and the native value. A call without data makes no request at all.
-/

namespace StakingGateway.Node

open Contract Settings

/-- The transaction is what the message asks for; a message without a native value asks for zero. -/
structure Transaction.CarriesOut (t : Transaction) (message : Message) : Prop where
  sender : message.sender = some t.sender
  target : t.target = message.target
  data : t.data = message.data
  value : t.value = message.value.getD 0

def NothingSubmitted (asked : List Asked) : Prop :=
  ∀ a ∈ asked, ∀ t, a.question ≠ .submit t

/-- What is heard of a session that submits a transaction for a message: the transaction is the last
question, unless a node has failed to answer one before it. -/
inductive Submission {σ : Type} (nodes : Nodes σ) (client : Client) (function : String)
    (message : Message) : Except Chain.Error TxHash × List Asked → Prop
  | submitted {result : Except Chain.Error TxHash} {asked : List Asked} {t : Transaction}
      (hbefore : NothingSubmitted asked) (hcarries : t.CarriesOut message)
      (hchain : t.chainId = client.network.chainId) :
      Submission nodes client function message (result, asked ++ [⟨client, .submit t⟩])
  | withheld {asked : List Asked} {question : Question} {state : σ} {e : Error}
      (hnone : NothingSubmitted asked) (hasked : ⟨client, question⟩ ∈ asked)
      (hfailed : question.resultOf (nodes client question state).1 = .error e) :
      Submission nodes client function message
        (.error (.notSubmitted function e.message), asked)

section Held

variable {σ : Type} {nodes : Nodes σ} {world : World σ} {client : Client} {call : Call}
  {message : Message}

theorem nothingSubmitted_cons {asked : List Asked} {question : Question}
    (hquestion : ∀ t, question ≠ .submit t) (h : NothingSubmitted asked) :
    NothingSubmitted (⟨client, question⟩ :: asked) :=
  List.forall_mem_cons.mpr ⟨hquestion, h⟩

theorem Submission.behind {function : String} {question : Question}
    {heard : Except Chain.Error TxHash × List Asked} (hquestion : ∀ t, question ≠ .submit t)
    (h : Submission nodes client function message heard) :
    Submission nodes client function message (behind ⟨client, question⟩ heard) := by
  cases h with
  | submitted hbefore hcarries hchain =>
      exact .submitted (nothingSubmitted_cons hquestion hbefore) hcarries hchain
  | withheld hnone hasked hfailed =>
      exact .withheld (nothingSubmitted_cons hquestion hnone) (.tail _ hasked) hfailed

/-- A question that comes before the transaction. -/
theorem submission_ask {question : Question}
    {next : question.Result → Session (Except Chain.Error TxHash)}
    (hquestion : ∀ t, question ≠ .submit t)
    (hnext : ∀ result later,
      Submission nodes client call.function message (nodes.hear (next result) later)) :
    Submission nodes client call.function message
      (nodes.hear
        (ask client question (fun e => .notSubmitted call.function e.message) next) world) := by
  rcases hear_ask_cases client question (fun e => .notSubmitted call.function e.message) next with
    ⟨result, later, -, hheard⟩ | ⟨e, hfailed, hheard⟩
  · rw [hheard]
    exact (hnext result later).behind hquestion
  · rw [hheard]
    exact .withheld (List.forall_mem_singleton.mpr hquestion) List.mem_cons_self hfailed

theorem submission_submit {t : Transaction}
    {next : TxHash → Session (Except Chain.Error TxHash)} (hcarries : t.CarriesOut message)
    (hchain : t.chainId = client.network.chainId) (hnext : ∀ hash, ∃ result, next hash = .done result) :
    Submission nodes client call.function message
      (nodes.hear
        (ask client (.submit t) (fun e => .notSubmitted call.function e.message) next) world) := by
  have hbefore : NothingSubmitted [] := fun _ ha => absurd ha List.not_mem_nil
  rcases hear_ask_cases client (.submit t) (fun e => .notSubmitted call.function e.message) next
    with ⟨hash, later, -, hheard⟩ | ⟨e, hfailed, hheard⟩
  · obtain ⟨result, hdone⟩ := hnext hash
    rw [hheard, hdone]
    exact .submitted hbefore hcarries hchain
  · rw [hheard]
    exact .submitted hbefore hcarries hchain

theorem carriesOut_sign {sender : Address} {draft : Draft} (gas : Uint256)
    (h : draft.message.sender = some sender) :
    (draft.sign client sender gas).CarriesOut draft.message :=
  ⟨h, rfl, rfl, rfl⟩

theorem ofCall_of_calldata {data : List UInt8} (sender : Option Address)
    (h : call.calldata = .ok data) :
    Message.ofCall sender call = .ok ⟨sender, call.target, data, call.value⟩ := by
  rw [Message.ofCall, h]
  rfl

theorem ofCall_of_calldata_error {e : Chain.Error} (sender : Option Address)
    (h : call.calldata = .error e) : Message.ofCall sender call = .error e := by
  rw [Message.ofCall, h]
  rfl

theorem hear_simulate {data : List UInt8} (sender : Address) (h : call.calldata = .ok data) :
    (nodes.hear (simulate client sender call) world).2 =
      [⟨client, .call ⟨some sender, call.target, data, call.value⟩⟩] := by
  simp only [simulate, ofCall_of_calldata (some sender) h]
  rcases hear_ask_cases client (.call ⟨some sender, call.target, data, call.value⟩)
    (fun e => .simulationReverted call.function e.reason) fun _ => .done (.ok ()) with
    ⟨result, later, -, hheard⟩ | ⟨e, -, hheard⟩
  · exact congrArg Prod.snd hheard
  · exact congrArg Prod.snd hheard

theorem submission_write (sender : Address) {data : List UInt8} (h : call.calldata = .ok data) :
    Submission nodes client call.function ⟨some sender, call.target, data, call.value⟩
      (nodes.hear (write client sender call) world) := by
  simp only [write, ofCall_of_calldata (some sender) h]
  -- The number, the gas price and the gas come before the transaction.
  refine submission_ask (by simp) fun nonce _ => ?_
  refine submission_ask (by simp) fun gasPrice _ => ?_
  refine submission_ask (by simp) fun gas _ => ?_
  exact submission_submit (carriesOut_sign gas rfl) rfl fun hash => ⟨.ok hash, rfl⟩

theorem calldata_error {e : Chain.Error} (h : call.calldata = .error e) :
    ∃ reason, e = .abi call.function reason := by
  unfold Call.calldata at h
  cases hencoded : (call.interface.function call.function).bind (·.encode call.args) with
  | ok data =>
      rw [hencoded] at h
      cases h
  | error cause =>
      rw [hencoded] at h
      exact ⟨cause.message, (Except.error.inj h).symm⟩

theorem exists_ok_of_isSome {ε α : Type} {x : Except ε α} (h : x.toOption.isSome) :
    ∃ value, x = .ok value := by
  cases x with
  | ok value => exact ⟨value, rfl⟩
  | error e => cases h

end Held

/-- A reader of an identifier and an account of a key for the same identifier are of one network, and
for every call they ask one thing of its node: the rehearsal and the signed transaction agree, and a call
that cannot be encoded ends both with the same error before any question. -/
theorem sent_as_simulated (config : Config) {identifier key : String} {network : Network}
    {signer : Crypto.SigningKey} (hnamed : Network.resolve? identifier = some network)
    (hkey : Crypto.SigningKey.ofText key = .ok signer) :
    let chain := configured config
    let client : Client := ⟨network, config.endpoint network⟩
    let account : Chain.Account := ⟨network, signer.address⟩
    chain.openReader identifier = (chain.reach network).map (fun _ => network) ∧
    chain.openAccount key identifier = (chain.reach network).map (fun _ => account) ∧
    ∀ call : Call, ∀ {σ : Type} (nodes : Nodes σ) (state : σ),
      let simulated := nodes.hold (chain.simulate network account.address call) state
      let written := nodes.hold (chain.write account call) state
      (∀ data, call.calldata = .ok data →
        let message : Message := ⟨some account.address, call.target, data, call.value⟩
        simulated.1.2 = [⟨client, .call message⟩] ∧
          Submission nodes client call.function message written.1) ∧
      ∀ e, call.calldata = .error e → (∃ reason, e = .abi call.function reason) ∧
        simulated = ((.error e, []), state) ∧ written = ((.error e, []), state) := by
  intro chain client account
  have hreader : chain.openReader identifier = (chain.reach network).map fun _ => network := by
    rw [Chain.openReader, hnamed]
  refine ⟨hreader, ?_, fun call σ nodes state => ⟨fun data hdata => ⟨?_, ?_⟩, fun e he => ?_⟩⟩
  · rw [Chain.openAccount, hreader, hkey]
    cases chain.reach network with
    | ok _ => rfl
    | error _ => rfl
  · exact hear_simulate _ hdata
  · exact submission_write signer.address hdata
  · refine ⟨calldata_error he, ?_, ?_⟩
    · simp only [chain, configured, Node.chain, simulate, ofCall_of_calldata_error _ he]
      rfl
    · simp only [chain, configured, Node.chain, write, ofCall_of_calldata_error _ he]
      rfl

/-- A deposit under a spelling that is not the name of the network; the nodes answer every question,
and so the transaction is submitted. -/
theorem sent_as_simulated_deposit :
    let identifier := "ARBITRUM ONE"
    let key := "0xac0974bec39a17e36ba4a6b4d238ff944bacb478cbed5efcae784d7bf4f2ff80"
    let deposit : Call :=
      ⟨.lidoSteth, ⟨0x7b⟩, "submit", [.address ⟨0x40252cfdf8b20ed757d61ff157719f33ec332402⟩],
        some 1000000000⟩
    let client : Client := ⟨.arbitrum, "https://arb1.arbitrum.io/rpc"⟩
    let answer : Question → Json
      | .receipt _ => .null
      | .submit _ => .string (TxHash.ofNat 0xabc).text
      | _ => "0x5208"
    let nodes : Nodes Nat := fun _ question count => (.result (answer question), count + 1)
    ∃ signer, Network.resolve? identifier = some .arbitrum ∧
      Crypto.SigningKey.ofText key = .ok signer ∧
      ∃ data t, deposit.calldata = .ok data ∧
        (nodes.hold (simulate client signer.address deposit) 0).1.2 =
          [⟨client, .call ⟨some signer.address, deposit.target, data, deposit.value⟩⟩] ∧
        (nodes.hold (write client signer.address deposit) 0).1.2.getLast? =
          some ⟨client, .submit t⟩ ∧
        t.sender = signer.address ∧ t.target = deposit.target ∧ t.data = data ∧
        t.value = 1000000000 ∧ t.chainId = 42161 := by
  intro identifier key deposit client answer nodes
  have hnamed : Network.resolve? identifier = some .arbitrum := by decide +kernel
  obtain ⟨signer, hkey⟩ := exists_ok_of_isSome
    (show (Crypto.SigningKey.ofText key).toOption.isSome by decide +kernel)
  obtain ⟨data, hdata⟩ := exists_ok_of_isSome
    (show deposit.calldata.toOption.isSome by decide +kernel)
  have hbytes : (bytesOf "0x5208").toOption.isSome := by decide +kernel
  have hword : (wordOf "0x5208").toOption.isSome := by decide +kernel
  have hhash : (hashOf (.string (TxHash.ofNat 0xabc).text)).toOption.isSome := by decide +kernel
  have hanswered : ∀ question : Question, ∃ result, question.read (answer question) = .ok result := by
    rintro (_ | _ | _ | _ | _ | _)
    · exact exists_ok_of_isSome hbytes
    · exact exists_ok_of_isSome hword
    · exact exists_ok_of_isSome hword
    · exact exists_ok_of_isSome hword
    · exact exists_ok_of_isSome hhash
    · exact ⟨none, rfl⟩
  obtain ⟨hasked, hsubmission⟩ :=
    ((sent_as_simulated {} hnamed hkey).2.2 deposit nodes 0).1 data hdata
  generalize hheard :
    (nodes.hold ((configured {}).write ⟨.arbitrum, signer.address⟩ deposit) 0).1 = heard
    at hsubmission
  cases hsubmission with
  | @submitted result asked t hbefore hcarries hchain =>
      have hlast := congrArg (fun heard => heard.2.getLast?) hheard
      exact ⟨signer, hnamed, hkey, data, t, hdata, hasked, hlast.trans List.getLast?_concat,
        (Option.some.inj hcarries.sender).symm, hcarries.target, hcarries.data, hcarries.value,
        hchain⟩
  | @withheld asked question state e hnone hmem hfailed =>
      obtain ⟨result, hresult⟩ := hanswered question
      have hgiven : question.resultOf (nodes client question state).1 = .ok result :=
        congrArg (Except.mapError _) hresult
      cases hgiven.symm.trans hfailed

end StakingGateway.Node
