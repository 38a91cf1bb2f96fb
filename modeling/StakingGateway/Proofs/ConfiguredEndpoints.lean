import StakingGateway.Node.Endpoint
import StakingGateway.Proofs.EndpointEntries
import StakingGateway.Proofs.OpenedClients

/-!
# Where clients ask

An entry is read under one spelling of a network, and clients are opened under another one. Both
go by the network itself, so that a client of a network asks at the URL of the entry that names the
network, however that is spelled, and at the public endpoint when there is no such entry. That goes
for reads, simulations, submissions and receipts alike.
-/

namespace StakingGateway

namespace Dialogue

variable {Q : Type} {A : Q → Type} {α : Type} {allowed : Q → Prop}

def AsksOnly (allowed : Q → Prop) : Dialogue Q A α → Prop
  | done _ => True
  | ask question next => allowed question ∧ ∀ answer, (next answer).AsksOnly allowed

theorem asksOnly_query_bind {question : Q} {f : A question → Dialogue Q A α}
    (h : allowed question) (hf : ∀ answer, (f answer).AsksOnly allowed) :
    ((query question).bind f).AsksOnly allowed :=
  ⟨h, hf⟩

end Dialogue

namespace Node

open Contract Settings

variable {client : Client} {α : Type}

/-- A question is one of the client; a step of the clock is no question. -/
def Step.By (client : Client) : Step → Prop
  | .ask asking _ => asking = client
  | .timer _ => True
  | .wait _ => True

/-- However nodes answer, all questions of the session go to the URL, for the network. -/
def StaysAt (network : Network) (url : String) (session : Session α) : Prop :=
  ∀ (σ : Type) (nodes : Nodes σ) (state : σ), ∀ asked ∈ (nodes.hold session state).1.2,
    asked.client.network = network ∧ asked.client.url = url

/-- However nodes answer, the session asks this question at the URL. -/
def AsksAt (network : Network) (url : String) (question : Question) (session : Session α) : Prop :=
  ∀ (σ : Type) (nodes : Nodes σ) (state : σ), ∃ asked ∈ (nodes.hold session state).1.2,
    asked.client.network = network ∧ asked.client.url = url ∧ asked.question = question

theorem asksAt_ask {question : Question} {failure : Error → Chain.Error}
    {next : question.Result → Session (Except Chain.Error α)} :
    AsksAt client.network client.url question (ask client question failure next) := by
  intro σ nodes state
  exact ⟨⟨client, question⟩, List.mem_cons_self, rfl, rfl, rfl⟩

theorem staysAt_of_asksOnly {session : Session α} (h : session.AsksOnly (Step.By client)) :
    StaysAt client.network client.url session := by
  intro σ nodes state
  -- Time and tickets change from step to step, so the induction is over all worlds.
  have hworld : ∀ world : World σ, ∀ asked ∈ (Dialogue.hold nodes.respond session world).1.2,
      asked.client = client := by
    induction session with
    | done value =>
        intro world asked hasked
        cases hasked
    | ask step next ih =>
        intro world asked hasked
        rcases List.mem_append.mp hasked with hfirst | hrest
        · cases step with
          | ask asking question =>
              obtain rfl := List.mem_singleton.mp hfirst
              exact h.1
          | timer delay => cases hfirst
          | wait ticket => cases hfirst
        · exact ih _ (h.2 _) _ asked hrest
  intro asked hasked
  rw [hworld _ asked hasked]
  exact ⟨rfl, rfl⟩

theorem asksOnly_ask {question : Question} {failure : Error → Chain.Error}
    {next : question.Result → Session (Except Chain.Error α)}
    (hnext : ∀ result, (next result).AsksOnly (Step.By client)) :
    (ask client question failure next).AsksOnly (Step.By client) := by
  refine ⟨rfl, fun reply => ?_⟩
  cases hresult : question.resultOf reply with
  | ok result =>
      simp only [hresult]
      exact hnext result
  | error e =>
      simp only [hresult]
      trivial

theorem asksOnly_read (client : Client) (call : Call) :
    (read client call).AsksOnly (Step.By client) := by
  unfold read
  cases Message.ofCall none call with
  | error e => trivial
  | ok message => exact asksOnly_ask fun data => trivial

theorem asksAt_read {call : Call} {message : Message} (h : Message.ofCall none call = .ok message) :
    AsksAt client.network client.url (.call message) (read client call) := by
  rw [read, h]
  exact asksAt_ask

theorem asksOnly_simulate (client : Client) (sender : Address) (call : Call) :
    (simulate client sender call).AsksOnly (Step.By client) := by
  unfold simulate
  cases Message.ofCall (some sender) call with
  | error e => trivial
  | ok message => exact asksOnly_ask fun data => trivial

theorem asksAt_simulate {sender : Address} {call : Call} {message : Message}
    (h : Message.ofCall (some sender) call = .ok message) :
    AsksAt client.network client.url (.call message) (simulate client sender call) := by
  rw [simulate, h]
  exact asksAt_ask

theorem asksOnly_write (client : Client) (sender : Address) (call : Call) :
    (write client sender call).AsksOnly (Step.By client) := by
  unfold write
  cases Message.ofCall (some sender) call with
  | error e => trivial
  | ok message =>
      refine asksOnly_ask fun nonce => ?_
      refine asksOnly_ask fun gasPrice => ?_
      refine asksOnly_ask fun gas => ?_
      exact asksOnly_ask fun hash => trivial

theorem asksAt_write {sender : Address} {call : Call} {message : Message}
    (h : Message.ofCall (some sender) call = .ok message) :
    AsksAt client.network client.url (.transactionCount sender) (write client sender call) := by
  rw [write, h]
  exact asksAt_ask

section Receipts

variable {hash : TxHash} {timing : Timing}

theorem asksOnly_look {missing : Session (Except Chain.Error Chain.Receipt)}
    (hmissing : missing.AsksOnly (Step.By client)) :
    (look client hash missing).AsksOnly (Step.By client) := by
  refine asksOnly_ask fun found => ?_
  cases found with
  | none => exact hmissing
  | some receipt => trivial

theorem asksOnly_giveUp (deadline : Ticket) :
    (giveUp timing hash deadline).AsksOnly (Step.By client) :=
  Dialogue.asksOnly_query_bind trivial fun _ => trivial

theorem asksOnly_lookAgain (deadline : Ticket) (looks : Nat) (next : Ticket) :
    (lookAgain timing client hash deadline looks next).AsksOnly (Step.By client) := by
  -- Every further look waits under a ticket of its own.
  induction looks generalizing next with
  | zero => exact asksOnly_giveUp deadline
  | succ looks ih =>
      rw [lookAgain]
      split
      · exact asksOnly_giveUp deadline
      · refine Dialogue.asksOnly_query_bind trivial fun _ => ?_
        refine asksOnly_look ?_
        exact Dialogue.asksOnly_query_bind trivial ih

theorem asksOnly_awaitReceipt : (awaitReceipt timing client hash).AsksOnly (Step.By client) := by
  refine asksOnly_look ?_
  refine Dialogue.asksOnly_query_bind trivial fun next => ?_
  refine Dialogue.asksOnly_query_bind trivial fun deadline => ?_
  exact asksOnly_lookAgain deadline _ next

end Receipts

/-- An identifier opens both kinds of clients of the network. All that they ask goes to the URL, and
what they are used for is asked there. -/
structure ServedAt (config : Config) (identifier : String) (network : Network) (url : String) :
    Prop where
  endpoint : config.endpoint network = url
  reader : (configured config).openReader identifier = .ok network
  account : ∀ key signer, Crypto.SigningKey.ofText key = .ok signer →
    (configured config).openAccount key identifier = .ok ⟨network, signer.address⟩
  reads : ∀ call, StaysAt network url ((configured config).read network call)
  readsAsk : ∀ call message, Message.ofCall none call = .ok message →
    AsksAt network url (.call message) ((configured config).read network call)
  simulations : ∀ sender call,
    StaysAt network url ((configured config).simulate network sender call)
  simulationsAsk : ∀ sender call message, Message.ofCall (some sender) call = .ok message →
    AsksAt network url (.call message) ((configured config).simulate network sender call)
  writes : ∀ address call,
    StaysAt network url ((configured config).write ⟨network, address⟩ call)
  writesAsk : ∀ address call message, Message.ofCall (some address) call = .ok message →
    AsksAt network url (.transactionCount address)
      ((configured config).write ⟨network, address⟩ call)
  receipts : ∀ hash, StaysAt network url ((configured config).receipt network hash)
  receiptsAsk : ∀ hash,
    AsksAt network url (.receipt hash) ((configured config).receipt network hash)

theorem servedAt {config : Config} {identifier : String} {network : Network} {url : String}
    (hnamed : Network.resolve? identifier = some network)
    (hendpoint : config.endpoint network = url) (hurl : Url.check url = .ok ()) :
    ServedAt config identifier network url := by
  subst hendpoint
  have hreach : (configured config).reach network = .ok () := by
    simp only [configured, chain, reach, hurl]
    rfl
  have hreader := Chain.openReader_of_reach hnamed hreach
  exact {
    endpoint := rfl
    reader := hreader
    account := fun key signer hsigner => Chain.openAccount_of_signer hreader hsigner
    reads := fun call => staysAt_of_asksOnly (asksOnly_read _ call)
    readsAsk := fun _ _ hmessage => asksAt_read hmessage
    simulations := fun sender call => staysAt_of_asksOnly (asksOnly_simulate _ sender call)
    simulationsAsk := fun _ _ _ hmessage => asksAt_simulate hmessage
    writes := fun address call => staysAt_of_asksOnly (asksOnly_write _ address call)
    writesAsk := fun _ _ _ hmessage => asksAt_write hmessage
    receipts := fun _ => staysAt_of_asksOnly asksOnly_awaitReceipt
    receiptsAsk := fun _ => asksAt_ask }

end Node

namespace Settings

open Node

variable {entries visited : List (String × String)}

theorem check_publicEndpoint (network : Network) : Url.check network.publicEndpoint = .ok () := by
  cases network <;> decide +kernel

/-- All entries can be read, and no two keys name one network. -/
structure Usable (entries : List (String × String)) : Prop where
  sound : ∀ entry ∈ entries, Sound entry
  distinct : ∀ a ∈ entries, ∀ b ∈ entries, a.1 ≠ b.1 →
    Network.resolve? a.1 ≠ Network.resolve? b.1

theorem Usable.not_clash (h : Usable entries) (hkeys : (entries.map Prod.fst).Nodup) :
    ¬ Clash entries := by
  rintro ⟨a, ha, b, hb, network, hfirst, hsecond, hne⟩
  by_cases hkey : a.1 = b.1
  · exact hne (congrArg Prod.snd (List.inj_on_of_nodup_map hkeys ha hb hkey))
  · exact h.distinct a ha b hb hkey (hfirst.trans hsecond.symm)

theorem mem_names_endpointsOf {name : String} :
    name ∈ (endpointsOf entries).map (fun endpoint => endpoint.1.name) ↔
      ∃ entry ∈ entries, ∃ network, Network.resolve? entry.1 = some network ∧
        network.name = name := by
  constructor
  · intro h
    obtain ⟨⟨network, url⟩, hmem, hname⟩ := List.mem_map.mp h
    obtain ⟨entry, hentry, hnamed, -⟩ := mem_endpointsOf.mp hmem
    exact ⟨entry, hentry, network, hnamed, hname⟩
  · rintro ⟨entry, hentry, network, hnamed, hname⟩
    exact List.mem_map.mpr
      ⟨(network, entry.2), mem_endpointsOf.mpr ⟨entry, hentry, hnamed, rfl⟩, hname⟩

section Clients

variable {config : Config} {identifier : String} {network : Network}

/-- An entry that names the network is where its clients ask, under any spelling. -/
theorem servedAt_entry (hsound : ∀ entry ∈ entries, Sound entry) (hclash : ¬ Clash entries)
    (hconfig : config.endpoints = endpointsOf entries)
    (hidentifier : Network.resolve? identifier = some network) {entry : String × String}
    (hentry : entry ∈ entries) (hnamed : Network.resolve? entry.1 = some network) :
    ServedAt config identifier network entry.2 := by
  have hfound : endpoint? (endpointsOf entries) network = some entry.2 :=
    (endpoint?_endpointsOf hclash).mpr ⟨entry, hentry, hnamed, rfl⟩
  refine servedAt hidentifier ?_ (hsound entry hentry).2
  rw [Config.endpoint, hconfig, hfound, Option.getD_some]

theorem servedAt_publicEndpoint (hconfig : config.endpoints = endpointsOf entries)
    (hidentifier : Network.resolve? identifier = some network)
    (hnone : ∀ entry ∈ entries, Network.resolve? entry.1 ≠ some network) :
    ServedAt config identifier network network.publicEndpoint := by
  have hfound : endpoint? (endpointsOf entries) network = none := by
    refine endpoint?_eq_none_iff.mpr fun url hmem => ?_
    obtain ⟨entry, hentry, hnamed, -⟩ := mem_endpointsOf.mp hmem
    exact hnone entry hentry hnamed
  refine servedAt hidentifier ?_ (check_publicEndpoint network)
  rw [Config.endpoint, hconfig, hfound, Option.getD_none]

end Clients

/-- Entries of a setting, visited in any order: when they are usable, their networks are configured
and clients ask at their URLs, and elsewhere at public endpoints; one bad entry gives no endpoints
at all. -/
theorem entries_reach_clients {raw : String} {entries : List (String × String)}
    (h : entriesOf? raw = some entries) :
    parseEndpoints raw = readEntries entries ∧
    ∀ visited : List (String × String), visited.Perm entries →
      (Usable entries → ∃ endpoints, readEntries visited = .ok endpoints ∧
        (∀ name, name ∈ endpoints.map (fun endpoint => endpoint.1.name) ↔
          ∃ entry ∈ entries, ∃ network, Network.resolve? entry.1 = some network ∧
            network.name = name) ∧
        ∀ config : Config, config.endpoints = endpoints →
          ∀ identifier network, Network.resolve? identifier = some network →
            (∀ entry ∈ entries, Network.resolve? entry.1 = some network →
              ServedAt config identifier network entry.2) ∧
            ((∀ entry ∈ entries, Network.resolve? entry.1 ≠ some network) →
              ServedAt config identifier network network.publicEndpoint)) ∧
      ((∃ entry ∈ entries, Network.resolve? entry.1 = none ∨ Url.check entry.2 ≠ .ok ()) →
        ∃ e, readEntries visited = .error e) := by
  refine ⟨parseEndpoints_eq_readEntries h, fun visited hperm => ⟨fun husable => ?_, ?_⟩⟩
  · have hclash : ¬ Clash visited := by
      simpa only [Clash, hperm.mem_iff] using husable.not_clash (nodup_of_entriesOf? h)
    have hsound : ∀ entry ∈ visited, Sound entry := fun entry hmem =>
      husable.sound entry (hperm.mem_iff.mp hmem)
    refine ⟨endpointsOf visited, readEntries_of_sound hsound, fun name => ?_, ?_⟩
    · simp only [mem_names_endpointsOf, hperm.mem_iff]
    · intro config hconfig identifier network hidentifier
      constructor
      · intro entry hentry hnamed
        exact servedAt_entry hsound hclash hconfig hidentifier (hperm.mem_iff.mpr hentry) hnamed
      · intro hnone
        exact servedAt_publicEndpoint hconfig hidentifier fun entry hmem =>
          hnone entry (hperm.mem_iff.mp hmem)
  · rintro ⟨entry, hentry, hbad⟩
    refine readEntries_of_not_sound ⟨entry, hperm.mem_iff.mpr hentry, ?_⟩
    rintro ⟨⟨network, hnamed⟩, hurl⟩
    rcases hbad with hunnamed | hinvalid
    · rw [hnamed] at hunnamed
      cases hunnamed
    · exact hinvalid hurl

/-- A chain identifier and an alias as keys, and other spellings of the networks when clients are
opened. -/
theorem entries_reach_clients_otherSpellings :
    let raw :=
      "\x7b\"1\": \"https://rpc.example.com\", \"arb\": \"https://arb.example.com\"\x7d"
    let entries := [("1", "https://rpc.example.com"), ("arb", "https://arb.example.com")]
    entriesOf? raw = some entries ∧ Usable entries ∧
      ∃ endpoints, parseEndpoints raw = .ok endpoints ∧
        ∀ config : Config, config.endpoints = endpoints →
          ServedAt config " Ethereum__Mainnet" .ethereum "https://rpc.example.com" ∧
          ServedAt config "ARBITRUM ONE" .arbitrum "https://arb.example.com" ∧
          ServedAt config "0137" .polygon "https://polygon-rpc.com" := by
  intro raw entries
  have hentries : entriesOf? raw = some entries := by decide +kernel
  have hethereum : Network.resolve? "1" = some .ethereum := by decide +kernel
  have harbitrum : Network.resolve? "arb" = some .arbitrum := by decide +kernel
  have husable : Usable entries := by
    constructor
    · refine List.forall_mem_cons.mpr ⟨⟨⟨_, hethereum⟩, by decide +kernel⟩, ?_⟩
      exact List.forall_mem_singleton.mpr ⟨⟨_, harbitrum⟩, by decide +kernel⟩
    · decide +kernel
  obtain ⟨hparse, hvisited⟩ := entries_reach_clients hentries
  obtain ⟨endpoints, hread, -, hclients⟩ := (hvisited entries (.refl entries)).1 husable
  refine ⟨hentries, husable, endpoints, hparse.trans hread, fun config hconfig => ⟨?_, ?_, ?_⟩⟩
  · exact (hclients config hconfig _ _ (by decide +kernel)).1 _ (.head _) hethereum
  · exact (hclients config hconfig _ _ (by decide +kernel)).1 _ (.tail _ (.head _)) harbitrum
  · exact (hclients config hconfig _ _ (by decide +kernel)).2 (by decide +kernel)

end Settings

end StakingGateway
