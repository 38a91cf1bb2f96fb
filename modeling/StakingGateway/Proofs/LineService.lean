import Mathlib.Logic.Relation
import StakingGateway.Gateway
import StakingGateway.Proofs.Interleaving
import StakingGateway.Proofs.LineCutting
import StakingGateway.Proofs.RequestHandling

/-!
# Every line is accounted for

The service of an input as a system of parties: a reader that starts one program for each line, the
programs, whose interactions with chains mix in any order, and a writer behind a queue of replies.
A reader that has stopped leaves the programs running. The service returns when all of them have
ended and the queue is empty, and then each line before the end, or before the first one that is no
text, has been answered as `Answers` has it, once.
-/

namespace StakingGateway.Service.Lines

open Tool Chain

/-! ## The ledger -/

structure Entry where
  line : String
  reply : Option Response
  events : List Event

/-- An entry for each line in order, up to the first one that is no text. -/
inductive Ledger (server : Server) : List (List UInt8) → List Entry → Prop
  | done : Ledger server [] []
  | stop {bytes : List UInt8} {rest : List (List UInt8)} (htext : textOf? bytes = none) :
      Ledger server (bytes :: rest) []
  | line {bytes : List UInt8} {rest : List (List UInt8)} {entry : Entry} {entries : List Entry}
      (htext : textOf? bytes = some entry.line)
      (hanswers : Answers server entry.line entry.reply entry.events)
      (hrest : Ledger server rest entries) : Ledger server (bytes :: rest) (entry :: entries)

/-- The replies and the interactions are those of the lines of the input, in any order. -/
structure Accounts (server : Server) (input : List UInt8) (replies : List Response)
    (log : List Event) : Prop where
  accounted : ∃ lines ledger, Cut input lines ∧ Ledger server lines ledger ∧
    replies.Perm (ledger.filterMap (·.reply)) ∧ log.Perm (ledger.flatMap (·.events))

variable {server : Server}

theorem ledger_of_textsOf {lines : List (List UInt8)} {ledger : List Entry}
    (hlines : textsOf lines = ledger.map (·.line))
    (hanswers : ∀ entry ∈ ledger, Answers server entry.line entry.reply entry.events) :
    Ledger server lines ledger := by
  induction lines generalizing ledger with
  | nil =>
      obtain rfl := List.map_eq_nil_iff.mp hlines.symm
      exact .done
  | cons bytes rest ih =>
      cases htext : textOf? bytes with
      | none =>
          rw [textsOf_cons_of_none htext] at hlines
          obtain rfl := List.map_eq_nil_iff.mp hlines.symm
          exact .stop htext
      | some text =>
          rw [textsOf_cons_of_some htext] at hlines
          obtain ⟨entry, entries, rfl, rfl, hrest⟩ := List.map_eq_cons_iff.mp hlines.symm
          rw [List.forall_mem_cons] at hanswers
          exact .line htext hanswers.1 (ih hrest.symm hanswers.2)

/-- The entries tell, line by line, how the program of the line ended. -/
structure Traces (server : Server) (input : List UInt8) (replies : List Response)
    (log : List Event) (ledger : List Entry) : Prop where
  lines : texts input = ledger.map (·.line)
  handled : ∀ entry ∈ ledger, Handled server entry.line entry.reply entry.events
  replies : replies.Perm (ledger.filterMap (·.reply))
  log : log.Perm (ledger.flatMap (·.events))

theorem Traces.accounts {input : List UInt8} {replies : List Response} {log : List Event}
    {ledger : List Entry} (h : Traces server input replies log ledger) :
    Accounts server input replies log := by
  obtain ⟨hlines, hhandled, hreplies, hlog⟩ := h
  rw [texts_eq_textsOf] at hlines
  have hanswers := ledger_of_textsOf hlines fun entry hentry => (hhandled entry hentry).answers
  exact ⟨splitBytes input, ledger, cut_splitBytes input, hanswers, hreplies, hlog⟩

/-! ## The parties -/

inductive Standing where
  | busy (rest : Program (Option Response))
  | settled (reply : Option Response)

/-- A line that has been read, with the interactions so far. -/
structure Exchange where
  line : String
  events : List Event
  standing : Standing

def Exchange.entry : Exchange → Entry
  | ⟨line, events, .busy _⟩ => ⟨line, none, events⟩
  | ⟨line, events, .settled reply⟩ => ⟨line, reply, events⟩

structure Session where
  unread : List (List UInt8)
  exchanges : List Exchange
  outbox : List Response
  written : List Response
  log : List Event

def Session.start (input : List UInt8) : Session := ⟨splitBytes input, [], [], [], []⟩

/-- One step of one party. A chain answers as it likes. -/
inductive Step (server : Server) : Session → Session → Prop
  | stop {bytes rest exchanges outbox written log} (htext : textOf? bytes = none) :
      Step server ⟨bytes :: rest, exchanges, outbox, written, log⟩
        ⟨[], exchanges, outbox, written, log⟩
  | skip {bytes rest exchanges outbox written log line} (htext : textOf? bytes = some line)
      (hblank : arrival? line = none) :
      Step server ⟨bytes :: rest, exchanges, outbox, written, log⟩
        ⟨rest, exchanges ++ [⟨line, [], .settled none⟩], outbox, written, log⟩
  | begin {bytes rest exchanges outbox written log line arrival}
      (htext : textOf? bytes = some line) (harrival : arrival? line = some arrival) :
      Step server ⟨bytes :: rest, exchanges, outbox, written, log⟩
        ⟨rest, exchanges ++ [⟨line, [], .busy (reply server arrival)⟩], outbox, written, log⟩
  | interact {unread before after outbox written log line events} {question : Question}
      {next : question.Answer → Program (Option Response)} {answer : question.Answer}
      {notes : List Event} (hanswer : Recorded question answer notes) :
      Step server
        ⟨unread, before ++ ⟨line, events, .busy (.ask question next)⟩ :: after, outbox, written,
          log⟩
        ⟨unread, before ++ ⟨line, events ++ notes, .busy (next answer)⟩ :: after, outbox, written,
          log ++ notes⟩
  | finish {unread before after outbox written log line events} {outcome : Option Response} :
      Step server
        ⟨unread, before ++ ⟨line, events, .busy (.done outcome)⟩ :: after, outbox, written, log⟩
        ⟨unread, before ++ ⟨line, events, .settled outcome⟩ :: after, outbox ++ outcome.toList,
          written, log⟩
  | write {unread exchanges response outbox written log} :
      Step server ⟨unread, exchanges, response :: outbox, written, log⟩
        ⟨unread, exchanges, outbox, written ++ [response], log⟩

def Reaches (server : Server) : Session → Session → Prop :=
  Relation.ReflTransGen (Step server)

structure Session.Returned (s : Session) : Prop where
  read : s.unread = []
  settled : ∀ exchange ∈ s.exchanges, ∃ reply, exchange.standing = .settled reply
  sent : s.outbox = []

/-! ## What steps preserve -/

/-- Whatever is still to come, the line will have been handled by its program. -/
def Exchange.Sound (server : Server) : Exchange → Prop
  | ⟨line, events, .busy rest⟩ => ∀ reply others, rest.Course Recorded reply others →
      Handled server line reply (events ++ others)
  | ⟨line, events, .settled reply⟩ => Handled server line reply events

structure Session.Consistent (server : Server) (input : List UInt8) (s : Session) : Prop where
  lines : texts input = s.exchanges.map (·.line) ++ textsOf s.unread
  sound : ∀ exchange ∈ s.exchanges, exchange.Sound server
  replies : (s.written ++ s.outbox).Perm (s.exchanges.filterMap (·.entry.reply))
  log : s.log.Perm (s.exchanges.flatMap (·.events))

theorem Session.consistent_start (input : List UInt8) : (start input).Consistent server input :=
  ⟨texts_eq_textsOf input, by simp [start], .refl _, .refl _⟩

theorem Exchange.sound_begin {line : String} {arrival : Arrival}
    (harrival : arrival? line = some arrival) :
    Exchange.Sound server ⟨line, [], .busy (reply server arrival)⟩ :=
  fun _ _ hcourse => .arrived harrival hcourse

theorem Exchange.Sound.interact {line : String} {events notes : List Event} {question : Question}
    {next : question.Answer → Program (Option Response)} {answer : question.Answer}
    (h : Exchange.Sound server ⟨line, events, .busy (.ask question next)⟩)
    (hanswer : Recorded question answer notes) :
    Exchange.Sound server ⟨line, events ++ notes, .busy (next answer)⟩ := by
  intro reply others hcourse
  have hhandled := h reply (notes ++ others) ⟨answer, notes, others, hanswer, hcourse, rfl⟩
  rwa [← List.append_assoc] at hhandled

theorem Exchange.Sound.finish {line : String} {events : List Event} {outcome : Option Response}
    (h : Exchange.Sound server ⟨line, events, .busy (.done outcome)⟩) :
    Exchange.Sound server ⟨line, events, .settled outcome⟩ := by
  have hhandled := h outcome [] ⟨rfl, rfl⟩
  rwa [List.append_nil] at hhandled

theorem perm_insert {α : Type} {all before here after : List α} (added : List α)
    (h : all.Perm (before ++ (here ++ after))) :
    (all ++ added).Perm (before ++ (here ++ added ++ after)) := by
  calc (all ++ added).Perm (before ++ (here ++ after) ++ added) := h.append_right added
    _ = before ++ (here ++ (after ++ added)) := by simp only [List.append_assoc]
    List.Perm _ (before ++ (here ++ (added ++ after))) :=
      (List.perm_append_comm.append_left here).append_left before
    _ = before ++ (here ++ added ++ after) := by rw [List.append_assoc here]

theorem Session.Consistent.step {input : List UInt8} {s t : Session}
    (hs : s.Consistent server input) (hstep : Step server s t) : t.Consistent server input := by
  obtain ⟨hlines, hsound, hreplies, hlog⟩ := hs
  cases hstep with
  | stop htext =>
      rw [textsOf_cons_of_none htext] at hlines
      exact ⟨hlines, hsound, hreplies, hlog⟩
  | skip htext hblank =>
      rw [textsOf_cons_of_some htext] at hlines
      refine ⟨by simpa using hlines, ?_, by simpa [Exchange.entry] using hreplies,
        by simpa using hlog⟩
      exact List.forall_mem_append.mpr
        ⟨hsound, List.forall_mem_singleton.mpr (.blank hblank)⟩
  | begin htext harrival =>
      rw [textsOf_cons_of_some htext] at hlines
      refine ⟨by simpa using hlines, ?_, by simpa [Exchange.entry] using hreplies,
        by simpa using hlog⟩
      exact List.forall_mem_append.mpr
        ⟨hsound, List.forall_mem_singleton.mpr (Exchange.sound_begin harrival)⟩
  | @interact _ before after _ _ log _ events question next answer notes hanswer =>
      rw [List.forall_mem_append, List.forall_mem_cons] at hsound
      refine ⟨by simpa using hlines, ?_, by simpa [Exchange.entry] using hreplies, ?_⟩
      · exact List.forall_mem_append.mpr
          ⟨hsound.1, List.forall_mem_cons.mpr ⟨hsound.2.1.interact hanswer, hsound.2.2⟩⟩
      · have hbefore : log.Perm (before.flatMap (·.events) ++
            (events ++ after.flatMap (·.events))) := by simpa using hlog
        simpa using perm_insert notes hbefore
  | @finish _ before after outbox written _ _ _ outcome =>
      rw [List.forall_mem_append, List.forall_mem_cons] at hsound
      refine ⟨by simpa using hlines, ?_, ?_, by simpa using hlog⟩
      · exact List.forall_mem_append.mpr
          ⟨hsound.1, List.forall_mem_cons.mpr ⟨hsound.2.1.finish, hsound.2.2⟩⟩
      · have hbefore : (written ++ outbox).Perm (before.filterMap (·.entry.reply) ++
            ([] ++ after.filterMap (·.entry.reply))) := by simpa [Exchange.entry] using hreplies
        have hinsert := perm_insert outcome.toList hbefore
        cases outcome <;> simpa [Exchange.entry] using hinsert
  | write => exact ⟨hlines, hsound, by simpa using hreplies, hlog⟩

theorem Session.Consistent.reaches {input : List UInt8} {s t : Session}
    (hs : s.Consistent server input) (hreaches : Reaches server s t) :
    t.Consistent server input := by
  induction hreaches with
  | refl => exact hs
  | tail _ hstep ih => exact ih.step hstep

theorem Session.Consistent.traces {input : List UInt8} {s : Session}
    (hs : s.Consistent server input) (hreturned : s.Returned) :
    ∃ ledger, Traces server input s.written s.log ledger := by
  obtain ⟨hlines, hsound, hreplies, hlog⟩ := hs
  obtain ⟨hread, hsettled, hsent⟩ := hreturned
  rw [hread, textsOf_nil, List.append_nil] at hlines
  rw [hsent, List.append_nil] at hreplies
  refine ⟨s.exchanges.map Exchange.entry, ?_, ?_, ?_, ?_⟩
  · rw [hlines, List.map_map]
    exact List.map_congr_left fun exchange _ => by
      obtain ⟨line, events, standing | standing⟩ := exchange <;> rfl
  · intro entry hentry
    obtain ⟨⟨line, events, standing⟩, hmem, rfl⟩ := List.mem_map.mp hentry
    obtain ⟨reply, hreply⟩ := hsettled _ hmem
    obtain rfl : standing = .settled reply := hreply
    exact hsound _ hmem
  · rwa [List.filterMap_map]
  · rw [List.flatMap_map]
    have hevents : ∀ exchange ∈ s.exchanges, exchange.events = exchange.entry.events := by
      rintro ⟨line, events, standing | standing⟩ - <;> rfl
    rwa [List.flatMap_congr hevents] at hlog

/-! ## The service can always return -/

theorem exists_recorded (question : Question) :
    ∃ (answer : question.Answer) (notes : List Event), Recorded question answer notes := by
  cases question with
  | readAll network calls decisive => exact ⟨.all [], [], by simp [Recorded]⟩
  | reader _ | account _ _ | read _ _ | simulate _ _ _ | write _ _ | receipt _ _ =>
      exact ⟨.error (.badEndpoint ""), _, rfl⟩

variable {unread : List (List UInt8)} {outbox written : List Response} {log : List Event}

theorem exists_reaches_read (unread : List (List UInt8)) (exchanges : List Exchange) :
    ∃ others, Reaches server ⟨unread, exchanges, outbox, written, log⟩
      ⟨[], others, outbox, written, log⟩ := by
  induction unread generalizing exchanges with
  | nil => exact ⟨exchanges, .refl⟩
  | cons bytes rest ih =>
      cases htext : textOf? bytes with
      | none => exact ⟨exchanges, .single (.stop htext)⟩
      | some line =>
          cases harrival : arrival? line with
          | none =>
              obtain ⟨others, hothers⟩ := ih (exchanges ++ [⟨line, [], .settled none⟩])
              exact ⟨others, .head (.skip htext harrival) hothers⟩
          | some arrival =>
              obtain ⟨others, hothers⟩ :=
                ih (exchanges ++ [⟨line, [], .busy (reply server arrival)⟩])
              exact ⟨others, .head (.begin htext harrival) hothers⟩

theorem exists_reaches_settled {before after : List Exchange} {line : String}
    (program : Program (Option Response)) (events log : List Event) :
    ∃ reply events' log', Reaches server
      ⟨unread, before ++ ⟨line, events, .busy program⟩ :: after, outbox, written, log⟩
      ⟨unread, before ++ ⟨line, events', .settled reply⟩ :: after, outbox ++ reply.toList, written,
        log'⟩ := by
  induction program generalizing events log with
  | done outcome => exact ⟨outcome, events, log, .single .finish⟩
  | ask question next ih =>
      obtain ⟨answer, notes, hanswer⟩ := exists_recorded question
      obtain ⟨reply, events', log', hrest⟩ := ih answer (events ++ notes) (log ++ notes)
      exact ⟨reply, events', log', .head (.interact hanswer) hrest⟩

theorem exists_reaches_all_settled (waiting before : List Exchange) (outbox : List Response)
    (log : List Event)
    (hbefore : ∀ exchange ∈ before, ∃ reply, exchange.standing = .settled reply) :
    ∃ settled outbox' log', Reaches server ⟨unread, before ++ waiting, outbox, written, log⟩
        ⟨unread, settled, outbox', written, log'⟩ ∧
      ∀ exchange ∈ settled, ∃ reply, exchange.standing = .settled reply := by
  induction waiting generalizing before outbox log with
  | nil => exact ⟨before, outbox, log, by rw [List.append_nil]; exact .refl, hbefore⟩
  | cons exchange rest ih =>
      obtain ⟨line, events, program | reply⟩ := exchange
      · obtain ⟨reply, events', log', hfirst⟩ :=
          @exists_reaches_settled server unread outbox written before rest line program events log
        obtain ⟨settled, outbox', log'', hrest, hsettled⟩ :=
          ih (before ++ [⟨line, events', .settled reply⟩]) (outbox ++ reply.toList) log'
            (List.forall_mem_append.mpr ⟨hbefore, by simp⟩)
        rw [List.append_assoc, List.singleton_append] at hrest
        exact ⟨settled, outbox', log'', hfirst.trans hrest, hsettled⟩
      · obtain ⟨settled, outbox', log', hrest, hsettled⟩ :=
          ih (before ++ [⟨line, events, .settled reply⟩]) outbox log
            (List.forall_mem_append.mpr ⟨hbefore, by simp⟩)
        rw [List.append_assoc, List.singleton_append] at hrest
        exact ⟨settled, outbox', log', hrest, hsettled⟩

theorem reaches_written {exchanges : List Exchange} (outbox written : List Response) :
    Reaches server ⟨unread, exchanges, outbox, written, log⟩
      ⟨unread, exchanges, [], written ++ outbox, log⟩ := by
  induction outbox generalizing written with
  | nil =>
      rw [List.append_nil]
      exact .refl
  | cons response rest ih =>
      have hrest := ih (written ++ [response])
      rw [List.append_assoc, List.singleton_append] at hrest
      exact .head .write hrest

theorem exists_returned (server : Server) (s : Session) :
    ∃ t, Reaches server s t ∧ t.Returned := by
  obtain ⟨unread, exchanges, outbox, written, log⟩ := s
  obtain ⟨waiting, hread⟩ := exists_reaches_read unread exchanges
  obtain ⟨settled, outbox', log', hanswered, hsettled⟩ :=
    exists_reaches_all_settled waiting [] outbox log (by simp)
  exact ⟨_, (hread.trans hanswered).trans (reaches_written outbox' written), rfl, hsettled, rfl⟩

/-! ## The service over a chain -/

theorem exists_ledger (texts : List String) {outcomes : List (Option Response × List Event)}
    (h : List.Forall₂ (fun program outcome => program.Course Recorded outcome.1 outcome.2)
      (tasks server (texts.filterMap arrival?)) outcomes) :
    ∃ ledger : List Entry, texts = ledger.map (·.line) ∧
      (∀ entry ∈ ledger, Handled server entry.line entry.reply entry.events) ∧
      outcomes.filterMap (·.1) = ledger.filterMap (·.reply) ∧
      outcomes.flatMap (·.2) = ledger.flatMap (·.events) := by
  induction texts generalizing outcomes with
  | nil =>
      obtain rfl := List.forall₂_nil_left_iff.mp h
      exact ⟨[], rfl, by simp, rfl, rfl⟩
  | cons line rest ih =>
      cases harrival : arrival? line with
      | none =>
          rw [List.filterMap_cons_none harrival] at h
          obtain ⟨ledger, hlines, hhandled, hreplies, hevents⟩ := ih h
          refine ⟨⟨line, none, []⟩ :: ledger, by simp [hlines], ?_, by simpa using hreplies,
            by simpa using hevents⟩
          exact List.forall_mem_cons.mpr ⟨.blank harrival, hhandled⟩
      | some arrival =>
          rw [List.filterMap_cons_some harrival] at h
          obtain ⟨⟨reply, events⟩, others, hcourse, hrest, rfl⟩ := List.forall₂_cons_left_iff.mp h
          obtain ⟨ledger, hlines, hhandled, hreplies, hevents⟩ := ih hrest
          refine ⟨⟨line, reply, events⟩ :: ledger, by simp [hlines], ?_,
            by cases reply <;> simpa using hreplies, by simpa using hevents⟩
          exact List.forall_mem_cons.mpr ⟨.arrived harrival hcourse, hhandled⟩

theorem traces_serveTogether {Q : Type} {A : Q → Type} {goesFirst : Q → Q → Bool}
    {chain : Chain (Dialogue Q A)} {schedule : Schedule} {input : List UInt8}
    {replies : List Response}
    (h : (serveTogether goesFirst chain schedule server (arrivals input)).Ends replies) :
    ∃ log ledger, Traces server input replies log ledger := by
  obtain ⟨outcomes, houtcomes, rfl⟩ := Dialogue.ends_bind_pure.mp h
  obtain ⟨ledger, hlines, hhandled, hreplies, hevents⟩ :=
    exists_ledger (texts input) (chain.courses_runTogether houtcomes)
  exact ⟨outcomes.flatMap (·.2), ledger, hlines, hhandled, by rw [hreplies], by rw [hevents]⟩

theorem accounts_serveTogether {Q : Type} {A : Q → Type} {goesFirst : Q → Q → Bool}
    {chain : Chain (Dialogue Q A)} {schedule : Schedule} {input : List UInt8}
    {replies : List Response}
    (h : (serveTogether goesFirst chain schedule server (arrivals input)).Ends replies) :
    ∃ log, Accounts server input replies log := by
  obtain ⟨log, ledger, htraces⟩ := traces_serveTogether h
  exact ⟨log, htraces.accounts⟩

/-- When the service of an input returns, in whatever order its parties took their steps, each line
is accounted for; the service can return from everywhere; and the gateway, which answers the lines
beside each other over chains of its own, is such a service. -/
theorem replies_accounted (server : Server) (input : List UInt8) :
    (∀ s, Reaches server (.start input) s → s.Returned → Accounts server input s.written s.log) ∧
      (∀ s, Reaches server (.start input) s → ∃ t, Reaches server s t ∧ t.Returned) ∧
      ∀ (Q : Type) (A : Q → Type) (goesFirst : Q → Q → Bool) (chain : Chain (Dialogue Q A))
        (schedule : Schedule) (replies : List Response),
        (serveTogether goesFirst chain schedule server (arrivals input)).Ends replies →
          ∃ log, Accounts server input replies log := by
  refine ⟨?_, ?_, ?_⟩
  · intro s hreaches hreturned
    obtain ⟨ledger, htraces⟩ :=
      ((Session.consistent_start input).reaches hreaches).traces hreturned
    exact htraces.accounts
  · intro s _
    exact exists_returned server s
  · intro Q A goesFirst chain schedule replies hends
    exact accounts_serveTogether hends

/-- A crash, a line that is no request, a blank line, a notification whose tool would crash, and a
last line without a line end. -/
theorem replies_accounted_crash :
    let boom : Tool := ⟨"boom", "", "", [], fun _ _ => Action.crash "overflow"⟩
    let server : Server := ⟨⟨[boom]⟩, {}⟩
    let chain : Chain (Dialogue Unit fun _ => Unit) :=
      ⟨fun _ => .ok (), fun _ _ => .done (.ok []), fun _ _ _ => .done (.ok ()),
        fun _ _ => .done (.error (.badEndpoint "")), fun _ _ => .done (.error (.badEndpoint ""))⟩
    let lines := "\x7b\"id\":7,\"method\":\"boom\"\x7d\nno\n \n\x7b\"method\":\"boom\"\x7d\n" ++
      "\x7b\"id\":8,\"method\":\"x\"\x7d"
    let input := lines.toUTF8.data.toList
    let session := serveTogether (fun _ _ => true) chain inOrder server (arrivals input)
    let respond (_ : Unit) : StateM Unit (Unit × List Unit) := return ((), [])
    let replies := (session.hold respond ()).1.1
    replies.map (fun response => (response.id.render, response.code?.map Json.render)) =
        [("7", some "-32603"), ("null", some "-32700"), ("8", some "-32601")] ∧
      ∃ log, Accounts server input replies log := by
  refine ⟨by decide +kernel, ?_⟩
  exact (replies_accounted _ _).2.2 _ _ _ _ _ _ (Dialogue.ends_hold _ _ _)

end StakingGateway.Service.Lines

namespace StakingGateway.Gateway

open Service

/-- Whatever the nodes answer, the program accounts for each line of its input. -/
theorem accounts_replies {σ : Type} (config : Settings.Config) (nodes : Node.Nodes σ) (state : σ)
    (input : List UInt8) :
    ∃ log, Lines.Accounts (serverOf config) input (replies config nodes state input) log := by
  have hends := Dialogue.ends_hold nodes.respond (Lines.serveTogether Node.Step.goesFirst
    (Node.configured config) Chain.inOrder (serverOf config) (Lines.arrivals input))
    { nodes := state }
  exact Lines.accounts_serveTogether hends

end StakingGateway.Gateway
