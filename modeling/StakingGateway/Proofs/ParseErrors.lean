import StakingGateway.Proofs.LineService
import StakingGateway.Proofs.RecordText

/-!
# Lines that are no requests

A line is answered with a parse error if no request can be read from it. Every line that is no JSON
text is answered so, but not only such a line: where the text of a line can be read as a value, it
depends on the shape of the value, which `Request.Shaped` describes. The code that the protocol has
for values of another shape is never sent.
-/

namespace StakingGateway.Service

open Json

/-! ## The shape of a request -/

namespace Request

variable {given : Given} {v : Json}

/-- An object in which no name of a request comes twice, or a list of three or four items. -/
inductive Shaped : Json → Prop
  | object {fields : List (String × Json)} {method : String}
      (honce : ((fields.map Prod.fst).filter (· ∈ ["jsonrpc", "id", "method", "params"])).Nodup)
      (hversion : ∀ version, lookup "jsonrpc" fields = some version →
        ∃ text, version = .string text)
      (hmethod : lookup "method" fields = some (.string method)) : Shaped (.object fields)
  | list {version method : String} {id : Json} {params : List Json} (hparams : params.length ≤ 1) :
      Shaped (.array (.string version :: id :: .string method :: params))

theorem exists_build_iff : (∃ request, build given = .ok request) ↔
    (∀ version, given.get? "jsonrpc" = some version → ∃ text, version = .string text) ∧
      ∃ method, given.get? "method" = some (.string method) := by
  have hversion : (∃ version, given.textOr "jsonrpc" "2.0" = .ok version) ↔
      ∀ version, given.get? "jsonrpc" = some version → ∃ text, version = .string text := by
    unfold Given.textOr
    cases hget : given.get? "jsonrpc" with
    | none => simp
    | some version => simp [Given.text_eq_ok_iff, hget]
  simp only [← hversion, build, bind_eq_ok, Given.text_eq_ok_iff]
  constructor
  · rintro ⟨_, version, hversion, method, hmethod, -⟩
    exact ⟨⟨version, hversion⟩, method, hmethod⟩
  · rintro ⟨⟨version, hversion⟩, method, hmethod⟩
    exact ⟨_, version, hversion, method, hmethod, rfl⟩

theorem exists_decode_iff (honce : record.Once v) :
    (∃ request, record.decode build v = .ok request) ↔
      ∃ given, record.Gives v given ∧ ∃ request, build given = .ok request := by
  simp only [Record.decode_eq_ok_iff]
  constructor
  · rintro ⟨request, given, hgives, -, hbuild⟩
    exact ⟨given, hgives, request, hbuild⟩
  · rintro ⟨given, hgives, request, hbuild⟩
    refine ⟨request, given, hgives, honce.checkAll_eq_ok hgives ?_, hbuild⟩
    obtain ⟨hversion, method, hmethod⟩ := exists_build_iff.mp ⟨request, hbuild⟩
    simp only [record, List.forall_mem_cons, check_text, check_any, implies_true, true_and,
      List.not_mem_nil, false_implies, and_true]
    refine ⟨hversion, fun found hfound => ⟨method, ?_⟩⟩
    exact Option.some.inj (hfound.symm.trans hmethod)

theorem get?_ofObject (fields : List (String × Json)) :
    (record.ofObject fields).get? "jsonrpc" = lookup "jsonrpc" fields ∧
      (record.ofObject fields).get? "method" = lookup "method" fields :=
  ⟨Record.get?_ofObject (by decide), Record.get?_ofObject (by decide)⟩

theorem get?_ofList (items : List Json) :
    (record.ofList items).get? "jsonrpc" = items[0]? ∧
      (record.ofList items).get? "method" = items[2]? :=
  ⟨Record.get?_ofList (by decide) rfl, Record.get?_ofList (by decide) rfl⟩

theorem Shaped.once (h : Shaped v) : record.Once v := by
  cases h with
  | object honce => exact Record.once_object_iff.mpr honce
  | list => exact Record.once_array (by decide)

/-- The shape tells which values are read as requests. -/
theorem shaped_iff :
    Shaped v ↔ record.Once v ∧ ∃ request, record.decode build v = .ok request := by
  constructor
  · intro h
    refine ⟨h.once, (exists_decode_iff h.once).mpr ?_⟩
    simp only [exists_build_iff]
    cases h with
    | @object fields method honce hversion hmethod =>
        refine ⟨_, .object fields, ?_⟩
        rw [(get?_ofObject fields).1, (get?_ofObject fields).2]
        exact ⟨hversion, method, hmethod⟩
    | @list version method id params hparams =>
        have hlength : params.length + 3 ≤ 1 + 3 := Nat.add_le_add_right hparams 3
        refine ⟨_, .list _ hlength, ?_⟩
        rw [(get?_ofList _).1, (get?_ofList _).2]
        exact ⟨fun _ hfound => ⟨version, (Option.some.inj hfound).symm⟩, method, rfl⟩
  · rintro ⟨honce, hdecode⟩
    rw [exists_decode_iff honce] at hdecode
    simp only [exists_build_iff] at hdecode
    obtain ⟨given, hgives, hversion, method, hmethod⟩ := hdecode
    cases hgives with
    | object fields =>
        rw [(get?_ofObject fields).1] at hversion
        rw [(get?_ofObject fields).2] at hmethod
        exact .object (Record.once_object_iff.mp honce) hversion hmethod
    | list items hlength =>
        rw [(get?_ofList items).1] at hversion
        rw [(get?_ofList items).2] at hmethod
        match items, hlength, hversion, hmethod with
        | first :: id :: _ :: params, hlength, hversion, hmethod =>
            obtain ⟨version, rfl⟩ := hversion first rfl
            obtain rfl := Option.some.inj hmethod
            have hparams : params.length + 3 ≤ 1 + 3 := hlength
            exact .list (Nat.le_of_add_le_add_right hparams)

end Request

/-! ## The codes of replies -/

namespace Lines

variable {server : Server} {line : String} {outcome : Option Response} {events : List Chain.Event}

/-- What the code of the reply to a line says about the line. -/
structure Tells (line : String) (code : Option Json) : Prop where
  parseError : code = some (.int (-32700)) ↔ Text.trim line ≠ "" ∧
    ∀ request, Request.record.parse Request.build (Text.trim line) ≠ .ok request
  notText (hbody : Text.trim line ≠ "") (htext : ¬ Grammar.IsText (Text.trim line).toList) :
    code = some (.int (-32700))
  shape {v : Json} (hvalue : parseRaw (Text.trim line).toList = .ok v) :
    code = some (.int (-32700)) ↔ ¬ Request.Shaped v
  valid : code ≠ some (.int (-32600))

theorem code_of_request {request : Request} {code : ErrorCode}
    (h : (reply server (.request request)).Course Chain.Recorded outcome events)
    (hcode : code ∉ [.methodNotFound, .invalidParams, .internalError]) :
    outcome.bind Response.code? ≠ some (.int code.number) := by
  obtain ⟨hmethod, hparams, hinternal⟩ : code ≠ .methodNotFound ∧ code ≠ .invalidParams ∧
      code ≠ .internalError := by simpa using hcode
  rcases course_reply_request h with ⟨-, rfl, -⟩ |
    ⟨-, ended, -, ⟨response, rfl, -, -, hother⟩ | ⟨reason, message, rfl, -⟩⟩
  · exact (Option.some_ne_none _).symm
  · exact hother code (by simp [hmethod, hparams])
  · rw [Option.bind_some, Response.code?_error]
    exact fun h => hinternal (ErrorCode.int_number_injective (Option.some.inj h)).symm

theorem ne_empty_of_parseRaw {v : Json} {text : String} (h : parseRaw text.toList = .ok v) :
    text ≠ "" := by
  rintro rfl
  cases h

/-- The two ways to handle a line: with a parse error, or with any other reply or none at all. -/
theorem Handled.code_cases (h : Handled server line outcome events) :
    ((Text.trim line ≠ "" ∧
        ∀ request, Request.record.parse Request.build (Text.trim line) ≠ .ok request) ∧
      outcome.bind Response.code? = some (.int ErrorCode.parseError.number)) ∨
    ((Text.trim line = "" ∨
        ∃ request, Request.record.parse Request.build (Text.trim line) = .ok request) ∧
      ∀ code ∉ [.methodNotFound, .invalidParams, .internalError],
        outcome.bind Response.code? ≠ some (.int (ErrorCode.number code))) := by
  cases h with
  | blank hblank =>
      refine Or.inr ⟨Or.inl (blank_of_arrival?_eq_none hblank), fun _ _ => ?_⟩
      exact (Option.some_ne_none _).symm
  | arrived harrival hcourse =>
      obtain ⟨hbody, ⟨request, rfl, hparse⟩ | ⟨complaint, rfl, hparse⟩⟩ :=
        arrival?_eq_some harrival
      · exact Or.inr ⟨Or.inr ⟨request, hparse⟩, fun _ => code_of_request hcourse⟩
      · obtain ⟨rfl, -⟩ := hcourse
        have hcode := Response.code?_error .null .parseError ("Parse error: " ++ complaint.message)
        refine Or.inl ⟨⟨hbody, fun request hrequest => ?_⟩, hcode⟩
        cases hparse.symm.trans hrequest

theorem Handled.tells (h : Handled server line outcome events) :
    Tells line (outcome.bind Response.code?) := by
  have hparse : outcome.bind Response.code? = some (.int (-32700)) ↔
      Text.trim line ≠ "" ∧
        ∀ request, Request.record.parse Request.build (Text.trim line) ≠ .ok request := by
    rcases h.code_cases with ⟨hunread, hcode⟩ | ⟨hread, hcodes⟩
    · exact iff_of_true hcode hunread
    · refine iff_of_false (hcodes .parseError (by decide)) ?_
      rintro ⟨hbody, hno⟩
      rcases hread with hblank | ⟨request, hrequest⟩
      · exact hbody hblank
      · exact hno request hrequest
  refine ⟨hparse, ?_, ?_, ?_⟩
  · intro hbody htext
    exact hparse.mpr ⟨hbody, fun request hrequest => htext (Record.isText_of_parse hrequest)⟩
  · intro v hvalue
    have hslots : (Request.record.slots.map Slot.name).Nodup := by decide
    rw [hparse, Request.shaped_iff, not_and, not_exists]
    simp only [ne_eq, Record.parse_eq_ok_iff hslots hvalue, not_and]
    constructor
    · rintro ⟨-, hno⟩ honce request
      exact hno request honce
    · exact fun hno => ⟨ne_empty_of_parseRaw hvalue, fun request honce => hno honce request⟩
  · rcases h.code_cases with ⟨-, hcode⟩ | ⟨-, hcodes⟩
    · intro hvalid
      have hsame := Option.some.inj (hcode.symm.trans hvalid)
      cases @ErrorCode.int_number_injective .parseError .invalidRequest hsame
    · exact hcodes .invalidRequest (by decide)

/-- When the service of an input returns, the code of each reply tells about the line as `Tells`
has it, in whatever order the parties took their steps and whatever chains the lines were answered
over. -/
theorem parse_errors_told (server : Server) (input : List UInt8) :
    (∀ s, Reaches server (.start input) s → s.Returned → ∃ ledger : List Entry,
        Traces server input s.written s.log ledger ∧
        ∀ entry ∈ ledger, Tells entry.line (entry.reply.bind Response.code?)) ∧
      ∀ (Q : Type) (A : Q → Type) (goesFirst : Q → Q → Bool) (chain : Chain (Dialogue Q A))
        (schedule : Chain.Schedule) (replies : List Response),
        (serveTogether goesFirst chain schedule server (arrivals input)).Ends replies →
          ∃ (log : List Chain.Event) (ledger : List Entry),
            Traces server input replies log ledger ∧
            ∀ entry ∈ ledger, Tells entry.line (entry.reply.bind Response.code?) := by
  refine ⟨?_, ?_⟩
  · intro s hreaches hreturned
    obtain ⟨ledger, htraces⟩ :=
      ((Session.consistent_start input).reaches hreaches).traces hreturned
    exact ⟨ledger, htraces, fun entry hentry => (htraces.handled entry hentry).tells⟩
  · intro Q A goesFirst chain schedule replies hends
    obtain ⟨log, ledger, htraces⟩ := traces_serveTogether hends
    exact ⟨log, ledger, htraces, fun entry hentry => (htraces.handled entry hentry).tells⟩

/-- Values of other shapes, a line that is no text, a blank line, and requests in both forms. -/
theorem parse_errors_told_mixed :
    let server : Server := ⟨⟨[]⟩, {}⟩
    let chain : Chain (Dialogue Unit fun _ => Unit) :=
      ⟨fun _ => .ok (), fun _ _ => .done (.ok []), fun _ _ _ => .done (.ok ()),
        fun _ _ => .done (.error (.badEndpoint "")), fun _ _ => .done (.error (.badEndpoint ""))⟩
    let lines := "[7]\n\"x\"\nno\n \n\x7b\"id\":8,\"method\":\"x\"\x7d\n[\"2.0\",9,\"ping\"]"
    let input := lines.toUTF8.data.toList
    let session := serveTogether (fun _ _ => true) chain Chain.inOrder server (arrivals input)
    let respond (_ : Unit) : StateM Unit (Unit × List Unit) := return ((), [])
    let replies := (session.hold respond ()).1.1
    replies.map (fun response => (response.id.render, response.code?.map Json.render)) =
        [("null", some "-32700"), ("null", some "-32700"), ("null", some "-32700"),
          ("8", some "-32601"), ("9", none)] ∧
      ∃ (log : List Chain.Event) (ledger : List Entry), Traces server input replies log ledger ∧
        ∀ entry ∈ ledger, Tells entry.line (entry.reply.bind Response.code?) := by
  refine ⟨by decide +kernel, ?_⟩
  exact (parse_errors_told _ _).2 _ _ _ _ _ _ (Dialogue.ends_hold _ _ _)

/-- An object without a method is a JSON text, and it is answered with a parse error. -/
theorem parse_error_without_method :
    let line := "\x7b\"id\":1\x7d"
    let chain : Chain (Dialogue Unit fun _ => Unit) :=
      ⟨fun _ => .ok (), fun _ _ => .done (.ok []), fun _ _ _ => .done (.ok ()),
        fun _ _ => .done (.error (.badEndpoint "")), fun _ _ => .done (.error (.badEndpoint ""))⟩
    let session := serveTogether (fun _ _ => true) chain Chain.inOrder ⟨⟨[]⟩, {}⟩
      (arrivals line.toUTF8.data.toList)
    let respond (_ : Unit) : StateM Unit (Unit × List Unit) := return ((), [])
    Grammar.IsText (Text.trim line).toList ∧
      (session.hold respond ()).1.1.map (fun response => response.code?.map Json.render) =
        [some "-32700"] := by
  refine ⟨?_, by decide +kernel⟩
  have hread : (parseRaw (Text.trim "\x7b\"id\":1\x7d").toList).isOk := by decide +kernel
  cases hvalue : parseRaw (Text.trim "\x7b\"id\":1\x7d").toList with
  | ok v => exact isText_of_parseRaw hvalue
  | error complaint =>
      rw [hvalue] at hread
      cases hread

end Lines

end StakingGateway.Service
