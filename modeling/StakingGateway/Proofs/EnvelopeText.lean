import StakingGateway.Proofs.EnvelopeCodec
import StakingGateway.Proofs.RenderedText

/-!
# An envelope as text and as a value

The result of a call carries its envelope twice. The text leaves out an absent side and keeps the
order in which the fields are written, while the value has them in the order of their names; read as
JSON, the text is the value all the same, and the parts of the envelope are found in it.
-/

namespace StakingGateway.Tool.Envelope

variable {e : Envelope}

theorem normalFields_fieldsWith (horder : ∀ data, e.data = some data → data.normal = data) :
    Json.normalFields (e.fieldsWith .object) = e.fieldsWith .obj := by
  obtain ⟨success, data, error⟩ := e
  have hfields : ∀ failure : Failure, Json.normalFields failure.fields = failure.fields :=
    fun _ => rfl
  cases data with
  | none => cases error <;> rfl
  | some data =>
      have hdata : data.normal = data := horder data rfl
      cases error with
      | none => simp [fieldsWith, Json.normalFields, Json.normal, hdata]
      | some failure => simp [fieldsWith, Json.normalFields, Json.normal, hdata, hfields]

theorem parse_wire (hplain : Json.Plain Json.depthLimit (.object (e.fieldsWith .object)))
    (horder : ∀ data, e.data = some data → data.normal = data) :
    Json.parse e.wire = .ok e.toJson := by
  rw [wire, Json.parse_render hplain, Json.normal, normalFields_fieldsWith horder]
  rfl

/-- The value has the parts of the envelope under their names, and nothing for a side that is
absent. -/
structure Carries (value : Json) (e : Envelope) : Prop where
  success : value.get? "success" = some (.bool e.success)
  data : value.get? "data" = e.data
  error : value.get? "error" = e.error.map fun error => .obj error.fields

theorem carries_toJson (e : Envelope) : Carries e.toJson e := by
  obtain ⟨hsuccess, hdata, herror⟩ := @lookup_fieldsWith e Json.obj
  exact {
    success := (Json.get?_obj _ _).trans hsuccess
    data := (Json.get?_obj _ _).trans hdata
    error := (Json.get?_obj _ _).trans herror }

/-- Whatever strings, lists and objects the envelope holds, as long as its numbers are whole and of 64
bits and it stays below the limit of the parser: the text of its result is the envelope as it is
written, and is read as the value that stands beside it, which has all parts of the envelope. -/
theorem text_reads_as_structured (e : Envelope)
    (hplain : Json.Plain 127 (.object (e.fieldsWith .object)))
    (horder : ∀ data, e.data = some data → data.normal = data) :
    ∃ entry text structured,
      e.toolResult.get? "content" = some (.array [entry]) ∧
      entry.get? "type" = some "text" ∧ entry.get? "text" = some (.string text) ∧
      e.toolResult.get? "structuredContent" = some structured ∧
      e.toolResult.get? "isError" = some (.bool (!e.success)) ∧
      text = e.wire ∧ structured = e.toJson ∧ Carries structured e ∧
      Json.parse text = .ok structured := by
  refine ⟨.obj [("type", "text"), ("text", .string e.wire)], e.wire, e.toJson, ?_, ?_, ?_, ?_, ?_,
    rfl, rfl, carries_toJson e, parse_wire hplain horder⟩
  all_goals simp [toolResult, Json.lookup]

/-- Escapes of every sort, an empty name, lists and objects inside each other, both ends of the
numbers, and both sides of the envelope. -/
theorem text_reads_as_structured_both :
    let data : Json := .object [
      ("", .string "\"\\/\x08\x0c\n\r\t\x01\x1f\x7f é 漢 𝄞"),
      ("a\"b", .array [.int (-9223372036854775808), .nat 18446744073709551615, .int 0, .array []]),
      ("z", .object [("inner", .array [.object [], .null, .bool true])])]
    let e : Envelope :=
      ⟨false, some data, some ⟨"amount \"x\" is\nwrong", "staking\\", "validation"⟩⟩
    Json.Plain 127 (.object (e.fieldsWith .object)) ∧ data.normal = data ∧
      ∃ entry text structured,
        e.toolResult.get? "content" = some (.array [entry]) ∧
        entry.get? "type" = some "text" ∧ entry.get? "text" = some (.string text) ∧
        e.toolResult.get? "structuredContent" = some structured ∧
        e.toolResult.get? "isError" = some (.bool true) ∧
        text = e.wire ∧ structured = e.toJson ∧ Carries structured e ∧
        Json.parse text = .ok structured := by
  intro data e
  have hplain : Json.Plain 127 (.object (e.fieldsWith .object)) := by
    simp [e, data, fieldsWith, Failure.fields, Json.int, Json.nat]
  have horder : data.normal = data := rfl
  refine ⟨hplain, horder, text_reads_as_structured e hplain ?_⟩
  rintro _ ⟨⟩
  exact horder

end StakingGateway.Tool.Envelope
