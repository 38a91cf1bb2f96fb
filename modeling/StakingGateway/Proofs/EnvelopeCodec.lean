import StakingGateway.Proofs.Records
import StakingGateway.Tool.Envelope

/-!
# Envelopes that are read back

An envelope is received in many forms: as an object or as a list, each of its sides missing or null,
with fields of other names beside its own. It is written in one form, which is read as the same
envelope. Only data that is null cannot be told from data that is not there.
-/

namespace StakingGateway

namespace Json

theorem filter_null : (some Json.null).filter (!·.isNull) = none := rfl

theorem filter_of_ne_null {v : Json} (h : v ≠ .null) : (some v).filter (!·.isNull) = some v := by
  refine Option.filter_eq_some_iff.mpr ⟨rfl, ?_⟩
  cases v <;> first | rfl | exact absurd rfl h

theorem Given.side_of_get? {given : Given} {name : String} {value : Json}
    (h : given.get? name = some value) :
    given.side name = .ok ((some value).filter (!·.isNull)) := by
  unfold Given.side Given.value?
  rw [h]

end Json

namespace Tool

open Json

/-- A side of an envelope is not there when it is missing or null. -/
inductive Side {α : Type} (Holds : Json → α → Prop) : Option Json → Option α → Prop
  | missing : Side Holds none none
  | null : Side Holds (some .null) none
  | given {value : Json} {a : α} (hvalue : value ≠ .null) (h : Holds value a) :
      Side Holds (some value) (some a)

namespace Side

variable {α : Type} {Holds Other : Json → α → Prop} {found : Option Json} {side : Option α}

@[simp]
theorem side_none : Side Holds none side ↔ side = none := by
  constructor
  · rintro ⟨⟩
    rfl
  · rintro rfl
    exact .missing

@[simp]
theorem side_null : Side Holds (some .null) side ↔ side = none := by
  constructor
  · rintro (_ | _ | ⟨hvalue, _⟩)
    · rfl
    · exact absurd rfl hvalue
  · rintro rfl
    exact .null

theorem side_some {value : Json} (hvalue : value ≠ .null) :
    Side Holds (some value) side ↔ ∃ a, Holds value a ∧ side = some a := by
  constructor
  · rintro (_ | _ | ⟨_, h⟩)
    · exact absurd rfl hvalue
    · exact ⟨_, h, rfl⟩
  · rintro ⟨a, h, rfl⟩
    exact .given hvalue h

theorem imp (h : Side Holds found side)
    (himp : ∀ value a, found = some value → Holds value a → Other value a) :
    Side Other found side := by
  cases h with
  | missing => exact .missing
  | null => exact .null
  | given hvalue hholds => exact .given hvalue (himp _ _ rfl hholds)

theorem mapM_eq_ok_iff {read : Json → Except Json.Fault α} :
    (found.filter (!·.isNull)).mapM read = .ok side ↔
      Side (fun value a => read value = .ok a) found side := by
  rcases found with _ | value
  · simp [pure, Except.pure, eq_comm]
  by_cases hnull : value = .null
  · rw [hnull, filter_null, side_null]
    simp [pure, Except.pure, eq_comm]
  · rw [filter_of_ne_null hnull, side_some hnull, Option.mapM_some, map_eq_pure_bind, bind_eq_ok]
    simp [pure, Except.pure, eq_comm]

theorem filter_eq_iff {side : Option Json} :
    found.filter (!·.isNull) = side ↔ Side Eq found side := by
  rcases found with _ | value
  · simp [eq_comm]
  by_cases hnull : value = .null
  · rw [hnull, filter_null, side_null, eq_comm]
  · rw [filter_of_ne_null hnull, side_some hnull]
    simp [eq_comm]

end Side

/-! ## Failures -/

namespace Failure

variable {f : Failure} {v : Json} {fields : List (String × Json)}

inductive Presented : Json → Failure → Prop
  | object {fields : List (String × Json)} {message context kind : String}
      (hmessage : lookup "message" fields = some (.string message))
      (hcontext : lookup "context" fields = some (.string context))
      (hkind : lookup "kind" fields = some (.string kind)) :
      Presented (.object fields) ⟨message, context, kind⟩
  | list (message context kind : String) :
      Presented (.array [.string message, .string context, .string kind]) ⟨message, context, kind⟩

theorem build_eq_ok_iff {given : Given} :
    build given = .ok f ↔ given.get? "message" = some (.string f.message) ∧
      given.get? "context" = some (.string f.context) ∧
      given.get? "kind" = some (.string f.kind) := by
  simp only [build, bind_eq_ok, Given.text_eq_ok_iff]
  constructor
  · rintro ⟨message, hmessage, context, hcontext, kind, hkind, ⟨⟩⟩
    exact ⟨hmessage, hcontext, hkind⟩
  · rintro ⟨hmessage, hcontext, hkind⟩
    exact ⟨_, hmessage, _, hcontext, _, hkind, rfl⟩

theorem gets_object (fields : List (String × Json)) :
    (record.ofObject fields).get? "message" = lookup "message" fields ∧
      (record.ofObject fields).get? "context" = lookup "context" fields ∧
      (record.ofObject fields).get? "kind" = lookup "kind" fields :=
  ⟨Record.get?_ofObject (by decide), Record.get?_ofObject (by decide),
    Record.get?_ofObject (by decide)⟩

theorem gets_list (items : List Json) :
    (record.ofList items).get? "message" = items[0]? ∧
      (record.ofList items).get? "context" = items[1]? ∧
      (record.ofList items).get? "kind" = items[2]? :=
  ⟨Record.get?_ofList (by decide) rfl, Record.get?_ofList (by decide) rfl,
    Record.get?_ofList (by decide) rfl⟩

theorem presented_iff : Presented v f ↔ ∃ given, record.Gives v given ∧ build given = .ok f := by
  simp only [build_eq_ok_iff]
  constructor
  · rintro (⟨hmessage, hcontext, hkind⟩ | ⟨message, context, kind⟩)
    · obtain ⟨hfirst, hsecond, hthird⟩ := gets_object ‹_›
      exact ⟨_, .object _, hfirst.trans hmessage, hsecond.trans hcontext, hthird.trans hkind⟩
    · exact ⟨_, .list _ (Nat.le_refl 3), rfl, rfl, rfl⟩
  · rintro ⟨given, hgives, hmessage, hcontext, hkind⟩
    cases hgives with
    | object fields =>
        obtain ⟨hfirst, hsecond, hthird⟩ := gets_object fields
        exact .object (hfirst.symm.trans hmessage) (hsecond.symm.trans hcontext)
          (hthird.symm.trans hkind)
    | list items hlength =>
        obtain ⟨hfirst, hsecond, hthird⟩ := gets_list items
        rw [hfirst] at hmessage
        rw [hsecond] at hcontext
        rw [hthird] at hkind
        rw [Record.eq_of_getElem?_three hlength hmessage hcontext hkind]
        exact .list f.message f.context f.kind

theorem presented_of_ofJson (h : ofJson v = .ok f) : Presented v f := by
  obtain ⟨given, hgives, -, hbuild⟩ := Record.decode_eq_ok_iff.mp h
  exact presented_iff.mpr ⟨given, hgives, hbuild⟩

theorem ofJson_of_presented (honce : record.Once v) (h : Presented v f) : ofJson v = .ok f := by
  obtain ⟨given, hgives, hbuild⟩ := presented_iff.mp h
  refine Record.decode_eq_ok_iff.mpr ⟨given, hgives, honce.checkAll_eq_ok hgives ?_, hbuild⟩
  obtain ⟨hmessage, hcontext, hkind⟩ := build_eq_ok_iff.mp hbuild
  simp [record, hmessage, hcontext, hkind]

theorem ofJson_fields (f : Failure) : ofJson (.obj f.fields) = .ok f := by
  refine ofJson_of_presented (Record.once_of_sorted (sorted_sortFields _)) ?_
  exact .object (lookup_sortFields _ _) (lookup_sortFields _ _) (lookup_sortFields _ _)

end Failure

/-! ## Envelopes -/

namespace Envelope

variable {e : Envelope} {v : Json}

/-- The two forms in which an envelope is received. In the second one nothing can be missing. -/
inductive Presented : Json → Envelope → Prop
  | object {fields : List (String × Json)} {success : Bool} {data : Option Json}
      {error : Option Failure} (hsuccess : lookup "success" fields = some (.bool success))
      (hdata : Side Eq (lookup "data" fields) data)
      (herror : Side Failure.Presented (lookup "error" fields) error) :
      Presented (.object fields) ⟨success, data, error⟩
  | list (success : Bool) {left right : Json} {data : Option Json} {error : Option Failure}
      (hdata : Side Eq (some left) data) (herror : Side Failure.Presented (some right) error) :
      Presented (.array [.bool success, left, right]) ⟨success, data, error⟩

structure Built (success data error : Option Json) (e : Envelope) : Prop where
  success : success = some (.bool e.success)
  data : Side Eq data e.data
  error : Side (fun value f => Failure.ofJson value = .ok f) error e.error

theorem gets_object (fields : List (String × Json)) :
    (record.ofObject fields).get? "success" = lookup "success" fields ∧
      (record.ofObject fields).get? "data" = lookup "data" fields ∧
      (record.ofObject fields).get? "error" = lookup "error" fields :=
  ⟨Record.get?_ofObject (by decide), Record.get?_ofObject (by decide),
    Record.get?_ofObject (by decide)⟩

theorem gets_list (items : List Json) :
    (record.ofList items).get? "success" = items[0]? ∧
      (record.ofList items).get? "data" = items[1]? ∧
      (record.ofList items).get? "error" = items[2]? :=
  ⟨Record.get?_ofList (by decide) rfl, Record.get?_ofList (by decide) rfl,
    Record.get?_ofList (by decide) rfl⟩

theorem build_ofObject_iff (fields : List (String × Json)) :
    build (record.ofObject fields) = .ok e ↔
      Built (lookup "success" fields) (lookup "data" fields) (lookup "error" fields) e := by
  obtain ⟨hsuccess, hdata, herror⟩ := gets_object fields
  have hside (name : String) : (record.ofObject fields).side name =
      .ok ((record.ofObject fields).value? name) := by
    unfold Given.side
    cases (record.ofObject fields).get? name <;> rfl
  simp only [build, bind_eq_ok, Given.truth_eq_ok_iff, hside, Given.value?, hsuccess, hdata, herror]
  constructor
  · rintro ⟨success, htruth, data, hkept, error, hfailure, failure, hread, ⟨⟩⟩
    rw [← Except.ok.inj hfailure] at hread
    exact ⟨htruth, Side.filter_eq_iff.mp (Except.ok.inj hkept), Side.mapM_eq_ok_iff.mp hread⟩
  · rintro ⟨htruth, hkept, hread⟩
    exact ⟨_, htruth, _, congrArg _ (Side.filter_eq_iff.mpr hkept), _, rfl, _,
      Side.mapM_eq_ok_iff.mpr hread, rfl⟩

theorem build_ofList_iff (items : List Json) :
    build (record.ofList items) = .ok e ↔
      ∃ success left right, items[0]? = some success ∧ items[1]? = some left ∧
        items[2]? = some right ∧ Built (some success) (some left) (some right) e := by
  obtain ⟨hsuccess, hdata, herror⟩ := gets_list items
  have hside (name : String) (side : Option Json) : (record.ofList items).side name = .ok side ↔
      ∃ value, (record.ofList items).get? name = some value ∧
        (some value).filter (!·.isNull) = side := by
    unfold Given.side Given.value?
    cases (record.ofList items).get? name <;> simp [Record.ofList, Record.shortList]
  simp only [build, bind_eq_ok, Given.truth_eq_ok_iff, hside, hsuccess, hdata, herror]
  constructor
  · rintro ⟨success, htruth, data, ⟨left, hleft, hkept⟩, error, ⟨right, hright, rfl⟩, failure,
      hread, ⟨⟩⟩
    exact ⟨_, left, right, htruth, hleft, hright, rfl, Side.filter_eq_iff.mp hkept,
      Side.mapM_eq_ok_iff.mp hread⟩
  · rintro ⟨_, left, right, hfirst, hleft, hright, htruth, hkept, hread⟩
    exact ⟨_, hfirst.trans htruth, _, ⟨left, hleft, Side.filter_eq_iff.mpr hkept⟩, _,
      ⟨right, hright, rfl⟩, _, Side.mapM_eq_ok_iff.mpr hread, rfl⟩

theorem presented_of_ofJson (h : ofJson v = .ok e) : Presented v e := by
  obtain ⟨given, hgives, -, hbuild⟩ := Record.decode_eq_ok_iff.mp h
  cases hgives with
  | object fields =>
      obtain ⟨htruth, hdata, herror⟩ := (build_ofObject_iff fields).mp hbuild
      exact .object htruth hdata (herror.imp fun _ _ _ => Failure.presented_of_ofJson)
  | list items hlength =>
      obtain ⟨_, left, right, hfirst, hleft, hright, ⟨⟩, hdata, herror⟩ :=
        (build_ofList_iff items).mp hbuild
      rw [Record.eq_of_getElem?_three hlength hfirst hleft hright]
      exact .list _ hdata (herror.imp fun _ _ _ => Failure.presented_of_ofJson)

theorem checkError_of_ofJson {f : Failure} (h : Failure.ofJson v = .ok f) :
    checkError v = .ok () := by
  cases v with
  | null => rfl
  | _ => simp only [checkError, h, Except.map]

/-- Where no name of an envelope comes twice, an envelope can be put together only from what passes
the checks. -/
theorem ofJson_of_build {given : Given} (honce : record.Once v) (hgives : record.Gives v given)
    (hbuild : build given = .ok e) : ofJson v = .ok e := by
  refine Record.decode_eq_ok_iff.mpr ⟨given, hgives, honce.checkAll_eq_ok hgives ?_, hbuild⟩
  simp only [build, bind_eq_ok, Given.truth_eq_ok_iff] at hbuild
  obtain ⟨success, htruth, data, -, error, herror, failure, hread, -⟩ := hbuild
  simp only [record, List.forall_mem_cons, check_any, implies_true, true_and, htruth, check_truth]
  refine ⟨fun value hvalue => ⟨success, (Option.some.inj hvalue).symm⟩, ?_, by simp⟩
  intro value hvalue
  rw [Given.side_of_get? hvalue] at herror
  rw [← Except.ok.inj herror, Side.mapM_eq_ok_iff] at hread
  cases hread with
  | null => rfl
  | given _ hfailure => exact checkError_of_ofJson hfailure

/-! ## The one form that is written -/

theorem toJson_eq : e.toJson = .object (
    (e.data.map fun data => ("data", data)).toList ++
    (e.error.map fun f => ("error", .object [("context", .string f.context),
      ("kind", .string f.kind), ("message", .string f.message)])).toList ++
    [("success", .bool e.success)]) := by
  obtain ⟨success, data, error⟩ := e
  cases data <;> cases error <;>
    simp only [toJson, fieldsWith, Failure.fields, obj, sortFields, insertField, List.foldl,
      String.reduceLT, String.reduceEq, if_true, if_false, Option.map, Option.toList,
      List.nil_append, List.cons_append]

theorem data_ne_null_of_ofJson (h : ofJson v = .ok e) : e.data ≠ some .null := by
  have hside {found : Option Json} {data : Option Json} (h : Side Eq found data) :
      data ≠ some .null := by
    rintro rfl
    cases h with
    | given hvalue hsame => exact hvalue hsame
  cases presented_of_ofJson h with
  | object _ hdata _ => exact hside hdata
  | list _ hdata _ => exact hside hdata

theorem lookup_fieldsWith (write : List (String × Json) → Json) :
    lookup "success" (e.fieldsWith write) = some (.bool e.success) ∧
      lookup "data" (e.fieldsWith write) = e.data ∧
      lookup "error" (e.fieldsWith write) = e.error.map fun f => write f.fields := by
  obtain ⟨success, data, error⟩ := e
  cases data <;> cases error <;> simp [fieldsWith, lookup]

theorem ofJson_toJson_iff : ofJson e.toJson = .ok e ↔ e.data ≠ some .null := by
  refine ⟨data_ne_null_of_ofJson, fun hdata => ?_⟩
  refine ofJson_of_build (Record.once_of_sorted (sorted_sortFields _)) (.object _)
    ((build_ofObject_iff _).mpr ?_)
  obtain ⟨hsuccess, hkept, hfailure⟩ := @lookup_fieldsWith e Json.obj
  simp only [lookup_sortFields, hsuccess, hkept, hfailure]
  refine ⟨rfl, ?_, ?_⟩
  · cases hside : e.data with
    | none => exact .missing
    | some data => exact .given (fun hnull => hdata (hside.trans (congrArg some hnull))) rfl
  · cases e.error with
    | none => exact .missing
    | some f => exact .given (by simp [obj]) f.ofJson_fields

/-- What an envelope holds survives its own form as a value, except for data that is null. -/
theorem envelopes_read_back :
    (∀ data, ofJson (ok data).toJson = .ok (ok data) ↔ data ≠ .null) ∧
      ofJson (ok .null).toJson = .ok ⟨true, none, none⟩ ∧
      ∀ cause context, ofJson (failure cause context).toJson = .ok (failure cause context) := by
  refine ⟨fun data => ?_, ?_, fun cause context => ?_⟩
  · rw [ofJson_toJson_iff]
    simp [ok]
  · have hbuilt : Built (some (.bool true)) (some .null) none ⟨true, none, none⟩ :=
      ⟨rfl, .null, .missing⟩
    exact ofJson_of_build (Record.once_of_sorted (sorted_sortFields _)) (.object _)
      ((build_ofObject_iff _).mpr hbuilt)
  · exact ofJson_toJson_iff.mpr (by simp [failure])

/-- A tool may well answer with null. -/
theorem null_not_read_back :
    let tool : Tool := {
      name := "settle", description := "Settles", operation := "settling", params := [],
      run := fun _ _ => return .null }
    let registry := (Registry.empty.registerAll [tool]).1
    registry.call {} "settle" (.obj []) = pure (.ok (ok .null)) ∧
      ofJson (ok .null).toJson ≠ .ok (ok .null) := by
  intro tool registry
  refine ⟨rfl, fun h => ?_⟩
  exact data_ne_null_of_ofJson h rfl

/-- Whatever form an envelope is received in, it is written in the one normal form: its fields by
name, a side only where there is one, and of an error nothing but the three texts. From there on it
stays what it is. -/
theorem received_envelope_normal {v : Json} {e : Envelope} (h : ofJson v = .ok e) :
    Presented v e ∧
      e.toJson = .object (
        (e.data.map fun data => ("data", data)).toList ++
        (e.error.map fun f => ("error", .object [("context", .string f.context),
          ("kind", .string f.kind), ("message", .string f.message)])).toList ++
        [("success", .bool e.success)]) ∧
      ∃ again, ofJson e.toJson = .ok again ∧ again = e ∧ again.summary = e.summary ∧
        again.toolResult = e.toolResult ∧ again.toJson = e.toJson :=
  ⟨presented_of_ofJson h, toJson_eq, e, ofJson_toJson_iff.mpr (data_ne_null_of_ofJson h), rfl, rfl,
    rfl, rfl⟩

/-- An object with data that is null, an error as a list and a field of another name. -/
theorem received_envelope_normal_mixed :
    let v : Json := .object [("data", .null),
      ("error", .array [.string "no pool", .string "reading", .string "rpc"]),
      ("extra", .bool true), ("success", .bool false)]
    let e : Envelope := ⟨false, none, some ⟨"no pool", "reading", "rpc"⟩⟩
    ofJson v = .ok e ∧ Presented v e ∧
      e.toJson = .object [
        ("error", .object [("context", .string "reading"), ("kind", .string "rpc"),
          ("message", .string "no pool")]),
        ("success", .bool false)] ∧
      ∃ again, ofJson e.toJson = .ok again ∧ again = e ∧ again.summary = e.summary ∧
        again.toolResult = e.toolResult ∧ again.toJson = e.toJson := by
  intro v e
  have hread : ofJson v = .ok e := rfl
  exact ⟨hread, received_envelope_normal hread⟩

end Envelope

end Tool

end StakingGateway
