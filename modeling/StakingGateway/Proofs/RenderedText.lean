import StakingGateway.Json.Parser
import StakingGateway.Proofs.DecimalDigits

/-!
# Rendered text is read again

Reading takes the text of a value and stops behind it, whatever list or object the value stands in.
Strings come back through the escapes of their characters, numbers through their digits, and lists
and objects by induction on the nesting, which is what the reader goes down by as well.
-/

namespace StakingGateway.Json

/-- Only whole numbers, of 64 bits, and at most `depth` lists and objects inside each other. -/
inductive Plain : (depth : Nat) → Json → Prop
  | null {depth : Nat} : Plain depth .null
  | bool {depth : Nat} (value : Bool) : Plain depth (.bool value)
  | number {depth : Nat} {value : Int} (hlow : -2 ^ 63 ≤ value) (hhigh : value < 2 ^ 64) :
      Plain depth (.number (.integer value))
  | string {depth : Nat} (text : String) : Plain depth (.string text)
  | array {depth : Nat} {items : List Json} (h : ∀ item ∈ items, Plain depth item) :
      Plain (depth + 1) (.array items)
  | object {depth : Nat} {fields : List (String × Json)}
      (h : ∀ field ∈ fields, Plain depth field.2) : Plain (depth + 1) (.object fields)

section Plain

variable {depth : Nat}

@[simp]
theorem plain_null : Plain depth .null := .null

@[simp]
theorem plain_bool (value : Bool) : Plain depth (.bool value) := .bool value

@[simp]
theorem plain_string (text : String) : Plain depth (.string text) := .string text

@[simp]
theorem plain_integer {n : Int} :
    Plain depth (.number (.integer n)) ↔ -2 ^ 63 ≤ n ∧ n < 2 ^ 64 := by
  constructor
  · rintro (_ | _ | ⟨hlow, hhigh⟩)
    exact ⟨hlow, hhigh⟩
  · rintro ⟨hlow, hhigh⟩
    exact .number hlow hhigh

@[simp]
theorem plain_array {items : List Json} :
    Plain (depth + 1) (.array items) ↔ ∀ item ∈ items, Plain depth item := by
  constructor
  · rintro ⟨⟩
    assumption
  · exact .array

@[simp]
theorem plain_object {fields : List (String × Json)} :
    Plain (depth + 1) (.object fields) ↔ ∀ field ∈ fields, Plain depth field.2 := by
  constructor
  · rintro ⟨⟩
    assumption
  · exact .object

end Plain

namespace Reader

variable {α β : Type}

/-- The reader stops before `after` with a value, wherever the text before it stands. -/
def Reads (r : Reader α) (before : List Char) (value : α) (after : List Char) : Prop :=
  ∀ place, ∃ behind, r ⟨before, place⟩ = .ok (value, ⟨after, behind⟩)

variable {before between after : List Char} {c : Char}

theorem reads_pure (value : α) : Reads (pure value) before value before :=
  fun place => ⟨place, rfl⟩

theorem Reads.bind {r : Reader α} {f : α → Reader β} {x : α} {y : β} (hr : Reads r before x between)
    (hf : Reads (f x) between y after) : Reads (r >>= f) before y after := by
  intro place
  obtain ⟨middle, hfirst⟩ := hr place
  obtain ⟨behind, hrest⟩ := hf middle
  refine ⟨behind, ?_⟩
  rw [← hrest]
  show (r ⟨before, place⟩ >>= fun found => f found.1 found.2) = _
  rw [hfirst]
  rfl

theorem reads_eat : Reads eat (c :: after) () after :=
  fun place => ⟨place.after c, rfl⟩

theorem reads_peek : Reads peek before before.head? before :=
  fun place => ⟨place, rfl⟩

theorem reads_peekPastSpaces (h : isSpace c = false) :
    Reads peekPastSpaces (c :: after) (some c) (c :: after) := by
  intro place
  refine ⟨place, ?_⟩
  simp [peekPastSpaces, Cursor.skipSpaces, Cursor.span, Cursor.span.go, h]

theorem reads_remaining : Reads remaining before before.length before :=
  fun place => ⟨place, rfl⟩

theorem reads_span {p : Char → Bool} {cs : List Char} (hcs : cs.all p)
    (hafter : ∀ c ∈ after.head?, p c = false) : Reads (span p) (cs ++ after) cs after := by
  intro place
  induction cs generalizing place with
  | nil =>
      cases after with
      | nil => exact ⟨place, rfl⟩
      | cons c rest =>
          refine ⟨place, ?_⟩
          simp [span, Cursor.span, Cursor.span.go, hafter c rfl]
  | cons c cs ih =>
      obtain ⟨hc, hcs⟩ := Bool.and_eq_true_iff.mp (List.all_cons.symm.trans hcs)
      obtain ⟨behind, hrest⟩ := ih hcs (place.after c)
      have hgo := Except.ok.inj hrest
      simp only [Cursor.span] at hgo
      refine ⟨behind, ?_⟩
      simp [span, Cursor.span, Cursor.span.go, hc, hgo]

theorem reads_word (cs : List Char) : Reads (word cs) (cs ++ after) () after := by
  induction cs with
  | nil => exact reads_pure ()
  | cons c cs ih =>
      refine reads_peek.bind ?_
      simp only [List.cons_append, List.head?_cons, if_true]
      exact reads_eat.bind ih

/-- What may follow a value: the end of the text, or what comes between or behind values. -/
def Stops (after : List Char) : Prop :=
  after = [] ∨ ∃ c rest, c ∈ [',', ']', '\x7d'] ∧ after = c :: rest

theorem stops_cons (h : c ∈ [',', ']', '\x7d']) : Stops (c :: after) :=
  .inr ⟨c, after, h, rfl⟩

/-! ## Numbers -/

theorem appendDigits_eq {cs : List Char} {n : Nat}
    (h : Nat.ofDigitChars 10 cs n < UInt64.size) :
    appendDigits n cs = (Nat.ofDigitChars 10 cs n, cs.length) := by
  induction cs generalizing n with
  | nil => rfl
  | cons c cs ih =>
      have hnext : n * 10 + (c.toNat - 48) ≤
          Nat.ofDigitChars 10 cs (n * 10 + (c.toNat - 48)) := by
        rw [Nat.ofDigitChars_eq_ofDigitChars_zero]
        have hone : 1 ≤ 10 ^ cs.length := Nat.one_le_pow _ _ (by decide)
        exact (Nat.le_mul_of_pos_left _ hone).trans (Nat.le_add_right _ _)
      have hcons : Nat.ofDigitChars 10 (c :: cs) n =
          Nat.ofDigitChars 10 cs (n * 10 + (c.toNat - 48)) := by
        rw [Nat.ofDigitChars_cons, Nat.mul_comm]
        rfl
      rw [hcons] at h ⊢
      simp only [appendDigits, if_pos (Nat.lt_of_le_of_lt hnext h), ih h, List.length_cons]

theorem appendDigits_digits {n : Nat} (h : n < UInt64.size) :
    appendDigits 0 (Text.digits n) = (n, (Text.digits n).length) := by
  have hvalue : Nat.ofDigitChars 10 (Text.digits n) 0 = n := Text.valueOfDigits_digits n
  rw [appendDigits_eq (by rwa [hvalue]), hvalue]

theorem reads_afterWhole (h : Stops after) (negative : Bool) {n : Nat} {result : Json.Number}
    (hresult : Reads (if !negative then pure (.integer n)
      else if n = 0 || Nat.pow 2 63 < n then real negative n 0
      else pure (.integer (-n))) after result after) :
    Reads (afterWhole negative n 0) after result after := by
  refine reads_peek.bind ?_
  rcases h with rfl | ⟨c, rest, hc, rfl⟩
  · exact reads_peek.bind hresult
  · simp only [List.mem_cons, List.not_mem_nil, or_false] at hc
    rcases hc with rfl | rfl | rfl
    all_goals exact reads_peek.bind hresult

theorem Stops.not_isDigit (h : Stops after) : ∀ c ∈ after.head?, c.isDigit = false := by
  rcases h with rfl | ⟨c, rest, hc, rfl⟩
  · exact fun _ h => nomatch h
  · rintro d ⟨⟩
    simp only [List.mem_cons, List.not_mem_nil, or_false] at hc
    rcases hc with rfl | rfl | rfl <;> rfl

theorem reads_numeral (h : Stops after) {negative : Bool} {n : Nat} {result : Json.Number}
    (hsize : n < UInt64.size) (hwhole : Reads (afterWhole negative n 0) after result after) :
    Reads (numeral negative) (Text.digits n ++ after) result after := by
  refine reads_peek.bind ?_
  have hdigits := Text.areDigits_digits n
  rcases Text.noLeadingZero_digits n with hzero | hhead
  · have hn : n = 0 := by
      rw [← Text.valueOfDigits_digits n, hzero]
      rfl
    subst hn
    simp only [hzero, List.singleton_append, List.head?_cons]
    refine reads_eat.bind (reads_peek.bind ?_)
    cases after with
    | nil => exact hwhole
    | cons c rest =>
      simp only [List.head?_cons, h.not_isDigit c rfl]
      exact hwhole
  · obtain ⟨c, cs, hcs⟩ := List.exists_cons_of_ne_nil (Text.digits_ne_nil n)
    have hspan := reads_span hdigits h.not_isDigit
    have hkept := appendDigits_digits hsize
    rw [hcs] at hspan hhead hkept hdigits ⊢
    have hc : c ≠ '0' := by simpa using hhead
    have hdigit : c.isDigit = true := (Text.areDigits_cons.mp hdigits).1
    simp only [List.cons_append, List.head?_cons]
    rw [if_neg (by simp [hdigit])]
    refine hspan.bind ?_
    simp only [hkept, Nat.sub_self]
    exact hwhole

/-! ## Strings -/

theorem reads_hex4 {ds : List Char} {values : List Nat} (hlength : ds.length = 4)
    (hsize : (String.ofList ds).utf8ByteSize = 4) (hvalues : ds.mapM Bytes.hexValue? = some values)
    (after : List Char) : Reads hex4 (ds ++ after) (values.foldl (fun n d => n * 16 + d) 0) after := by
  intro place
  match ds, hlength with
  | [a, b, c, d], _ =>
    refine ⟨(((place.after a).after b).after c).after d, ?_⟩
    simp only [hex4, List.cons_append, List.nil_append, List.take_succ_cons, List.take_zero, hsize,
      hvalues]
    rfl

theorem reads_hex4_control (h : c.toNat < 0x20) :
    Reads hex4 (Text.padZeros 4 (Text.hexDigits c.toNat) ++ after) c.toNat after := by
  have hdigits : ∀ n < 0x20, (Text.padZeros 4 (Text.hexDigits n)).length = 4 ∧
      (String.ofList (Text.padZeros 4 (Text.hexDigits n))).utf8ByteSize = 4 ∧
      ((Text.padZeros 4 (Text.hexDigits n)).mapM Bytes.hexValue?).map
        (fun values => values.foldl (fun n d => n * 16 + d) 0) = some n := by
    decide +kernel
  obtain ⟨hlength, hsize, hvalue⟩ := hdigits c.toNat h
  obtain ⟨values, hvalues, hfold⟩ := Option.map_eq_some_iff.mp hvalue
  have hread := reads_hex4 hlength hsize hvalues after
  rwa [hfold] at hread

theorem reads_numberedEscape (h : c.toNat < 0x20) :
    Reads numberedEscape (Text.padZeros 4 (Text.hexDigits c.toNat) ++ after) c after := by
  refine (reads_hex4_control h).bind ?_
  rw [if_neg (by simp; omega), if_neg (by simp; omega)]
  have hc : Char.ofNat c.toNat = c := Char.ofNat_toNat c
  rw [hc]
  exact reads_pure c

theorem reads_escape {mark : Char}
    (h : (mark, c) ∈ [('"', '"'), ('\\', '\\'), ('b', '\x08'), ('f', '\x0c'), ('n', '\n'),
      ('r', '\r'), ('t', '\t')]) : Reads escape (mark :: after) c after := by
  simp only [List.mem_cons, Prod.mk.injEq, List.not_mem_nil, or_false] at h
  rcases h with ⟨rfl, rfl⟩ | ⟨rfl, rfl⟩ | ⟨rfl, rfl⟩ | ⟨rfl, rfl⟩ | ⟨rfl, rfl⟩ | ⟨rfl, rfl⟩ |
    ⟨rfl, rfl⟩
  all_goals exact reads_peek.bind (reads_eat.bind (reads_pure _))

/-- A character stands for itself, or behind a backslash stands what brings it back. -/
theorem escapedChar_cases (c : Char) :
    (escapedChar c = [c] ∧ c ≠ '"' ∧ c ≠ '\\' ∧ ¬ c.toNat < 0x20) ∨
    ∃ cs, escapedChar c = '\\' :: cs ∧ ∀ after, Reads escape (cs ++ after) c after := by
  unfold escapedChar
  split_ifs with hquote hbackslash hb hf hn hr ht hcontrol
  · exact .inr ⟨['"'], rfl, fun _ => reads_escape (by simp [hquote])⟩
  · exact .inr ⟨['\\'], rfl, fun _ => reads_escape (by simp [hbackslash])⟩
  · exact .inr ⟨['b'], rfl, fun _ => reads_escape (by simp [hb])⟩
  · exact .inr ⟨['f'], rfl, fun _ => reads_escape (by simp [hf])⟩
  · exact .inr ⟨['n'], rfl, fun _ => reads_escape (by simp [hn])⟩
  · exact .inr ⟨['r'], rfl, fun _ => reads_escape (by simp [hr])⟩
  · exact .inr ⟨['t'], rfl, fun _ => reads_escape (by simp [ht])⟩
  · refine .inr ⟨'u' :: Text.padZeros 4 (Text.hexDigits c.toNat), rfl, fun _ => ?_⟩
    exact reads_peek.bind (reads_eat.bind (reads_numberedEscape hcontrol))
  · exact .inl ⟨rfl, hquote, hbackslash, hcontrol⟩

theorem reads_stringTail {cs : List Char} {fuel : Nat} (h : cs.length < fuel) :
    Reads (stringTail fuel) (cs.flatMap escapedChar ++ '"' :: after) cs after := by
  induction cs generalizing fuel with
  | nil =>
      obtain ⟨fuel, rfl⟩ := Nat.exists_eq_add_one_of_ne_zero (Nat.ne_zero_of_lt h)
      exact reads_peek.bind (reads_eat.bind (reads_pure _))
  | cons c cs ih =>
      obtain ⟨fuel, rfl⟩ := Nat.exists_eq_add_one_of_ne_zero (Nat.ne_zero_of_lt h)
      have hrest := ih (Nat.lt_of_succ_lt_succ h)
      refine reads_peek.bind ?_
      rw [List.flatMap_cons, List.append_assoc]
      rcases escapedChar_cases c with ⟨hself, hquote, hbackslash, hcontrol⟩ | ⟨cs, hescaped, hread⟩
      · simp only [hself, List.cons_append, List.nil_append, List.head?_cons, if_neg hquote,
          if_neg hbackslash, if_neg hcontrol]
        exact reads_eat.bind (hrest.bind (reads_pure _))
      · simp only [hescaped, List.cons_append, List.head?_cons]
        exact reads_eat.bind ((hread _).bind (hrest.bind (reads_pure _)))

theorem length_le_flatMap_escapedChar (cs : List Char) :
    cs.length ≤ (cs.flatMap escapedChar).length := by
  induction cs with
  | nil => exact Nat.le_refl 0
  | cons c cs ih =>
      have hone : 1 ≤ (escapedChar c).length := by
        rcases escapedChar_cases c with ⟨hself, -⟩ | ⟨cs, hescaped, -⟩
        · rw [hself]
          exact Nat.le_refl 1
        · rw [hescaped]
          exact Nat.succ_le_succ (Nat.zero_le _)
      rw [List.flatMap_cons, List.length_append, List.length_cons]
      omega

theorem reads_stringBody (text : String) :
    Reads stringBody (text.toList.flatMap escapedChar ++ '"' :: after) text after := by
  refine reads_remaining.bind ((reads_stringTail ?_).bind ?_)
  · have hlength := length_le_flatMap_escapedChar text.toList
    rw [List.length_append]
    omega
  · have htext : String.ofList text.toList = text := String.ofList_toList
    rw [htext]
    exact reads_pure text

/-! ## Lists -/

/-- The reader takes the text of the value, in front of all that may follow a value. -/
structure Rereads (r : Reader Json) (v : Json) : Prop where
  opens : ∃ c cs, v.chars = c :: cs ∧ isSpace c = false ∧ c ≠ ']'
  reads : ∀ {after}, Stops after → Reads r (v.chars ++ after) v after

theorem reads_hasItem_end (first : Bool) :
    Reads (hasItem first) (']' :: after) false (']' :: after) :=
  (reads_peekPastSpaces (by decide)).bind (reads_pure _)

theorem reads_hasItem_first (hspace : isSpace c = false) (hclose : c ≠ ']') :
    Reads (hasItem true) (c :: after) true (c :: after) := by
  refine (reads_peekPastSpaces hspace).bind ?_
  simp only [if_neg hclose]
  exact reads_pure _

theorem reads_hasItem_next (hspace : isSpace c = false) (hclose : c ≠ ']') :
    Reads (hasItem false) (',' :: c :: after) true (c :: after) := by
  refine (reads_peekPastSpaces (by decide)).bind ?_
  refine reads_eat.bind ((reads_peekPastSpaces hspace).bind ?_)
  simp only [if_neg hclose]
  exact reads_pure _

theorem stops_itemsChars (l : List Json) (after : List Char) : Stops (itemsChars l ++ after) := by
  cases l with
  | nil => exact stops_cons (by decide)
  | cons item rest => exact stops_cons (by decide)

variable {r : Reader Json}

theorem reads_items {l : List Json} (h : ∀ item ∈ l, Rereads r item) {fuel : Nat}
    (hfuel : l.length < fuel) :
    Reads (items r fuel false) (itemsChars l ++ after) l (']' :: after) := by
  induction l generalizing fuel with
  | nil =>
      obtain ⟨fuel, rfl⟩ := Nat.exists_eq_add_one_of_ne_zero (Nat.ne_zero_of_lt hfuel)
      exact (reads_hasItem_end false).bind (reads_pure _)
  | cons item rest ih =>
      obtain ⟨fuel, rfl⟩ := Nat.exists_eq_add_one_of_ne_zero (Nat.ne_zero_of_lt hfuel)
      obtain ⟨hitem, hrest⟩ := List.forall_mem_cons.mp h
      have htext := hitem.reads (stops_itemsChars rest after)
      obtain ⟨c, cs, hchars, hspace, hclose⟩ := hitem.opens
      simp only [itemsChars, List.cons_append, List.append_assoc]
      rw [hchars] at htext ⊢
      refine (reads_hasItem_next hspace hclose).bind (htext.bind ?_)
      exact (ih hrest (Nat.lt_of_succ_lt_succ hfuel)).bind (reads_pure _)

theorem length_lt_itemsChars (l : List Json) : l.length < (itemsChars l).length := by
  induction l with
  | nil => exact Nat.zero_lt_one
  | cons item rest ih =>
      simp only [itemsChars, List.length_cons, List.length_append]
      omega

theorem reads_closeList : Reads closeList (']' :: after) () after :=
  (reads_peekPastSpaces (by decide)).bind reads_eat

theorem reads_listOf {l : List Json} (h : ∀ item ∈ l, Rereads r item) (after : List Char) :
    Reads (listOf r) ((Json.array l).chars ++ after) (.array l) after := by
  cases l with
  | nil =>
      refine reads_eat.bind (reads_remaining.bind ?_)
      refine Reads.bind ?_ (reads_closeList.bind (reads_pure _))
      exact (reads_hasItem_end true).bind (reads_pure _)
  | cons item rest =>
      obtain ⟨hitem, hrest⟩ := List.forall_mem_cons.mp h
      have htext := hitem.reads (stops_itemsChars rest after)
      obtain ⟨c, cs, hchars, hspace, hclose⟩ := hitem.opens
      simp only [chars, List.cons_append, List.append_assoc]
      have hfuel : rest.length < (item.chars ++ (itemsChars rest ++ after)).length := by
        have hlength := length_lt_itemsChars rest
        simp only [List.length_append]
        omega
      refine reads_eat.bind (reads_remaining.bind ?_)
      refine Reads.bind ?_ (reads_closeList.bind (reads_pure _))
      rw [hchars] at htext hfuel ⊢
      exact (reads_hasItem_first hspace hclose).bind
        (htext.bind ((reads_items hrest hfuel).bind (reads_pure _)))

/-! ## Objects -/

theorem reads_hasField_end (first : Bool) :
    Reads (hasField first) ('\x7d' :: after) false ('\x7d' :: after) :=
  (reads_peekPastSpaces (by decide)).bind (reads_pure _)

theorem reads_hasField_first : Reads (hasField true) ('"' :: after) true ('"' :: after) :=
  (reads_peekPastSpaces (by decide)).bind (reads_pure _)

theorem reads_hasField_next : Reads (hasField false) (',' :: '"' :: after) true ('"' :: after) :=
  (reads_peekPastSpaces (by decide)).bind
    (reads_eat.bind ((reads_peekPastSpaces (by decide)).bind (reads_pure _)))

theorem reads_colon : Reads colon (':' :: after) () after :=
  (reads_peekPastSpaces (by decide)).bind reads_eat

theorem stops_fieldsChars (l : List (String × Json)) (after : List Char) :
    Stops (fieldsChars l ++ after) := by
  cases l with
  | nil => exact stops_cons (by decide)
  | cons field rest => exact stops_cons (by decide)

/-- One field from its name on, and all that come behind it. -/
theorem reads_field (name : String) {v : Json} {rest : List (String × Json)} {fuel : Nat}
    (hv : Rereads r v)
    (hrest : Reads (fields r fuel false) (fieldsChars rest ++ after) rest between) :
    Reads (do
      eat
      let name ← stringBody
      colon
      let found ← r
      return (name, found) :: (← fields r fuel false))
      (stringChars name ++ ':' :: (v.chars ++ (fieldsChars rest ++ after))) ((name, v) :: rest)
      between := by
  simp only [stringChars, List.cons_append, List.append_assoc]
  refine reads_eat.bind ((reads_stringBody name).bind (reads_colon.bind ?_))
  exact (hv.reads (stops_fieldsChars rest _)).bind (hrest.bind (reads_pure _))

theorem reads_fields {l : List (String × Json)} (h : ∀ field ∈ l, Rereads r field.2) {fuel : Nat}
    (hfuel : l.length < fuel) :
    Reads (fields r fuel false) (fieldsChars l ++ after) l ('\x7d' :: after) := by
  induction l generalizing fuel with
  | nil =>
      obtain ⟨fuel, rfl⟩ := Nat.exists_eq_add_one_of_ne_zero (Nat.ne_zero_of_lt hfuel)
      exact (reads_hasField_end false).bind (reads_pure _)
  | cons field rest ih =>
      obtain ⟨fuel, rfl⟩ := Nat.exists_eq_add_one_of_ne_zero (Nat.ne_zero_of_lt hfuel)
      obtain ⟨hfield, hrest⟩ := List.forall_mem_cons.mp h
      have hread := reads_field field.1 hfield (ih hrest (Nat.lt_of_succ_lt_succ hfuel))
      simp only [fieldsChars, List.cons_append, List.append_assoc]
      exact reads_hasField_next.bind hread

theorem length_lt_fieldsChars (l : List (String × Json)) : l.length < (fieldsChars l).length := by
  induction l with
  | nil => exact Nat.zero_lt_one
  | cons field rest ih =>
      simp only [fieldsChars, List.length_cons, List.length_append]
      omega

theorem reads_closeObject : Reads closeObject ('\x7d' :: after) () after :=
  (reads_peekPastSpaces (by decide)).bind reads_eat

theorem reads_objectOf {l : List (String × Json)} (h : ∀ field ∈ l, Rereads r field.2)
    (after : List Char) : Reads (objectOf r) ((Json.object l).chars ++ after) (.object l) after := by
  cases l with
  | nil =>
      refine reads_eat.bind (reads_remaining.bind ?_)
      refine Reads.bind ?_ (reads_closeObject.bind (reads_pure _))
      exact (reads_hasField_end true).bind (reads_pure _)
  | cons field rest =>
      obtain ⟨hfield, hrest⟩ := List.forall_mem_cons.mp h
      simp only [chars, List.cons_append, List.append_assoc]
      refine reads_eat.bind (reads_remaining.bind ?_)
      refine Reads.bind ?_ (reads_closeObject.bind (reads_pure _))
      refine reads_hasField_first.bind (reads_field field.1 hfield (reads_fields hrest ?_))
      have hlength := length_lt_fieldsChars rest
      simp only [List.length_append, List.length_cons]
      omega

/-! ## Values -/

theorem ne_of_isDigit {d : Char} (h : c.isDigit = true) (hd : d.isDigit = false) : c ≠ d := by
  rintro rfl
  rw [h] at hd
  cases hd

theorem isSpace_of_isDigit (h : c.isDigit = true) : isSpace c = false := by
  simp [isSpace, ne_of_isDigit h (d := ' ') (by decide), ne_of_isDigit h (d := '\n') (by decide),
    ne_of_isDigit h (d := '\t') (by decide), ne_of_isDigit h (d := '\r') (by decide)]

section Numbers

variable (list object : Reader Json)

/-- At a digit there is a number, which is not negative. -/
theorem reads_valueWith_digit {cs : List Char} {n : Number} (h : c.isDigit = true)
    (hread : Reads (numeral false) (c :: cs) n after) :
    Reads (valueWith list object) (c :: cs) (.number n) after := by
  have hother : ∀ d : Char, d.isDigit = false → c ≠ d := fun d => ne_of_isDigit h
  refine (reads_peekPastSpaces (isSpace_of_isDigit h)).bind ?_
  simp only
  split
  · exact absurd rfl (hother 'n' (by decide))
  · exact absurd rfl (hother 't' (by decide))
  · exact absurd rfl (hother 'f' (by decide))
  · exact absurd rfl (hother '-' (by decide))
  · exact absurd rfl (hother '"' (by decide))
  · exact absurd rfl (hother '[' (by decide))
  · exact absurd rfl (hother '\x7b' (by decide))
  · rw [if_pos h]
    exact hread.bind (reads_pure _)

theorem rereads_negative {n : Int} (hlow : -2 ^ 63 ≤ n) (hnegative : n < 0) :
    Rereads (valueWith list object) (.number (.integer n)) := by
  have hsize : n.natAbs < UInt64.size := by
    simp only [UInt64.size]
    omega
  have hchars : (Json.number (.integer n)).chars = '-' :: Text.digits n.natAbs := by
    simp only [chars, numberChars, integerChars, if_pos hnegative]
  refine ⟨⟨'-', _, hchars, by decide, by decide⟩, fun {after} hafter => ?_⟩
  have hwhole : Reads (afterWhole true n.natAbs 0) after (.integer n) after := by
    refine reads_afterWhole hafter true ?_
    have hwide : ¬ (n.natAbs = 0 || Nat.pow 2 63 < n.natAbs) = true := by
      simp
      omega
    have hn : -(n.natAbs : Int) = n := by omega
    rw [Bool.not_true, if_neg Bool.false_ne_true, if_neg hwide, hn]
    exact reads_pure _
  rw [hchars]
  refine (reads_peekPastSpaces (by decide)).bind (reads_eat.bind ?_)
  exact (reads_numeral hafter hsize hwhole).bind (reads_pure _)

theorem rereads_nonnegative {n : Int} (hpositive : 0 ≤ n) (hhigh : n < 2 ^ 64) :
    Rereads (valueWith list object) (.number (.integer n)) := by
  have hsize : n.natAbs < UInt64.size := by
    simp only [UInt64.size]
    omega
  have hchars : (Json.number (.integer n)).chars = Text.digits n.natAbs := by
    simp only [chars, numberChars, integerChars, if_neg (Int.not_lt.mpr hpositive)]
  obtain ⟨c, cs, hcs⟩ := List.exists_cons_of_ne_nil (Text.digits_ne_nil n.natAbs)
  have hdigits := Text.areDigits_digits n.natAbs
  rw [hcs] at hdigits
  have hdigit : c.isDigit = true := (Text.areDigits_cons.mp hdigits).1
  refine ⟨⟨c, cs, hchars.trans hcs, isSpace_of_isDigit hdigit, ne_of_isDigit hdigit (by decide)⟩,
    fun {after} hafter => ?_⟩
  have hwhole : Reads (afterWhole false n.natAbs 0) after (.integer n) after := by
    refine reads_afterWhole hafter false ?_
    have hn : (n.natAbs : Int) = n := by omega
    rw [Bool.not_false, if_pos rfl, hn]
    exact reads_pure _
  have hread := reads_numeral hafter hsize hwhole
  rw [hchars]
  rw [hcs] at hread ⊢
  exact reads_valueWith_digit list object hdigit hread

/-- Every whole number of 64 bits is read again, with its sign. -/
theorem rereads_integer {n : Int} (hlow : -2 ^ 63 ≤ n) (hhigh : n < 2 ^ 64) :
    Rereads (valueWith list object) (.number (.integer n)) := by
  rcases Int.lt_or_le n 0 with hnegative | hpositive
  · exact rereads_negative list object hlow hnegative
  · exact rereads_nonnegative list object hpositive hhigh

end Numbers

theorem chars_array (l : List Json) : ∃ cs, (Json.array l).chars = '[' :: cs := by
  cases l with
  | nil => exact ⟨_, rfl⟩
  | cons item rest => exact ⟨_, rfl⟩

theorem chars_object (l : List (String × Json)) : ∃ cs, (Json.object l).chars = '\x7b' :: cs := by
  cases l with
  | nil => exact ⟨_, rfl⟩
  | cons field rest => exact ⟨_, rfl⟩

theorem value_eq_valueWith (depth : Nat) :
    ∃ list object, value depth = valueWith list object := by
  cases depth with
  | zero => exact ⟨_, _, rfl⟩
  | succ depth => exact ⟨_, _, rfl⟩

theorem rereads_value {depth : Nat} {v : Json} (h : Plain depth v) : Rereads (value depth) v := by
  induction h with
  | @null depth =>
      obtain ⟨list, object, hvalue⟩ := value_eq_valueWith depth
      refine hvalue ▸ ⟨⟨'n', _, rfl, by decide, by decide⟩, fun hafter => ?_⟩
      exact (reads_peekPastSpaces (by decide)).bind
        (reads_eat.bind ((reads_word ['u', 'l', 'l']).bind (reads_pure _)))
  | @bool depth value =>
      obtain ⟨list, object, hvalue⟩ := value_eq_valueWith depth
      rw [hvalue]
      cases value with
      | true =>
          refine ⟨⟨'t', _, rfl, by decide, by decide⟩, fun hafter => ?_⟩
          exact (reads_peekPastSpaces (by decide)).bind
            (reads_eat.bind ((reads_word ['r', 'u', 'e']).bind (reads_pure _)))
      | false =>
          refine ⟨⟨'f', _, rfl, by decide, by decide⟩, fun hafter => ?_⟩
          exact (reads_peekPastSpaces (by decide)).bind
            (reads_eat.bind ((reads_word ['a', 'l', 's', 'e']).bind (reads_pure _)))
  | @number depth n hlow hhigh =>
      obtain ⟨list, object, hvalue⟩ := value_eq_valueWith depth
      rw [hvalue]
      exact rereads_integer list object hlow hhigh
  | @string depth text =>
      obtain ⟨list, object, hvalue⟩ := value_eq_valueWith depth
      rw [hvalue]
      refine ⟨⟨'"', _, rfl, by decide, by decide⟩, fun {after} hafter => ?_⟩
      simp only [chars, stringChars, List.cons_append, List.append_assoc]
      exact (reads_peekPastSpaces (by decide)).bind
        (reads_eat.bind ((reads_stringBody text).bind (reads_pure _)))
  | @array depth items h ih =>
      obtain ⟨cs, hcs⟩ := chars_array items
      refine ⟨⟨'[', cs, hcs, by decide, by decide⟩, fun {after} hafter => ?_⟩
      have hlist := reads_listOf ih after
      rw [hcs] at hlist ⊢
      exact (reads_peekPastSpaces (by decide)).bind hlist
  | @object depth fields h ih =>
      obtain ⟨cs, hcs⟩ := chars_object fields
      refine ⟨⟨'\x7b', cs, hcs, by decide, by decide⟩, fun {after} hafter => ?_⟩
      have hobject := reads_objectOf ih after
      rw [hcs] at hobject ⊢
      exact (reads_peekPastSpaces (by decide)).bind hobject

theorem reads_finish : Reads finish [] () [] :=
  fun place => ⟨place, rfl⟩

end Reader

/-- A plain value comes back from its text, with its fields in order. -/
theorem parse_render {v : Json} (h : Plain depthLimit v) : parse v.render = .ok v.normal := by
  obtain ⟨behind, hvalue⟩ := (Reader.rereads_value h).reads (.inl rfl) (Cursor.start v.chars).place
  obtain ⟨last, hfinish⟩ := Reader.reads_finish behind
  rw [List.append_nil] at hvalue
  have hstart : Reader.value depthLimit (Cursor.start v.chars) = .ok (v, ⟨[], behind⟩) := hvalue
  have hraw : parseRaw v.chars = .ok v := by
    rw [parseRaw, hstart]
    simp only [bind, Except.bind, hfinish]
    rfl
  rw [parse, render, String.toList_ofList, hraw]
  rfl

end StakingGateway.Json
