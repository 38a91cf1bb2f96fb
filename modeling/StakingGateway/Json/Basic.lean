import StakingGateway.Decimal.Binary64

/-!
JSON values. Values that the gateway builds or reads hold their object fields in the order of the
field names, each name once; `Json.obj` and `Json.normal` establish that order.
-/

namespace StakingGateway

/-- A number is a whole number, when its text is one that fits 64 bits, else a real number. -/
inductive Json.Number where
  | integer (value : Int)
  | real (value : Binary64)
deriving Repr, DecidableEq, Inhabited

inductive Json where
  | null
  | bool (value : Bool)
  | number (value : Json.Number)
  | string (value : String)
  | array (items : List Json)
  | object (fields : List (String × Json))
deriving Repr, Inhabited

namespace Json

instance : Coe String Json := ⟨Json.string⟩

def int (value : Int) : Json := .number (.integer value)

def nat (value : Nat) : Json := .number (.integer value)

def ofOption : Option Json → Json
  | some value => value
  | none => null

def ofOptionString (text : Option String) : Json :=
  ofOption (text.map string)

/-- The last field of a name, if there is one. -/
def lookup (name : String) : List (String × Json) → Option Json
  | [] => none
  | (key, value) :: rest => (lookup name rest).or (if key = name then some value else none)

def get? (name : String) : Json → Option Json
  | object fields => lookup name fields
  | _ => none

/-- Puts a field in its place among sorted fields; a field of the same name is replaced. -/
def insertField (name : String) (value : Json) : List (String × Json) → List (String × Json)
  | [] => [(name, value)]
  | (key, old) :: rest =>
    if name < key then (name, value) :: (key, old) :: rest
    else if name = key then (name, value) :: rest
    else (key, old) :: insertField name value rest

/-- The fields in the order of their names; of fields with one name the last stays. -/
def sortFields (fields : List (String × Json)) : List (String × Json) :=
  fields.foldl (fun sorted field => insertField field.1 field.2 sorted) []

def obj (fields : List (String × Json)) : Json :=
  object (sortFields fields)

mutual

def normal : Json → Json
  | array items => array (normalItems items)
  | object fields => obj (normalFields fields)
  | null => null
  | bool value => bool value
  | number value => number value
  | string value => string value

def normalItems : List Json → List Json
  | [] => []
  | item :: rest => normal item :: normalItems rest

def normalFields : List (String × Json) → List (String × Json)
  | [] => []
  | (name, value) :: rest => (name, normal value) :: normalFields rest

end

def isNull : Json → Bool
  | null => true
  | _ => false

def string? : Json → Option String
  | string text => some text
  | _ => none

/-- The whole numbers that fit 64 bits without a sign. -/
def natural? : Json → Option Nat
  | number (.integer value) =>
    if 0 ≤ value ∧ value < UInt64.size then some value.toNat else none
  | _ => none

theorem lookup_insertField_self (name : String) (value : Json) (fields : List (String × Json))
    (h : fields.Pairwise (fun a b => a.1 < b.1)) :
    lookup name (insertField name value fields) = some value := by
  induction fields with
  | nil => simp [insertField, lookup]
  | cons field rest ih =>
    obtain ⟨key, old⟩ := field
    rw [List.pairwise_cons] at h
    have absent : ∀ l : List (String × Json), (∀ b ∈ l, name < b.1) → lookup name l = none := by
      intro l hl
      induction l with
      | nil => rfl
      | cons b l ihl =>
        have hb := hl b (by simp)
        have hne : b.1 ≠ name := fun h => by rw [h] at hb; exact absurd hb (String.lt_irrefl name)
        simp [lookup, hne, ihl (fun b hb => hl b (by simp [hb]))]
    simp only [insertField]
    split
    · next hlt =>
      have h0 : lookup name ((key, old) :: rest) = none := by
        apply absent
        intro b hb
        rcases List.mem_cons.1 hb with rfl | hb
        · exact hlt
        · exact String.lt_trans hlt (h.1 b hb)
      simp only [lookup] at h0 ⊢
      simp [h0]
    · split
      · next heq =>
        subst heq
        have h0 : lookup name rest = none := absent rest (fun b hb => h.1 b hb)
        simp [lookup, h0]
      · simp [lookup, ih h.2]

end Json

end StakingGateway
