import StakingGateway.Json.Fault

/-!
A place in a JSON text with the characters that follow it, and readers that move it forward.
-/

namespace StakingGateway.Json

structure Cursor where
  rest : List Char
  place : Position
deriving Repr

def Cursor.start (text : List Char) : Cursor := ⟨text, 1, 0⟩

def Position.after (p : Position) (c : Char) : Position :=
  if c = '\n' then ⟨p.line + 1, 0⟩ else ⟨p.line, p.column + c.utf8Size⟩

/-- The place `count` bytes on, which may lie inside a character. -/
def Position.afterBytes (p : Position) : (count : Nat) → List Char → Position
  | 0, _ => p
  | _, [] => p
  | count, c :: rest =>
    if c.utf8Size ≤ count then afterBytes (p.after c) (count - c.utf8Size) rest
    else ⟨p.line, p.column + count⟩

/-- The place one byte on, or this place at the end of the text. -/
def Cursor.ahead (c : Cursor) : Position := c.place.afterBytes 1 c.rest

def Cursor.eat (c : Cursor) : Cursor :=
  match c.rest with
  | [] => c
  | first :: rest => ⟨rest, c.place.after first⟩

def Cursor.span (p : Char → Bool) (c : Cursor) : List Char × Cursor :=
  go c.place c.rest
where
  go (place : Position) : List Char → List Char × Cursor
    | [] => ([], ⟨[], place⟩)
    | first :: rest =>
      if p first then
        let (passed, after) := go (place.after first) rest
        (first :: passed, after)
      else ([], ⟨first :: rest, place⟩)

/-- The blanks of the format, which are fewer than those of other texts. -/
def isSpace (c : Char) : Bool :=
  c = ' ' || c = '\n' || c = '\t' || c = '\r'

def Cursor.skipSpaces (c : Cursor) : Cursor :=
  (c.span isSpace).2

abbrev Reader := StateT Cursor (Except Complaint)

namespace Reader

def fail {α : Type} (fault : Fault) : Reader α :=
  fun c => .error ⟨fault, c.place⟩

def failAhead {α : Type} (fault : Fault) : Reader α :=
  fun c => .error ⟨fault, c.ahead⟩

def peek : Reader (Option Char) :=
  fun c => .ok (c.rest.head?, c)

def eat : Reader Unit :=
  fun c => .ok ((), c.eat)

def peekPastSpaces : Reader (Option Char) :=
  fun c =>
    let c := c.skipSpaces
    .ok (c.rest.head?, c)

def span (p : Char → Bool) : Reader (List Char) :=
  fun c => .ok (c.span p)

def remaining : Reader Nat :=
  fun c => .ok (c.rest.length, c)

/-- The rest of a word whose first letter has been read. -/
def word : List Char → Reader Unit
  | [] => pure ()
  | wanted :: rest => do
    match ← peek with
    | none => fail .endInValue
    | some c =>
      if c = wanted then
        eat
        word rest
      else failAhead .unknownWord

end Reader

end StakingGateway.Json
