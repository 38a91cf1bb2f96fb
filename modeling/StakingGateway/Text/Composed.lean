import StakingGateway.Text.CompositionTable
import StakingGateway.Text.Mark

/-!
The composed form of a text: every character is taken apart, the marks on one character are put
in the order of their classes, and the characters are put together again from the left. Two
texts with the same characters and marks have the same composed form.
-/

namespace StakingGateway.Text

namespace Hangul

def firstLead : Nat := 0x1100

def firstVowel : Nat := 0x1161

/-- The place before the first tail, which stands for no tail. -/
def noTail : Nat := 0x11A7

def firstSyllable : Nat := 0xAC00

def leads : Nat := 19

def vowels : Nat := 21

def tails : Nat := 28

def isSyllable (n : Nat) : Bool :=
  firstSyllable ≤ n && n < firstSyllable + leads * vowels * tails

def letters (n : Nat) : List Nat :=
  let place := n - firstSyllable
  let tail := place % tails
  [firstLead + place / (vowels * tails), firstVowel + place % (vowels * tails) / tails] ++
    if tail = 0 then [] else [noTail + tail]

/-- The syllable of a lead and a vowel, or of an open syllable and a tail. -/
def join? (first second : Nat) : Option Nat :=
  if firstLead ≤ first && first < firstLead + leads &&
      firstVowel ≤ second && second < firstVowel + vowels then
    some (firstSyllable + ((first - firstLead) * vowels + (second - firstVowel)) * tails)
  else if isSyllable first && (first - firstSyllable) % tails == 0 &&
      noTail < second && second < noTail + tails then
    some (first + (second - noTail))
  else none

end Hangul

/-- Takes a character apart by the compositions at hand. -/
def takeApart : List Composition → Nat → List Nat
  | [], n => [n]
  | row :: rows, n =>
    if row.whole = n then takeApart rows row.base ++ [row.mark] else takeApart rows n

/-- The character and the marks that a character stands for. -/
def decomposeChar (c : Char) : List Char :=
  if c.toNat < 0xC0 then [c]
  else if Hangul.isSyllable c.toNat then (Hangul.letters c.toNat).map Char.ofNat
  else (takeApart compositions c.toNat).map Char.ofNat

/-- Puts a character before ordered ones, behind the marks that come first. -/
def insertMark (c : Char) : List Char → List Char
  | [] => [c]
  | d :: rest =>
    if 0 < combiningClass d && combiningClass d < combiningClass c then d :: insertMark c rest
    else c :: d :: rest

def orderMarks (cs : List Char) : List Char :=
  cs.foldr insertMark []

def join? (first second : Char) : Option Char :=
  match Hangul.join? first.toNat second.toNat with
  | some n => some (Char.ofNat n)
  | none =>
    (compositions.find? fun row => row.base = first.toNat && row.mark = second.toNat).map
      (Char.ofNat ·.whole)

/-- Puts characters together, where `start` is the last character that takes marks and `marks`
are those on it which did not join. A mark joins only if no mark in between is of its class or a
higher one. -/
def joinAfter (start : Char) (marks : List Char) : List Char → List Char
  | [] => start :: marks
  | c :: rest =>
    let isBlocked := marks.getLast?.any fun mark => combiningClass c ≤ combiningClass mark
    match if isBlocked then none else join? start c with
    | some joined => joinAfter joined marks rest
    | none =>
      if combiningClass c = 0 then start :: marks ++ joinAfter c [] rest
      else joinAfter start (marks ++ [c]) rest

def joinAll : List Char → List Char
  | [] => []
  | c :: rest => joinAfter c [] rest

/-- The composed form; without a mark there is nothing to put together or in order. -/
def composed (cs : List Char) : List Char :=
  if cs.all (·.toNat < 0x300) then cs else joinAll (orderMarks (cs.flatMap decomposeChar))

def isComposed (cs : List Char) : Bool :=
  composed cs = cs

end StakingGateway.Text
