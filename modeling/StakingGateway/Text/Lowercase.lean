import StakingGateway.Text.CaseTable

/-!
Lower case of a text: the full mapping, in which a capital sigma at the end of a word becomes
the final form and a dotted capital I becomes two characters.
-/

namespace StakingGateway.Text

def isCaseIgnorable (c : Char) : Bool :=
  memRanges caseIgnorableRanges c

def isCased (c : Char) : Bool :=
  memRanges casedRanges c

def capitalSigma : Char := 'Σ'

def smallSigma : Char := 'σ'

def finalSigma : Char := 'ς'

/-- The capital I with a dot, whose lower case is the letter and the dot above. -/
def dottedCapitalI : Char := 'İ'

def combiningDotAbove : Char := '\u0307'

def lowerChar (c : Char) : List Char :=
  if c.toNat < 128 then
    [if 'A' ≤ c && c ≤ 'Z' then Char.ofNat (c.toNat + 32) else c]
  else if c = dottedCapitalI then
    ['i', combiningDotAbove]
  else
    match caseRows.find? (·.contains c.toNat) with
    | some row => [Char.ofNat (c.toNat + row.shift).toNat]
    | none => [c]

/-- Is the nearest character that is not passed over a cased letter? -/
def casedComesFirst (cs : List Char) : Bool :=
  match cs.dropWhile isCaseIgnorable with
  | [] => false
  | c :: _ => isCased c

/-- The lower case of `rest`, which stands after the reversed text `before`. -/
def lowerAfter (before : List Char) : (rest : List Char) → List Char
  | [] => []
  | c :: rest =>
    let mapped :=
      if c = capitalSigma then
        if casedComesFirst before && !casedComesFirst rest then [finalSigma] else [smallSigma]
      else lowerChar c
    mapped ++ lowerAfter (c :: before) rest

def lowercaseChars (cs : List Char) : List Char :=
  lowerAfter [] cs

end StakingGateway.Text
