/-!
Decimal texts of natural numbers. Writing is `Nat.toDigits 10`; reading accepts every non-empty
row of ASCII digits, leading zeros included.
-/

namespace StakingGateway.Text

def digits (n : Nat) : List Char :=
  Nat.toDigits 10 n

def valueOfDigits (cs : List Char) : Nat :=
  Nat.ofDigitChars 10 cs 0

def areDigits (cs : List Char) : Bool :=
  cs.all Char.isDigit

@[simp]
theorem valueOfDigits_digits (n : Nat) : valueOfDigits (digits n) = n :=
  Nat.ofDigitChars_ten_toDigits

theorem areDigits_digits (n : Nat) : areDigits (digits n) = true := by
  simp only [areDigits, List.all_eq_true]
  exact fun c hc => Nat.isDigit_of_mem_toDigits (by decide) (by decide) hc

def padZeros (width : Nat) (cs : List Char) : List Char :=
  List.replicate (width - cs.length) '0' ++ cs

def dropTrailingZeros (cs : List Char) : List Char :=
  (cs.reverse.dropWhile (· == '0')).reverse

/-- Reads an unsigned number below `limit`: an optional plus sign and at least one digit. -/
def readUnsigned (limit : Nat) (cs : List Char) : Option Nat :=
  let body := match cs with
    | '+' :: rest => rest
    | cs => cs
  if body.isEmpty || !areDigits body then none
  else
    let n := valueOfDigits body
    if n < limit then some n else none

def hexDigits (n : Nat) : List Char :=
  Nat.toDigits 16 n

end StakingGateway.Text
