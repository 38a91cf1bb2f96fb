import StakingGateway.Decimal.Shortest
import StakingGateway.Json.Basic
import StakingGateway.Text.Digits

/-!
Compact JSON text: no blanks, fields in the order of the value, and in strings only quotes,
backslashes and control characters escaped.
-/

namespace StakingGateway.Json

def escapedChar (c : Char) : List Char :=
  if c = '"' then ['\\', '"']
  else if c = '\\' then ['\\', '\\']
  else if c = '\x08' then ['\\', 'b']
  else if c = '\x0c' then ['\\', 'f']
  else if c = '\n' then ['\\', 'n']
  else if c = '\r' then ['\\', 'r']
  else if c = '\t' then ['\\', 't']
  else if c.toNat < 0x20 then ['\\', 'u'] ++ Text.padZeros 4 (Text.hexDigits c.toNat)
  else [c]

def stringChars (text : String) : List Char :=
  '"' :: (text.toList.flatMap escapedChar ++ ['"'])

def integerChars (value : Int) : List Char :=
  if value < 0 then '-' :: Text.digits value.natAbs else Text.digits value.natAbs

def numberChars : Json.Number → List Char
  | .integer value => integerChars value
  | .real value => value.textChars

mutual

def chars : Json → List Char
  | null => ['n', 'u', 'l', 'l']
  | bool true => ['t', 'r', 'u', 'e']
  | bool false => ['f', 'a', 'l', 's', 'e']
  | number value => numberChars value
  | string text => stringChars text
  | array [] => ['[', ']']
  | array (item :: rest) => '[' :: (chars item ++ itemsChars rest)
  | object [] => ['\x7b', '\x7d']
  | object ((name, value) :: rest) =>
    '\x7b' :: (stringChars name ++ ':' :: (chars value ++ fieldsChars rest))

/-- The items after the first one, with the closing bracket. -/
def itemsChars : List Json → List Char
  | [] => [']']
  | item :: rest => ',' :: (chars item ++ itemsChars rest)

def fieldsChars : List (String × Json) → List Char
  | [] => ['\x7d']
  | (name, value) :: rest =>
    ',' :: (stringChars name ++ ':' :: (chars value ++ fieldsChars rest))

end

def render (value : Json) : String :=
  String.ofList value.chars

end StakingGateway.Json
