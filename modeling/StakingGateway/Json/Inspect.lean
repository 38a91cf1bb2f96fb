import StakingGateway.Json.Printer
import StakingGateway.Text.Quoted

/-!
A second text of JSON values, for messages and logs: it names the kind of every value.
-/

namespace StakingGateway.Json

mutual

def inspectChars : Json → List Char
  | null => "Null".toList
  | bool true => "Bool(true)".toList
  | bool false => "Bool(false)".toList
  | number value => "Number(".toList ++ numberChars value ++ [')']
  | string text => "String(".toList ++ Text.quotedChars text.toList ++ [')']
  | array items => "Array [".toList ++ inspectItems items ++ [']']
  | object fields => "Object \x7b".toList ++ inspectFields fields ++ ['\x7d']

def inspectItems : List Json → List Char
  | [] => []
  | [item] => inspectChars item
  | item :: rest => inspectChars item ++ ',' :: ' ' :: inspectItems rest

def inspectFields : List (String × Json) → List Char
  | [] => []
  | [(name, value)] => Text.quotedChars name.toList ++ ':' :: ' ' :: inspectChars value
  | (name, value) :: rest =>
    Text.quotedChars name.toList ++ ':' :: ' ' :: (inspectChars value ++
      ',' :: ' ' :: inspectFields rest)

end

def inspect (value : Json) : String :=
  String.ofList value.inspectChars

end StakingGateway.Json
