import KeyCollective.Number

/-!
# JSON values

Values as `JSON.parse` gives them. An object's keys are distinct; reading a key that is
absent, or a key of a value that is no object, gives none.
-/

namespace KeyCollective

inductive Json where
  | null
  | bool (value : Bool)
  | number (value : Number)
  | string (value : String)
  | array (items : List Json)
  | object (fields : List (String × Json))

/-- A character in a string of `JSON.stringify`. -/
def jsonChar (c : Char) : List Char :=
  if c = '"' then ['\\', '"']
  else if c = '\\' then ['\\', '\\']
  else if c.toNat = 8 then ['\\', 'b']
  else if c.toNat = 9 then ['\\', 't']
  else if c.toNat = 10 then ['\\', 'n']
  else if c.toNat = 12 then ['\\', 'f']
  else if c.toNat = 13 then ['\\', 'r']
  else if c.toNat < 32 then
    ['\\', 'u', '0', '0', Nat.digitChar (c.toNat / 16), Nat.digitChar (c.toNat % 16)]
  else [c]

def jsonString (s : String) : List Char := '"' :: (s.toList.flatMap jsonChar ++ ['"'])

namespace Json

/-- `value[key]`, undefined as none. -/
def get (value : Json) (key : String) : Option Json :=
  match value with
  | .object fields => (fields.find? fun field => field.1 = key).map Prod.snd
  | _ => none

/-- `typeof value === "object" && value !== null`. -/
def isObject : Json → Bool
  | .array _ | .object _ => true
  | _ => false

/-- `Boolean(value)`, of a value that may be undefined. -/
def isTruthy : Option Json → Bool
  | none | some .null | some (.bool false) => false
  | some (.number x) => x ≠ .finite 0 ∧ x ≠ .nan
  | some (.string s) => s ≠ ""
  | some (.bool true) | some (.array _) | some (.object _) => true

/-- The field, when it is an object. -/
def getObject (value : Json) (key : String) : Option Json := (value.get key).filter isObject

/-- The field, when `typeof` is `"number"`. -/
def getNumber (value : Json) (key : String) : Option Number :=
  match value.get key with
  | some (.number x) => some x
  | _ => none

/-- The field, when `typeof` is `"string"`. -/
def getString (value : Json) (key : String) : Option String :=
  match value.get key with
  | some (.string s) => some s
  | _ => none

/-- The number of the first of the keys that has one. -/
def firstNumber (value : Json) : List String → Option Number
  | [] => none
  | key :: rest => (value.getNumber key).or (value.firstNumber rest)

section

variable [NumberText]

mutual

/-- `JSON.stringify`. A number that is not finite becomes `null`. -/
def stringify : Json → List Char
  | .null => "null".toList
  | .bool value => if value then "true".toList else "false".toList
  | .number (.finite value) => (NumberText.ofFinite value).toList
  | .number _ => "null".toList
  | .string s => jsonString s
  | .array items => '[' :: (stringifyItems items ++ [']'])
  | .object fields => '{' :: (stringifyFields fields ++ ['}'])

def stringifyItems : List Json → List Char
  | [] => []
  | [value] => stringify value
  | value :: rest => stringify value ++ ',' :: stringifyItems rest

def stringifyFields : List (String × Json) → List Char
  | [] => []
  | [(key, value)] => jsonString key ++ ':' :: stringify value
  | (key, value) :: rest => jsonString key ++ ':' :: stringify value ++ ',' :: stringifyFields rest

end

end

end Json

end KeyCollective
