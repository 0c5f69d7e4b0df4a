import MediaVault.Text.Hex

/-!
# JSON values and their compact text

Answers of the service are JSON values; their text has no spaces.  Characters
below the space and the two that delimit strings are escaped, all others stand
for themselves.
-/

namespace MediaVault

/-- A JSON value.  Numbers that are not integers keep their spelling. -/
inductive Json where
  | null
  | bool (value : Bool)
  | int (value : Int)
  | real (spelling : String)
  | text (value : String)
  | list (items : List Json)
  | object (members : List (String × Json))
deriving Repr, Inhabited

namespace Json

/-- A text, or `null`. -/
def ofText? : Option String → Json
  | none => .null
  | some s => .text s

/-- An object whose members are all texts. -/
def ofTexts (entries : List (String × String)) : Json :=
  .object (entries.map fun entry => (entry.1, .text entry.2))

/-- How one character is written inside a string. -/
def escape (c : Char) : List Char :=
  if c = '"' then ['\\', '"']
  else if c = '\\' then ['\\', '\\']
  else if c = '\n' then ['\\', 'n']
  else if c = '\r' then ['\\', 'r']
  else if c = '\t' then ['\\', 't']
  else if c.toNat = 8 then ['\\', 'b']
  else if c.toNat = 12 then ['\\', 'f']
  else if c.toNat < 0x20 then
    ['\\', 'u', '0', '0', Text.hexDigit (c.toNat / 16), Text.hexDigit (c.toNat % 16)]
  else [c]

/-- A string with its quotes. -/
def quoted (s : String) : List Char :=
  '"' :: s.toList.flatMap escape ++ ['"']

mutual

/-- The compact text of a value. -/
def chars : Json → List Char
  | .null => "null".toList
  | .bool true => "true".toList
  | .bool false => "false".toList
  | .int n => (toString n).toList
  | .real s => s.toList
  | .text s => quoted s
  | .list [] => ['[', ']']
  | .list (item :: items) => '[' :: chars item ++ itemChars items
  | .object [] => ['{', '}']
  | .object (member :: members) =>
    '{' :: quoted member.1 ++ ':' :: chars member.2 ++ memberChars members

/-- The items after the first, each with its comma, and the closing bracket. -/
def itemChars : List Json → List Char
  | [] => [']']
  | item :: items => ',' :: chars item ++ itemChars items

/-- The members after the first, each with its comma, and the closing brace. -/
def memberChars : List (String × Json) → List Char
  | [] => ['}']
  | member :: members =>
    ',' :: quoted member.1 ++ ':' :: chars member.2 ++ memberChars members

end

/-- The compact text of a value. -/
def compact (j : Json) : String :=
  String.ofList j.chars

/-- The first member named `name`. -/
def member? (name : String) : Json → Option Json
  | .object members => (members.find? (·.1 == name)).map (·.2)
  | _ => none

end Json

end MediaVault
