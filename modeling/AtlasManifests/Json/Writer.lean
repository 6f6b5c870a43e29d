import AtlasManifests.Json.Basic

/-! # JSON texts

The compact text of a value, in ASCII: any other character is escaped by its UTF-16
units.
-/
namespace AtlasManifests.Json

/-- Four small hexadecimal digits of a unit. -/
def unitText (n : Nat) : List Char :=
  [n / 4096 % 16, n / 256 % 16, n / 16 % 16, n % 16].map Nat.digitChar

/-- A character inside a string. -/
def charText (c : Char) : List Char :=
  if c = '\x22' then ['\x5c', '\x22']
  else if c = '\x5c' then ['\x5c', '\x5c']
  else if c = '\n' then ['\x5c', 'n']
  else if 32 ≤ c.toNat ∧ c.toNat < 127 then [c]
  else if c.toNat < 0x10000 then '\x5c' :: 'u' :: unitText c.toNat
  else
    let n := c.toNat - 0x10000
    '\x5c' :: 'u' :: unitText (0xd800 + n / 0x400) ++ '\x5c' :: 'u' :: unitText (0xdc00 + n % 0x400)

/-- A string between quotes. -/
def stringText (s : String) : List Char := '\x22' :: s.toList.flatMap charText ++ ['\x22']

/-- The text of a number. -/
def Number.text : Number → List Char
  | .int n => (toString n).toList
  | .float x => x.text.toList

mutual

/-- The characters of the text of a value. -/
def chars : Json → List Char
  | .null => ['n', 'u', 'l', 'l']
  | .bool true => ['t', 'r', 'u', 'e']
  | .bool false => ['f', 'a', 'l', 's', 'e']
  | .num n => n.text
  | .str s => stringText s
  | .arr items => '[' :: itemChars items ++ [']']
  | .obj members => '\x7b' :: memberChars members ++ ['\x7d']

/-- The items of an array with commas between them. -/
def itemChars : List Json → List Char
  | [] => []
  | [item] => item.chars
  | item :: rest => item.chars ++ ',' :: itemChars rest

/-- The members of an object with commas between them. -/
def memberChars : List (String × Json) → List Char
  | [] => []
  | [(name, value)] => stringText name ++ ':' :: value.chars
  | (name, value) :: rest => stringText name ++ ':' :: value.chars ++ ',' :: memberChars rest

end

/-- The compact text of a value. -/
def text (j : Json) : String := String.ofList j.chars

end AtlasManifests.Json
