import AtlasManifests.Assoc
import AtlasManifests.Number.Binary64

/-! # JSON values

Values of the data format, with the members of an object in a definite order and
whole numbers kept apart from those with a fraction or an exponent. `canonical` is
the form in which the order of members plays no part: sorted by name, and of
members with one name the last.
-/
namespace AtlasManifests

/-- A number of a JSON text: a whole number, or a binary fraction. -/
inductive Json.Number where
  | int (n : Int)
  | float (x : Binary64)
  deriving DecidableEq

/-- A JSON value. -/
inductive Json where
  | null
  | bool (b : Bool)
  | num (n : Json.Number)
  | str (s : String)
  | arr (items : List Json)
  | obj (members : List (String × Json))

namespace Json

instance : Inhabited Json := ⟨.null⟩

/-- A whole number as a value. -/
def int (n : Int) : Json := .num (.int n)

/-- A binary fraction as a value. -/
def float (x : Binary64) : Json := .num (.float x)

/-- A word of 32 bits with a sign as a value. -/
def int32 (n : Int32) : Json := int n.toInt

/-- A word of 64 bits with a sign as a value. -/
def int64 (n : Int64) : Json := int n.toInt

/-- The object without members. -/
def empty : Json := .obj []

/-- The member of an object with a name, the first one if there are several. -/
def get? (name : String) : Json → Option Json
  | .obj members => members.lookup name
  | _ => none

/-- The text of a string value. -/
def text? : Json → Option String
  | .str s => some s
  | _ => none

/-- The truth value of a Boolean value. -/
def bool? : Json → Option Bool
  | .bool b => some b
  | _ => none

/-- The items of an array. -/
def items? : Json → Option (List Json)
  | .arr items => some items
  | _ => none

/-- The members of an object. -/
def members? : Json → Option (List (String × Json))
  | .obj members => some members
  | _ => none

/-- Whether a value is the null value. -/
def isNull : Json → Bool
  | .null => true
  | _ => false

/-- The whole number of a value, within bounds. -/
def intIn? (low high : Int) : Json → Option Int
  | .num (.int n) => if low ≤ n ∧ n ≤ high then some n else none
  | _ => none

/-- A whole number of 32 bits with a sign. -/
def int32? (j : Json) : Option Int32 := (j.intIn? (-2147483648) 2147483647).map Int32.ofInt

/-- A whole number of 64 bits with a sign. -/
def int64? (j : Json) : Option Int64 :=
  (j.intIn? (-9223372036854775808) 9223372036854775807).map Int64.ofInt

/-- A whole number of 32 bits without a sign. -/
def uint32? (j : Json) : Option UInt32 :=
  (j.intIn? 0 4294967295).map fun n => UInt32.ofNat n.toNat

/-- A whole number of 64 bits without a sign. -/
def uint64? (j : Json) : Option UInt64 :=
  (j.intIn? 0 18446744073709551615).map fun n => UInt64.ofNat n.toNat

/-- The binary fraction of any number; a whole number is rounded to one. -/
def float? : Json → Option Binary64
  | .num (.int n) => Binary64.ofDecimal (n < 0) n.natAbs 0
  | .num (.float x) => some x
  | _ => none

mutual

/-- The value with the members of every object sorted by name, the last one of each
name. -/
def canonical : Json → Json
  | .null => .null
  | .bool b => .bool b
  | .num n => .num n
  | .str s => .str s
  | .arr items => .arr (canonicalItems items)
  | .obj members => .obj (canonicalMembers members)

/-- The items of an array, each in its canonical form. -/
def canonicalItems : List Json → List Json
  | [] => []
  | item :: rest => item.canonical :: canonicalItems rest

/-- The members of an object, sorted, each in its canonical form. -/
def canonicalMembers : List (String × Json) → List (String × Json)
  | [] => []
  | (name, value) :: rest =>
    let later := canonicalMembers rest
    if (later.lookup name).isSome then later else Assoc.insert name value.canonical later

end

end Json

end AtlasManifests
