import AtlasManifests.Json.Basic

/-! # What a value may be read as

The same text can be read as a string, a number or nothing, depending on where it
stands. A datum is a value of some data format together with everything that it may
be read as, so that one reader serves all formats. `Datum.ofJson` is the datum of a
JSON value, where the kind of a value leaves little choice.
-/
namespace AtlasManifests

/-- What a single value may be read as. -/
structure Facets where
  /-- An optional field that holds it is left out. -/
  absent : Bool := false
  /-- It stands for a list, a table or a record without content. -/
  void : Bool := false
  text : Option String := none
  truth : Option Bool := none
  natural : Option Nat := none
  whole : Option Int := none
  /-- A binary fraction; the inner value is missing for those that are not finite. -/
  real : Option (Option Binary64) := none
  /-- Its value where any value may stand. -/
  free : Option Json := none

/-- A value of some data format. The key of a member is missing if it is no text. -/
inductive Datum where
  | leaf (facets : Facets)
  | list (items : List Datum)
  | map (members : List (Option String × Datum))
  | tagged (tag : String) (value : Datum)

namespace Datum

mutual

/-- The datum of a JSON value. -/
def ofJson : Json → Datum
  | .null => .leaf { absent := true, free := some .null }
  | .bool b => .leaf { truth := some b, free := some (.bool b) }
  | .num (.int n) =>
    .leaf {
      natural := if 0 ≤ n then some n.toNat else none
      whole := some n
      real := (Json.int n).float?.map some
      free := some (.int n) }
  | .num (.float x) => .leaf { real := some (some x), free := some (.float x) }
  | .str s => .leaf { text := some s, free := some (.str s) }
  | .arr items => .list (ofItems items)
  | .obj members => .map (ofMembers members)

/-- The data of the items of an array. -/
def ofItems : List Json → List Datum
  | [] => []
  | item :: rest => ofJson item :: ofItems rest

/-- The data of the members of an object. -/
def ofMembers : List (String × Json) → List (Option String × Datum)
  | [] => []
  | (name, value) :: rest => (some name, ofJson value) :: ofMembers rest

end

/-- Whether an optional field that holds the datum is left out. -/
def isAbsent : Datum → Bool
  | .leaf facets => facets.absent
  | _ => false

/-- The text of a datum. -/
def text? : Datum → Option String
  | .leaf facets => facets.text
  | .tagged _ value => value.text?
  | _ => none

mutual

/-- The value of a datum where any value may stand: tags have no place there, and
of members with one key the last counts. -/
def free? : Datum → Option Json
  | .leaf facets => facets.free
  | .list items => (freeItems? items).map .arr
  | .map members => (freeMembers? members).map .obj
  | .tagged _ _ => none

/-- The values of the items of a list. -/
def freeItems? : List Datum → Option (List Json)
  | [] => some []
  | item :: rest => do
    let value ← free? item
    let values ← freeItems? rest
    return value :: values

/-- The values of the members of a table, sorted by their keys. -/
def freeMembers? : List (Option String × Datum) → Option (List (String × Json))
  | [] => some []
  | (none, _) :: _ => none
  | (some key, datum) :: rest => do
    let value ← free? datum
    let later ← freeMembers? rest
    return if (later.lookup key).isSome then later else Assoc.insert key value later

end

end Datum

end AtlasManifests
