import AtlasManifests.Json.Writer
import AtlasManifests.Shape.Datum
import AtlasManifests.Yaml.Node

/-! # What nodes may be read as

There are two ways to read a document. Directly, the reader of a place decides what
the text there is: `12` is a text where a text is expected. By value, a text without
quotes is first resolved to what it means, and `12` is a number wherever it stands;
then no key may appear twice in a mapping.
-/
namespace AtlasManifests.Yaml

/-- The deepest nesting of collections that is read. -/
def maxDepth : Nat := 128

/-- A tag that is known everywhere. -/
def coreTag (name : String) : Option String := some ("tag:yaml.org,2002:" ++ name)

/-- The name of a tag that belongs to an application. -/
def localTag? (tag : Option String) : Option String :=
  tag.bind fun tag =>
    match tag.toList with
    | '!' :: rest => some (String.ofList rest)
    | _ => none

/-- The value of a meaning where any value may stand. Whole numbers of more than 64
bits have none. -/
def Meaning.free? (text : String) : Meaning → Option Json
  | .nothing => some .null
  | .truth b => some (.bool b)
  | .whole n =>
    if -9223372036854775808 ≤ n ∧ n ≤ 18446744073709551615 then some (.int n) else none
  | .real x => some (x.elim .null .float)
  | .text => some (.str text)

/-- The value of a scalar where any value may stand. -/
def freeScalar? (tag : Option String) (style : Style) (text : String) : Option Json :=
  let cs := text.toList
  if tag.isNone then
    if style = .plain then (meaning cs).free? text else some (.str text)
  else if tag = coreTag "bool" then (truth? cs).map .bool
  else if tag = coreTag "int" then
    (integer? cs).bind fun n => (Meaning.whole n).free? text
  else if tag = coreTag "float" then (real? cs).map fun x => x.elim .null .float
  else if tag = coreTag "null" then if isNullWord cs then some .null else none
  else some (.str text)

/-- What a scalar may be read as, directly. -/
def scalarFacets (tag : Option String) (style : Style) (text : String) : Facets :=
  let cs := text.toList
  let plain := style = .plain
  let unquoted (name : String) := plain || (style = .literal && tag = coreTag name)
  { absent := plain && ((tag.isNone && cs.isEmpty) ||
      ((tag.isNone || tag = coreTag "null") && isNullWord cs))
    void := plain && cs.isEmpty
    text := some text
    truth := if unquoted "bool" then truth? cs else none
    natural := if unquoted "int" then natural? cs else none
    whole := if unquoted "int" then integer? cs else none
    real := if unquoted "float" then real? cs else none
    free := freeScalar? tag style text }

/-- What nothing may be read as. -/
def nothingFacets : Facets := { absent := true, void := true, free := some .null }

/-- What a resolved value may be read as. -/
def valueFacets? (text : String) (m : Meaning) : Option Facets :=
  (m.free? text).map fun free =>
    match m with
    | .nothing => nothingFacets
    | .truth b => { truth := some b, free }
    | .whole n =>
      { natural := if 0 ≤ n then some n.toNat else none
        whole := some n
        real := (Json.int n).float?.map some
        free }
    | .real x => { real := some x, free }
    | .text => { text, free }

/-- What a scalar means, resolved by its tag and its style. -/
def scalarMeaning? (tag : Option String) (style : Style) (cs : List Char) : Option Meaning :=
  if tag.isNone || (localTag? tag).isSome then
    some (if style = .plain then meaning cs else .text)
  else if tag = coreTag "bool" then (truth? cs).map .truth
  else if tag = coreTag "int" then (integer? cs).map .whole
  else if tag = coreTag "float" then (real? cs).map .real
  else if tag = coreTag "null" then if isNullWord cs then some .nothing else none
  else some .text

/-- A datum with the name of a tag, if it has one. -/
def withTag (tag : Option String) (d : Datum) : Datum :=
  match localTag? tag with
  | none => d
  | some name => .tagged name d

/-- Whether no two keys with a value are the same. -/
def distinctKeys : List (Option Json) → Bool
  | [] => true
  | none :: rest => distinctKeys rest
  | some key :: rest =>
    !(rest.any fun other => other.any fun other => other.chars == key.chars) && distinctKeys rest

namespace Document

variable (d : Document)

/-- The node that an alias stands for: of those with its number the last. -/
def target? (number : Nat) : Option Node :=
  let later (best : Option Anchored) (a : Anchored) : Option Anchored :=
    if a.number = number ∧ best.all (·.order < a.order) then some a else best
  (d.anchored.foldl later none).map (·.node)

/-- A node, or the one that it is an alias for. -/
def follow (node : Node) : Node :=
  match node with
  | .alias number => (number.bind d.target?).getD node
  | node => node

/-- The text of a key. -/
def keyText? (node : Node) : Option String :=
  match d.follow node with
  | .scalar _ _ text => some text
  | _ => none

/-- What a node may be read as, directly. What is nested too deeply can be read as
nothing at all. -/
def direct (depth : Nat) (node : Node) : Datum :=
  match d.follow node, depth with
  | .scalar tag style text, _ =>
    let bare := if (localTag? tag).isSome then none else tag
    withTag tag (.leaf (scalarFacets bare style text))
  | .sequence tag items, depth + 1 => withTag tag (.list (items.map (direct depth)))
  | .mapping tag members, depth + 1 =>
    withTag tag (.map (members.map fun (key, value) => (d.keyText? key, direct depth value)))
  | _, _ => .leaf {}

/-- What a node may be read as by its value. -/
def byValue? (depth : Nat) (node : Node) : Option Datum :=
  match d.follow node, depth with
  | .scalar tag style text, _ => do
    let m ← scalarMeaning? tag style text.toList
    return withTag tag (.leaf (← valueFacets? text m))
  | .sequence tag items, depth + 1 => do
    return withTag tag (.list (← items.mapM (byValue? depth)))
  | .mapping tag members, depth + 1 => do
    let pairs ← members.mapM fun (key, value) => do
      return (← byValue? depth key, ← byValue? depth value)
    if distinctKeys (pairs.map fun (key, _) => key.free?) then
      return withTag tag (.map (pairs.map fun (key, value) => (key.text?, value)))
    else none
  | _, _ => none

end Document

/-- What a text may be read as, directly. -/
def datum? (text : String) : Option Datum :=
  (Document.ofText? text).map fun d =>
    match d.root with
    | none => .leaf nothingFacets
    | some root => d.direct maxDepth root

/-- What a text may be read as by its value. -/
def value? (text : String) : Option Datum :=
  (Document.ofText? text).bind fun d =>
    match d.root with
    | none => some (.leaf nothingFacets)
    | some root => d.byValue? maxDepth root

end AtlasManifests.Yaml
