import AtlasManifests.Json.Basic
import AtlasManifests.Yaml.Scalar

/-! # YAML texts

Block style: a member of a mapping on a line of its own, nested mappings two columns
further in, the items of a sequence under their key in its own column. Nothing is
folded, and a document ends with a line break.
-/
namespace AtlasManifests.Yaml

/-- Whether a key may stand before a colon on one line. -/
def isSimpleKey (key : String) : Bool :=
  !key.toList.any isBreak && key.utf8ByteSize ≤ 128

/-- The lines of a nested value after some text: a block goes two columns further in
below the text, and the lines of a text are so already. -/
def nest (before : List Char) (value : Json) (lines : List Line) : List Line :=
  match value with
  | .arr _ => attach before (lines.take 1 ++ (lines.drop 1).map .indent)
  | .obj _ => attach before (lines.take 1 ++ (lines.drop 1).map .indent)
  | _ => attach before lines

/-- The lines of the value of a member after its key: a mapping two columns further
in, a sequence in the column of the key, all else on the line of the key. -/
def below (head : List Char) (value : Json) (lines : List Line) : List Line :=
  match value with
  | .arr (_ :: _) => .of head :: lines
  | .obj (_ :: _) => .of head :: lines.map .indent
  | _ => attach (head ++ [' ']) lines

mutual

/-- The lines of a value. -/
def lines : Json → List Line
  | .null => [.of ['n', 'u', 'l', 'l']]
  | .bool true => [.of ['t', 'r', 'u', 'e']]
  | .bool false => [.of ['f', 'a', 'l', 's', 'e']]
  | .num (.int n) => [.of (toString n).toList]
  | .num (.float x) => [.of x.text.toList]
  | .str s => scalarLines s.toList
  | .arr items => if items.isEmpty then [.of ['[', ']']] else itemLines items
  | .obj members => if members.isEmpty then [.of ['\x7b', '\x7d']] else memberLines members

/-- The lines of the items of a sequence, a dash before each. -/
def itemLines : List Json → List Line
  | [] => []
  | item :: rest => nest ['-', ' '] item (lines item) ++ itemLines rest

/-- The lines of the members of a mapping. A key that does not fit before a colon
stands after a question mark, and its value on the next line. -/
def memberLines : List (String × Json) → List Line
  | [] => []
  | (key, value) :: rest =>
    (if isSimpleKey key then below (inlineText key.toList ++ [':']) value (lines value)
    else attach ['?', ' '] (scalarLines key.toList) ++ nest [':', ' '] value (lines value)) ++
      memberLines rest

end

/-- The document of a value. -/
def document (j : Json) : String := String.ofList (joinLines (lines j))

end AtlasManifests.Yaml
