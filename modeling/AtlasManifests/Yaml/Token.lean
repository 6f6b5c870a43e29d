import AtlasManifests.Yaml.Block
import AtlasManifests.Yaml.Passage

/-! # Tokens

The pieces that a document is made of, and the reading of those that are words with
an indicator before them: anchors, tags and directives. The beginning and the end of
an indented collection are tokens too.
-/
namespace AtlasManifests.Yaml

/-- How a scalar stands in a text. -/
inductive Style where
  | plain
  | quoted
  | literal
  | folded
  deriving DecidableEq

/-- A piece of a document. -/
inductive Token where
  | version (major minor : Nat)
  | handle (name expansion : String)
  | documentStart
  | documentEnd
  | blockSequence
  | blockMapping
  | blockEnd
  | flowSequence
  | flowSequenceEnd
  | flowMapping
  | flowMappingEnd
  | blockEntry
  | flowEntry
  | key
  | value
  | alias (name : String)
  | anchor (name : String)
  | tag (handle suffix : String)
  | scalar (style : Style) (text : String)
  deriving DecidableEq

/-- The characters of names. -/
def isWordChar (c : Char) : Bool := c.isAlphanum || c == '_' || c == '-'

/-- A name and what follows. -/
def word (gs : List Glyph) : List Char × List Glyph :=
  let isWord (g : Glyph) := isWordChar g.char
  (charsOf (gs.takeWhile isWord), gs.dropWhile isWord)

/-- The name of an anchor or an alias after its indicator, and what follows. -/
def anchorName? (gs : List Glyph) : Option (String × List Glyph) :=
  let (name, rest) := word gs
  if !name.isEmpty && (atBlank rest || atAny ['?', ':', ',', ']', '\x7d', '%', '@', '\x60'] rest)
  then some (String.ofList name, rest)
  else none

/-! ## Tags -/

/-- The characters of tags besides those of names. -/
def uriMarks : List Char :=
  [';', '/', '?', ':', '@', '&', '=', '+', '$', '.', '!', '~', '*', '\x27', '(', ')']

/-- Whether a character may stand in a tag, or in one between angle brackets. -/
def isUriChar (enclosed : Bool) (c : Char) : Bool :=
  isWordChar c || uriMarks.contains c || (enclosed && [',', '[', ']'].contains c)

/-- A byte given by a percent sign and two digits. -/
def octet? : List Glyph → Option (Nat × List Glyph)
  | p :: d :: e :: rest =>
    if p.char == '%' then (digits? 16 [d.char, e.char]).map (·, rest) else none
  | _ => none

/-- The bits of a number of following bytes of a character. -/
def trailing? : Nat → Nat → List Glyph → Option (Nat × List Glyph)
  | 0, n, gs => some (n, gs)
  | count + 1, n, gs => do
    let (octet, rest) ← octet? gs
    if octet / 64 = 2 then trailing? count (64 * n + octet % 64) rest else none

/-- A character given by the bytes of its encoding. -/
def encoded? (gs : List Glyph) : Option (Char × List Glyph) := do
  let (octet, rest) ← octet? gs
  let (n, rest) ←
    if octet < 128 then some (octet, rest)
    else if octet / 32 = 6 then trailing? 1 (octet % 32) rest
    else if octet / 16 = 14 then trailing? 2 (octet % 16) rest
    else if octet / 8 = 30 then trailing? 3 (octet % 8) rest
    else none
  return (← charOf? n, rest)

/-- The characters of a tag, and what follows. -/
def uri? (enclosed : Bool) : Nat → List Glyph → Option (List Char × List Glyph)
  | 0, gs => some ([], gs)
  | _, [] => some ([], [])
  | fuel + 1, g :: rest =>
    if g.char == '%' then do
      let (c, rest) ← encoded? (g :: rest)
      let (cs, rest) ← uri? enclosed fuel rest
      return (c :: cs, rest)
    else if isUriChar enclosed g.char then
      (uri? enclosed fuel rest).map fun (cs, rest) => (g.char :: cs, rest)
    else some ([], g :: rest)

/-- The handle and the suffix of a tag after its exclamation mark. A mark on its own
is a suffix without a handle. -/
def tagParts? (gs : List Glyph) : Option (List Char × List Char × List Glyph) :=
  if atAny ['<'] gs then do
    let (suffix, rest) ← uri? true gs.length (gs.drop 1)
    if suffix.isEmpty || !atAny ['>'] rest then none
    return ([], suffix, rest.drop 1)
  else
    let (name, rest) := word gs
    if atAny ['!'] rest then do
      let (suffix, rest) ← uri? false gs.length (rest.drop 1)
      if suffix.isEmpty then none
      return ('!' :: name ++ ['!'], suffix, rest)
    else do
      let (more, rest) ← uri? false gs.length rest
      if (name ++ more).isEmpty then return ([], ['!'], rest)
      return (['!'], name ++ more, rest)

/-- A tag after its exclamation mark, and what follows. -/
def tag? (flow : Bool) (gs : List Glyph) : Option (Token × List Glyph) := do
  let (handle, suffix, rest) ← tagParts? gs
  if atBlank rest || (flow && atAny [','] rest) then
    return (.tag (String.ofList handle) (String.ofList suffix), rest)
  else none

/-! ## Directives -/

/-- A number of at most nine digits. -/
def versionNumber? (gs : List Glyph) : Option (Nat × List Glyph) :=
  let isDigit (g : Glyph) := g.char.isDigit
  let ds := charsOf (gs.takeWhile isDigit)
  if ds.length ≤ 9 then (digits? 10 ds).map (·, gs.dropWhile isDigit) else none

/-- The version that a document asks for. -/
def version? (gs : List Glyph) : Option (Token × List Glyph) := do
  let (major, rest) ← versionNumber? (dropGaps gs)
  if !atAny ['.'] rest then none
  let (minor, rest) ← versionNumber? (rest.drop 1)
  return (.version major minor, rest)

/-- What a handle of tags stands for. -/
def handle? (gs : List Glyph) : Option (Token × List Glyph) := do
  let gs := dropGaps gs
  if !atAny ['!'] gs then none
  let (name, rest) := word (gs.drop 1)
  let closed := atAny ['!'] rest
  if !closed && !name.isEmpty then none
  let rest := if closed then rest.drop 1 else rest
  if !rest.head?.any Glyph.isGap then none
  let (expansion, rest) ← uri? true gs.length (dropGaps rest)
  if expansion.isEmpty || !atBlank rest then none
  let name := if closed then '!' :: name ++ ['!'] else ['!']
  return (.handle (String.ofList name) (String.ofList expansion), rest)

/-- A directive after its percent sign, up to the end of the line. -/
def directive? (gs : List Glyph) : Option (Token × List Glyph) := do
  let (name, rest) := word gs
  if !atBlank rest then none
  let (token, rest) ←
    match String.ofList name with
    | "YAML" => version? rest
    | "TAG" => handle? rest
    | _ => none
  return (token, ← endLine? rest)

end AtlasManifests.Yaml
