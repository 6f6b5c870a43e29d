import AtlasManifests.Yaml.Token

/-! # Tokens of a text

Cutting a text into tokens. That something is a key only shows at the colon after it,
so the places where a key may have begun are kept until then, one for the current
collection and one for each around it, and the tokens that begin a key are put in
later. In block collections the columns say where a collection begins and ends.
-/
namespace AtlasManifests.Yaml

/-- A place where a key may have begun. -/
structure KeyStart where
  /-- How many tokens come before it. -/
  count : Nat
  /-- Whether nothing else but a key may stand there. -/
  required : Bool
  glyph : Glyph

/-- How far a text has been cut. -/
structure Scan where
  rest : List Glyph
  /-- The tokens so far, the last one first. -/
  tokens : List Token := []
  /-- The columns of the open block collections, the innermost first. -/
  columns : List Nat := []
  /-- Where a key of the current collection may have begun. -/
  key : Option KeyStart := none
  /-- The same for each collection around the current one that is between brackets. -/
  outer : List (Option KeyStart) := []
  keyAllowed : Bool := true

namespace Scan

variable (s : Scan)

/-- Whether the current collection is between brackets. -/
def inFlow : Bool := !s.outer.isEmpty

/-- The next token. -/
def emit (token : Token) : Scan := { s with tokens := token :: s.tokens }

/-- The next token, after which the text goes on with a rest. -/
def emitTo (token : Token) (rest : List Glyph) : Scan :=
  { s with tokens := token :: s.tokens, rest }

/-- A token in the place of a key. -/
def emitAt (count : Nat) (token : Token) : Scan :=
  let later := s.tokens.length - count
  { s with tokens := s.tokens.take later ++ token :: s.tokens.drop later }

/-- Allow or forbid that a key begins. -/
def allowKey (allowed : Bool) : Scan := { s with keyAllowed := allowed }

/-- The end of the block collections that are further in than a column, or of all. -/
def closeTo (column : Option Nat) : Scan :=
  if s.inFlow then s
  else
    let open? (c : Nat) := column.all (· < c)
    { s with
      tokens := (s.columns.takeWhile open?).map (fun _ => .blockEnd) ++ s.tokens
      columns := s.columns.dropWhile open? }

/-- The beginning of a block collection at a column, unless there is one already. -/
def openAt (column : Nat) (count : Nat) (token : Token) : Scan :=
  if s.inFlow || s.columns.head?.any (column ≤ ·) then s
  else { s.emitAt count token with columns := column :: s.columns }

/-- Give up the place where a key may have begun, unless there has to be one. -/
def dropKey? : Option Scan :=
  match s.key with
  | some start => if start.required then none else some { s with key := none }
  | none => some s

/-- Keep the place before a glyph as one where a key may have begun. -/
def saveKey? (g : Glyph) : Option Scan :=
  if s.keyAllowed then do
    let dropped ← s.dropKey?
    let required := !s.inFlow && s.columns.head? == some g.column
    return { dropped with key := some ⟨s.tokens.length, required, g⟩ }
  else some s

/-- A place where a key may have begun that is on the line of a glyph and not too far
before it. -/
def fresh? (g : Glyph) : Option KeyStart → Option (Option KeyStart)
  | none => some none
  | some start =>
    if start.glyph.line < g.line || start.glyph.index + 1024 < g.index then
      if start.required then none else some none
    else some (some start)

/-- Give up the places where a key may have begun that are too far before a glyph. -/
def dropStale? (g : Glyph) : Option Scan := do
  return { s with key := ← fresh? g s.key, outer := ← s.outer.mapM (fresh? g) }

/-- Skip blanks and comments. A key may begin on a new line of a block. -/
def skip (flow : Bool) : Bool → Bool → List Glyph → Bool × List Glyph
  | allowed, _, [] => (allowed, [])
  | allowed, comment, g :: rest =>
    if g.isBreak then skip flow (allowed || !flow) false rest
    else if comment || g.char == ' ' || (g.char == '\t' && (flow || !allowed)) then
      skip flow allowed comment rest
    else if g.char == '#' then skip flow allowed true rest
    else (allowed, g :: rest)

/-- A word with an indicator, which may begin a key. -/
def marked? (g : Glyph) (read : Option (Token × List Glyph)) : Option Scan := do
  let s ← s.saveKey? g
  let (token, rest) ← read
  return (s.allowKey false).emitTo token rest

/-- The beginning of a collection between brackets. -/
def openFlow? (g : Glyph) (token : Token) (rest : List Glyph) : Option Scan := do
  let s ← s.saveKey? g
  return { s.emitTo token rest with outer := s.key :: s.outer, key := none, keyAllowed := true }

/-- The end of a collection between brackets. -/
def closeFlow? (token : Token) (rest : List Glyph) : Option Scan := do
  let s ← s.dropKey?
  let s := (s.allowKey false).emitTo token rest
  match s.outer with
  | [] => return s
  | key :: outer => return { s with key, outer }

/-- An item of a sequence in a block. -/
def blockEntry? (g : Glyph) (rest : List Glyph) : Option Scan := do
  if !s.inFlow && !s.keyAllowed then none
  let s ← (s.openAt g.column s.tokens.length .blockSequence).dropKey?
  return (s.allowKey true).emitTo .blockEntry rest

/-- A key with a question mark before it. -/
def key? (g : Glyph) (rest : List Glyph) : Option Scan := do
  if !s.inFlow && !s.keyAllowed then none
  let s ← (s.openAt g.column s.tokens.length .blockMapping).dropKey?
  return (s.allowKey (!s.inFlow)).emitTo .key rest

/-- The value of a key. -/
def value? (g : Glyph) (rest : List Glyph) : Option Scan :=
  match s.key with
  | some start =>
    let s := (s.emitAt start.count .key).openAt start.glyph.column start.count .blockMapping
    some { s.emitTo .value rest with key := none, keyAllowed := false }
  | none =>
    if s.inFlow then some ((s.allowKey false).emitTo .value rest)
    else if s.keyAllowed then
      some ((s.openAt g.column s.tokens.length .blockMapping).emitTo .value rest)
    else none

/-- A mark between documents. -/
def boundary? (token : Token) (rest : List Glyph) : Option Scan := do
  let s ← (s.closeTo none).dropKey?
  return (s.allowKey false).emitTo token (rest.drop 2)

/-- A directive. -/
def directiveLine? (rest : List Glyph) : Option Scan := do
  let s ← (s.closeTo none).dropKey?
  let (token, rest) ← directive? rest
  return (s.allowKey false).emitTo token rest

/-- A block of lines. -/
def blockText? (folded : Bool) (rest : List Glyph) : Option Scan := do
  let s ← s.dropKey?
  let (cs, rest) ← block? folded s.columns.head? rest
  return (s.allowKey true).emitTo
    (.scalar (if folded then .folded else .literal) (String.ofList cs)) rest

/-- A plain text. After the end of a line a key may begin. -/
def plainText? (g : Glyph) (rest : List Glyph) : Option Scan := do
  let s ← s.saveKey? g
  let floor := match s.columns.head? with
    | none => 0
    | some column => column + 1
  let (cs, ended, rest) ← plain? s.inFlow floor (g :: rest)
  return (s.allowKey ended).emitTo (.scalar .plain (String.ofList cs)) rest

/-- A quoted text. -/
def quotedText? (g : Glyph) (rest : List Glyph) : Option Scan :=
  s.marked? g ((quoted? (g.char == '\x27') rest).map fun (cs, rest) =>
    (.scalar .quoted (String.ofList cs), rest))

/-- Whether a plain text may begin here. -/
def beginsPlain (g : Glyph) (rest : List Glyph) : Bool :=
  (!isIndicator g.char && g.char != '-' && g.char != '?' && g.char != ':' && !g.isBlank) ||
    (g.char == '-' && !rest.head?.any Glyph.isGap) ||
    (!s.inFlow && (g.char == '?' || g.char == ':') && !atBlank rest)

/-- The token that begins with a glyph. -/
def token? (g : Glyph) (rest : List Glyph) : Option Scan :=
  let c := g.char
  let bare := s.inFlow || atBlank rest
  if g.column == 0 && c == '%' then s.directiveLine? rest
  else if atMark '-' (g :: rest) then s.boundary? .documentStart rest
  else if atMark '.' (g :: rest) then s.boundary? .documentEnd rest
  else if c == '[' then s.openFlow? g .flowSequence rest
  else if c == '\x7b' then s.openFlow? g .flowMapping rest
  else if c == ']' then s.closeFlow? .flowSequenceEnd rest
  else if c == '\x7d' then s.closeFlow? .flowMappingEnd rest
  else if c == ',' then s.dropKey?.map fun s => (s.allowKey true).emitTo .flowEntry rest
  else if c == '-' && atBlank rest then s.blockEntry? g rest
  else if c == '?' && bare then s.key? g rest
  else if c == ':' && bare then s.value? g rest
  else if c == '*' then
    s.marked? g ((anchorName? rest).map fun (name, rest) => (.alias name, rest))
  else if c == '&' then
    s.marked? g ((anchorName? rest).map fun (name, rest) => (.anchor name, rest))
  else if c == '!' then s.marked? g (tag? s.inFlow rest)
  else if c == '|' && !s.inFlow then s.blockText? false rest
  else if c == '>' && !s.inFlow then s.blockText? true rest
  else if c == '\x27' || c == '\x22' then s.quotedText? g rest
  else if s.beginsPlain g rest then s.plainText? g rest
  else none

/-- All tokens of a text in order. Every token takes at least one glyph. -/
def run? (s : Scan) : Option (List Token) :=
  let (keyAllowed, rest) := skip s.inFlow s.keyAllowed false s.rest
  match rest with
  | [] =>
    (({ s with keyAllowed, rest }).closeTo none).dropKey?.map fun (s : Scan) => s.tokens.reverse
  | g :: rest =>
    match ({ s with keyAllowed } : Scan).dropStale? g with
    | none => none
    | some cut =>
      match (cut.closeTo (some g.column)).token? g rest with
      | none => none
      | some next => if next.rest.length < s.rest.length then run? next else none
termination_by s.rest.length

end Scan

/-- The tokens of a text. -/
def tokens? (text : String) : Option (List Token) :=
  (Glyph.ofText? text).bind fun rest => ({ rest } : Scan).run?

end AtlasManifests.Yaml
