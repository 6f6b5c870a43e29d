import AtlasManifests.Yaml.Glyph

/-! # Texts in blocks

Literal and folded scalars: the lines below an indicator that are indented further
than what is around them. A literal block keeps its line breaks, and a folded one
makes spaces of those between lines that begin with a word.
-/
namespace AtlasManifests.Yaml

/-- What becomes of the line breaks at the end of a block. -/
inductive Chomp where
  | strip
  | clip
  | keep
  deriving DecidableEq

/-- The sign for what becomes of the last line breaks. -/
def chomp? (gs : List Glyph) : Option (Chomp × List Glyph) :=
  match gs with
  | g :: rest =>
    if g.char == '+' then some (.keep, rest)
    else if g.char == '-' then some (.strip, rest)
    else none
  | [] => none

/-- The digit for the indentation, if there is one; a zero is refused. -/
def indentDigit? (gs : List Glyph) : Option (Option Nat × List Glyph) :=
  match gs with
  | g :: rest =>
    if !g.char.isDigit then some (none, gs)
    else if g.char == '0' then none
    else some (some (g.char.toNat - 48), rest)
  | [] => some (none, [])

/-- The signs after the indicator of a block, in either order, up to the end of the
line. -/
def blockHead? (gs : List Glyph) : Option (Chomp × Option Nat × List Glyph) := do
  let (chomp, digit, rest) ←
    match chomp? gs with
    | some (chomp, rest) => do
      let (digit, rest) ← indentDigit? rest
      pure (chomp, digit, rest)
    | none => do
      let (digit, rest) ← indentDigit? gs
      match digit.bind fun _ => chomp? rest with
      | some (chomp, rest) => pure (chomp, digit, rest)
      | none => pure (.clip, digit, rest)
  return (chomp, digit, ← endLine? rest)

/-- Whether a column belongs to the indentation of a block, which may not be known
yet. -/
def indents (indent : Option Nat) (column : Nat) : Bool := indent.all (column < ·)

/-- The breaks of the lines without text before the next one, the widest column in
which one of these lines ends or the next one begins, and what follows. A tab in the
indentation is refused. -/
def blockBreaks? (indent : Option Nat) (widest : Nat) :
    List Glyph → Option (List Char × Nat × List Glyph)
  | [] => some ([], widest, [])
  | g :: rest =>
    if indents indent g.column && g.char == ' ' then blockBreaks? indent widest rest
    else if indents indent g.column && g.char == '\t' then none
    else if g.isBreak then
      (blockBreaks? indent (max widest g.column) rest).map fun (cs, widest, rest) =>
        (g.char :: cs, widest, rest)
    else some ([], max widest g.column, g :: rest)

/-- The parts of a block: its text up to the end of the last line, the break of that
line, the breaks after it, and what follows. -/
structure BlockParts where
  text : List Char
  ending : Option Char
  breaks : List Char
  rest : List Glyph

/-- What stands between the line before and a line, given how each of them begins. -/
def joinBlock (folded : Bool) (ending : Option Char) (breaks : List Char)
    (blankBefore blank : Bool) : List Char :=
  if folded && ending == some '\n' && !blankBefore && !blank then
    if breaks.isEmpty then [' '] else breaks
  else ending.toList ++ breaks

/-- The lines of a block. -/
def blockLines? (folded : Bool) (indent : Nat) :
    Nat → Option Char → List Char → Bool → List Glyph → Option BlockParts
  | 0, ending, breaks, _, gs => some ⟨[], ending, breaks, gs⟩
  | _, ending, breaks, _, [] => some ⟨[], ending, breaks, []⟩
  | fuel + 1, ending, breaks, blankBefore, g :: rest =>
    if g.column == indent then do
      let joint := joinBlock folded ending breaks blankBefore g.isGap
      let line := (g :: rest).takeWhile fun g => !g.isBreak
      let after := dropLine (g :: rest)
      let (breaks, _, next) ← blockBreaks? (some indent) 0 (after.drop 1)
      let parts ← blockLines? folded indent fuel (after.head?.map (·.char)) breaks g.isGap next
      return { parts with text := joint ++ charsOf line ++ parts.text }
    else some ⟨[], ending, breaks, g :: rest⟩

/-- A block after its indicator, within a block at a column or within none. -/
def block? (folded : Bool) (column : Option Nat) (gs : List Glyph) :
    Option (List Char × List Glyph) := do
  let (chomp, digit, rest) ← blockHead? gs
  let floor := match column with
    | none => 0
    | some column => column
  let given := digit.map (floor + ·)
  let (breaks, widest, rest) ← blockBreaks? given 0 rest
  let least := match column with
    | none => 1
    | some column => column + 1
  let indent := given.getD (max widest least)
  let parts ← blockLines? folded indent gs.length none breaks false rest
  let text := match chomp with
    | .strip => parts.text
    | .clip => parts.text ++ parts.ending.toList
    | .keep => parts.text ++ parts.ending.toList ++ parts.breaks
  return (text, parts.rest)

end AtlasManifests.Yaml
