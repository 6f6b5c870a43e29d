import AtlasManifests.Yaml.Glyph

/-! # Texts within lines

Plain and quoted scalars. Both may go on over several lines: a single line break
between words is a space, and of several breaks the first one does not count.
-/
namespace AtlasManifests.Yaml

/-- What stands between two words: blanks within a line, or the ends of lines. The
first break is missing if it was escaped. -/
inductive Gap where
  | blanks (cs : List Char)
  | breaks (first : Option Char) (more : List Char)

namespace Gap

/-- Whether a line ends in a gap. -/
def endsLine : Gap → Bool
  | blanks _ => false
  | breaks _ _ => true

/-- What a gap is in the text. -/
def folded : Gap → List Char
  | blanks cs => cs
  | breaks none more => more
  | breaks (some first) more =>
    if first = '\n' then (if more.isEmpty then [' '] else more) else first :: more

end Gap

/-- The line breaks before the next word, after a first one. A tab before the column
where the text may go on is refused. -/
def moreBreaks? (floor : Nat) : List Glyph → Option (List Char × List Glyph)
  | [] => some ([], [])
  | g :: rest =>
    if g.isBreak then (moreBreaks? floor rest).map fun (cs, rest) => (g.char :: cs, rest)
    else if g.isGap then
      if g.char == '\t' && g.column < floor then none else moreBreaks? floor rest
    else some ([], g :: rest)

/-- The gap before the next word. -/
def gap? (floor : Nat) (gs : List Glyph) : Option (Gap × List Glyph) :=
  match dropGaps gs with
  | [] => some (.blanks (charsOf gs), [])
  | g :: rest =>
    if g.isBreak then
      (moreBreaks? floor rest).map fun (more, rest) => (.breaks (some g.char) more, rest)
    else some (.blanks (charsOf (gs.takeWhile Glyph.isGap)), g :: rest)

/-! ## Plain texts -/

/-- The characters that structure collections between brackets. -/
def flowMarks : List Char := [',', '[', ']', '\x7b', '\x7d']

/-- One word of a plain text. It ends before a blank, before a colon with a blank
after it, and between brackets before their marks. -/
def plainWord? (flow : Bool) : List Glyph → Option (List Char × List Glyph)
  | [] => some ([], [])
  | g :: rest =>
    if g.isBlank then some ([], g :: rest)
    else if flow && g.char == ':' && atAny ('?' :: flowMarks) rest then none
    else if (g.char == ':' && atBlank rest) || (flow && flowMarks.contains g.char) then
      some ([], g :: rest)
    else (plainWord? flow rest).map fun (cs, rest) => (g.char :: cs, rest)

/-- Whether a plain text cannot go on here: a comment or another document begins, or
the line is not indented enough. -/
def plainEnds (flow : Bool) (floor : Nat) (gs : List Glyph) : Bool :=
  atAny ['#'] gs || atBoundary gs || (!flow && gs.head?.any fun g => g.column < floor)

/-- What follows the first word of a plain text: the words after it, each with the gap
before it. Also gives whether the last line ended after the text. -/
def plainTail? (flow : Bool) (floor : Nat) :
    Nat → List Glyph → Option (List Char × Bool × List Glyph)
  | 0, gs => some ([], false, gs)
  | fuel + 1, gs =>
    if gs.isEmpty || !atBlank gs then some ([], false, gs)
    else do
      let (gap, rest) ← gap? floor gs
      if plainEnds flow floor rest then return ([], gap.endsLine, rest)
      let (word, rest) ← plainWord? flow rest
      if word.isEmpty then return ([], gap.endsLine, rest)
      let (cs, ended, rest) ← plainTail? flow floor fuel rest
      return (gap.folded ++ word ++ cs, ended, rest)

/-- A plain text, whether a line ended after it, and what follows. -/
def plain? (flow : Bool) (floor : Nat) (gs : List Glyph) :
    Option (List Char × Bool × List Glyph) := do
  let (word, rest) ← plainWord? flow gs
  let (cs, ended, rest) ← plainTail? flow floor gs.length rest
  return (word ++ cs, ended, rest)

/-! ## Quoted texts -/

/-- The characters that an escape of one letter stands for. -/
def escapes : List (Char × Char) :=
  [('0', '\x00'), ('a', '\x07'), ('b', '\x08'), ('t', '\t'), ('\t', '\t'), ('n', '\n'),
    ('v', '\x0b'), ('f', '\x0c'), ('r', '\r'), ('e', '\x1b'), (' ', ' '), ('\x22', '\x22'),
    ('/', '/'), ('\x5c', '\x5c'), ('N', '\u0085'), ('_', '\u00a0'), ('L', '\u2028'),
    ('P', '\u2029')]

/-- How many hexadecimal digits follow the letter of an escape. -/
def escapeWidths : List (Char × Nat) := [('x', 2), ('u', 4), ('U', 8)]

/-- The character with a number. -/
def charOf? (n : Nat) : Option Char := if n.isValidChar then some (Char.ofNat n) else none

/-- The character of an escape after its backslash. -/
def escape? : List Glyph → Option (Char × List Glyph)
  | [] => none
  | g :: rest =>
    match escapes.lookup g.char with
    | some c => some (c, rest)
    | none => do
      let width ← escapeWidths.lookup g.char
      let ds := charsOf (rest.take width)
      if ds.length < width then none
      return (← charOf? (← digits? 16 ds), rest.drop width)

/-- The characters up to a blank or the end of a quoted text, whether an escaped line
break comes after them, and what follows. -/
def quotedWord? (single : Bool) : Nat → List Glyph → Option (List Char × Bool × List Glyph)
  | 0, _ => none
  | _, [] => some ([], false, [])
  | fuel + 1, g :: rest =>
    let more (c : Char) (rest : List Glyph) :=
      (quotedWord? single fuel rest).map fun (cs, escaped, rest) => (c :: cs, escaped, rest)
    if g.isBlank then some ([], false, g :: rest)
    else if single then
      if g.char == '\x27' then
        if atAny ['\x27'] rest then more '\x27' (rest.drop 1) else some ([], false, g :: rest)
      else more g.char rest
    else if g.char == '\x22' then some ([], false, g :: rest)
    else if g.char == '\x5c' then
      match rest with
      | [] => none
      | next :: after =>
        if next.isBreak then some ([], true, after)
        else (escape? (next :: after)).bind fun (c, rest) => more c rest
    else more g.char rest

/-- A quoted text after its opening quote. -/
def quotedTail? (single : Bool) : Nat → List Glyph → Option (List Char × List Glyph)
  | 0, _ => none
  | fuel + 1, gs =>
    if gs.isEmpty || atBoundary gs then none
    else do
      let (word, escaped, rest) ← quotedWord? single (gs.length + 1) gs
      if atAny [if single then '\x27' else '\x22'] rest then return (word, rest.drop 1)
      let (gap, rest) ←
        if escaped then (moreBreaks? 0 rest).map fun (more, rest) => (Gap.breaks none more, rest)
        else gap? 0 rest
      let (cs, rest) ← quotedTail? single fuel rest
      return (word ++ gap.folded ++ cs, rest)

/-- A quoted text after its opening quote, and what follows. -/
def quoted? (single : Bool) (gs : List Glyph) : Option (List Char × List Glyph) :=
  quotedTail? single (gs.length + 1) gs

end AtlasManifests.Yaml
