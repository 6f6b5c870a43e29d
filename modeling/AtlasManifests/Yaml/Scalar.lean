import AtlasManifests.Yaml.Plain

/-! # Written scalars

How a text is written so that it reads back: without quotes if it can stand so,
between single quotes, between double quotes with escapes, or as a literal block if
it has several lines. A written scalar is a list of lines; all but the first are to
be indented by two columns.
-/
namespace AtlasManifests.Yaml

/-- A line and the character that ends it. -/
structure Line where
  text : List Char
  ending : Char
  deriving DecidableEq

/-- A line that ends in the usual way. -/
def Line.of (text : List Char) : Line := ⟨text, '\n'⟩

/-- A line two columns further in; a line without text stays as it is. -/
def Line.indent (l : Line) : Line :=
  if l.text.isEmpty then l else ⟨' ' :: ' ' :: l.text, l.ending⟩

/-- A line with some text before it. -/
def Line.after (before : List Char) (l : Line) : Line := ⟨before ++ l.text, l.ending⟩

/-- Lines with some text before the first. -/
def attach (before : List Char) : List Line → List Line
  | [] => [.of before]
  | l :: rest => l.after before :: rest

/-- The lines of a list, the text of each line with its end. -/
def joinLines (lines : List Line) : List Char := lines.flatMap fun l => l.text ++ [l.ending]

/-- The characters that end a line. -/
def isBreak (c : Char) : Bool :=
  c == '\n' || c == '\r' || c == '\u0085' || c == '\u2028' || c == '\u2029'

/-- The characters between words. -/
def isGap (c : Char) : Bool := c == ' ' || c == '\t'

/-- Whether a text begins with a gap, a line break or not at all. -/
def startsBlank : List Char → Bool
  | [] => true
  | c :: _ => isGap c || isBreak c

/-- The characters that may be written as they are. -/
def isPrintable (c : Char) : Bool :=
  let n := c.toNat
  n == 0x0a || (0x20 ≤ n && n ≤ 0x7e) || (0xa0 ≤ n && n ≤ 0xd7ff) ||
    (0xe000 ≤ n && n ≤ 0xfffd && n != 0xfeff) || 0x10000 ≤ n

/-- Characters that cannot begin a plain text. -/
def isIndicator (c : Char) : Bool :=
  ['#', ',', '[', ']', '\x7b', '\x7d', '&', '*', '!', '|', '>', '\x27', '\x22', '%', '@',
    '\x60'].contains c

/-- Whether a text holds something after its first character that ends a plain text:
a colon before a blank, or a mark of a comment after one. -/
def breaksOff (previous : Char) : List Char → Bool
  | [] => false
  | c :: rest =>
    (c == ':' && startsBlank rest) || (c == '#' && (isGap previous || isBreak previous)) ||
      breaksOff c rest

/-- Whether a text looks like an indicator where it begins or further on. -/
def hasIndicator (cs : List Char) : Bool :=
  cs.take 3 == ['-', '-', '-'] || cs.take 3 == ['.', '.', '.'] ||
    match cs with
    | [] => false
    | c :: rest =>
      isIndicator c || ((c == '?' || c == ':' || c == '-') && startsBlank rest) || breaksOff c rest

/-- Whether two neighbouring characters fit a pair of tests. -/
def hasPair (p q : Char → Bool) : List Char → Bool
  | c :: d :: rest => (p c && q d) || hasPair p q (d :: rest)
  | _ => false

/-- What decides how a text can be written. -/
structure Traits where
  special : Bool
  breaks : Bool
  spaceOutside : Bool
  breakOutside : Bool
  spaceLast : Bool
  breakSpace : Bool
  spaceBreak : Bool
  indicator : Bool

/-- The traits of a text. -/
def traits (cs : List Char) : Traits where
  special := cs.any fun c => !isPrintable c
  breaks := cs.any isBreak
  spaceOutside := cs.head? == some ' ' || cs.getLast? == some ' '
  breakOutside := cs.head?.any isBreak || cs.getLast?.any isBreak
  spaceLast := cs.getLast? == some ' '
  breakSpace := hasPair isBreak (· == ' ') cs
  spaceBreak := hasPair (· == ' ') isBreak cs
  indicator := hasIndicator cs

/-- Whether a text can stand without quotes. -/
def plainAllowed (t : Traits) : Bool :=
  !(t.spaceOutside || t.breakOutside || t.breakSpace || t.spaceBreak || t.special || t.breaks ||
    t.indicator)

/-- Whether a text can stand between single quotes. -/
def singleAllowed (t : Traits) : Bool := !(t.breakSpace || t.spaceBreak || t.special)

/-- Whether a text can be a block. -/
def blockAllowed (cs : List Char) (t : Traits) : Bool :=
  !cs.isEmpty && !(t.spaceLast || t.spaceBreak || t.special)

/-- Hexadecimal digits in capitals. -/
def hexDigits (width n : Nat) : List Char :=
  let ds := (Nat.toDigits 16 n).map Char.toUpper
  List.replicate (width - ds.length) '0' ++ ds

/-- The letter of an escape of one character. -/
def escapeLetter? (c : Char) : Option Char :=
  [('\x00', '0'), ('\x07', 'a'), ('\x08', 'b'), ('\t', 't'), ('\n', 'n'), ('\x0b', 'v'),
    ('\x0c', 'f'), ('\r', 'r'), ('\x1b', 'e'), ('\x22', '\x22'), ('\x5c', '\x5c'),
    ('\u0085', 'N'), ('\u00a0', '_'), ('\u2028', 'L'), ('\u2029', 'P')].lookup c

/-- A character between double quotes. -/
def doubleChar (c : Char) : List Char :=
  if isPrintable c && !isBreak c && c != '\x22' && c != '\x5c' then [c]
  else
    match escapeLetter? c with
    | some letter => ['\x5c', letter]
    | none =>
      let n := c.toNat
      '\x5c' ::
        if n ≤ 0xff then 'x' :: hexDigits 2 n
        else if n ≤ 0xffff then 'u' :: hexDigits 4 n
        else 'U' :: hexDigits 8 n

/-- A text between double quotes. -/
def doubleQuoted (cs : List Char) : List Char := '\x22' :: cs.flatMap doubleChar ++ ['\x22']

/-- A text cut at its line breaks. The last line is what follows the last break. -/
def splitBreaks : List Char → List Line × List Char
  | [] => ([], [])
  | c :: rest =>
    let (lines, last) := splitBreaks rest
    if isBreak c then (⟨[], c⟩ :: lines, last)
    else
      match lines with
      | [] => ([], c :: last)
      | l :: lines => (l.after [c] :: lines, last)

/-- A text between single quotes, a quote inside written twice. -/
def singleQuoted (cs : List Char) : List Char :=
  '\x27' :: cs.flatMap (fun c => if c = '\x27' then [c, c] else [c]) ++ ['\x27']

/-- A text as it stands within a line, with quotes if it needs them. -/
def inlineText (cs : List Char) : List Char :=
  let t := traits cs
  if !isAmbiguous cs && plainAllowed t then cs
  else if singleAllowed t then singleQuoted cs
  else doubleQuoted cs

/-- The head of a literal block: the indentation if the text does not show it, and
what becomes of the line breaks at the end. -/
def literalHead (cs : List Char) : List Char :=
  let hint := if cs.head? == some ' ' || cs.head?.any isBreak then ['2'] else []
  let chomp :=
    match cs.reverse with
    | [] => ['-']
    | c :: rest =>
      if !isBreak c then ['-']
      else
        match rest with
        | [] => ['+']
        | d :: _ => if isBreak d then ['+'] else []
  '|' :: hint ++ chomp

/-- A text as a literal block. -/
def literal (cs : List Char) : List Line :=
  let (lines, last) := splitBreaks cs
  Line.of (literalHead cs) ::
    (lines ++ if last.isEmpty then [] else [Line.of last]).map Line.indent

/-- The lines of a text: a block if it has line feeds and can be one. -/
def scalarLines (cs : List Char) : List Line :=
  if cs.contains '\n' then
    if blockAllowed cs (traits cs) then literal cs else [.of (doubleQuoted cs)]
  else
    match splitBreaks (inlineText cs) with
    | ([], last) => [.of last]
    | (first :: rest, last) => first :: (rest ++ [Line.of last]).map Line.indent

end AtlasManifests.Yaml
