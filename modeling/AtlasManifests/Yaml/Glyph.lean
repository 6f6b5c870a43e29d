import AtlasManifests.Yaml.Scalar

/-! # Placed characters

The characters of a text with their places. Which line and column a character is in
decides what it means, so a text is read as a list of glyphs: every line break of the
usual kinds is one line feed, and what a reader has to know of the place of a
character stands beside it. A text with characters that no document may hold has no
glyphs.
-/
namespace AtlasManifests.Yaml

/-- A character and where it stands. -/
structure Glyph where
  char : Char
  line : Nat
  column : Nat
  /-- How many characters of the text come before it. -/
  index : Nat
  deriving DecidableEq

namespace Glyph

/-- Whether a document may hold a character. -/
def isAllowed (c : Char) : Bool := isPrintable c || c == '\t' || c == '\r' || c == '\u0085'

/-- The glyphs of a text from a place on. A carriage return together with the line
feed after it is one break. -/
def place (line column index : Nat) : List Char → List Glyph
  | [] => []
  | '\r' :: '\n' :: rest => ⟨'\n', line, column, index⟩ :: place (line + 1) 0 (index + 2) rest
  | c :: rest =>
    if c == '\u2028' || c == '\u2029' then
      ⟨c, line, column, index⟩ :: place (line + 1) 0 (index + 1) rest
    else if isBreak c then ⟨'\n', line, column, index⟩ :: place (line + 1) 0 (index + 1) rest
    else ⟨c, line, column, index⟩ :: place line (column + 1) (index + 1) rest

/-- The glyphs of a text, without the mark of the byte order before it. -/
def ofText? (text : String) : Option (List Glyph) :=
  let cs := match text.toList with
    | '\ufeff' :: rest => rest
    | cs => cs
  if cs.all isAllowed then some (place 0 0 0 cs) else none

/-- Whether a glyph is a space or a tab. -/
def isGap (g : Glyph) : Bool := Yaml.isGap g.char

/-- Whether a glyph ends a line. -/
def isBreak (g : Glyph) : Bool := Yaml.isBreak g.char

/-- Whether a glyph is a space, a tab or the end of a line. -/
def isBlank (g : Glyph) : Bool := g.isGap || g.isBreak

end Glyph

/-- Whether the next glyph is a blank or there is none. -/
def atBlank : List Glyph → Bool
  | [] => true
  | g :: _ => g.isBlank

/-- Whether the next glyph is one of some characters. -/
def atAny (cs : List Char) : List Glyph → Bool
  | [] => false
  | g :: _ => cs.contains g.char

/-- Whether the next three glyphs, at the beginning of a line, are a mark between
documents. -/
def atMark (c : Char) : List Glyph → Bool
  | a :: b :: d :: rest =>
    a.column == 0 && a.char == c && b.char == c && d.char == c && atBlank rest
  | _ => false

/-- Whether a mark between documents is next. -/
def atBoundary (gs : List Glyph) : Bool := atMark '-' gs || atMark '.' gs

/-- The characters of glyphs. -/
def charsOf (gs : List Glyph) : List Char := gs.map (·.char)

/-- What comes after the rest of a line, which still has its end. -/
def dropLine (gs : List Glyph) : List Glyph := gs.dropWhile fun g => !g.isBreak

/-- What comes after some spaces and tabs. -/
def dropGaps (gs : List Glyph) : List Glyph := gs.dropWhile Glyph.isGap

/-- What comes after the blanks, the comment and the end of a line of which nothing
else is left. -/
def endLine? (gs : List Glyph) : Option (List Glyph) :=
  let gs := dropGaps gs
  let gs := if atAny ['#'] gs then dropLine gs else gs
  match gs with
  | [] => some []
  | g :: rest => if g.isBreak then some rest else none

end AtlasManifests.Yaml
