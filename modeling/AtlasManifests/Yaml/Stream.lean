import AtlasManifests.Text.Blank
import AtlasManifests.Yaml.Writer

/-! # Streams of documents

Several documents in one text: a separator before each of them and one after the last.
`splitDocuments` takes such a text apart again and leaves out what has no content.
-/
namespace AtlasManifests.Yaml

/-- The line between documents. -/
def separator : String := "---\n"

/-- The stream of some documents. -/
def joinDocuments (documents : List String) : String :=
  String.join (documents.map (separator ++ ·)) ++ separator

/-- What comes before the first line that begins with three dashes, and what comes
after the dashes of each such line. The first line of the text does not count. -/
def piecesOf : List Char → List Char × List (List Char)
  | [] => ([], [])
  | '\n' :: '-' :: '-' :: '-' :: rest =>
    let (piece, pieces) := piecesOf rest
    ([], piece :: pieces)
  | c :: rest =>
    let (piece, pieces) := piecesOf rest
    (c :: piece, pieces)

/-- A piece without the dashes that it begins with. -/
def dropDashes : List Char → List Char
  | '-' :: '-' :: '-' :: rest => rest
  | cs => cs

/-- The lines of a text. -/
def linesOf : List Char → List (List Char)
  | [] => [[]]
  | '\n' :: rest => [] :: linesOf rest
  | c :: rest =>
    match linesOf rest with
    | [] => [[c]]
    | line :: lines => (c :: line) :: lines

/-- Whether a line is neither blank nor a comment. -/
def lineHasContent (line : List Char) : Bool :=
  match Text.trimStart line with
  | [] => false
  | c :: _ => c != '#'

/-- Whether a piece of a stream is more than blanks and comments. -/
def hasContent (piece : List Char) : Bool := (linesOf piece).any lineHasContent

/-- The documents of a stream. -/
def splitDocuments (stream : String) : List String :=
  let (piece, pieces) := piecesOf stream.toList
  (((piece :: pieces).map dropDashes).filter hasContent).map String.ofList

end AtlasManifests.Yaml
