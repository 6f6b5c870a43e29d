import AtlasManifests.Digest.Sha256
import AtlasManifests.Text.Casing

/-! # Object names

Names that a cluster accepts are labels: at most sixty-three characters from
`[a-z0-9-]` with a letter or digit at both ends. `normalize` turns any text into
one: letters in lower case, other characters spelled out in words or dropped,
dashes between the words. A text of which nothing is left is named by a token of
its hash. `IsLabel` is the form that results.
-/
namespace AtlasManifests.Label

/-- The most characters of a name. -/
def maxLength : Nat := 63

/-- The characters of a token. -/
def tokenLength : Nat := 8

/-- The characters of a name. -/
def isLabelChar (c : Char) : Bool := ('a' ≤ c && c ≤ 'z') || ('0' ≤ c && c ≤ '9') || c == '-'

/-- A list of characters that is a name: neither empty nor too long, made of the
characters of names, with no dash at an end and no two dashes together. -/
structure IsLabel (cs : List Char) : Prop where
  ne_nil : cs ≠ []
  length_le : cs.length ≤ maxLength
  chars : ∀ c ∈ cs, isLabelChar c = true
  head_ne : cs.head? ≠ some '-'
  last_ne : cs.getLast? ≠ some '-'
  no_double : ¬ ['-', '-'] <:+: cs

/-- The words for the characters that are spelled out. A blank and an underscore are
dashes. -/
def words : List (Char × String) :=
  [(' ', "-"), ('_', "-"), ('.', "dot"), ('@', "at"), ('&', "and"), ('+', "plus"),
    (':', "colon"), ('/', "slash"), ('\x5c', "backslash"), ('!', "exclamation-mark"),
    ('#', "hash"), ('$', "dollar"), ('%', "percent"), ('*', "asterisk"), (',', "comma"),
    (';', "semicolon"), ('=', "equal"), ('?', "question-mark"), ('^', "caret"), ('|', "pipe"),
    ('~', "tilde"), ('(', "left-parenthesis"), (')', "right-parenthesis"),
    ('[', "left-square-bracket"), (']', "right-square-bracket"), ('\x7b', "left-curly-bracket"),
    ('\x7d', "right-curly-bracket"), ('<', "less-than"), ('>', "greater-than"),
    ('\x27', "single-quote"), ('\x22', "double-quote"), ('\x60', "backtick")]

/-- What a character of a text in lower case becomes: itself, its word between
dashes, or nothing. -/
def spell (c : Char) : List Char :=
  if isLabelChar c then [c]
  else
    match words.lookup c with
    | none => []
    | some "-" => ['-']
    | some word => '-' :: word.toList ++ ['-']

/-- A single dash for every run of dashes. -/
def collapse : List Char → List Char
  | [] => []
  | c :: rest =>
    match collapse rest with
    | [] => [c]
    | d :: rest => if c = '-' ∧ d = '-' then d :: rest else c :: d :: rest

/-- The text without the dashes after it. -/
def trimEndDashes (cs : List Char) : List Char := (cs.reverse.dropWhile (· == '-')).reverse

/-- The text without the dashes around it. -/
def trimDashes (cs : List Char) : List Char := trimEndDashes (cs.dropWhile (· == '-'))

/-- At most the characters of a name, and no dash after them. -/
def cut (cs : List Char) : List Char :=
  if maxLength < cs.length then trimEndDashes (cs.take maxLength) else cs

/-- The letters, digits and single dashes that a text is spelled with. -/
def spelling (cs : List Char) : List Char := trimDashes (collapse ((Text.lower cs).flatMap spell))

/-- The token of a text: the beginning of its hash. -/
def token (source : String) : String :=
  String.ofList ((Sha256.hexText (Sha256.digest source.toUTF8.toList)).take tokenLength)

/-- The characters of a word that makes names distinct. -/
def wordLength : Nat := 6

/-- The words that a seed gives, by number: the beginnings of the hashes of the seed
followed by the number. -/
def word (seed : List UInt8) (n : Nat) : String :=
  String.ofList
    ((Sha256.hexText (Sha256.digest (seed ++ (toString n).toUTF8.toList))).take wordLength)

/-- The name for a text: its spelling, cut to the length of a name, or its token if
nothing of it can be spelled. -/
@[irreducible] def normalize (candidate : String) : String :=
  match spelling candidate.toList with
  | [] => token candidate
  | cs => String.ofList (cut cs)

/-- The name for several texts: the names of those that are not empty, joined by
dashes, as a name again. -/
@[irreducible] def normalizeParts (parts : List String) : String :=
  normalize ("-".intercalate ((parts.filter fun part => !part.isEmpty).map normalize))

/-- The characters at the beginning of a text that fit into a number of bytes. -/
def takeBytes : Nat → List Char → List Char
  | _, [] => []
  | room, c :: rest =>
    if c.utf8Size ≤ room then c :: takeBytes (room - c.utf8Size) rest else []

/-- A name with a word after it, shortened so that the word survives. -/
def withSuffix (name suffix : String) : String :=
  let room := maxLength - (suffix.utf8ByteSize + 1)
  let base :=
    if room < name.utf8ByteSize then
      String.ofList (trimEndDashes (takeBytes room name.toList))
    else name
  normalizeParts [base, suffix]

/-- The letters and digits of a region, in lower case. -/
def regionToken (region : String) : String :=
  String.ofList ((region.toList.filter Char.isAlphanum).map Char.toLower)

/-- The name for several texts with a word after it. -/
def unique (parts : List String) (suffix : String) : String :=
  withSuffix (normalizeParts parts) suffix

end AtlasManifests.Label
