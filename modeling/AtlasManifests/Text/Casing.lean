import AtlasManifests.Text.CasingTable

/-! # Letter case

Lower case of whole texts, with the two rules that look beyond a single letter: a
dotted capital I becomes two characters, and a capital sigma has another small
form at the end of a word. ASCII letters need no table, which
`lowerLetter_of_ascii` records.
-/
namespace AtlasManifests.Text

/-- The simple lower-case form of a code point above ASCII. -/
def tableLower (n : Nat) : Nat :=
  match CasingTable.lowerRuns.find? fun (first, last, stride, _) =>
      first ≤ n && n ≤ last && (n - first) % stride == 0 with
  | some (_, _, _, shift) => ((n : Int) + shift).toNat
  | none => n

/-- The lower-case form of one letter, wherever it stands. -/
def lowerLetter (c : Char) : Char :=
  if c.toNat < 128 then c.toLower else Char.ofNat (tableLower c.toNat)

theorem lowerLetter_of_ascii {c : Char} (h : c.toNat < 128) : lowerLetter c = c.toLower := by
  simp [lowerLetter, h]

/-- Letters of either case, apart from those that are passed over. -/
def isCased (c : Char) : Bool :=
  CasingTable.casedRanges.any fun (first, last) => first ≤ c.toNat && c.toNat ≤ last

/-- Characters passed over when looking for the letters around a sigma. -/
def isCaseIgnorable (c : Char) : Bool :=
  CasingTable.ignorableRanges.any fun (first, last) => first ≤ c.toNat && c.toNat ≤ last

/-- Whether the first character that counts is a letter of either case. -/
def meetsLetter (cs : List Char) : Bool :=
  match cs.dropWhile isCaseIgnorable with
  | [] => false
  | c :: _ => isCased c

/-- Lower case of a text, given the characters before it, the nearest first. A
capital sigma after a letter and not before one takes its final form. -/
def lowerAfter (before : List Char) : List Char → List Char
  | [] => []
  | c :: rest =>
    (if c = 'Σ' then
      [if meetsLetter before && !meetsLetter rest then 'ς' else 'σ']
    else if c = 'İ' then
      ['i', '\u0307']
    else
      [lowerLetter c]) ++ lowerAfter (c :: before) rest

/-- Lower case of a text. -/
def lower (cs : List Char) : List Char := lowerAfter [] cs

@[simp] theorem lower_nil : lower [] = [] := rfl

/-- The capital letter for the characters whose capital is a single ASCII letter;
any other character stands for itself. -/
def capital (c : Char) : Char :=
  if c = 'ſ' then 'S' else if c = 'ı' then 'I' else c.toUpper

end AtlasManifests.Text
