import AtlasManifests.Number.Binary64

/-! # Plain scalars

What a text means when it stands without quotes: nothing, a truth value, a number or
itself. The writer quotes the texts that would mean something else, and the reader
resolves those that stand unquoted.
-/
namespace AtlasManifests.Yaml

/-- The words for nothing. -/
def isNullWord (cs : List Char) : Bool :=
  ["null".toList, "Null".toList, "NULL".toList, ['~']].contains cs

/-- The truth value of a word. -/
def truth? (cs : List Char) : Option Bool :=
  if ["true".toList, "True".toList, "TRUE".toList].contains cs then some true
  else if ["false".toList, "False".toList, "FALSE".toList].contains cs then some false
  else none

/-- The value of a digit in a base. -/
def digit? (base : Nat) (c : Char) : Option Nat :=
  let n :=
    if '0' ≤ c ∧ c ≤ '9' then c.toNat - 48
    else if 'a' ≤ c ∧ c ≤ 'z' then c.toNat - 87
    else if 'A' ≤ c ∧ c ≤ 'Z' then c.toNat - 55
    else base
  if n < base then some n else none

/-- The value of one or more digits in a base. -/
def digits? (base : Nat) (cs : List Char) : Option Nat :=
  if cs.isEmpty then none
  else cs.foldlM (fun n c => (digit? base c).map fun d => base * n + d) 0

/-- A sign and what follows it. -/
def splitSign : List Char → Option Char × List Char
  | '+' :: rest => (some '+', rest)
  | '-' :: rest => (some '-', rest)
  | rest => (none, rest)

/-- The base that a text announces, and the digits after that. -/
def splitBase : List Char → Option (Nat × List Char)
  | '0' :: 'x' :: rest => some (16, rest)
  | '0' :: 'o' :: rest => some (8, rest)
  | '0' :: 'b' :: rest => some (2, rest)
  | _ => none

/-- Whether a text is digits after a zero, with a sign or not, which makes it a text
and not a number. -/
def isZeroPadded (cs : List Char) : Bool :=
  match (splitSign cs).2 with
  | '0' :: c :: rest => (c :: rest).all Char.isDigit
  | _ => false

/-- The whole number of a text, of any size: digits with a sign or not, in the base
that is announced after the sign. -/
def integer? (cs : List Char) : Option Int :=
  let (sign, rest) := splitSign cs
  let size : Option Nat :=
    match (splitBase rest).bind fun (base, ds) => digits? base ds with
    | some n => some n
    | none => if isZeroPadded cs then none else digits? 10 rest
  size.map fun n => if sign = some '-' then -(n : Int) else n

/-- The natural number of a text, which has no minus sign even for zero. -/
def natural? (cs : List Char) : Option Nat :=
  if cs.head? = some '-' then none else (integer? cs).map Int.toNat

/-- The digits before and after a point, and what follows them. -/
def splitPoint (cs : List Char) : List Char × List Char × List Char :=
  let whole := cs.takeWhile Char.isDigit
  match cs.dropWhile Char.isDigit with
  | '.' :: rest => (whole, rest.takeWhile Char.isDigit, rest.dropWhile Char.isDigit)
  | rest => (whole, [], rest)

/-- The power of ten after a decimal. -/
def power? : List Char → Option Int
  | [] => some 0
  | c :: rest =>
    if c = 'e' ∨ c = 'E' then
      let (sign, ds) := splitSign rest
      (digits? 10 ds).map fun n => if sign = some '-' then -(n : Int) else n
    else none

/-- The finite binary fraction of a text without a plus sign. -/
def decimal? (cs : List Char) : Option Binary64 := do
  let (negative, rest) := match cs with
    | '-' :: rest => (true, rest)
    | rest => (false, rest)
  let (whole, fraction, rest) := splitPoint rest
  let power ← power? rest
  let mantissa ← digits? 10 (whole ++ fraction)
  Binary64.ofDecimal negative mantissa (power - fraction.length)

/-- The binary fraction of a text; the inner value is missing for the words for an
infinity and for no number. -/
def real? (cs : List Char) : Option (Option Binary64) :=
  let unsigned := match cs with
    | '+' :: rest => if rest.head? = some '+' ∨ rest.head? = some '-' then none else some rest
    | rest => some rest
  unsigned.bind fun rest =>
    let magnitude := match rest with
      | '-' :: rest => rest
      | rest => rest
    if [".inf".toList, ".Inf".toList, ".INF".toList].contains magnitude then some none
    else if [".nan".toList, ".NaN".toList, ".NAN".toList].contains cs then some none
    else (decimal? rest).map some

/-- What a plain text means. -/
inductive Meaning where
  | nothing
  | truth (b : Bool)
  | whole (n : Int)
  | real (x : Option Binary64)
  | text

/-- The whole numbers that a meaning may have: those of 128 bits. -/
def fits128 (n : Int) : Bool :=
  decide (-170141183460469231731687303715884105728 ≤ n) &&
    decide (n < 340282366920938463463374607431768211456)

/-- The meaning of a plain text. -/
def meaning (cs : List Char) : Meaning :=
  if cs.isEmpty || isNullWord cs then .nothing
  else
    match truth? cs with
    | some b => .truth b
    | none =>
      match (integer? cs).filter fits128 with
      | some n => .whole n
      | none =>
        if isZeroPadded cs then .text
        else
          match real? cs with
          | some x => .real x
          | none => .text

/-- Whether a text would be read as something else, or taken for a number by others,
if it stood without quotes. -/
def isAmbiguous (cs : List Char) : Bool :=
  match meaning cs with
  | .text => isZeroPadded cs
  | _ => true

end AtlasManifests.Yaml
