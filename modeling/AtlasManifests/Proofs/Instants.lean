import AtlasManifests.Json.Temporal
import Mathlib.Algebra.Group.Nat.Defs
import Mathlib.Data.List.TakeWhile

/-! # Instants as texts

An instant is read back from its text, down to the nanosecond and for every year that dates are
kept for (`Instant.ofText?_text`).  Each number of the text is a run of digits with something else
behind it, so each step of the reader takes exactly what one step of the writer has put there.
-/
namespace AtlasManifests.Instant

variable {ds rest : List Char} {n : Nat}

/-! ## Digits -/

/-- A run of digits that is not empty. -/
structure IsNumeral (ds : List Char) : Prop where
  ne_nil : ds ≠ []
  isDigit : ∀ c ∈ ds, c.isDigit = true

/-- The text does not go on with a digit. -/
def EndsNumeral (rest : List Char) : Prop := rest.takeWhile Char.isDigit = []

theorem isNumeral_padded (width n : Nat) : IsNumeral (padded width n) where
  ne_nil := List.append_ne_nil_of_right_ne_nil _ Nat.toDigits_ne_nil
  isDigit c hc := by
    rcases List.mem_append.mp hc with hc | hc
    · rw [List.eq_of_mem_replicate hc]
      decide
    · exact Nat.isDigit_of_mem_toDigits (by decide) (by decide) hc

theorem value_padded (width n : Nat) : value (padded width n) = n := by
  have hvalue (ds : List Char) : value ds = Nat.ofDigitChars 10 ds 0 :=
    Nat.ofDigitChars_eq_foldl.symm
  rw [hvalue, padded, Nat.ofDigitChars_append, Nat.ofDigitChars_replicate_zero, Nat.mul_zero,
    Nat.ofDigitChars_ten_toDigits]

theorem length_padded {width : Nat} (hwidth : 0 < width) (h : n < 10 ^ width) :
    (padded width n).length = width := by
  have hlength : (Nat.toDigits 10 n).length ≤ width :=
    (Nat.length_toDigits_le_iff (by decide) hwidth).mpr h
  rw [padded, List.length_append, List.length_replicate]
  omega

theorem IsNumeral.takeWhile_append (h : IsNumeral ds) (hrest : EndsNumeral rest) :
    (ds ++ rest).takeWhile Char.isDigit = ds := by
  rw [List.takeWhile_append_of_pos h.isDigit, hrest, List.append_nil]

theorem EndsNumeral.take (h : EndsNumeral rest) (n : Nat) : EndsNumeral (rest.take n) := by
  cases n with
  | zero => rfl
  | succ n =>
    cases rest with
    | nil => rfl
    | cons c rest =>
      rw [EndsNumeral, List.take_succ_cons]
      rw [EndsNumeral] at h
      cases hc : c.isDigit with
      | true => simp [hc] at h
      | false => simp [hc]

/-- A numeral is read to its end. -/
theorem number?_append {most : Nat} (h : IsNumeral ds) (hlength : ds.length ≤ most)
    (hrest : EndsNumeral rest) : number? most (ds ++ rest) = some (value ds, rest) := by
  have htake : ((ds ++ rest).take most).takeWhile Char.isDigit = ds := by
    rw [List.take_append, List.take_of_length_le hlength]
    exact h.takeWhile_append (hrest.take _)
  rw [number?, htake, List.drop_left]
  exact if_neg (List.isEmpty_iff.not.mpr h.ne_nil)

theorem isBlank_of_isDigit {c : Char} (h : c.isDigit = true) : Text.isBlank c = false := by
  have hcode : 48 ≤ c.toNat ∧ c.toNat ≤ 57 := by
    simpa [Char.isDigit, UInt32.le_iff_toNat_le] using h
  simp only [Text.isBlank, Bool.or_eq_false_iff, Bool.and_eq_false_iff, decide_eq_false_iff_not,
    beq_eq_false_iff_ne]
  omega

/-- No blanks stand before a numeral. -/
theorem IsNumeral.trimStart (h : IsNumeral ds) (rest : List Char) :
    Text.trimStart (ds ++ rest) = ds ++ rest := by
  obtain ⟨c, cs, rfl⟩ := List.exists_cons_of_ne_nil h.ne_nil
  rw [List.cons_append, Text.trimStart,
    List.dropWhile_cons_of_neg (by simp [isBlank_of_isDigit (h.isDigit c List.mem_cons_self)])]

/-! ## The parts of a text -/

theorem field?_padded (h : n < 100) (hrest : EndsNumeral rest) :
    field? (padded 2 n ++ rest) = some (n, rest) := by
  have hnumeral := isNumeral_padded 2 n
  rw [field?, hnumeral.trimStart, number?_append hnumeral (length_padded (by decide) h).le hrest,
    value_padded]

theorem separator?_cons {c : Char} (h : Text.isBlank c = false) (rest : List Char) :
    separator? c (c :: rest) = some rest := by
  rw [separator?, Text.trimStart, List.dropWhile_cons_of_neg (by simp [h])]
  exact if_pos rfl

/-- A year of four digits, or one behind a sign. -/
theorem year?_yearText (year : Int) (hrest : EndsNumeral rest) :
    year? (yearText year ++ rest) = some (year, rest) := by
  have hlong (n : Nat) : longNumber? (padded 4 n ++ rest) = some (n, rest) := by
    rw [longNumber?, number?_append (isNumeral_padded 4 n) (by simp) hrest, value_padded]
  unfold yearText
  split
  · next h =>
    have hnumeral := isNumeral_padded 4 year.toNat
    have hlength := length_padded (by decide) (show year.toNat < 10 ^ 4 by omega)
    have hshort : number? 4 (padded 4 year.toNat ++ rest) = some (year.toNat, rest) := by
      rw [number?_append hnumeral hlength.le hrest, value_padded]
    obtain ⟨c, cs, hcs⟩ := List.exists_cons_of_ne_nil hnumeral.ne_nil
    have hc : c.isDigit = true := hnumeral.isDigit c (hcs ▸ List.mem_cons_self)
    rw [year?, hnumeral.trimStart]
    rw [hcs, List.cons_append] at hshort ⊢
    split
    · next heq =>
      rw [(List.cons.inj heq).1] at hc
      exact absurd hc (by decide)
    · next heq =>
      rw [(List.cons.inj heq).1] at hc
      exact absurd hc (by decide)
    · rw [hshort, Option.map_some]
      exact congrArg (fun y => some (y, rest)) (Int.toNat_of_nonneg h.1)
  · split
    · next hneg =>
      have hyear : -(year.natAbs : Int) = year := by omega
      change (longNumber? (padded 4 year.natAbs ++ rest)).map _ = _
      rw [hlong, Option.map_some]
      exact congrArg (fun y => some (y, rest)) hyear
    · next h hpos =>
      have hyear : (year.natAbs : Int) = year := by omega
      change (longNumber? (padded 4 year.natAbs ++ rest)).map _ = _
      rw [hlong, Option.map_some]
      exact congrArg (fun y => some (y, rest)) hyear

/-- A fraction of some digits that stands for a number of nanoseconds. -/
theorem fraction?_padded {width : Nat} (hwidth : 0 < width) (hmost : width ≤ 9)
    (h : n < 10 ^ width) : fraction? ('.' :: padded width n ++ ['Z']) =
      some (n * 10 ^ (9 - width), ['Z']) := by
  have hnumeral := isNumeral_padded width n
  have hlength := length_padded hwidth h
  have hdigits : ((padded width n ++ ['Z']).take 9).takeWhile Char.isDigit = padded width n := by
    rw [List.take_append, List.take_of_length_le (hlength.trans_le hmost)]
    have hend : EndsNumeral ['Z'] := rfl
    exact hnumeral.takeWhile_append (hend.take _)
  have hrest : (padded width n ++ ['Z']).dropWhile Char.isDigit = ['Z'] := by
    rw [List.dropWhile_append_of_pos hnumeral.isDigit]
    rfl
  rw [List.cons_append, fraction?, hdigits, hrest, value_padded, hlength]
  exact if_neg (List.isEmpty_iff.not.mpr hnumeral.ne_nil)

theorem fraction?_fractionText (h : n < 1000000000) :
    fraction? (fractionText n ++ ['Z']) = some (n, ['Z']) := by
  unfold fractionText
  split
  · next hzero =>
    rw [hzero]
    rfl
  split
  · next hmilli =>
    rw [fraction?_padded (by decide) (by decide) (by omega)]
    rw [show n / 1000000 * 10 ^ (9 - 3) = n by omega]
  split
  · next hmicro =>
    rw [fraction?_padded (by decide) (by decide) (by omega)]
    rw [show n / 1000 * 10 ^ (9 - 6) = n by omega]
  · rw [fraction?_padded (by decide) (by decide) (by omega)]
    rw [show n * 10 ^ (9 - 9) = n by omega]

/-! ## Whole texts -/

theorem endsNumeral_cons {c : Char} (h : c.isDigit = false) : EndsNumeral (c :: rest) := by
  rw [EndsNumeral, List.takeWhile_cons_of_neg (by simp [h])]

theorem endsNumeral_fractionText (n : Nat) : EndsNumeral (fractionText n ++ ['Z']) := by
  unfold fractionText
  split
  · rfl
  split
  · exact endsNumeral_cons (by decide)
  split <;> exact endsNumeral_cons (by decide)

/-- The numbers of a date have two digits. -/
theorem date_lt (d : Date) : d.month < 100 ∧ d.day < 100 := by
  have hvalid := d.valid
  simp only [Bool.and_eq_true, decide_eq_true_eq] at hvalid
  have hdays : daysInMonth d.year d.month ≤ 31 ∧
      (0 < daysInMonth d.year d.month → d.month ≤ 12) := by
    simp only [daysInMonth, beq_iff_eq, Bool.or_eq_true, Bool.and_eq_true, decide_eq_true_eq]
    split
    · split <;> omega
    split
    · omega
    split <;> omega
  omega

theorem ofLocal?_utc (t : Instant) :
    ofLocal? t.date t.hour t.minute t.second t.nanosecond 0 = some t := by
  have hvalid := t.valid
  simp only [Bool.and_eq_true, decide_eq_true_eq] at hvalid
  simp only [ofLocal?]
  rw [if_neg (by omega), if_pos (by omega)]
  have hhour : (60 * (t.hour : Int) + t.minute - 0).toNat / 60 = t.hour := by omega
  have hminute : (60 * (t.hour : Int) + t.minute - 0).toNat % 60 = t.minute := by omega
  rw [hhour, hminute, of?_self]

/-- **An instant is read back from its text.** -/
theorem ofText?_text (t : Instant) : ofText? t.text = some t := by
  obtain ⟨hmonth, hday⟩ := date_lt t.date
  have hvalid := t.valid
  simp only [Bool.and_eq_true, decide_eq_true_eq] at hvalid
  obtain ⟨⟨⟨hhour, hminute⟩, hsecond⟩, hnanosecond⟩ := hvalid
  have hyear (rest : List Char) : year? (yearText t.date.year ++ '-' :: rest) =
      some (t.date.year, '-' :: rest) := year?_yearText _ (endsNumeral_cons (by decide))
  have hfield {n : Nat} {c : Char} (rest : List Char) (hn : n < 100) (hc : c.isDigit = false) :
      field? (padded 2 n ++ c :: rest) = some (n, c :: rest) :=
    field?_padded hn (endsNumeral_cons hc)
  have hmonth (rest : List Char) := hfield rest hmonth (show '-'.isDigit = false by decide)
  have hday (rest : List Char) := hfield rest hday (show 'T'.isDigit = false by decide)
  have hhour' (rest : List Char) :=
    hfield rest (show t.hour < 100 by omega) (show ':'.isDigit = false by decide)
  have hminute' (rest : List Char) :=
    hfield rest (show t.minute < 100 by omega) (show ':'.isDigit = false by decide)
  have hsecond' := field?_padded (show t.second < 100 by omega)
    (endsNumeral_fractionText t.nanosecond)
  have hdash := separator?_cons (show Text.isBlank '-' = false by decide)
  have hcolon := separator?_cons (show Text.isBlank ':' = false by decide)
  have hzone : zone? (Text.trimStart ['Z']) = some (0, []) := by decide
  have htrim : (Text.trimStart []).isEmpty = true := rfl
  rw [ofText?, text, String.toList_ofList, secondsText]
  simp only [List.append_assoc, List.cons_append]
  rw [ofChars?]
  -- the parts are read one after the other, each with the separator before it
  refine Option.bind_eq_some_iff.mpr ⟨_, hyear _, ?_⟩
  refine Option.bind_eq_some_iff.mpr ⟨_, hdash _, ?_⟩
  refine Option.bind_eq_some_iff.mpr ⟨_, hmonth _, ?_⟩
  refine Option.bind_eq_some_iff.mpr ⟨_, hdash _, ?_⟩
  refine Option.bind_eq_some_iff.mpr ⟨_, hday _, ?_⟩
  refine Option.bind_eq_some_iff.mpr ⟨_, hhour' _, ?_⟩
  refine Option.bind_eq_some_iff.mpr ⟨_, hcolon _, ?_⟩
  refine Option.bind_eq_some_iff.mpr ⟨_, hminute' _, ?_⟩
  refine Option.bind_eq_some_iff.mpr ⟨_, hcolon _, ?_⟩
  refine Option.bind_eq_some_iff.mpr ⟨_, hsecond', ?_⟩
  refine Option.bind_eq_some_iff.mpr ⟨_, fraction?_fractionText hnanosecond, ?_⟩
  refine Option.bind_eq_some_iff.mpr ⟨_, hzone, ?_⟩
  refine Option.bind_eq_some_iff.mpr ⟨_, t.date.of?_self, ?_⟩
  simp only [htrim, hhour, hminute, decide_true, Bool.and_true, if_true, ofLocal?_utc]

end AtlasManifests.Instant
