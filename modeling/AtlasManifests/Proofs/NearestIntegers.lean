import AtlasManifests.Manifest.Deployment
import Mathlib.Data.Rat.Floor
import Mathlib.Tactic.Linarith

/-! # Rounding to the nearest whole number

A size of disks is rounded to the nearest whole number, a half away from zero, which `IsNearest`
says without any computation.  There is exactly one such number for every fraction
(`isNearest_iff`).  Rounding a number of the binary format by shifting its significand finds it
(`Binary64.round_eq_nearest`), and a word of 64 bits holds it if it has room for the fraction
(`toInt_clampInt64_round`).
-/
namespace AtlasManifests

/-- A whole number is at most a half away from a fraction, and if it is a half away, it is on the
side away from zero. -/
structure IsNearest (q : ℚ) (n : ℤ) : Prop where
  close : |q - n| ≤ 1 / 2
  tie : |q - n| = 1 / 2 → |q| < |(n : ℚ)|

/-- The whole number nearest to a fraction, a half away from zero. -/
def nearest (q : ℚ) : ℤ := if q < 0 then -⌊-q + 1 / 2⌋ else ⌊q + 1 / 2⌋

theorem nearest_of_nonneg {q : ℚ} (h : 0 ≤ q) : nearest q = ⌊q + 1 / 2⌋ := by
  rw [nearest, if_neg (not_lt.mpr h)]

theorem nearest_neg (q : ℚ) : nearest (-q) = -nearest q := by
  rw [nearest, nearest, neg_neg]
  rcases lt_trichotomy q 0 with h | rfl | h
  · rw [if_neg (by linarith), if_pos h, neg_neg]
  · norm_num
  · rw [if_pos (by linarith), if_neg (by linarith)]

theorem isNearest_neg_iff {q : ℚ} {n : ℤ} : IsNearest (-q) (-n) ↔ IsNearest q n := by
  have habs : |-q - ((-n : ℤ) : ℚ)| = |q - n| := by
    rw [Int.cast_neg, ← neg_sub', abs_neg]
  have hn : |((-n : ℤ) : ℚ)| = |(n : ℚ)| := by rw [Int.cast_neg, abs_neg]
  constructor
  · rintro ⟨hclose, htie⟩
    rw [habs, abs_neg, hn] at htie
    exact ⟨habs ▸ hclose, htie⟩
  · rintro ⟨hclose, htie⟩
    refine ⟨habs ▸ hclose, ?_⟩
    rw [habs, abs_neg, hn]
    exact htie

/-- A fraction that is not negative is rounded by going up a half, and down from there to a whole
number. -/
theorem isNearest_iff_of_nonneg {q : ℚ} (hq : 0 ≤ q) {n : ℤ} :
    IsNearest q n ↔ (n : ℚ) ≤ q + 1 / 2 ∧ q + 1 / 2 < n + 1 := by
  constructor
  · rintro ⟨hclose, htie⟩
    obtain ⟨hlow, hhigh⟩ := abs_le.mp hclose
    refine ⟨by linarith, lt_of_le_of_ne (by linarith) fun heq => ?_⟩
    -- a half above a whole number that is not negative, which is then nearer to zero
    have hdiff : q - n = 1 / 2 := by linarith
    have hn : 0 ≤ n := by
      have hlt : (-1 : ℚ) < n := by linarith
      have hlt : -1 < n := by exact_mod_cast hlt
      omega
    have hlt := htie (by rw [hdiff]; norm_num)
    rw [abs_of_nonneg hq, abs_of_nonneg (by exact_mod_cast hn)] at hlt
    linarith
  · rintro ⟨hlow, hhigh⟩
    refine ⟨abs_le.mpr ⟨by linarith, by linarith⟩, fun htie => ?_⟩
    rcases abs_cases (q - n) with ⟨heq, _⟩ | ⟨heq, _⟩
    · linarith
    · have hn : 0 ≤ (n : ℚ) := by linarith
      rw [abs_of_nonneg hq, abs_of_nonneg hn]
      linarith

/-- **One whole number is nearest to a fraction.** -/
theorem isNearest_iff {q : ℚ} {n : ℤ} : IsNearest q n ↔ nearest q = n := by
  have hnonneg {q : ℚ} (hq : 0 ≤ q) {n : ℤ} : IsNearest q n ↔ nearest q = n := by
    rw [isNearest_iff_of_nonneg hq, nearest_of_nonneg hq, Int.floor_eq_iff]
  rcases le_total 0 q with hq | hq
  · exact hnonneg hq
  · rw [← isNearest_neg_iff, hnonneg (neg_nonneg.mpr hq), nearest_neg, neg_inj]

example : [5 / 2, -5 / 2, 12 / 5].map nearest = [3, -3, 2] := by decide +kernel

/-! ## Numbers of the binary format -/

/-- The fraction that a number of the format stands for. -/
def Binary64.value (x : Binary64) : ℚ :=
  (if x.negative then -1 else 1) * (x.significand * 2 ^ x.exponent)

theorem floor_natCast_add_half (n : ℕ) : ⌊(n : ℚ) + 1 / 2⌋ = n := by
  rw [Int.floor_eq_iff]
  push_cast
  constructor <;> linarith

/-- Division by a power of two rounds to nearest if half of the power is added before. -/
theorem floor_div_add_half (s k : ℕ) :
    ⌊(s : ℚ) / 2 ^ k + 1 / 2⌋ = ((2 * s + 2 ^ k) / 2 ^ (k + 1) : ℕ) := by
  have hsum : (s : ℚ) / 2 ^ k + 1 / 2 = ((2 * s + 2 ^ k : ℕ) : ℚ) / (2 ^ (k + 1) : ℕ) := by
    push_cast
    field_simp
    ring
  rw [hsum, Rat.floor_natCast_div_natCast]
  rfl

theorem Binary64.round_eq_nearest (x : Binary64) : x.round = nearest x.value := by
  have hnonneg : (0 : ℚ) ≤ x.significand * 2 ^ x.exponent :=
    mul_nonneg (Nat.cast_nonneg _) (zpow_nonneg (by norm_num) _)
  have hsize : nearest (x.significand * 2 ^ x.exponent) =
      ((if 0 ≤ x.exponent then x.significand * Nat.pow 2 x.exponent.toNat
        else (2 * x.significand + Nat.pow 2 (-x.exponent).toNat) /
          Nat.pow 2 ((-x.exponent).toNat + 1) : ℕ) : ℤ) := by
    rw [nearest_of_nonneg hnonneg]
    split
    · next hexponent =>
      obtain ⟨k, hk⟩ := Int.eq_ofNat_of_zero_le hexponent
      have hwhole := floor_natCast_add_half (x.significand * 2 ^ k)
      push_cast at hwhole
      rw [hk, zpow_natCast, Int.toNat_natCast]
      exact_mod_cast hwhole
    · next hexponent =>
      obtain ⟨k, hk⟩ : ∃ k : ℕ, x.exponent = -k := ⟨(-x.exponent).toNat, by omega⟩
      rw [hk, neg_neg, zpow_neg, zpow_natCast, ← div_eq_mul_inv, floor_div_add_half]
      rfl
  rw [round, value]
  split
  · rw [neg_one_mul, nearest_neg, hsize]
  · rw [one_mul, hsize]

/-- A word of 64 bits has room for a fraction. -/
def FitsInt64 (q : ℚ) : Prop := -2 ^ 63 ≤ q ∧ q ≤ 2 ^ 63 - 1

theorem FitsInt64.nearest_bounds {q : ℚ} (h : FitsInt64 q) :
    -2 ^ 63 ≤ nearest q ∧ nearest q < 2 ^ 63 := by
  obtain ⟨hlow, hhigh⟩ := abs_le.mp (isNearest_iff.mpr rfl : IsNearest q _).close
  have hlow' : (-2 ^ 63 - 1 : ℚ) < nearest q := by linarith [h.1]
  have hlow' : -2 ^ 63 - 1 < nearest q := by exact_mod_cast hlow'
  have hhigh' : (nearest q : ℚ) < 2 ^ 63 := by linarith [h.2]
  exact ⟨by omega, by exact_mod_cast hhigh'⟩

/-- Nothing is cut off a number that a word has room for. -/
theorem toInt_clampInt64_round {x : Binary64} (h : FitsInt64 x.value) :
    (clampInt64 x.round).toInt = nearest x.value := by
  obtain ⟨hlow, hhigh⟩ := h.nearest_bounds
  have hclamp : max (-9223372036854775808) (min (nearest x.value) 9223372036854775807) =
      nearest x.value := by omega
  rw [clampInt64, Binary64.round_eq_nearest, hclamp, Int64.toInt_ofInt_of_le hlow hhigh]

end AtlasManifests
