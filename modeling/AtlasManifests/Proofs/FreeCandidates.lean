import AtlasManifests.Proofs.DisambiguatedNames
import Mathlib.Data.Finset.Card
import Mathlib.Data.Nat.Find

/-! # Claims find a free name

A claim on a name that is in use tries one candidate after the other, without counting them.  It
comes to an end because candidates with different tokens are different names: of one candidate more
than there are names in use for the kind, one is free (`Claims.exists_free`).  The claim returns the
first one that is free, and tries no further (`Claims.search_of_first`, `Claims.claim_ends`).
-/
namespace AtlasManifests

namespace Claims

variable {claims : Claims} {kind name source : String}

/-- The names in use for a kind. -/
def namesOf (claims : Claims) (kind : String) : Finset String :=
  ((claims.taken.filter fun key => key.1 = kind).map (·.2)).toFinset

theorem mem_namesOf : name ∈ claims.namesOf kind ↔ claims.isTaken kind name = true := by
  simp [namesOf, isTaken_iff]

theorem card_namesOf_le (claims : Claims) (kind : String) :
    (claims.namesOf kind).card ≤ claims.taken.length := calc
  (claims.namesOf kind).card ≤ _ := List.toFinset_card_le _
  _ = (claims.taken.filter fun key => key.1 = kind).length := List.length_map _
  _ ≤ claims.taken.length := List.length_filter_le _ _

/-- The seeds of a claim by number: the source, and the source with so many marks behind it. -/
def seed (source : String) (n : Nat) : String := (· ++ "#")^[n] source

/-- The candidates of a claim by number. -/
def trial (name source : String) (n : Nat) : String := candidate name (seed source n)

/-- Candidates with different tokens are different. -/
theorem token_eq_of_trial_eq (hname : Label.IsLabel name.toList) {m n : Nat}
    (h : trial name source m = trial name source n) :
    Label.token (seed source m) = Label.token (seed source n) :=
  Label.eq_of_withSuffix_eq hname hname (Label.isWord_token _) (Label.isWord_token _) h

/-- **Of more candidates than there are names in use one is free**, if their tokens differ. -/
theorem exists_free (hname : Label.IsLabel name.toList)
    (htokens : ((List.range ((claims.namesOf kind).card + 1)).map fun n =>
      Label.token (seed source n)).Nodup) :
    ∃ n ≤ (claims.namesOf kind).card, claims.isTaken kind (trial name source n) = false := by
  by_contra hnone
  set tries := Finset.range ((claims.namesOf kind).card + 1) with htries
  have htaken : ∀ n ∈ tries, trial name source n ∈ claims.namesOf kind := by
    intro n hn
    have hle := Nat.le_of_lt_succ (Finset.mem_range.mp hn)
    rw [mem_namesOf, ← Bool.not_eq_false]
    exact fun hfree => hnone ⟨n, hle, hfree⟩
  have hinj : Set.InjOn (trial name source) tries := by
    intro m hm n hn heq
    have hmem : ∀ i ∈ tries, i ∈ List.range ((claims.namesOf kind).card + 1) := fun i hi =>
      List.mem_range.mpr (Finset.mem_range.mp hi)
    exact List.inj_on_of_nodup_map htokens (hmem m hm) (hmem n hn) (token_eq_of_trial_eq hname heq)
  have hcard := Finset.card_le_card_of_injOn _ htaken hinj
  rw [htries, Finset.card_range] at hcard
  exact absurd hcard (Nat.not_succ_le_self _)

/-- One of the candidates is the first that is free. -/
theorem exists_first_free (hname : Label.IsLabel name.toList)
    (htokens : ((List.range ((claims.namesOf kind).card + 1)).map fun n =>
      Label.token (seed source n)).Nodup) :
    ∃ n ≤ (claims.namesOf kind).card, claims.isTaken kind (trial name source n) = false ∧
      ∀ m < n, claims.isTaken kind (trial name source m) = true := by
  obtain ⟨bound, hbound, hbounded⟩ := exists_free hname htokens
  have hexists : ∃ n, claims.isTaken kind (trial name source n) = false := ⟨bound, hbounded⟩
  exact ⟨Nat.find hexists, (Nat.find_min' hexists hbounded).trans hbound, Nat.find_spec hexists,
    fun m hm => Bool.not_eq_false _ ▸ Nat.find_min hexists hm⟩

/-- The search ends at the first candidate that is free, unless it gives up before. -/
theorem search_of_first {n : Nat} (hfree : claims.isTaken kind (trial name source n) = false)
    (hbefore : ∀ m < n, claims.isTaken kind (trial name source m) = true) (tries : Nat) :
    claims.search kind name tries source =
      if n < tries then some (trial name source n) else none := by
  induction tries generalizing source n with
  | zero => rfl
  | succ tries ih =>
    rw [search]
    cases n with
    | zero =>
      have hfirst : ¬ claims.isTaken kind (candidate name source) = true :=
        Bool.eq_false_iff.mp hfree
      rw [if_pos (Nat.succ_pos tries), if_neg hfirst]
      rfl
    | succ n =>
      have hfirst : claims.isTaken kind (candidate name source) = true := hbefore 0 n.succ_pos
      -- the candidates behind the first one are those of the next seed
      have hfree' : claims.isTaken kind (trial name (source ++ "#") n) = false := hfree
      have hbefore' : ∀ m < n, claims.isTaken kind (trial name (source ++ "#") m) = true :=
        fun m hm => hbefore (m + 1) (Nat.succ_lt_succ hm)
      rw [if_pos hfirst, ih hfree' hbefore']
      simp only [Nat.succ_lt_succ_iff]
      rfl

/-- **A claim on a name in use ends.**  Let there be some number of names in use for its kind, and
let the tokens of as many seeds and one more differ.  Then one of the candidates for these seeds is
free, and the claim returns the first of them that is.  It tries just the candidates up to that one:
with fewer tries it would have found none, and with more it would have found no other. -/
theorem claim_ends (hname : Label.IsLabel name.toList) (htaken : claims.isTaken kind name = true)
    (htokens : ((List.range ((claims.namesOf kind).card + 1)).map fun n =>
      Label.token (seed source n)).Nodup) :
    ∃ n ≤ (claims.namesOf kind).card,
      (∀ m < n, claims.isTaken kind (trial name source m) = true) ∧
      claims.isTaken kind (trial name source n) = false ∧
      claims.claim kind name source =
        some (trial name source n, claims.add kind (trial name source n)) ∧
      ∀ tries, claims.claimWithin tries kind name source =
        if n < tries then some (trial name source n, claims.add kind (trial name source n))
        else none := by
  obtain ⟨n, hle, hfree, hbefore⟩ := exists_first_free hname htokens
  have hwithin : ∀ tries, claims.claimWithin tries kind name source =
      if n < tries then some (trial name source n, claims.add kind (trial name source n))
      else none := by
    intro tries
    rw [claimWithin, if_pos htaken, search_of_first hfree hbefore]
    split <;> rfl
  -- a claim would give up much later
  have hseeds : n < claims.seeds := by
    have hlength := card_namesOf_le claims kind
    rw [seeds]
    omega
  refine ⟨n, hle, hbefore, hfree, ?_, hwithin⟩
  rw [claim_eq_claimWithin, hwithin, if_pos hseeds]

/-- A name that is cut for a token and ends in that same token is its own first candidate, so that
two candidates are tried although only one name is in use for the kind. -/
theorem claim_ends_ownCandidate :
    ∃ name : String, ∃ claims : Claims,
      claims.taken = [("User", "a"), ("Secret", name)] ∧ Label.IsLabel name.toList ∧
      trial name "same" 0 = name ∧ (claims.namesOf "Secret").card = 1 ∧
      ((List.range 2).map fun n => Label.token (seed "same" n)).Nodup ∧
      claims.claim "Secret" name "same" =
        some (trial name "same" 1, claims.add "Secret" (trial name "same" 1)) := by
  let chars := List.replicate 54 'u' ++ '-' :: (Label.token "same").toList
  let name := String.ofList chars
  let claims : Claims := ⟨[("User", "a"), ("Secret", name)]⟩
  have hchars : name.toList = chars := String.toList_ofList
  have hname : Label.IsLabel name.toList := by
    rw [hchars]
    decide +kernel
  have hcard : (claims.namesOf "Secret").card = 1 := rfl
  have htaken : claims.isTaken "Secret" name = true := isTaken_iff.mpr (by simp [claims])
  have htokens : ((List.range 2).map fun n => Label.token (seed "same" n)).Nodup := by
    decide +kernel
  -- what stays before the token is just what stood there before
  have hfirst : trial name "same" 0 = name := by
    refine String.toList_inj.mp ((Label.withSuffix_toList hname (Label.isWord_token _)).trans ?_)
    rw [hchars]
    decide +kernel
  obtain ⟨n, hle, -, hfree, hclaim, -⟩ := claim_ends hname htaken (by rwa [hcard])
  obtain rfl : n = 1 := by
    refine le_antisymm (hcard ▸ hle) (Nat.one_le_iff_ne_zero.mpr ?_)
    rintro rfl
    rw [hfirst, htaken] at hfree
    cases hfree
  exact ⟨name, claims, rfl, hname, hfirst, hcard, htokens, hclaim⟩

end Claims

end AtlasManifests
