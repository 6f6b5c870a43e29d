import AtlasManifests.Label.Basic
import Mathlib.Data.List.Chain
import Mathlib.Data.List.DropRight

/-! # What names are made of

`Label.normalize` spells a text out and cuts the spelling to the length of a name.  This
module says what each of the two steps yields:

* a spelling is a list of letters and digits with single dashes between them
  (`isSpelled_spelling`), and a list of that form is its own spelling
  (`spelling_eq_self`);
* a spelling that is cut is a label (`isLabel_cut`), and so is the token that stands in for a
  text of which nothing can be spelled (`isLabel_token`).

So every name is a label (`isLabel_normalize`), and labels are the names that stay as they are
(`normalize_eq_self`): naming is a projection onto labels (`normalize_isProjection`).
-/
namespace AtlasManifests.Label

/-! ## Lists without two dashes together -/

/-- Two characters that may follow one another. -/
def Apart (a b : Char) : Prop := ¬ (a = '-' ∧ b = '-')

theorem isChain_apart_iff {cs : List Char} : cs.IsChain Apart ↔ ¬ ['-', '-'] <:+: cs := by
  rw [List.isChain_iff_forall_rel_of_append_cons_cons]
  constructor
  · rintro h ⟨before, after, rfl⟩
    exact h (show _ = before ++ '-' :: '-' :: after by simp) ⟨rfl, rfl⟩
  · rintro h a b before after rfl ⟨rfl, rfl⟩
    exact h ⟨before, after, by simp⟩

theorem mem_of_mem_collapse {c : Char} {cs : List Char} (h : c ∈ collapse cs) : c ∈ cs := by
  induction cs with
  | nil => simp [collapse] at h
  | cons d rest ih =>
    rw [collapse] at h
    split at h
    · exact List.mem_cons.mpr (.inl (List.mem_singleton.mp h))
    · rename_i e later hc
      rw [hc] at ih
      split at h
      · exact List.mem_cons_of_mem _ (ih h)
      · rcases List.mem_cons.mp h with rfl | h
        · exact List.mem_cons_self
        · exact List.mem_cons_of_mem _ (ih h)

theorem isChain_collapse (cs : List Char) : (collapse cs).IsChain Apart := by
  induction cs with
  | nil => exact List.isChain_nil
  | cons c rest ih =>
    rw [collapse]
    split
    · exact List.isChain_singleton c
    · rename_i d later hc
      rw [hc] at ih
      split
      · exact ih
      · rename_i hne
        exact List.isChain_cons_cons.mpr ⟨hne, ih⟩

theorem collapse_eq_self {cs : List Char} (h : cs.IsChain Apart) : collapse cs = cs := by
  induction cs with
  | nil => rfl
  | cons c rest ih =>
    rw [collapse, ih h.tail]
    cases rest with
    | nil => rfl
    | cons d rest => exact if_neg (List.isChain_cons_cons.mp h).1

/-! ## Dashes at the ends -/

theorem trimEndDashes_eq_rdropWhile (cs : List Char) :
    trimEndDashes cs = cs.rdropWhile (· == '-') := rfl

theorem trimEndDashes_isPrefix (cs : List Char) : trimEndDashes cs <+: cs :=
  List.rdropWhile_prefix _ cs

theorem getLast?_trimEndDashes (cs : List Char) : (trimEndDashes cs).getLast? ≠ some '-' := by
  intro h
  have hne : trimEndDashes cs ≠ [] := by
    intro hnil
    simp [hnil] at h
  have hlast := List.rdropWhile_last_not (· == '-') cs hne
  rw [List.getLast?_eq_some_getLast hne] at h
  exact hlast (beq_iff_eq.mpr (Option.some.inj h))

theorem trimEndDashes_eq_self {cs : List Char} (h : cs.getLast? ≠ some '-') :
    trimEndDashes cs = cs := by
  rw [trimEndDashes_eq_rdropWhile, List.rdropWhile_eq_self_iff]
  intro hne hlast
  exact h (by rw [List.getLast?_eq_some_getLast hne, beq_iff_eq.mp hlast])

/-- A list that does not begin with a dash begins in the same way without the dashes
after it. -/
theorem head?_trimEndDashes {cs : List Char} (h : cs.head? ≠ some '-') :
    (trimEndDashes cs).head? = cs.head? := by
  cases cs with
  | nil => rfl
  | cons c rest =>
    have hne : trimEndDashes (c :: rest) ≠ [] := by
      intro hnil
      have hall := List.rdropWhile_eq_nil_iff.mp hnil
      exact h (by rw [List.head?_cons, beq_iff_eq.mp (hall c List.mem_cons_self)])
    -- what is left begins a list that begins with the same character
    obtain ⟨d, later, hd⟩ := List.exists_cons_of_ne_nil hne
    have hpre := trimEndDashes_isPrefix (c :: rest)
    rw [hd] at hpre ⊢
    rw [List.head?_cons, List.head?_cons, (List.cons_prefix_cons.mp hpre).1]

/-! ## Spelled lists -/

/-- Letters and digits with single dashes between them, in any number. -/
structure IsSpelled (cs : List Char) : Prop where
  chars : ∀ c ∈ cs, isLabelChar c = true
  head_ne : cs.head? ≠ some '-'
  last_ne : cs.getLast? ≠ some '-'
  chain : cs.IsChain Apart

/-- A label is a spelled list of the length of a name. -/
theorem isLabel_iff {cs : List Char} :
    IsLabel cs ↔ IsSpelled cs ∧ cs ≠ [] ∧ cs.length ≤ maxLength := by
  constructor
  · intro h
    exact ⟨⟨h.chars, h.head_ne, h.last_ne, isChain_apart_iff.mpr h.no_double⟩, h.ne_nil,
      h.length_le⟩
  · rintro ⟨h, hne, hlen⟩
    exact ⟨hne, hlen, h.chars, h.head_ne, h.last_ne, isChain_apart_iff.mp h.chain⟩

theorem isLabel_iff_collapse {cs : List Char} :
    IsLabel cs ↔ cs ≠ [] ∧ cs.length ≤ maxLength ∧ cs.all isLabelChar = true ∧
      cs.head? ≠ some '-' ∧ cs.getLast? ≠ some '-' ∧ collapse cs = cs := by
  rw [List.all_eq_true]
  constructor
  · intro h
    exact ⟨h.ne_nil, h.length_le, h.chars, h.head_ne, h.last_ne,
      collapse_eq_self (isChain_apart_iff.mpr h.no_double)⟩
  · rintro ⟨hne, hlen, hchars, hhead, hlast, hself⟩
    exact ⟨hne, hlen, hchars, hhead, hlast, isChain_apart_iff.mp (hself ▸ isChain_collapse cs)⟩

instance (cs : List Char) : Decidable (IsLabel cs) := decidable_of_iff _ isLabel_iff_collapse.symm

theorem IsLabel.isSpelled {cs : List Char} (h : IsLabel cs) : IsSpelled cs := (isLabel_iff.mp h).1

theorem isSpelled_nil : IsSpelled [] :=
  ⟨by simp, by simp, by simp, List.isChain_nil⟩

/-- Words without dashes are spelled. -/
theorem isSpelled_of_forall {cs : List Char} (h : ∀ c ∈ cs, isLabelChar c = true ∧ c ≠ '-') :
    IsSpelled cs where
  chars c hc := (h c hc).1
  head_ne hd := (h _ (List.mem_of_head? hd)).2 rfl
  last_ne hl := (h _ (List.mem_of_getLast? hl)).2 rfl
  chain := by
    rw [isChain_apart_iff]
    rintro ⟨before, after, rfl⟩
    exact (h '-' (by simp)).2 rfl

/-- What begins a spelled list is spelled, without the dashes after it. -/
theorem IsSpelled.trimEndDashes_of_isPrefix {cs ds : List Char} (h : IsSpelled cs)
    (hp : ds <+: cs) : IsSpelled (trimEndDashes ds) := by
  have hpre := (trimEndDashes_isPrefix ds).trans hp
  refine ⟨fun c hc => h.chars c (hpre.subset hc), ?_, getLast?_trimEndDashes ds,
    h.chain.prefix hpre⟩
  intro hd
  obtain ⟨c, later, hc⟩ : ∃ c later, trimEndDashes ds = c :: later := by
    cases htd : trimEndDashes ds with
    | nil => simp [htd] at hd
    | cons c later => exact ⟨c, later, rfl⟩
  rw [hc] at hd hpre
  obtain ⟨after, rfl⟩ := hpre
  exact h.head_ne hd

theorem all_isLabelChar_of_mem_words :
    ∀ entry ∈ words, entry.2.toList.all isLabelChar = true := by decide

theorem isLabelChar_of_mem_spell {c d : Char} (h : d ∈ spell c) : isLabelChar d = true := by
  unfold spell at h
  split at h
  · rename_i hc
    rw [List.mem_singleton.mp h]
    exact hc
  · split at h
    · simp at h
    · rw [List.mem_singleton.mp h]
      decide
    · rename_i word hne hword
      obtain ⟨before, after, heq, _⟩ := List.lookup_eq_some_iff.mp hword
      have hchars := List.all_eq_true.mp (all_isLabelChar_of_mem_words (c, word) (heq ▸ by simp))
      rcases List.mem_append.mp h with h | h
      · rcases List.mem_cons.mp h with rfl | h
        · decide
        · exact hchars d h
      · rw [List.mem_singleton.mp h]
        decide

/-- **Spellings are spelled**, whatever the text. -/
theorem isSpelled_spelling (cs : List Char) : IsSpelled (spelling cs) := by
  set spelled := (Text.lower cs).flatMap spell with hs
  have hchars : ∀ c ∈ collapse spelled, isLabelChar c = true := by
    intro c hc
    obtain ⟨d, _, hd⟩ := List.mem_flatMap.mp (mem_of_mem_collapse hc)
    exact isLabelChar_of_mem_spell hd
  have hstart : ((collapse spelled).dropWhile (· == '-')).head? ≠ some '-' := by
    intro h
    have hnot := List.head?_dropWhile_not (· == '-') (collapse spelled)
    rw [h] at hnot
    simp at hnot
  have hsuffix := List.dropWhile_suffix (l := collapse spelled) (· == '-')
  refine ⟨?_, ?_, getLast?_trimEndDashes _, ?_⟩
  · intro c hc
    exact hchars c (hsuffix.subset ((trimEndDashes_isPrefix _).subset hc))
  · rw [spelling, trimDashes, ← hs, head?_trimEndDashes hstart]
    exact hstart
  · have hchain := (isChain_collapse spelled).suffix hsuffix
    exact hchain.prefix (trimEndDashes_isPrefix _)

/-! ## Spelled lists are their own spelling -/

theorem isLabelChar_iff {c : Char} :
    isLabelChar c = true ↔
      97 ≤ c.toNat ∧ c.toNat ≤ 122 ∨ 48 ≤ c.toNat ∧ c.toNat ≤ 57 ∨ c = '-' := by
  simp only [isLabelChar, Char.le_def, UInt32.le_iff_toNat_le, Bool.or_eq_true, Bool.and_eq_true,
    decide_eq_true_eq, beq_iff_eq, or_assoc]
  rfl

theorem toNat_lt_of_isLabelChar {c : Char} (h : isLabelChar c = true) : c.toNat < 128 := by
  rcases isLabelChar_iff.mp h with h | h | rfl
  · omega
  · omega
  · decide

theorem lowerLetter_of_isLabelChar {c : Char} (h : isLabelChar c = true) :
    Text.lowerLetter c = c := by
  have hupper : ¬ (c.val ≥ 'A'.val ∧ c.val ≤ 'Z'.val) := by
    rintro ⟨hA, hZ⟩
    have hA' : 65 ≤ c.toNat := UInt32.le_iff_toNat_le.mp hA
    have hZ' : c.toNat ≤ 90 := UInt32.le_iff_toNat_le.mp hZ
    rcases isLabelChar_iff.mp h with h | h | rfl
    · omega
    · omega
    · revert hA'; decide
  exact (Text.lowerLetter_of_ascii (toNat_lt_of_isLabelChar h)).trans (dif_neg hupper)

theorem lowerAfter_eq_self {cs : List Char} (h : ∀ c ∈ cs, isLabelChar c = true)
    (before : List Char) : Text.lowerAfter before cs = cs := by
  induction cs generalizing before with
  | nil => rfl
  | cons c rest ih =>
    have hc := h c List.mem_cons_self
    -- the two letters that are lowered by their own rules
    have hsigma : c ≠ 'Σ' := by
      rintro rfl
      revert hc
      decide
    have hdotted : c ≠ 'İ' := by
      rintro rfl
      revert hc
      decide
    rw [Text.lowerAfter, if_neg hsigma, if_neg hdotted, lowerLetter_of_isLabelChar hc,
      ih fun d hd => h d (List.mem_cons_of_mem _ hd)]
    rfl

theorem flatMap_spell_eq_self {cs : List Char} (h : ∀ c ∈ cs, isLabelChar c = true) :
    cs.flatMap spell = cs := by
  induction cs with
  | nil => rfl
  | cons c rest ih =>
    rw [List.flatMap_cons, ih fun d hd => h d (List.mem_cons_of_mem _ hd), spell,
      if_pos (h c List.mem_cons_self)]
    rfl

theorem spelling_eq_self {cs : List Char} (h : IsSpelled cs) : spelling cs = cs := by
  have hstart : cs.dropWhile (· == '-') = cs := by
    cases cs with
    | nil => rfl
    | cons c rest =>
      have hc : (c == '-') = false := beq_eq_false_iff_ne.mpr fun hc => h.head_ne (by rw [hc]; rfl)
      rw [List.dropWhile_cons, hc]
      rfl
  rw [spelling, Text.lower, lowerAfter_eq_self h.chars, flatMap_spell_eq_self h.chars,
    collapse_eq_self h.chain, trimDashes, hstart, trimEndDashes_eq_self h.last_ne]

/-! ## Cutting -/

/-- What is left of a list of characters where there is room for so many. -/
def fit (room : Nat) (cs : List Char) : List Char :=
  if room < cs.length then trimEndDashes (cs.take room) else cs

theorem cut_eq_fit (cs : List Char) : cut cs = fit maxLength cs := rfl

@[simp] theorem fit_nil (n : Nat) : fit n [] = [] := if_neg (by simp)

theorem fit_of_length_le {n : Nat} {cs : List Char} (h : cs.length ≤ n) : fit n cs = cs :=
  if_neg (Nat.not_lt.mpr h)

theorem fit_of_lt_length {n : Nat} {cs : List Char} (h : n < cs.length) :
    fit n cs = trimEndDashes (cs.take n) := if_pos h

theorem length_fit_le (n : Nat) (cs : List Char) : (fit n cs).length ≤ n := by
  rw [fit]
  split
  · exact (trimEndDashes_isPrefix _).length_le.trans (List.length_take_le _ _)
  · exact Nat.le_of_not_lt ‹_›

theorem fit_prefix (n : Nat) (cs : List Char) : fit n cs <+: cs := by
  rw [fit]
  split
  · exact (trimEndDashes_isPrefix _).trans (List.take_prefix n cs)
  · exact List.prefix_refl cs

theorem IsSpelled.fit {cs : List Char} (h : IsSpelled cs) (n : Nat) : IsSpelled (fit n cs) := by
  rw [Label.fit]
  split
  · have htake := List.take_prefix n cs
    exact h.trimEndDashes_of_isPrefix htake
  · exact h

/-- Where there is any room, a list that does not begin with a dash keeps its first
character. -/
theorem head?_fit {n : Nat} {cs : List Char} (h : cs.head? ≠ some '-') (hn : 0 < n) :
    (fit n cs).head? = cs.head? := by
  have htake : (cs.take n).head? = cs.head? := by
    rw [List.head?_take, if_neg (Nat.ne_of_gt hn)]
  rw [fit]
  split
  · rw [head?_trimEndDashes (htake ▸ h), htake]
  · rfl

theorem fit_ne_nil {n : Nat} {cs : List Char} (h : cs.head? ≠ some '-') (hne : cs ≠ [])
    (hn : 0 < n) : fit n cs ≠ [] := by
  intro hnil
  have hhead := head?_fit h hn
  rw [hnil] at hhead
  exact hne (List.head?_eq_none_iff.mp hhead.symm)

/-- **What there is room for of a spelling is a label**, unless there is nothing or no room. -/
theorem isLabel_fit {n : Nat} {cs : List Char} (h : IsSpelled cs) (hne : cs ≠ []) (hn : 0 < n)
    (hmax : n ≤ maxLength) : IsLabel (fit n cs) :=
  isLabel_iff.mpr ⟨h.fit n, fit_ne_nil h.head_ne hne hn, (length_fit_le n cs).trans hmax⟩

/-- **A spelling that is cut is a label**, unless it is empty. -/
theorem isLabel_cut {cs : List Char} (h : IsSpelled cs) (hne : cs ≠ []) : IsLabel (cut cs) := by
  rw [cut_eq_fit]
  exact isLabel_fit h hne (by decide) (Nat.le_refl _)

theorem cut_eq_self {cs : List Char} (h : cs.length ≤ maxLength) : cut cs = cs := by
  rw [cut_eq_fit, fit_of_length_le h]

/-! ## Names -/

theorem isLabelChar_of_mem_hexText {c : Char} {bytes : List UInt8} (h : c ∈ Sha256.hexText bytes) :
    isLabelChar c = true ∧ c ≠ '-' := by
  have hdigit : ∀ n : Nat, isLabelChar (Sha256.hexDigit n) = true ∧ Sha256.hexDigit n ≠ '-' := by
    intro n
    rcases Nat.lt_or_ge n 16 with hn | hn
    · exact (by decide : ∀ n < 16, isLabelChar (Sha256.hexDigit n) = true ∧
        Sha256.hexDigit n ≠ '-') n hn
    · have hzero : Sha256.hexDigit n = '0' := by
        rw [Sha256.hexDigit, List.getD_eq_getElem?_getD, List.getElem?_eq_none hn]
        rfl
      rw [hzero]
      decide
  obtain ⟨byte, _, hc⟩ := List.mem_flatMap.mp h
  rcases List.mem_pair.mp hc with rfl | rfl
  · exact hdigit _
  · exact hdigit _

theorem token_toList (source : String) :
    (token source).toList =
      (Sha256.hexText (Sha256.digest source.toUTF8.toList)).take tokenLength :=
  String.toList_ofList

theorem length_token (source : String) : (token source).toList.length = tokenLength := by
  rw [token_toList, List.length_take, Sha256.hexText_length, Sha256.digest_length]
  rfl

theorem isLabelChar_of_mem_token {c : Char} {source : String} (h : c ∈ (token source).toList) :
    isLabelChar c = true ∧ c ≠ '-' := by
  rw [token_toList] at h
  exact isLabelChar_of_mem_hexText (List.mem_of_mem_take h)

/-- **A token is a label.** -/
theorem isLabel_token (source : String) : IsLabel (token source).toList := by
  have hlen := length_token source
  refine isLabel_iff.mpr ⟨isSpelled_of_forall fun c => isLabelChar_of_mem_token, ?_, ?_⟩
  · intro hnil
    rw [hnil] at hlen
    exact absurd hlen (by decide)
  · rw [hlen]
    decide

theorem normalize_of_spelling_nil {s : String} (h : spelling s.toList = []) :
    normalize s = token s := by
  rw [normalize, h]

theorem normalize_of_spelling_ne_nil {s : String} (h : spelling s.toList ≠ []) :
    normalize s = String.ofList (cut (spelling s.toList)) := by
  rw [normalize]
  split
  · exact absurd ‹_› h
  · rfl

/-- **Every name is a label.** -/
theorem isLabel_normalize (s : String) : IsLabel (normalize s).toList := by
  by_cases h : spelling s.toList = []
  · rw [normalize_of_spelling_nil h]
    exact isLabel_token s
  · rw [normalize_of_spelling_ne_nil h, String.toList_ofList]
    exact isLabel_cut (isSpelled_spelling _) h

theorem normalize_ne_empty (s : String) : normalize s ≠ "" := by
  intro h
  have hlabel := (isLabel_normalize s).ne_nil
  rw [h] at hlabel
  exact hlabel rfl

/-- A spelled text is only cut. -/
theorem normalize_of_isSpelled {s : String} (h : IsSpelled s.toList) (hne : s.toList ≠ []) :
    normalize s = String.ofList (cut s.toList) := by
  have hs := spelling_eq_self h
  rw [normalize_of_spelling_ne_nil (by rw [hs]; exact hne), hs]

/-- **A label is its own name.** -/
theorem normalize_eq_self {s : String} (h : IsLabel s.toList) : normalize s = s := by
  rw [normalize_of_isSpelled h.isSpelled h.ne_nil, cut_eq_self h.length_le, String.ofList_toList]

/-- **Naming is a projection onto labels.**  Every text has a label for its name; the texts that are
their own names are exactly the labels.  So a name is its own name, and every label is the name of
something. -/
theorem normalize_isProjection :
    (∀ s, IsLabel (normalize s).toList) ∧ (∀ s, normalize s = s ↔ IsLabel s.toList) ∧
      (∀ s, normalize (normalize s) = normalize s) ∧
      ∀ s, IsLabel s.toList ↔ ∃ candidate, normalize candidate = s := by
  have hself : ∀ s, normalize (normalize s) = normalize s :=
    fun s => normalize_eq_self (isLabel_normalize s)
  refine ⟨isLabel_normalize, fun s => ⟨?_, normalize_eq_self⟩, hself, fun s => ⟨?_, ?_⟩⟩
  · intro h
    rw [← h]
    exact isLabel_normalize s
  · intro h
    exact ⟨s, normalize_eq_self h⟩
  · rintro ⟨candidate, rfl⟩
    exact isLabel_normalize candidate

-- the cut uncovers a dash
example : normalize (String.ofList (List.replicate 62 'A') ++ " & B") =
    String.ofList (List.replicate 62 'a') := by decide +kernel

end AtlasManifests.Label
