import AtlasManifests.Proofs.Labels

/-! # Names made of several texts

`Label.normalizeParts` joins the names of several texts by dashes and cuts the result once more.
Joining keeps the form of a spelling (`isSpelled_joined`), so the second pass does nothing but
cut (`normalizeParts_of_joined_ne_nil`), and what is left of the texts behind the first one is
what there is room for (`normalizeParts_cons`).  Two names that begin with one text are therefore
equal exactly if the same is left of the texts behind it (`normalizeParts_cons_eq_iff`).

What has been cut once is cut at the same place again: nothing fits behind a name that was too
long, since a label holds no two dashes together (`cut_glue_cut`).  So it does not matter whether
some of the texts are named before they are joined with the others (`normalizeParts_nested`).

A word that is put behind a name is never cut (`withSuffix_toList`), so that names with different
words differ (`eq_of_withSuffix_eq`).
-/
namespace AtlasManifests.Label

/-! ## Joining -/

/-- Two lists with a dash between them, unless nothing comes after it. -/
def glue (front : List Char) : List Char → List Char
  | [] => front
  | c :: rest => front ++ '-' :: c :: rest

@[simp] theorem glue_nil (front : List Char) : glue front [] = front := rfl

theorem glue_of_ne_nil {front back : List Char} (h : back ≠ []) :
    glue front back = front ++ '-' :: back := by
  cases back with
  | nil => exact absurd rfl h
  | cons c rest => rfl

theorem glue_ne_nil {front : List Char} (h : front ≠ []) (back : List Char) :
    glue front back ≠ [] := by
  cases back with
  | nil => exact h
  | cons c rest => simp [glue]

theorem glue_assoc {front middle : List Char} (h : middle ≠ []) (back : List Char) :
    glue front (glue middle back) = glue (glue front middle) back := by
  rw [glue_of_ne_nil (glue_ne_nil h back), glue_of_ne_nil h]
  cases back with
  | nil => rfl
  | cons c rest => simp [glue]

theorem prefix_glue (front back : List Char) : front <+: glue front back := by
  cases back with
  | nil => exact List.prefix_refl front
  | cons c rest => exact List.prefix_append front _

theorem suffix_glue (front back : List Char) : back <:+ glue front back := by
  cases back with
  | nil => exact List.nil_suffix
  | cons c rest => exact ⟨front ++ ['-'], by simp [glue]⟩

theorem glue_right_inj {front back back' : List Char} :
    glue front back = glue front back' ↔ back = back' := by
  refine ⟨fun h => ?_, fun h => h ▸ rfl⟩
  cases back with
  | nil =>
    cases back' with
    | nil => rfl
    | cons d later => simpa [glue] using congrArg List.length h
  | cons c rest =>
    cases back' with
    | nil => simpa [glue] using congrArg List.length h
    | cons d later => simpa [glue] using h

theorem IsSpelled.glue {front back : List Char} (hf : IsSpelled front) (hne : front ≠ [])
    (hb : IsSpelled back) : IsSpelled (glue front back) := by
  by_cases hnil : back = []
  · rw [hnil]
    exact hf
  · rw [glue_of_ne_nil hnil]
    refine ⟨?_, ?_, ?_, ?_⟩
    · intro c hc
      rcases List.mem_append.mp hc with hc | hc
      · exact hf.chars c hc
      · rcases List.mem_cons.mp hc with rfl | hc
        · decide
        · exact hb.chars c hc
    · rw [List.head?_append_of_ne_nil _ hne]
      exact hf.head_ne
    · rw [List.getLast?_append_of_ne_nil _ (by simp), List.getLast?_cons_of_ne_nil hnil]
      exact hb.last_ne
    · -- a dash is apart from both of its neighbours, since neither end is a dash
      refine List.isChain_append.mpr ⟨hf.chain, ?_, ?_⟩
      · refine List.isChain_cons.mpr ⟨?_, hb.chain⟩
        rintro c hc ⟨_, rfl⟩
        exact hb.head_ne hc
      · rintro c hc d hd ⟨rfl, _⟩
        exact hf.last_ne hc

/-- The names of the texts that are not empty. -/
def labels (parts : List String) : List (List Char) :=
  (parts.filter fun part => !part.isEmpty).map fun part => (normalize part).toList

/-- The names of the texts that are not empty, joined by dashes and not cut. -/
def joined (parts : List String) : List Char := ['-'].intercalate (labels parts)

theorem isLabel_of_mem_labels {label : List Char} {parts : List String} (h : label ∈ labels parts) :
    IsLabel label := by
  obtain ⟨part, _, rfl⟩ := List.mem_map.mp h
  exact isLabel_normalize part

theorem labels_cons_empty (parts : List String) : labels ("" :: parts) = labels parts := by
  simp [labels]

theorem labels_cons {part : String} (h : part ≠ "") (parts : List String) :
    labels (part :: parts) = (normalize part).toList :: labels parts := by
  simp [labels, h]

theorem labels_append (parts parts' : List String) :
    labels (parts ++ parts') = labels parts ++ labels parts' := by
  simp [labels]

theorem joined_cons_empty (parts : List String) : joined ("" :: parts) = joined parts := by
  rw [joined, labels_cons_empty, joined]

theorem intercalate_eq_nil_iff {ls : List (List Char)} (h : ∀ l ∈ ls, l ≠ []) :
    ['-'].intercalate ls = [] ↔ ls = [] := by
  cases ls with
  | nil => simp
  | cons l rest =>
    have hl := h l List.mem_cons_self
    cases rest with
    | nil => simpa using hl
    | cons m rest => simp

theorem joined_eq_nil_iff {parts : List String} : joined parts = [] ↔ labels parts = [] :=
  intercalate_eq_nil_iff fun _ hl => (isLabel_of_mem_labels hl).ne_nil

theorem joined_ne_nil_iff {parts : List String} :
    joined parts ≠ [] ↔ ∃ part ∈ parts, part ≠ "" := by
  rw [ne_eq, joined_eq_nil_iff, labels, List.map_eq_nil_iff, List.filter_eq_nil_iff]
  simp

theorem joined_cons {part : String} (h : part ≠ "") (parts : List String) :
    joined (part :: parts) = glue (normalize part).toList (joined parts) := by
  rw [joined, labels_cons h]
  by_cases hnil : labels parts = []
  · rw [hnil, joined_eq_nil_iff.mpr hnil]
    simp
  · rw [List.intercalate_cons_of_ne_nil hnil, ← joined,
      glue_of_ne_nil fun hj => hnil (joined_eq_nil_iff.mp hj)]
    simp

/-- The joined names of two lists are those of both, glued together. -/
theorem joined_append {parts : List String} (h : joined parts ≠ []) (parts' : List String) :
    joined (parts ++ parts') = glue (joined parts) (joined parts') := by
  induction parts with
  | nil => exact absurd rfl h
  | cons part rest ih =>
    rw [List.cons_append]
    by_cases hpart : part = ""
    · rw [hpart, joined_cons_empty] at h ⊢
      rw [joined_cons_empty]
      exact ih h
    · rw [joined_cons hpart, joined_cons hpart]
      by_cases hrest : joined rest = []
      · -- the first part is the only one that shows
        rw [hrest, glue_nil, joined, labels_append, joined_eq_nil_iff.mp hrest, List.nil_append,
          joined]
      · rw [ih hrest, glue_assoc hrest]

/-- Every text that is not empty contributes its whole name. -/
theorem infix_joined {part : String} {parts : List String} (h : part ∈ parts) (hne : part ≠ "") :
    (normalize part).toList <:+: joined parts := by
  induction parts with
  | nil => cases h
  | cons head rest ih =>
    by_cases hhead : head = ""
    · rw [hhead, joined_cons_empty]
      exact ih ((List.mem_cons.mp h).resolve_left fun heq => hne (heq.trans hhead))
    · rw [joined_cons hhead]
      rcases List.mem_cons.mp h with rfl | h
      · exact (prefix_glue _ _).isInfix
      · exact (ih h).trans (suffix_glue _ _).isInfix

theorem isSpelled_joined (parts : List String) : IsSpelled (joined parts) := by
  induction parts with
  | nil => exact isSpelled_nil
  | cons part rest ih =>
    by_cases h : part = ""
    · rw [h, joined_cons_empty]
      exact ih
    · rw [joined_cons h]
      exact (isLabel_normalize part).isSpelled.glue (isLabel_normalize part).ne_nil ih

theorem toList_intercalate_normalize (parts : List String) :
    ("-".intercalate ((parts.filter fun part => !part.isEmpty).map normalize)).toList =
      joined parts := by
  rw [String.toList_intercalate, joined, labels, List.map_map]
  rfl

/-- The name of several texts is their joined names, cut. -/
theorem normalizeParts_of_joined_ne_nil {parts : List String} (h : joined parts ≠ []) :
    normalizeParts parts = String.ofList (cut (joined parts)) := by
  have htext := toList_intercalate_normalize parts
  rw [normalizeParts, normalize_of_isSpelled (htext ▸ isSpelled_joined parts) (htext ▸ h), htext]

theorem toList_normalizeParts {parts : List String} (h : joined parts ≠ []) :
    (normalizeParts parts).toList = cut (joined parts) := by
  rw [normalizeParts_of_joined_ne_nil h, String.toList_ofList]

theorem isLabel_normalizeParts (parts : List String) : IsLabel (normalizeParts parts).toList := by
  rw [normalizeParts]
  exact isLabel_normalize _

theorem normalizeParts_ne_empty (parts : List String) : normalizeParts parts ≠ "" := by
  rw [normalizeParts]
  exact normalize_ne_empty _

theorem isLabel_withSuffix (name suffix : String) : IsLabel (withSuffix name suffix).toList :=
  isLabel_normalizeParts _

/-! ## What there is room for -/

/-- How many characters a name leaves to what comes behind it and a dash. -/
def room (front : List Char) : Nat := maxLength - (front.length + 1)

theorem trimEndDashes_append_dash {front back : List Char} (h : front.getLast? ≠ some '-') :
    trimEndDashes (front ++ '-' :: back) = glue front (trimEndDashes back) := by
  have hrev : (front ++ '-' :: back).reverse = back.reverse ++ '-' :: front.reverse := by simp
  rw [trimEndDashes, hrev, List.dropWhile_append]
  by_cases hnil : back.reverse.dropWhile (· == '-') = []
  · have hback : trimEndDashes back = [] := by rw [trimEndDashes, hnil]; rfl
    rw [hnil, hback, List.isEmpty_nil, if_pos rfl, List.dropWhile_cons, if_pos (by rfl)]
    exact trimEndDashes_eq_self h
  · rw [if_neg (by simpa using hnil), glue_of_ne_nil (by simpa [trimEndDashes] using hnil),
      trimEndDashes]
    simp

/-- **Cutting takes from the back only**: a name stays whole, and what is left behind it is what
there is room for. -/
theorem cut_glue {front back : List Char} (hf : IsLabel front) :
    cut (glue front back) = glue front (fit (room front) back) := by
  have hlen := hf.length_le
  by_cases hnil : back = []
  · rw [hnil, fit_nil]
    exact cut_eq_self hlen
  have hback : 0 < back.length := List.length_pos_iff.mpr hnil
  rw [glue_of_ne_nil hnil, cut, fit, room]
  have htotal : (front ++ '-' :: back).length = front.length + 1 + back.length := by
    rw [List.length_append, List.length_cons]
    omega
  rw [htotal]
  by_cases hfits : maxLength < front.length + 1 + back.length
  · rw [if_pos hfits, if_pos (by omega), List.take_append, List.take_of_length_le hlen]
    by_cases hfull : front.length = maxLength
    · -- no room is left, not even for the dash
      rw [hfull, Nat.sub_self, List.take_zero, List.append_nil,
        trimEndDashes_eq_self hf.last_ne, Nat.sub_eq_zero_of_le (Nat.le_succ _), List.take_zero]
      rfl
    · obtain ⟨k, hk⟩ : ∃ k, maxLength - front.length = k + 1 :=
        ⟨maxLength - front.length - 1, by omega⟩
      rw [hk, List.take_succ_cons, trimEndDashes_append_dash hf.last_ne,
        show maxLength - (front.length + 1) = k by omega]
  · rw [if_neg hfits, if_neg (by omega), glue_of_ne_nil hnil]

/-- What a name shows of some texts behind a first one.  Behind the empty text it shows all of
their own name. -/
def behind (first : String) (parts : List String) : List Char :=
  if first = "" then (normalizeParts parts).toList
  else fit (room (normalize first).toList) (joined parts)

theorem normalizeParts_cons {first : String} (h : first ≠ "") (parts : List String) :
    (normalizeParts (first :: parts)).toList =
      glue (normalize first).toList (behind first parts) := by
  have hfirst := isLabel_normalize first
  have hne : joined (first :: parts) ≠ [] := by
    rw [joined_cons h]
    cases joined parts with
    | nil => exact hfirst.ne_nil
    | cons c rest => simp [glue]
  rw [toList_normalizeParts hne, joined_cons h, cut_glue hfirst, behind, if_neg h]

theorem normalizeParts_cons_empty (parts : List String) :
    normalizeParts ("" :: parts) = normalizeParts parts := by
  rw [normalizeParts, normalizeParts, List.filter_cons_of_neg (by simp)]

/-- **Names that begin with one text differ exactly if they show different things behind it.** -/
theorem normalizeParts_cons_eq_iff {first : String} {parts parts' : List String} :
    normalizeParts (first :: parts) = normalizeParts (first :: parts') ↔
      behind first parts = behind first parts' := by
  by_cases h : first = ""
  · rw [h, normalizeParts_cons_empty, normalizeParts_cons_empty, behind, behind, if_pos rfl,
      if_pos rfl, String.toList_inj]
  · rw [← String.toList_inj, normalizeParts_cons h, normalizeParts_cons h, glue_right_inj]

/-! ## Names within names -/

/-- Without double dashes there is one dash at most to take from the end. -/
theorem length_le_trimEndDashes {cs : List Char} (h : cs.IsChain Apart) :
    cs.length ≤ (trimEndDashes cs).length + 1 := by
  by_cases hlast : cs.getLast? = some '-'
  · obtain ⟨front, rfl⟩ := List.getLast?_eq_some_iff.mp hlast
    have hfront : front.getLast? ≠ some '-' := by
      intro hdash
      exact (List.isChain_append.mp h).2.2 '-' hdash '-' rfl ⟨rfl, rfl⟩
    have htrim : trimEndDashes (front ++ ['-']) = front := trimEndDashes_append_dash hfront
    rw [htrim, List.length_append, List.length_singleton]
  · rw [trimEndDashes_eq_self hlast]
    exact Nat.le_succ _

theorem cut_eq_trimEndDashes {cs : List Char} (h : cs.getLast? ≠ some '-') :
    cut cs = trimEndDashes (cs.take maxLength) := by
  rw [cut]
  split
  · rfl
  · rw [List.take_of_length_le (Nat.le_of_not_lt ‹_›), trimEndDashes_eq_self h]

/-- A spelling that does not fit leaves no room behind its cut. -/
theorem room_cut {cs : List Char} (h : IsSpelled cs) (hlen : maxLength < cs.length) :
    room (cut cs) = 0 := by
  have hchain : (cs.take maxLength).IsChain Apart :=
    h.chain.prefix (List.take_prefix maxLength cs)
  have htrim := length_le_trimEndDashes hchain
  rw [List.length_take_of_le (Nat.le_of_lt hlen)] at htrim
  rw [room, cut, if_pos hlen]
  omega

theorem fit_zero (cs : List Char) : fit 0 cs = [] :=
  List.length_eq_zero_iff.mp (Nat.le_zero.mp (length_fit_le 0 cs))

/-- **Cutting before and after glueing is cutting after it.** -/
theorem cut_glue_cut {front : List Char} (h : IsSpelled front) (hne : front ≠ [])
    (back : List Char) : cut (glue (cut front) back) = cut (glue front back) := by
  by_cases hlen : maxLength < front.length
  · -- nothing shows behind a front that does not fit, whether it is cut first or not
    have hprefix : front.take maxLength <+: glue front back :=
      (List.take_prefix maxLength front).trans (prefix_glue front back)
    have htake : front.take maxLength = (glue front back).take maxLength := by
      have heq := List.prefix_iff_eq_take.mp hprefix
      rwa [List.length_take_of_le (Nat.le_of_lt hlen)] at heq
    have hlong : maxLength < (glue front back).length :=
      hlen.trans_le (prefix_glue front back).length_le
    rw [cut_glue (isLabel_cut h hne), room_cut h hlen, fit_zero, glue_nil, cut, if_pos hlen,
      cut, if_pos hlong, ← htake]
  · rw [cut_eq_self (Nat.le_of_not_lt hlen)]

/-- **Nesting does not matter**: some texts of which one is not empty may be named first, and the
name joined with what follows.  Their name is the joined names of those that are not empty, cut to
the length of a name and without a dash at its end, so that each of them shows with its whole name
if there is room for all. -/
theorem normalizeParts_nested {parts : List String} (h : ∃ part ∈ parts, part ≠ "") :
    (∀ more, normalizeParts (normalizeParts parts :: more) = normalizeParts (parts ++ more)) ∧
      (normalizeParts parts).toList = trimEndDashes ((joined parts).take maxLength) ∧
      ((joined parts).length ≤ maxLength →
        (normalizeParts parts).toList = joined parts ∧
          ∀ part ∈ parts, part ≠ "" →
            (normalize part).toList <:+: (normalizeParts parts).toList) := by
  have hne := joined_ne_nil_iff.mpr h
  have hname := toList_normalizeParts hne
  refine ⟨fun more => ?_, ?_, fun hfits => ?_⟩
  · have hself : normalize (normalizeParts parts) = normalizeParts parts :=
      normalize_eq_self (isLabel_normalizeParts parts)
    have hnested : joined (normalizeParts parts :: more) =
        glue (cut (joined parts)) (joined more) := by
      rw [joined_cons (normalizeParts_ne_empty parts), hself, hname]
    have hflat : joined (parts ++ more) = glue (joined parts) (joined more) :=
      joined_append hne more
    refine String.toList_inj.mp ?_
    calc (normalizeParts (normalizeParts parts :: more)).toList
        = cut (joined (normalizeParts parts :: more)) :=
          toList_normalizeParts (joined_ne_nil_iff.mpr
            ⟨_, List.mem_cons_self, normalizeParts_ne_empty parts⟩)
      _ = cut (glue (joined parts) (joined more)) := by
          rw [hnested, cut_glue_cut (isSpelled_joined parts) hne]
      _ = (normalizeParts (parts ++ more)).toList := by
          rw [toList_normalizeParts (hflat ▸ glue_ne_nil hne _), hflat]
  · rw [hname, cut_eq_trimEndDashes (isSpelled_joined parts).last_ne]
  · rw [hname, cut_eq_self hfits]
    exact ⟨rfl, fun part hpart hpartne => infix_joined hpart hpartne⟩

/-- The names of three texts, one of which is empty, are cut right behind the dash between the
other two, before and after a fourth one is joined with them. -/
theorem normalizeParts_nested_dash :
    normalizeParts
        [normalizeParts ["", String.ofList (List.replicate 62 'A'), "用户"], "orders"] =
      normalizeParts ["", String.ofList (List.replicate 62 'A'), "用户", "orders"] ∧
    (normalizeParts ["", String.ofList (List.replicate 62 'A'), "用户"]).toList =
      List.replicate 62 'a' := by
  have hpart : ∃ part ∈ ["", String.ofList (List.replicate 62 'A'), "用户"], part ≠ "" :=
    ⟨"用户", by simp, by decide⟩
  obtain ⟨hnested, hcut, -⟩ := normalizeParts_nested hpart
  exact ⟨hnested ["orders"], hcut.trans (by decide +kernel)⟩

/-! ## Words behind a name -/

/-- Letters and digits, few enough that a dash and a character fit before them. -/
structure IsWord (cs : List Char) : Prop where
  ne_nil : cs ≠ []
  length_le : cs.length ≤ maxLength - 2
  chars : ∀ c ∈ cs, isLabelChar c = true ∧ c ≠ '-'

theorem isWord_iff {cs : List Char} :
    IsWord cs ↔ cs ≠ [] ∧ cs.length ≤ maxLength - 2 ∧
      cs.all (fun c => isLabelChar c && c != '-') = true := by
  simp only [List.all_eq_true, Bool.and_eq_true, bne_iff_ne]
  exact ⟨fun h => ⟨h.ne_nil, h.length_le, h.chars⟩, fun ⟨hne, hlen, hchars⟩ => ⟨hne, hlen, hchars⟩⟩

instance (cs : List Char) : Decidable (IsWord cs) := decidable_of_iff _ isWord_iff.symm

theorem IsWord.isLabel {cs : List Char} (h : IsWord cs) : IsLabel cs :=
  isLabel_iff.mpr ⟨isSpelled_of_forall h.chars, h.ne_nil, h.length_le.trans (Nat.sub_le _ _)⟩

theorem isWord_token (source : String) : IsWord (token source).toList where
  ne_nil := (isLabel_token source).ne_nil
  length_le := by
    rw [length_token]
    decide
  chars _ := isLabelChar_of_mem_token

theorem utf8Size_of_isLabelChar {c : Char} (h : isLabelChar c = true) : c.utf8Size = 1 := by
  have hlt : c.toNat < 128 := toNat_lt_of_isLabelChar h
  refine Char.utf8Size_eq_one_iff.mpr (UInt32.le_iff_toNat_le.mpr ?_)
  exact Nat.le_of_lt_succ hlt

theorem size_utf8Encode {cs : List Char} (h : ∀ c ∈ cs, isLabelChar c = true) :
    cs.utf8Encode.size = cs.length := by
  induction cs with
  | nil => rfl
  | cons c rest ih =>
    rw [List.utf8Encode_cons, ByteArray.size_append, ih fun d hd => h d (List.mem_cons_of_mem _ hd),
      List.utf8Encode_singleton, List.size_toByteArray, String.length_utf8EncodeChar,
      utf8Size_of_isLabelChar (h c List.mem_cons_self), List.length_cons, Nat.add_comm]

theorem utf8ByteSize_of_isLabelChar {s : String} (h : ∀ c ∈ s.toList, isLabelChar c = true) :
    s.utf8ByteSize = s.toList.length := by
  rw [← size_utf8Encode h, String.utf8Encode_toList]
  rfl

theorem takeBytes_eq_take {cs : List Char} (h : ∀ c ∈ cs, isLabelChar c = true) (n : Nat) :
    takeBytes n cs = cs.take n := by
  induction cs generalizing n with
  | nil => simp [takeBytes]
  | cons c rest ih =>
    rw [takeBytes, utf8Size_of_isLabelChar (h c List.mem_cons_self)]
    cases n with
    | zero => rfl
    | succ n =>
      rw [if_pos (Nat.le_add_left 1 n), ih fun d hd => h d (List.mem_cons_of_mem _ hd)]
      rfl

/-- How much of a name stays before a word. -/
def roomBefore (word : List Char) : Nat := maxLength - (word.length + 1)

theorem withSuffix_eq {name suffix : String} (hn : ∀ c ∈ name.toList, isLabelChar c = true)
    (hs : ∀ c ∈ suffix.toList, isLabelChar c = true) :
    withSuffix name suffix =
      normalizeParts [String.ofList (fit (roomBefore suffix.toList) name.toList), suffix] := by
  rw [withSuffix, utf8ByteSize_of_isLabelChar hn, utf8ByteSize_of_isLabelChar hs, ← roomBefore,
    takeBytes_eq_take hn]
  by_cases h : roomBefore suffix.toList < name.toList.length
  · rw [fit_of_lt_length h]
    simp only [if_pos h]
  · rw [fit_of_length_le (Nat.le_of_not_lt h), String.ofList_toList]
    simp only [if_neg h]

/-- **A word survives behind a name**, of which as much stays before it as there is room for. -/
theorem withSuffix_toList {name suffix : String} (hn : IsLabel name.toList)
    (hs : IsWord suffix.toList) :
    (withSuffix name suffix).toList =
      fit (roomBefore suffix.toList) name.toList ++ '-' :: suffix.toList := by
  have hmax : maxLength = 63 := rfl
  have hword := hs.length_le
  have hpos : 0 < roomBefore suffix.toList := by
    rw [roomBefore]
    omega
  have hbase : IsLabel (fit (roomBefore suffix.toList) name.toList) :=
    isLabel_fit hn.isSpelled hn.ne_nil hpos (Nat.sub_le _ _)
  have hbaselen := length_fit_le (roomBefore suffix.toList) name.toList
  set base := fit (roomBefore suffix.toList) name.toList with hdef
  have htext : (String.ofList base).toList = base := String.toList_ofList
  have hne : String.ofList base ≠ "" := by
    intro hempty
    rw [hempty] at htext
    exact hbase.ne_nil htext.symm
  have hsne : suffix ≠ "" := by
    rintro rfl
    exact hs.ne_nil rfl
  have hback : joined [suffix] = suffix.toList := by
    rw [joined_cons hsne, normalize_eq_self hs.isLabel]
    rfl
  have hroom : suffix.toList.length ≤ room base := by
    rw [roomBefore] at hbaselen
    rw [room]
    omega
  rw [withSuffix_eq hn.chars (fun c hc => (hs.chars c hc).1), ← hdef, normalizeParts_cons hne,
    behind, if_neg hne, normalize_eq_self (htext.symm ▸ hbase), htext, hback,
    fit_of_length_le hroom, glue_of_ne_nil hs.ne_nil]

/-- What follows the last dash of a list. -/
theorem eq_of_append_dash_eq {front front' word word' : List Char} (h : '-' ∉ word)
    (h' : '-' ∉ word') (heq : front ++ '-' :: word = front' ++ '-' :: word') : word = word' := by
  -- of two fronts of different lengths the longer one has its dash within the other's word
  rcases List.append_eq_append_iff.mp heq with ⟨between, _, hword⟩ | ⟨between, _, hword⟩
  · cases between with
    | nil => exact (List.cons.inj hword).2
    | cons c rest => exact absurd ((List.cons.inj hword).2 ▸ by simp) h
  · cases between with
    | nil => exact (List.cons.inj hword).2.symm
    | cons c rest => exact absurd ((List.cons.inj hword).2 ▸ by simp) h'

/-- **Names with different words behind them differ**, whatever names stand before them. -/
theorem eq_of_withSuffix_eq {name name' suffix suffix' : String} (hn : IsLabel name.toList)
    (hn' : IsLabel name'.toList) (hs : IsWord suffix.toList) (hs' : IsWord suffix'.toList)
    (heq : withSuffix name suffix = withSuffix name' suffix') : suffix = suffix' := by
  have hlist := congrArg String.toList heq
  rw [withSuffix_toList hn hs, withSuffix_toList hn' hs'] at hlist
  exact String.toList_inj.mp (eq_of_append_dash_eq (fun hd => (hs.chars _ hd).2 rfl)
    (fun hd => (hs'.chars _ hd).2 rfl) hlist)

/-- Names with words of their own are distinct, whatever they are made of. -/
theorem unique_nodup {α : Type} {l : List α} {parts : α → List String} {word : α → String}
    (hwords : ∀ x ∈ l, IsWord (word x).toList) (hnodup : (l.map word).Nodup) :
    (l.map fun x => unique (parts x) (word x)).Nodup := by
  refine List.pairwise_map.mpr ((List.pairwise_map.mp hnodup).imp_of_mem ?_)
  intro x y hx hy hne heq
  exact hne (eq_of_withSuffix_eq (isLabel_normalizeParts _) (isLabel_normalizeParts _)
    (hwords x hx) (hwords y hy) heq)

end AtlasManifests.Label
