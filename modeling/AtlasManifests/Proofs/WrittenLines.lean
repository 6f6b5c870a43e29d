import AtlasManifests.Proofs.DocumentStreams

/-! # The lines of a document

Whatever texts a value holds, no line of its document begins with three dashes: a text that would
is put between quotes, and the lines of a block stand further in (`Yaml.areTidy_lines`).
-/
namespace AtlasManifests.Yaml

variable {cs before : List Char} {c : Char} {ls ls' : List Line} {l : Line}

/-! ## Tidy lines -/

/-- A line that a document may hold anywhere. -/
structure Line.IsTidy (l : Line) : Prop where
  noNewline : '\n' ∉ l.text
  noDashes : ¬ dashes <+: l.text
  isBreak : isBreak l.ending = true

theorem Line.isTidy_of (hnewline : '\n' ∉ cs) (hdashes : ¬ dashes <+: cs) :
    (Line.of cs).IsTidy := ⟨hnewline, hdashes, rfl⟩

/-- Text that can stand before any line. -/
structure IsLead (before : List Char) : Prop where
  noNewline : '\n' ∉ before
  noDashes : ∀ rest, ¬ dashes <+: before ++ rest

theorem isLead_of_head (hc : c ≠ '-') (h : '\n' ∉ c :: cs) : IsLead (c :: cs) :=
  ⟨h, fun _ hbegins => hc (List.cons_prefix_cons.mp hbegins).1.symm⟩

/-- Text in which something else than a dash follows what is not three dashes. -/
theorem isLead_concat (hc : c ∉ '\n' :: dashes) (hnewline : '\n' ∉ cs) (hdashes : ¬ dashes <+: cs) :
    IsLead (cs ++ [c]) := by
  obtain ⟨hne, hc⟩ := not_or.mp (List.mem_cons.not.mp hc)
  refine ⟨fun hmem => ?_, fun rest hbegins => hdashes ?_⟩
  · rcases List.mem_append.mp hmem with hmem | hmem
    · exact hnewline hmem
    · exact hne (List.mem_singleton.mp hmem).symm
  · rw [List.append_assoc] at hbegins
    exact prefix_of_prefix_append hc hbegins

theorem Line.IsTidy.after (h : l.IsTidy) (hlead : IsLead before) : (l.after before).IsTidy where
  noNewline hmem := (List.mem_append.mp hmem).elim hlead.noNewline h.noNewline
  noDashes := hlead.noDashes l.text
  isBreak := h.isBreak

/-- A line without a newline may stand further in, whatever it begins with. -/
theorem Line.isTidy_indent (hnewline : '\n' ∉ l.text) (hending : Yaml.isBreak l.ending = true) :
    l.indent.IsTidy := by
  unfold Line.indent
  split
  · next hempty =>
    refine ⟨hnewline, ?_, hending⟩
    rw [List.isEmpty_iff.mp hempty]
    decide
  · have hlead : IsLead [' ', ' '] := isLead_of_head (by decide) (by decide)
    refine ⟨fun hmem => ?_, hlead.noDashes l.text, hending⟩
    exact (List.mem_append.mp hmem).elim hlead.noNewline hnewline

/-- Lines that a document may hold anywhere. -/
def AreTidy (ls : List Line) : Prop := ∀ l ∈ ls, l.IsTidy

theorem areTidy_singleton (hnewline : '\n' ∉ cs) (hdashes : ¬ dashes <+: cs) :
    AreTidy [.of cs] := by
  intro l hl
  rw [List.mem_singleton.mp hl]
  exact Line.isTidy_of hnewline hdashes

theorem AreTidy.append (h : AreTidy ls) (h' : AreTidy ls') : AreTidy (ls ++ ls') :=
  fun l hl => (List.mem_append.mp hl).elim (h l) (h' l)

theorem AreTidy.cons (h : l.IsTidy) (h' : AreTidy ls) : AreTidy (l :: ls) :=
  List.forall_mem_cons.mpr ⟨h, h'⟩

theorem AreTidy.indent (h : AreTidy ls) : AreTidy (ls.map Line.indent) :=
  List.forall_mem_map.mpr fun l hl => Line.isTidy_indent (h l hl).noNewline (h l hl).isBreak

theorem AreTidy.attach (h : AreTidy ls) (hlead : IsLead before) : AreTidy (attach before ls) := by
  cases ls with
  | nil =>
    have hdashes := hlead.noDashes []
    rw [List.append_nil] at hdashes
    exact areTidy_singleton hlead.noNewline hdashes
  | cons l rest =>
    obtain ⟨hl, hrest⟩ := List.forall_mem_cons.mp h
    exact .cons (hl.after hlead) hrest

theorem AreTidy.nest (h : AreTidy ls) (hlead : IsLead before) (value : Json) :
    AreTidy (nest before value ls) := by
  have hhanging : AreTidy (ls.take 1 ++ (ls.drop 1).map .indent) :=
    AreTidy.append (fun l hl => h l (List.mem_of_mem_take hl))
      (AreTidy.indent fun l hl => h l (List.mem_of_mem_drop hl))
  cases value with
  | arr items => exact hhanging.attach hlead
  | obj members => exact hhanging.attach hlead
  | _ => exact h.attach hlead

theorem AreTidy.below (h : AreTidy ls) (hlead : IsLead before) (value : Json) :
    AreTidy (below before value ls) := by
  have hhead : (Line.of before).IsTidy := by
    have hdashes := hlead.noDashes []
    rw [List.append_nil] at hdashes
    exact Line.isTidy_of hlead.noNewline hdashes
  have hgap : IsLead (before ++ [' ']) := by
    refine ⟨fun hmem => ?_, fun rest => ?_⟩
    · rcases List.mem_append.mp hmem with hmem | hmem
      · exact hlead.noNewline hmem
      · exact absurd (List.mem_singleton.mp hmem) (by decide)
    · rw [List.append_assoc]
      exact hlead.noDashes _
  unfold Yaml.below
  split
  · exact .cons hhead h
  · exact .cons hhead h.indent
  · exact h.attach hgap

/-! ## Numbers -/

/-- Text with few dashes does not begin with three of them. -/
theorem not_dashes_of_count (h : cs.count '-' < 3) : ¬ dashes <+: cs := fun hbegins =>
  absurd (hbegins.count_le '-') (Nat.not_le.mpr h)

theorem not_mem_toDigits {n : Nat} (hc : c.isDigit = false) : c ∉ Nat.toDigits 10 n := fun hmem =>
  Bool.false_ne_true (hc.symm.trans (Nat.isDigit_of_mem_toDigits (by decide) (by decide) hmem))

theorem count_toDigits (n : Nat) : (Nat.toDigits 10 n).count '-' = 0 :=
  List.count_eq_zero.mpr (not_mem_toDigits rfl)

theorem toList_toString_int (n : Int) :
    (toString n).toList =
      if 0 ≤ n then Nat.toDigits 10 n.toNat else '-' :: Nat.toDigits 10 (-n).toNat := by
  rw [Int.toString_eq_repr, Int.repr_eq_if]
  split
  · exact Nat.toList_repr
  · rw [String.toList_append, Nat.toList_repr]
    rfl

theorem newline_not_mem_int (n : Int) : '\n' ∉ (toString n).toList := by
  rw [toList_toString_int]
  split
  · exact not_mem_toDigits rfl
  · exact List.mem_cons.not.mpr (not_or.mpr ⟨by decide, not_mem_toDigits rfl⟩)

theorem count_int_le (n : Int) : (toString n).toList.count '-' ≤ 1 := by
  rw [toList_toString_int]
  split
  · rw [count_toDigits]
    exact Nat.zero_le 1
  · rw [List.count_cons_self, count_toDigits]

/-- Text of digits, points and marks of a power. -/
def IsDecimal (cs : List Char) : Prop := ∀ c ∈ cs, c.isDigit = true ∨ c = '.' ∨ c = 'e'

theorem isDecimal_nil : IsDecimal [] := fun _ hc => absurd hc List.not_mem_nil

theorem IsDecimal.cons (hc : c.isDigit = true ∨ c = '.' ∨ c = 'e') (h : IsDecimal cs) :
    IsDecimal (c :: cs) :=
  List.forall_mem_cons.mpr ⟨hc, h⟩

theorem IsDecimal.append {cs' : List Char} (h : IsDecimal cs) (h' : IsDecimal cs') :
    IsDecimal (cs ++ cs') := fun c hc => (List.mem_append.mp hc).elim (h c) (h' c)

theorem isDecimal_digits (n : Nat) : IsDecimal (Binary64.digits n) := fun _ hc =>
  .inl (Nat.isDigit_of_mem_toDigits (by decide) (by decide) hc)

theorem isDecimal_zeros (n : Nat) : IsDecimal (List.replicate n '0') := fun _ hc =>
  .inl ((List.mem_replicate.mp hc).2 ▸ rfl)

theorem IsDecimal.newline_not_mem (h : IsDecimal cs) : '\n' ∉ cs := fun hmem =>
  absurd (h _ hmem) (by decide)

theorem IsDecimal.count_eq_zero (h : IsDecimal cs) : cs.count '-' = 0 :=
  List.count_eq_zero.mpr fun hmem => absurd (h _ hmem) (by decide)

/-- A fraction is a sign, a decimal and perhaps a whole number for the power. -/
theorem exists_text_eq (x : Binary64) :
    ∃ body power, x.text.toList = (if x.negative then ['-'] else []) ++ (body ++ power) ∧
      IsDecimal body ∧ (power = [] ∨ ∃ n : Int, power = (toString n).toList) := by
  unfold Binary64.text
  rw [String.toList_ofList]
  generalize (if x.negative then ['-'] else []) = sign
  generalize ((Binary64.digits x.shortest.1).length : Int) + x.shortest.2 = point
  dsimp only
  have hdigits : IsDecimal (Binary64.digits x.shortest.1) := isDecimal_digits _
  have htake (n : Nat) : IsDecimal ((Binary64.digits x.shortest.1).take n) := fun c hc =>
    hdigits c (List.mem_of_mem_take hc)
  have hdrop (n : Nat) : IsDecimal ((Binary64.digits x.shortest.1).drop n) := fun c hc =>
    hdigits c (List.mem_of_mem_drop hc)
  have hzero : IsDecimal ['.', '0'] := .cons (.inr (.inl rfl)) (.cons (.inl rfl) isDecimal_nil)
  split
  · exact ⟨'0' :: ['.', '0'], [], rfl, .cons (.inl rfl) hzero, .inl rfl⟩
  split
  · refine ⟨_, [], by rw [List.append_nil], ?_, .inl rfl⟩
    exact (hdigits.append (isDecimal_zeros _)).append hzero
  split
  · refine ⟨_, [], by rw [List.append_nil], ?_, .inl rfl⟩
    exact (htake _).append (.cons (.inr (.inl rfl)) (hdrop _))
  split
  · refine ⟨_, [], by rw [List.append_nil], ?_, .inl rfl⟩
    refine .append (.append ?_ (isDecimal_zeros _)) hdigits
    exact .cons (.inl rfl) (.cons (.inr (.inl rfl)) isDecimal_nil)
  · refine ⟨_, _, congrArg (sign ++ ·) (List.append_cons _ _ _), ?_, .inr ⟨point - 1, rfl⟩⟩
    refine .append (.append (htake 1) ?_) (.cons (.inr (.inr rfl)) isDecimal_nil)
    split
    · exact isDecimal_nil
    · exact .cons (.inr (.inl rfl)) (hdrop 1)

theorem newline_not_mem_text (x : Binary64) : '\n' ∉ x.text.toList := by
  obtain ⟨body, power, htext, hbody, hpower⟩ := exists_text_eq x
  have hnewline : '\n' ∉ power := by
    rcases hpower with rfl | ⟨n, rfl⟩
    · exact List.not_mem_nil
    · exact newline_not_mem_int n
  rw [htext]
  intro hmem
  rcases List.mem_append.mp hmem with hmem | hmem
  · split at hmem <;> simp at hmem
  · exact (List.mem_append.mp hmem).elim hbody.newline_not_mem hnewline

/-- There are two dashes in a fraction at most: its sign, and that of the power. -/
theorem count_text_le (x : Binary64) : x.text.toList.count '-' ≤ 2 := by
  obtain ⟨body, power, htext, hbody, hpower⟩ := exists_text_eq x
  have hsign : List.count '-' (if x.negative then ['-'] else []) ≤ 1 := by
    cases x.negative <;> decide
  have hcount : power.count '-' ≤ 1 := by
    rcases hpower with rfl | ⟨n, rfl⟩
    · exact Nat.zero_le 1
    · exact count_int_le n
  rw [htext, List.count_append, List.count_append, hbody.count_eq_zero]
  omega

/-! ## Texts -/

/-- A text cut at its line breaks. -/
structure IsSplit (cs : List Char) (ls : List Line) (last : List Char) : Prop where
  text : joinLines ls ++ last = cs
  lines : ∀ l ∈ ls, (∀ c ∈ l.text, isBreak c = false) ∧ isBreak l.ending = true
  last : ∀ c ∈ last, isBreak c = false

theorem isSplit_splitBreaks (cs : List Char) :
    IsSplit cs (splitBreaks cs).1 (splitBreaks cs).2 := by
  induction cs with
  | nil => exact ⟨rfl, fun _ h => absurd h List.not_mem_nil, fun _ h => absurd h List.not_mem_nil⟩
  | cons c cs ih =>
    rw [splitBreaks]
    dsimp only
    cases hc : isBreak c with
    | true =>
      rw [if_pos rfl]
      refine ⟨congrArg (c :: ·) ih.text, ?_, ih.last⟩
      exact List.forall_mem_cons.mpr ⟨⟨fun _ h => absurd h List.not_mem_nil, hc⟩, ih.lines⟩
    | false =>
      rw [if_neg Bool.false_ne_true]
      cases hlines : (splitBreaks cs).1 with
      | nil =>
        have htext := ih.text
        rw [hlines] at htext
        exact ⟨congrArg (c :: ·) htext, fun _ h => absurd h List.not_mem_nil,
          List.forall_mem_cons.mpr ⟨hc, ih.last⟩⟩
      | cons l rest =>
        have htext := ih.text
        have hl := ih.lines
        rw [hlines] at htext hl
        obtain ⟨⟨hl, hending⟩, hrest⟩ := List.forall_mem_cons.mp hl
        refine ⟨congrArg (c :: ·) htext, ?_, ih.last⟩
        exact List.forall_mem_cons.mpr ⟨⟨List.forall_mem_cons.mpr ⟨hc, hl⟩, hending⟩, hrest⟩

theorem newline_not_mem (h : ∀ c ∈ cs, isBreak c = false) : '\n' ∉ cs := fun hmem =>
  Bool.false_ne_true (h _ hmem).symm

theorem IsSplit.areTidy_indent {last : List Char} (h : IsSplit cs ls last) :
    AreTidy ((ls ++ [Line.of last]).map Line.indent) := by
  refine List.forall_mem_map.mpr fun l hl => ?_
  rcases List.mem_append.mp hl with hl | hl
  · exact Line.isTidy_indent (newline_not_mem (h.lines l hl).1) (h.lines l hl).2
  · rw [List.mem_singleton.mp hl]
    exact Line.isTidy_indent (newline_not_mem h.last) rfl

/-- The ways to write a text within a line. -/
theorem inlineText_cases (cs : List Char) :
    (inlineText cs = cs ∧ plainAllowed (traits cs) = true) ∨
      inlineText cs = singleQuoted cs ∨ inlineText cs = doubleQuoted cs := by
  unfold inlineText
  dsimp only
  split
  · next h => exact .inl ⟨rfl, (Bool.and_eq_true_iff.mp h).2⟩
  split
  · exact .inr (.inl rfl)
  · exact .inr (.inr rfl)

theorem newline_not_mem_singleQuoted (h : '\n' ∉ cs) : '\n' ∉ singleQuoted cs := by
  have hinner : '\n' ∉ cs.flatMap fun c => if c = '\x27' then [c, c] else [c] := by
    intro hmem
    obtain ⟨c, hc, hmem⟩ := List.mem_flatMap.mp hmem
    have heq : '\n' = c := by
      split at hmem <;> simpa using hmem
    exact h (heq ▸ hc)
  intro hmem
  rcases List.mem_append.mp hmem with hmem | hmem
  · exact (List.mem_cons.mp hmem).elim (by decide) hinner
  · exact absurd (List.mem_singleton.mp hmem) (by decide)

theorem exists_digitChar_of_mem {base n : Nat} (hbase : 1 < base) (h : c ∈ Nat.toDigits base n) :
    ∃ d, c = Nat.digitChar d := by
  induction n using Nat.strong_induction_on with
  | _ n ih =>
    rw [Nat.toDigits_eq_if hbase] at h
    split at h
    · exact ⟨n, List.mem_singleton.mp h⟩
    · rcases List.mem_append.mp h with h | h
      · exact ih _ (Nat.div_lt_self (by omega) hbase) h
      · exact ⟨n % base, List.mem_singleton.mp h⟩

theorem toUpper_digitChar_ne (d : Nat) : (Nat.digitChar d).toUpper ≠ '\n' := by
  by_cases hd : d < 16
  · have hall : ∀ d : Fin 16, (Nat.digitChar d).toUpper ≠ '\n' := by decide
    exact hall ⟨d, hd⟩
  · rw [Nat.digitChar_eq_star.mpr (not_lt.mp hd)]
    decide

theorem newline_not_mem_hexDigits (width n : Nat) : '\n' ∉ hexDigits width n := by
  intro hmem
  rcases List.mem_append.mp hmem with hmem | hmem
  · exact absurd (List.mem_replicate.mp hmem).2 (by decide)
  · obtain ⟨digit, hdigit, hupper⟩ := List.mem_map.mp hmem
    obtain ⟨d, rfl⟩ := exists_digitChar_of_mem (by decide) hdigit
    exact toUpper_digitChar_ne d hupper

theorem escapeLetter?_ne_newline {letter : Char} (h : escapeLetter? c = some letter) :
    letter ≠ '\n' := by
  obtain ⟨before, after, htable, _⟩ := List.lookup_eq_some_iff.mp h
  have hall : ∀ entry ∈ before ++ (c, letter) :: after, entry.2 ≠ '\n' := by
    rw [← htable]
    decide
  exact hall (c, letter) (List.mem_append_right _ List.mem_cons_self)

theorem newline_not_mem_doubleChar (c : Char) : '\n' ∉ doubleChar c := by
  unfold doubleChar
  split
  · next h =>
    intro hmem
    rw [← List.mem_singleton.mp hmem] at h
    exact absurd h (by decide)
  split
  · next letter hletter =>
    simpa using (escapeLetter?_ne_newline hletter).symm
  · have hhex (width : Nat) := newline_not_mem_hexDigits width c.toNat
    dsimp only
    split
    · simp [hhex]
    split <;> simp [hhex]

theorem newline_not_mem_doubleQuoted (cs : List Char) : '\n' ∉ doubleQuoted cs := by
  intro hmem
  rcases List.mem_append.mp hmem with hmem | hmem
  · rcases List.mem_cons.mp hmem with hmem | hmem
    · exact absurd hmem (by decide)
    · obtain ⟨c, _, hmem⟩ := List.mem_flatMap.mp hmem
      exact newline_not_mem_doubleChar c hmem
  · exact absurd (List.mem_singleton.mp hmem) (by decide)

theorem newline_not_mem_inlineText (h : '\n' ∉ cs) : '\n' ∉ inlineText cs := by
  rcases inlineText_cases cs with ⟨heq, _⟩ | heq | heq
  · rwa [heq]
  · rw [heq]
    exact newline_not_mem_singleQuoted h
  · rw [heq]
    exact newline_not_mem_doubleQuoted cs

/-- A text that begins with three dashes does not stand without quotes. -/
theorem not_dashes_of_plainAllowed (h : plainAllowed (traits cs) = true) : ¬ dashes <+: cs := by
  intro hbegins
  have htake : cs.take 3 = ['-', '-', '-'] := (List.prefix_iff_eq_take.mp hbegins).symm
  have hindicator : (traits cs).indicator = true := by
    show hasIndicator cs = true
    rw [hasIndicator.eq_def, htake]
    rfl
  simp [plainAllowed, hindicator] at h

theorem not_dashes_cons (hc : c ≠ '-') : ¬ dashes <+: c :: cs := fun hbegins =>
  hc (List.cons_prefix_cons.mp hbegins).1.symm

theorem not_dashes_inlineText (cs : List Char) : ¬ dashes <+: inlineText cs := by
  rcases inlineText_cases cs with ⟨heq, hplain⟩ | heq | heq
  · rw [heq]
    exact not_dashes_of_plainAllowed hplain
  · rw [heq]
    exact not_dashes_cons (by decide)
  · rw [heq]
    exact not_dashes_cons (by decide)

/-- The head of a block says how far the block is indented and where it ends, or neither. -/
theorem newline_not_mem_literalHead (cs : List Char) : '\n' ∉ literalHead cs := by
  unfold literalHead
  dsimp only
  repeat' split
  all_goals decide

theorem areTidy_literal (cs : List Char) : AreTidy (literal cs) := by
  have htidy := (isSplit_splitBreaks cs).areTidy_indent
  refine .cons ?_ (List.forall_mem_map.mpr fun l hl => ?_)
  · exact Line.isTidy_of (newline_not_mem_literalHead cs) (not_dashes_cons (by decide))
  · refine htidy l.indent (List.mem_map_of_mem ?_)
    rcases List.mem_append.mp hl with hl | hl
    · exact List.mem_append_left _ hl
    · split at hl
      · exact absurd hl List.not_mem_nil
      · exact List.mem_append_right _ hl

/-- The lines of a text without newlines. Line breaks of other kinds may stand between single
quotes, and then the text goes on further in. -/
theorem areTidy_inlineText (h : '\n' ∉ cs) {last : List Char}
    (hsplit : IsSplit (inlineText cs) ls last) :
    AreTidy (match (ls, last) with
      | ([], last) => [.of last]
      | (first :: rest, last) => first :: (rest ++ [Line.of last]).map Line.indent) := by
  have hdashes := not_dashes_inlineText cs
  cases ls with
  | nil =>
    rw [show last = inlineText cs from hsplit.text]
    exact areTidy_singleton (newline_not_mem_inlineText h) hdashes
  | cons first rest =>
    obtain ⟨⟨hfirst, hending⟩, hrest⟩ := List.forall_mem_cons.mp hsplit.lines
    have hbegins : first.text <+: inlineText cs := by
      rw [← hsplit.text, joinLines, List.flatMap_cons, List.append_assoc, List.append_assoc]
      exact List.prefix_append _ _
    refine .cons ⟨newline_not_mem hfirst, fun h => hdashes (h.trans hbegins), hending⟩ ?_
    exact IsSplit.areTidy_indent ⟨rfl, hrest, hsplit.last⟩

theorem areTidy_scalarLines (cs : List Char) : AreTidy (scalarLines cs) := by
  unfold scalarLines
  split
  · split
    · exact areTidy_literal cs
    · exact areTidy_singleton (newline_not_mem_doubleQuoted cs) (not_dashes_cons (by decide))
  · next h =>
    have hnewline : '\n' ∉ cs := by simpa using h
    exact areTidy_inlineText hnewline (isSplit_splitBreaks _)

/-! ## Values -/

theorem isLead_key {key : String} (h : isSimpleKey key = true) :
    IsLead (inlineText key.toList ++ [':']) := by
  refine isLead_concat (by decide) (newline_not_mem_inlineText ?_) (not_dashes_inlineText _)
  obtain ⟨hbreaks, _⟩ := Bool.and_eq_true_iff.mp h
  intro hmem
  simp only [Bool.not_eq_true', List.any_eq_false] at hbreaks
  exact hbreaks _ hmem rfl

mutual

/-- **The lines of a value** are tidy, whatever its texts are. -/
theorem areTidy_lines (j : Json) : AreTidy (lines j) := by
  cases j with
  | null => exact areTidy_singleton (by decide) (by decide)
  | bool b => cases b <;> exact areTidy_singleton (by decide) (by decide)
  | num n =>
    cases n with
    | int n =>
      have hcount := count_int_le n
      exact areTidy_singleton (newline_not_mem_int n) (not_dashes_of_count (by omega))
    | float x =>
      have hcount := count_text_le x
      exact areTidy_singleton (newline_not_mem_text x) (not_dashes_of_count (by omega))
  | str s => exact areTidy_scalarLines s.toList
  | arr items =>
    rw [lines]
    split
    · exact areTidy_singleton (by decide) (by decide)
    · exact areTidy_itemLines items
  | obj members =>
    rw [lines]
    split
    · exact areTidy_singleton (by decide) (by decide)
    · exact areTidy_memberLines members

theorem areTidy_itemLines (items : List Json) : AreTidy (itemLines items) := by
  cases items with
  | nil => exact fun l hl => absurd hl List.not_mem_nil
  | cons item rest =>
    have hlead : IsLead (['-'] ++ [' ']) := isLead_concat (by decide) (by decide) (by decide)
    exact ((areTidy_lines item).nest hlead item).append (areTidy_itemLines rest)

theorem areTidy_memberLines (members : List (String × Json)) : AreTidy (memberLines members) := by
  cases members with
  | nil => exact fun l hl => absurd hl List.not_mem_nil
  | cons member rest =>
    obtain ⟨key, value⟩ := member
    have hvalue := areTidy_lines value
    refine AreTidy.append ?_ (areTidy_memberLines rest)
    split
    · next hkey => exact hvalue.below (isLead_key hkey) value
    · have hquestion : IsLead ['?', ' '] := isLead_of_head (by decide) (by decide)
      have hcolon : IsLead [':', ' '] := isLead_of_head (by decide) (by decide)
      exact ((areTidy_scalarLines _).attach hquestion).append (hvalue.nest hcolon value)

end

end AtlasManifests.Yaml
