import AtlasManifests.Manifest.Basic
import AtlasManifests.Proofs.WrittenLines

/-! # Streams of manifests

A stream can be taken apart into the documents of its manifests if every document ends in a
newline.  All do but one kind: a block keeps the line break that its text ends in, and the line
and the paragraph separator are line breaks, so a document with such a text at its very end has no
newline there and grows together with what follows it (`Manifest.splitDocuments_stream_iff`).
-/
namespace AtlasManifests.Yaml

variable {text rest line : List Char} {lines : List (List Char)} {ls ls' : List Line}

/-! ## Lines of joined lines -/

theorem linesOf_append (h : '\n' ∉ text) (hrest : linesOf rest = line :: lines) :
    linesOf (text ++ rest) = (text ++ line) :: lines := by
  induction text with
  | nil => exact hrest
  | cons c text ih =>
    obtain ⟨hc, htext⟩ := not_or.mp (List.mem_cons.not.mp h)
    exact linesOf_cons (Ne.symm hc) (ih htext)

/-- Tidy lines have no dashes at the beginning of a line, also where line breaks of other kinds
than newlines join several of them. -/
theorem AreTidy.hasNoDashes (h : AreTidy ls) : HasNoDashes (joinLines ls) := by
  induction ls with
  | nil => exact fun line hline => by rw [List.mem_singleton.mp hline]; decide
  | cons l ls ih =>
    obtain ⟨hl, hls⟩ := List.forall_mem_cons.mp h
    have hjoin : joinLines (l :: ls) = l.text ++ l.ending :: joinLines ls := by
      rw [joinLines, List.flatMap_cons, List.append_assoc]
      rfl
    obtain ⟨first, others, hfirst⟩ := exists_linesOf (joinLines ls)
    intro line hline
    rw [hjoin] at hline
    by_cases hending : l.ending = '\n'
    · rw [hending, linesOf_append hl.noNewline (linesOf_newline _), List.append_nil] at hline
      rcases List.mem_cons.mp hline with rfl | hline
      · exact hl.noDashes
      · exact ih hls line hline
    · rw [linesOf_append hl.noNewline (linesOf_cons hending hfirst)] at hline
      rcases List.mem_cons.mp hline with rfl | hline
      · have hdash : l.ending ∉ dashes := by
          intro hmem
          have hbreak := hl.isBreak
          rw [show l.ending = '-' by simpa [dashes] using hmem] at hbreak
          exact absurd hbreak (by decide)
        exact fun hbegins => hl.noDashes (prefix_of_prefix_append hdash hbegins)
      · exact ih hls line (hfirst ▸ List.mem_cons_of_mem _ hline)

/-! ## The end of a document -/

/-- The line break that some lines end in. -/
def lastBreak (ls : List Line) : Option Char := ls.getLast?.map (·.ending)

theorem lastBreak_append (ls : List Line) (h : ls' ≠ []) :
    lastBreak (ls ++ ls') = lastBreak ls' := by
  rw [lastBreak, List.getLast?_append_of_ne_nil _ h, lastBreak]

theorem lastBreak_cons (l : Line) (h : ls ≠ []) : lastBreak (l :: ls) = lastBreak ls :=
  lastBreak_append [l] h

theorem lastBreak_indent (ls : List Line) : lastBreak (ls.map Line.indent) = lastBreak ls := by
  have hending (l : Line) : l.indent.ending = l.ending := by
    unfold Line.indent
    split <;> rfl
  rw [lastBreak, List.getLast?_map, Option.map_map, lastBreak]
  exact Option.map_congr fun l _ => hending l

theorem attach_ne_nil (before : List Char) (ls : List Line) : attach before ls ≠ [] := by
  cases ls <;> exact List.cons_ne_nil _ _

theorem lastBreak_attach (before : List Char) (h : ls ≠ []) :
    lastBreak (attach before ls) = lastBreak ls := by
  cases ls with
  | nil => exact absurd rfl h
  | cons l rest =>
    cases rest with
    | nil => rfl
    | cons next rest =>
      rw [lastBreak_cons l (List.cons_ne_nil _ _)]
      exact lastBreak_cons _ (List.cons_ne_nil _ _)

theorem nest_ne_nil (before : List Char) (value : Json) (ls : List Line) :
    nest before value ls ≠ [] := by
  unfold nest
  split <;> exact attach_ne_nil _ _

theorem lastBreak_nest (before : List Char) (value : Json) (h : ls ≠ []) :
    lastBreak (nest before value ls) = lastBreak ls := by
  obtain ⟨l, rest, rfl⟩ := List.exists_cons_of_ne_nil h
  have hhanging : lastBreak (attach before (l :: rest.map .indent)) = lastBreak (l :: rest) := by
    rw [lastBreak_attach _ (List.cons_ne_nil _ _)]
    cases rest with
    | nil => rfl
    | cons next rest =>
      rw [lastBreak_cons l (List.cons_ne_nil next rest), ← lastBreak_indent (next :: rest)]
      exact lastBreak_cons l (List.cons_ne_nil _ _)
  unfold nest
  split
  · exact hhanging
  · exact hhanging
  · exact lastBreak_attach before h

theorem lastBreak_below (before : List Char) (value : Json) (h : ls ≠ []) :
    lastBreak (below before value ls) = lastBreak ls := by
  unfold below
  split
  · exact lastBreak_cons _ h
  · rw [lastBreak_cons _ (by simpa using h), lastBreak_indent]
  · exact lastBreak_attach _ h

theorem getLast?_joinLines (ls : List Line) : (joinLines ls).getLast? = lastBreak ls := by
  induction ls using List.reverseRecOn with
  | nil => rfl
  | append_singleton ls l _ =>
    rw [joinLines, List.flatMap_append, List.flatMap_singleton, ← List.append_assoc,
      List.getLast?_concat, lastBreak, List.getLast?_concat]
    rfl

/-- A text of several lines that is written as a block, and ends in a line break other than a
newline. -/
def endsOpen (cs : List Char) : Bool :=
  cs.all isPrintable && cs.contains '\n' && !hasPair (· == ' ') isBreak cs &&
    (cs.getLast? == some '\u2028' || cs.getLast? == some '\u2029')

variable {cs : List Char}

theorem endsOpen_iff :
    endsOpen cs = true ↔ (∀ c ∈ cs, isPrintable c = true) ∧ '\n' ∈ cs ∧
      hasPair (· == ' ') isBreak cs = false ∧
      (cs.getLast? = some '\u2028' ∨ cs.getLast? = some '\u2029') := by
  simp [endsOpen, and_assoc]

/-- A block may hold any printable text without spaces before its line breaks. -/
theorem blockAllowed_iff :
    blockAllowed cs (traits cs) = true ↔ cs ≠ [] ∧ cs.getLast? ≠ some ' ' ∧
      hasPair (· == ' ') isBreak cs = false ∧ ∀ c ∈ cs, isPrintable c = true := by
  simp [blockAllowed, traits, and_assoc]

theorem isBreak_of_open {c : Char} (h : c = '\u2028' ∨ c = '\u2029') : isBreak c = true := by
  rcases h with rfl | rfl <;> decide

/-- The printable line breaks. -/
theorem eq_newline_or_open {c : Char} (hbreak : isBreak c = true) (h : isPrintable c = true) :
    c = '\n' ∨ c = '\u2028' ∨ c = '\u2029' := by
  simp only [isBreak, Bool.or_eq_true, beq_iff_eq] at hbreak
  rcases hbreak with (((rfl | rfl) | rfl) | rfl) | rfl
  · exact .inl rfl
  · exact absurd h (by decide)
  · exact absurd h (by decide)
  · exact .inr (.inl rfl)
  · exact .inr (.inr rfl)

theorem blockAllowed_of_endsOpen (h : endsOpen cs = true) : blockAllowed cs (traits cs) = true := by
  obtain ⟨hprintable, hmem, hpair, hlast⟩ := endsOpen_iff.mp h
  refine blockAllowed_iff.mpr ⟨List.ne_nil_of_mem hmem, ?_, hpair, hprintable⟩
  rcases hlast with hlast | hlast <;> rw [hlast] <;> decide

/-- The last line of a block has a break of its own if its text has, and else a newline. -/
theorem lastBreak_literal_cases (hne : cs ≠ []) :
    (lastBreak (literal cs) = cs.getLast? ∧ ∃ c, cs.getLast? = some c ∧ isBreak c = true) ∨
      (lastBreak (literal cs) = some '\n' ∧ ∃ c, cs.getLast? = some c ∧ isBreak c = false) := by
  have hsplit := isSplit_splitBreaks cs
  by_cases hlast : (splitBreaks cs).2 = []
  · have htext : joinLines (splitBreaks cs).1 = cs := by simpa [hlast] using hsplit.text
    have hlines : (splitBreaks cs).1 ≠ [] := by
      intro hnil
      rw [hnil] at htext
      exact hne htext.symm
    have hbreak : cs.getLast? = lastBreak (splitBreaks cs).1 := by
      rw [← getLast?_joinLines, htext]
    have hliteral : lastBreak (literal cs) = lastBreak (splitBreaks cs).1 := by
      simp only [literal, hlast, List.isEmpty_nil, if_true, List.append_nil]
      rw [lastBreak_cons _ (by simpa using hlines), lastBreak_indent]
    have hlast := hsplit.lines _ (List.getLast_mem hlines)
    refine .inl ⟨hliteral.trans hbreak.symm, _, ?_, hlast.2⟩
    rw [hbreak, lastBreak, List.getLast?_eq_some_getLast hlines]
    rfl
  · have hliteral : lastBreak (literal cs) = some '\n' := by
      simp only [literal, List.isEmpty_iff, hlast, if_false]
      rw [lastBreak_cons _ (by simp), lastBreak_indent, lastBreak_append _ (List.cons_ne_nil _ _)]
      rfl
    have htext := congrArg List.getLast? hsplit.text
    rw [List.getLast?_append_of_ne_nil _ hlast, List.getLast?_eq_some_getLast hlast] at htext
    exact .inr ⟨hliteral, _, htext.symm, hsplit.last _ (List.getLast_mem hlast)⟩

theorem lastBreak_literal (hmem : '\n' ∈ cs) (hallowed : blockAllowed cs (traits cs) = true) :
    lastBreak (literal cs) = some '\n' ↔ endsOpen cs = false := by
  obtain ⟨hne, _, hpair, hprintable⟩ := blockAllowed_iff.mp hallowed
  have hopen : endsOpen cs = true ↔
      cs.getLast? = some '\u2028' ∨ cs.getLast? = some '\u2029' :=
    endsOpen_iff.trans ⟨fun h => h.2.2.2, fun h => ⟨hprintable, hmem, hpair, h⟩⟩
  rw [← Bool.not_eq_true, hopen]
  rcases lastBreak_literal_cases hne with
    ⟨hliteral, c, hlast, hbreak⟩ | ⟨hliteral, c, hlast, hbreak⟩
  · have hc : isPrintable c = true := hprintable c (List.mem_of_getLast? hlast)
    rw [hliteral, hlast]
    rcases eq_newline_or_open hbreak hc with rfl | rfl | rfl <;> decide
  · refine iff_of_true hliteral fun h => ?_
    rw [hlast, Option.some.injEq, Option.some.injEq] at h
    exact Bool.false_ne_true (hbreak.symm.trans (isBreak_of_open h))

theorem lastBreak_scalarLines (cs : List Char) :
    lastBreak (scalarLines cs) = some '\n' ↔ endsOpen cs = false := by
  unfold scalarLines
  split
  · next h =>
    have hmem : '\n' ∈ cs := by simpa using h
    split
    · next hallowed => exact lastBreak_literal hmem hallowed
    · next hallowed =>
      refine iff_of_true rfl (Bool.eq_false_iff.mpr fun hopen => hallowed ?_)
      exact blockAllowed_of_endsOpen hopen
  · next h =>
    have hclosed : endsOpen cs = false := by
      refine Bool.eq_false_iff.mpr fun hopen => h ?_
      simpa using (endsOpen_iff.mp hopen).2.1
    refine iff_of_true ?_ hclosed
    split
    · rfl
    · rw [lastBreak_cons _ (by simp), lastBreak_indent, lastBreak_append _ (List.cons_ne_nil _ _)]
      rfl

end AtlasManifests.Yaml

namespace AtlasManifests

/-! ## Documents without a newline at the end -/

namespace Json

mutual

/-- A value whose last text ends open: its document has no newline at the end. -/
def endsOpen : Json → Bool
  | .str s => Yaml.endsOpen s.toList
  | .arr items => itemsEndOpen items
  | .obj members => membersEndOpen members
  | _ => false

/-- Items of which the last ends open. -/
def itemsEndOpen : List Json → Bool
  | [] => false
  | [item] => item.endsOpen
  | _ :: next :: rest => itemsEndOpen (next :: rest)

/-- Members of which the last ends open. -/
def membersEndOpen : List (String × Json) → Bool
  | [] => false
  | [(_, value)] => value.endsOpen
  | _ :: next :: rest => membersEndOpen (next :: rest)

end

end Json

namespace Yaml

theorem scalarLines_ne_nil (cs : List Char) : scalarLines cs ≠ [] := by
  unfold scalarLines
  split
  · split <;> exact List.cons_ne_nil _ _
  · split <;> exact List.cons_ne_nil _ _

theorem itemLines_ne_nil (item : Json) (rest : List Json) : itemLines (item :: rest) ≠ [] :=
  List.append_ne_nil_of_left_ne_nil (nest_ne_nil _ _ _) _

theorem below_ne_nil (before : List Char) (value : Json) (ls : List Line) :
    below before value ls ≠ [] := by
  unfold below
  split
  · exact List.cons_ne_nil _ _
  · exact List.cons_ne_nil _ _
  · exact attach_ne_nil _ _

theorem memberLines_ne_nil (member : String × Json) (rest : List (String × Json)) :
    memberLines (member :: rest) ≠ [] := by
  obtain ⟨key, value⟩ := member
  refine List.append_ne_nil_of_left_ne_nil ?_ _
  split
  · exact below_ne_nil _ _ _
  · exact List.append_ne_nil_of_left_ne_nil (attach_ne_nil _ _) _

theorem lines_ne_nil (j : Json) : lines j ≠ [] := by
  cases j with
  | null => exact List.cons_ne_nil _ _
  | bool b => cases b <;> exact List.cons_ne_nil _ _
  | num n => cases n <;> exact List.cons_ne_nil _ _
  | str s => exact scalarLines_ne_nil s.toList
  | arr items =>
    cases items with
    | nil => exact List.cons_ne_nil _ _
    | cons item rest => exact itemLines_ne_nil item rest
  | obj members =>
    cases members with
    | nil => exact List.cons_ne_nil _ _
    | cons member rest => exact memberLines_ne_nil member rest

mutual

/-- The lines of a value end in a newline, unless the value ends open. -/
theorem lastBreak_lines (j : Json) : lastBreak (lines j) = some '\n' ↔ j.endsOpen = false := by
  cases j with
  | null => exact iff_of_true rfl rfl
  | bool b => cases b <;> exact iff_of_true rfl rfl
  | num n => cases n <;> exact iff_of_true rfl rfl
  | str s => exact lastBreak_scalarLines s.toList
  | arr items =>
    rw [lines]
    split
    · next h =>
      rw [List.isEmpty_iff.mp h]
      exact iff_of_true rfl rfl
    · next h => exact lastBreak_itemLines items (List.isEmpty_iff.not.mp h)
  | obj members =>
    rw [lines]
    split
    · next h =>
      rw [List.isEmpty_iff.mp h]
      exact iff_of_true rfl rfl
    · next h => exact lastBreak_memberLines members (List.isEmpty_iff.not.mp h)

theorem lastBreak_itemLines (items : List Json) (h : items ≠ []) :
    lastBreak (itemLines items) = some '\n' ↔ Json.itemsEndOpen items = false := by
  cases items with
  | nil => exact absurd rfl h
  | cons item rest =>
    have hitem := lastBreak_lines item
    have hrest := lastBreak_itemLines rest
    cases rest with
    | nil =>
      rw [itemLines, itemLines, List.append_nil, lastBreak_nest _ _ (lines_ne_nil item)]
      exact hitem
    | cons next rest =>
      rw [itemLines, lastBreak_append _ (itemLines_ne_nil next rest)]
      exact hrest (List.cons_ne_nil _ _)

theorem lastBreak_memberLines (members : List (String × Json)) (h : members ≠ []) :
    lastBreak (memberLines members) = some '\n' ↔ Json.membersEndOpen members = false := by
  cases members with
  | nil => exact absurd rfl h
  | cons member rest =>
    obtain ⟨key, value⟩ := member
    have hvalue := lastBreak_lines value
    have hrest := lastBreak_memberLines rest
    cases rest with
    | nil =>
      rw [memberLines, memberLines, List.append_nil]
      split
      · rw [lastBreak_below _ _ (lines_ne_nil value)]
        exact hvalue
      · rw [lastBreak_append _ (nest_ne_nil _ _ _), lastBreak_nest _ _ (lines_ne_nil value)]
        exact hvalue
    | cons next rest =>
      rw [memberLines, lastBreak_append _ (memberLines_ne_nil next rest)]
      exact hrest (List.cons_ne_nil _ _)

end

/-- **A document is a block of whole lines** exactly if its value does not end open. -/
theorem isBlock_document_iff (j : Json) : IsBlock (document j).toList ↔ j.endsOpen = false := by
  rw [document, String.toList_ofList, ← lastBreak_lines, ← getLast?_joinLines]
  constructor
  · intro h
    rcases h.ended with hnil | hlast
    · obtain ⟨l, rest, hlines⟩ := List.exists_cons_of_ne_nil (lines_ne_nil j)
      rw [hlines, joinLines, List.flatMap_cons] at hnil
      simp at hnil
    · exact hlast
  · intro h
    exact ⟨.inr h, (areTidy_lines j).hasNoDashes⟩

/-! ## Separators -/

theorem linesOf_of_noNewline (h : '\n' ∉ text) : linesOf text = [text] := by
  have hlines : linesOf (text ++ []) = [text ++ []] := linesOf_append h rfl
  rwa [List.append_nil] at hlines

/-- What is written behind a text goes on in its last line. -/
theorem exists_lastLine (text : List Char) : ∃ lines last, linesOf text = lines ++ [last] ∧
    ∀ word, '\n' ∉ word → linesOf (text ++ word) = lines ++ [last ++ word] := by
  induction text with
  | nil => exact ⟨[], [], rfl, fun word hword => linesOf_of_noNewline hword⟩
  | cons c text ih =>
    obtain ⟨lines, last, hlines, hword⟩ := ih
    by_cases hc : c = '\n'
    · refine ⟨[] :: lines, last, ?_, fun word h => ?_⟩
      · rw [hc, linesOf_newline, hlines]
        rfl
      · rw [hc, List.cons_append, linesOf_newline, hword word h]
        rfl
    · cases lines with
      | nil =>
        exact ⟨[], c :: last, linesOf_cons hc hlines, fun word h => linesOf_cons hc (hword word h)⟩
      | cons line lines =>
        refine ⟨(c :: line) :: lines, last, linesOf_cons hc hlines, fun word h => ?_⟩
        exact linesOf_cons hc (hword word h)

theorem count_dashes_eq_zero {ls : List (List Char)} (h : ∀ line ∈ ls, ¬ dashes <+: line) :
    ls.count dashes = 0 :=
  List.count_eq_zero.mpr fun hmem => h dashes hmem (List.prefix_refl _)

/-- Dashes behind a text are a line of their own only behind whole lines. -/
theorem count_linesOf_append_dashes (h : HasNoDashes text) :
    (linesOf (text ++ dashes)).count dashes = if IsBlock text then 1 else 0 := by
  rcases List.eq_nil_or_concat text with rfl | ⟨init, c, htext⟩
  · decide
  rw [List.concat_eq_append] at htext
  subst htext
  obtain ⟨ls, last, hlines, hword⟩ := exists_lastLine init
  by_cases hc : c = '\n'
  · have hblock : IsBlock (init ++ [c]) := ⟨.inr (hc ▸ List.getLast?_concat), h⟩
    rw [hc, HasNoDashes, linesOf_append_newline_cons] at h
    rw [if_pos hblock, hc, List.append_assoc, List.singleton_append, linesOf_append_newline_cons,
      List.count_append,
      count_dashes_eq_zero fun line hline => h line (List.mem_append_left _ hline)]
    decide
  · have hblock : ¬ IsBlock (init ++ [c]) := by
      rintro ⟨hnil | hlast, _⟩
      · simp at hnil
      · rw [List.getLast?_concat] at hlast
        exact hc (Option.some.inj hlast)
    have hne : last ++ c :: dashes ≠ dashes := fun heq => by
      have hlength := congrArg List.length heq
      simp only [List.length_append, List.length_cons] at hlength
      omega
    have hnewline : '\n' ∉ c :: dashes :=
      List.not_mem_cons_of_ne_of_not_mem (Ne.symm hc) (by decide)
    rw [HasNoDashes, hword [c] (by simpa using Ne.symm hc)] at h
    rw [if_neg hblock, List.append_assoc, List.singleton_append, hword _ hnewline,
      List.count_append,
      count_dashes_eq_zero fun line hline => h line (List.mem_append_left _ hline),
      List.count_singleton]
    simpa using hne

/-- Of the separators in a stream, the first is a line of its own, and so is every other that stands
behind whole lines. -/
theorem count_linesOf_stream {blocks : List (List Char)} (h : ∀ block ∈ blocks, HasNoDashes block) :
    (linesOf (streamChars (blocks ++ [[]]))).count dashes =
      blocks.countP (fun block => decide (IsBlock block)) + 1 := by
  induction blocks with
  | nil => decide
  | cons block rest ih =>
    obtain ⟨hblock, hrest⟩ := List.forall_mem_cons.mp h
    obtain ⟨next, hnext⟩ : ∃ next, streamChars (rest ++ [[]]) = dashes ++ '\n' :: next := by
      cases rest <;> exact ⟨_, rfl⟩
    have hstream : streamChars (block :: rest ++ [[]]) =
        dashes ++ '\n' :: (block ++ dashes ++ '\n' :: next) := by
      rw [List.append_assoc block, ← hnext]
      rfl
    have ih := ih hrest
    rw [hnext, linesOf_append_newline_cons, List.count_append] at ih
    rw [hstream, linesOf_append_newline_cons, linesOf_append_newline_cons, List.count_append,
      List.count_append, count_linesOf_append_dashes hblock, List.countP_cons]
    have hone : (linesOf dashes).count dashes = 1 := by decide
    simp only [decide_eq_true_eq]
    omega

/-! ## Documents with content -/

theorem hasContent_cons {c : Char} (hc : c ≠ '\n') (hblank : Text.isBlank c = false)
    (hcomment : c ≠ '#') : hasContent (c :: text) = true := by
  obtain ⟨line, lines, hlines⟩ := exists_linesOf text
  have hline : lineHasContent (c :: line) = true := by
    simpa [lineHasContent, Text.trimStart, hblank] using hcomment
  rw [hasContent, linesOf_cons hc hlines, List.any_cons, hline, Bool.true_or]

theorem exists_below_head (before : List Char) (value : Json) (ls : List Line) :
    ∃ l rest, below before value ls = l :: rest ∧ before <+: l.text := by
  unfold below
  split
  · exact ⟨_, _, rfl, List.prefix_refl _⟩
  · exact ⟨_, _, rfl, List.prefix_refl _⟩
  · cases ls with
    | nil => exact ⟨_, _, rfl, List.prefix_append _ _⟩
    | cons l rest =>
      have hbegins : before <+: (before ++ [' ']) ++ l.text :=
        (List.prefix_append _ _).trans (List.prefix_append _ _)
      exact ⟨_, _, rfl, hbegins⟩

/-- The document of an object begins with its first key. -/
theorem prefix_document {key : String} (hkey : isSimpleKey key = true) (value : Json)
    (rest : List (String × Json)) :
    inlineText key.toList <+: (document (.obj ((key, value) :: rest))).toList := by
  obtain ⟨l, ls, hlines, hbegins⟩ :=
    exists_below_head (inlineText key.toList ++ [':']) value (lines value)
  have hdocument : (document (.obj ((key, value) :: rest))).toList =
      l.text ++ (l.ending :: joinLines (ls ++ memberLines rest)) := by
    rw [document, String.toList_ofList, lines, List.isEmpty_cons, if_neg Bool.false_ne_true,
      memberLines, if_pos hkey, hlines, List.cons_append, joinLines, List.flatMap_cons,
      List.append_assoc]
    rfl
  rw [hdocument]
  exact ((List.prefix_append _ _).trans hbegins).trans (List.prefix_append _ _)

/-! ## The pieces of a stream -/

theorem joinDocuments_eq_streamOf (documents : List String) :
    joinDocuments documents = streamOf (documents ++ [""]) := by
  simp [joinDocuments, streamOf, String.join_append, String.join_cons]

theorem piecesOfBlocks_concat (blocks : List (List Char)) :
    piecesOfBlocks (blocks ++ [[]]) =
      blocks.map (fun text => ('\n' :: text).dropLast) ++ [['\n']] := by
  induction blocks with
  | nil => rfl
  | cons text rest ih =>
    cases rest with
    | nil => rfl
    | cons next rest => exact congrArg (_ :: ·) ih

/-- **A stream of documents of whole lines** is taken apart into them, if all have content. -/
theorem splitDocuments_joinDocuments {documents : List String}
    (h : ∀ d ∈ documents, IsBlock d.toList ∧ hasContent d.toList = true) :
    splitDocuments (joinDocuments documents) =
      documents.map fun d => String.ofList ('\n' :: d.toList).dropLast := by
  have hblocks : ∀ block ∈ documents ++ [""], IsBlock block.toList := by
    intro block hblock
    rcases List.mem_append.mp hblock with hblock | hblock
    · exact (h block hblock).1
    · rw [List.mem_singleton.mp hblock]
      decide
  have hcontent : ∀ piece ∈ documents.map ((fun text => ('\n' :: text).dropLast) ∘ String.toList),
      hasContent piece = true := by
    refine List.forall_mem_map.mpr fun d hd => ?_
    rw [Function.comp_apply, IsPieceOf.hasContent_eq (.inr rfl) (h d hd).1]
    exact (h d hd).2
  rw [joinDocuments_eq_streamOf, splitDocuments_streamOf hblocks, List.map_append,
    List.map_singleton, show "".toList = [] from rfl, piecesOfBlocks_concat, List.map_map,
    List.filter_append, List.filter_eq_self.mpr hcontent]
  simp [hasContent, linesOf, lineHasContent, Text.trimStart]

end Yaml

namespace Manifest

/-- What every manifest begins with. -/
theorem exists_toJson (m : Manifest) : ∃ key value rest,
    m.toJson = .obj ((key, value) :: rest) ∧ (key = "apiVersion" ∨ key = "metadata") := by
  cases m with
  | generated g =>
    cases h : g.type with
    | none => exact ⟨"metadata", _, _, by rw [toJson, Generated.toJson, h]; rfl, .inr rfl⟩
    | some type => exact ⟨"apiVersion", _, _, by rw [toJson, Generated.toJson, h]; rfl, .inl rfl⟩
  | _ => exact ⟨"apiVersion", _, _, rfl, .inl rfl⟩

theorem hasContent_yaml (m : Manifest) : Yaml.hasContent m.yaml.toList = true := by
  obtain ⟨key, value, rest, hjson, hkey⟩ := m.exists_toJson
  have hsimple : Yaml.isSimpleKey key = true := by rcases hkey with rfl | rfl <;> decide
  obtain ⟨text, htext⟩ := Yaml.prefix_document hsimple value rest
  rw [yaml, hjson, ← htext]
  rcases hkey with rfl | rfl
  · exact Yaml.hasContent_cons (c := 'a') (by decide) (by decide) (by decide)
  · exact Yaml.hasContent_cons (c := 'm') (by decide) (by decide) (by decide)

/-- The number of lines of a text that are a separator. -/
def separatorCount (text : String) : Nat := (Yaml.linesOf text.toList).count Yaml.dashes

theorem separatorCount_stream (manifests : List Manifest) :
    separatorCount (stream manifests) =
      manifests.countP (fun m => m.toJson.endsOpen == false) + 1 := by
  have hblocks : ∀ block ∈ manifests.map (·.yaml.toList), Yaml.HasNoDashes block := by
    refine List.forall_mem_map.mpr fun m _ => ?_
    rw [yaml, Yaml.document, String.toList_ofList]
    exact (Yaml.areTidy_lines m.toJson).hasNoDashes
  have hstream : (stream manifests).toList =
      Yaml.streamChars (manifests.map (·.yaml.toList) ++ [[]]) := by
    rw [stream, Yaml.joinDocuments_eq_streamOf, Yaml.streamOf_toList, List.map_append, List.map_map]
    rfl
  rw [separatorCount, hstream, Yaml.count_linesOf_stream hblocks, List.countP_map]
  congr 1
  refine List.countP_congr fun m _ => ?_
  simp [yaml, Yaml.isBlock_document_iff]

/-- **Taking a stream of manifests apart** gives back the document of each of them, up to a newline
in front and one behind, and the stream has one separator more than there are manifests, exactly if
none of them ends open. -/
theorem splitDocuments_stream_iff (manifests : List Manifest) :
    (List.Forall₂ (fun piece m => piece ++ "\n" = "\n" ++ m.yaml)
        (Yaml.splitDocuments (stream manifests)) manifests ∧
      separatorCount (stream manifests) = manifests.length + 1) ↔
      ∀ m ∈ manifests, m.toJson.endsOpen = false := by
  have hcount : separatorCount (stream manifests) = manifests.length + 1 ↔
      ∀ m ∈ manifests, m.toJson.endsOpen = false := by
    rw [separatorCount_stream, Nat.add_right_cancel_iff, List.countP_eq_length]
    simp
  refine ⟨fun h => hcount.mp h.2, fun h => ⟨?_, hcount.mpr h⟩⟩
  have hblock : ∀ m ∈ manifests, Yaml.IsBlock m.yaml.toList := fun m hm =>
    (Yaml.isBlock_document_iff m.toJson).mpr (h m hm)
  have hdocuments : ∀ d ∈ manifests.map yaml,
      Yaml.IsBlock d.toList ∧ Yaml.hasContent d.toList = true :=
    List.forall_mem_map.mpr fun m hm => ⟨hblock m hm, m.hasContent_yaml⟩
  rw [stream, Yaml.splitDocuments_joinDocuments hdocuments, List.map_map,
    List.forall₂_map_left_iff, List.forall₂_same]
  intro m hm
  refine String.toList_injective ?_
  rw [Function.comp_apply, String.toList_append, String.toList_ofList, String.toList_append]
  exact (hblock m hm).newline_cons.symm

/-- A note whose text ends in a line separator. -/
def openNote : Manifest :=
  .generated ⟨some ⟨"v1", "Note"⟩, { name := some "a" }, [("text", .str "x\n\u2028")]⟩

/-- The separator behind such a note is a part of it. -/
theorem splitDocuments_openNote :
    Yaml.splitDocuments (stream [openNote]) = ["\n" ++ openNote.yaml ++ "---\n"] ∧
      separatorCount (stream [openNote]) ≠ [openNote].length + 1 := by decide +kernel

end Manifest

end AtlasManifests
