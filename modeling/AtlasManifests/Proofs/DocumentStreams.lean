import AtlasManifests.Yaml.Stream
import Mathlib.Data.List.Forall2
import Mathlib.Data.List.Infix

/-! # Taking a stream apart

A stream is made of blocks of whole lines with a separator before each of them.  If no line of a
block begins with three dashes, then `splitDocuments` gives back the blocks, in their order and
without those that have no content (`Yaml.splitDocuments_streamOf`).  What comes back for a block
is not quite its text: it has the newline of the separator in front, and has lost its last newline
to the separator that follows it.
-/
namespace AtlasManifests.Yaml

/-- The characters of a stream. -/
def streamChars (blocks : List (List Char)) : List Char :=
  blocks.flatMap (separator.toList ++ ·)

/-- The stream of some blocks. -/
def streamOf (blocks : List String) : String := String.join (blocks.map (separator ++ ·))

theorem streamOf_toList (blocks : List String) :
    (streamOf blocks).toList = streamChars (blocks.map String.toList) := by
  rw [streamOf, streamChars, String.toList_join, List.flatMap_map, List.flatMap_map]
  exact List.flatMap_congr fun block _ => String.toList_append

/-! ## Lines and dashes -/

/-- What a line begins with that separates documents. -/
def dashes : List Char := ['-', '-', '-']

/-- No line begins with three dashes. -/
def HasNoDashes (text : List Char) : Prop := ∀ line ∈ linesOf text, ¬ dashes <+: line

instance (text : List Char) : Decidable (HasNoDashes text) :=
  inferInstanceAs (Decidable (∀ line ∈ linesOf text, ¬ dashes <+: line))

variable {c : Char} {text line : List Char} {lines : List (List Char)}

theorem linesOf_newline (text : List Char) : linesOf ('\n' :: text) = [] :: linesOf text := rfl

theorem linesOf_cons (hc : c ≠ '\n') (h : linesOf text = line :: lines) :
    linesOf (c :: text) = (c :: line) :: lines := by
  rw [linesOf.eq_3 c text hc, h]

theorem exists_linesOf (text : List Char) : ∃ line lines, linesOf text = line :: lines := by
  induction text with
  | nil => exact ⟨[], [], rfl⟩
  | cons c text ih =>
    by_cases hc : c = '\n'
    · rw [hc]
      exact ⟨[], linesOf text, rfl⟩
    · obtain ⟨line, lines, h⟩ := ih
      exact ⟨c :: line, lines, linesOf_cons hc h⟩

/-- A word within a line begins the first line if it begins the text. -/
theorem prefix_firstLine {word : List Char} (hword : '\n' ∉ word)
    (hlines : linesOf text = line :: lines) (h : word <+: text) : word <+: line := by
  induction text generalizing word line lines with
  | nil => exact List.prefix_nil.mp h ▸ List.nil_prefix
  | cons c text ih =>
    cases word with
    | nil => exact List.nil_prefix
    | cons a word =>
      obtain ⟨ha, hword⟩ := not_or.mp (List.mem_cons.not.mp hword)
      obtain ⟨rfl, hrest⟩ := List.cons_prefix_cons.mp h
      obtain ⟨first, others, htext⟩ := exists_linesOf text
      rw [linesOf_cons (Ne.symm ha) htext] at hlines
      obtain ⟨rfl, _⟩ := List.cons.inj hlines
      exact List.cons_prefix_cons.mpr ⟨rfl, ih hword htext hrest⟩

/-- What stands behind a newline begins one of the lines behind the first. -/
theorem exists_prefix_line {word : List Char} (hword : '\n' ∉ word)
    (hlines : linesOf text = line :: lines) (h : '\n' :: word <:+: text) :
    ∃ l ∈ lines, word <+: l := by
  induction text generalizing line lines with
  | nil => exact absurd (List.infix_nil.mp h) (List.cons_ne_nil _ _)
  | cons c text ih =>
    obtain ⟨first, others, htext⟩ := exists_linesOf text
    by_cases hc : c = '\n'
    · rw [hc, linesOf_newline, htext] at hlines
      obtain ⟨_, rfl⟩ := List.cons.inj hlines
      rcases List.infix_cons_iff.mp h with h | h
      · exact ⟨first, List.mem_cons_self,
          prefix_firstLine hword htext (List.cons_prefix_cons.mp h).2⟩
      · obtain ⟨l, hl, hbegins⟩ := ih htext h
        exact ⟨l, List.mem_cons_of_mem _ hl, hbegins⟩
    · rw [linesOf_cons hc htext] at hlines
      obtain ⟨_, rfl⟩ := List.cons.inj hlines
      rcases List.infix_cons_iff.mp h with h | h
      · exact absurd (List.cons_prefix_cons.mp h).1.symm hc
      · exact ih htext h

theorem HasNoDashes.not_within (h : HasNoDashes text) : ¬ '\n' :: dashes <:+: '\n' :: text := by
  intro hwithin
  obtain ⟨line, hline, hbegins⟩ :=
    exists_prefix_line (by decide) (linesOf_newline text) hwithin
  exact h line hline hbegins

/-! ## Pieces -/

theorem piecesOf_cons (h : ¬ '\n' :: dashes <+: c :: text) :
    piecesOf (c :: text) = (c :: (piecesOf text).1, (piecesOf text).2) := by
  rw [piecesOf]
  intro rest hc htext
  exact h ⟨rest, by rw [hc, htext]; rfl⟩

/-- Text without separators is one piece. -/
theorem piecesOf_of_not_within (h : ¬ '\n' :: dashes <:+: text) : piecesOf text = (text, []) := by
  induction text with
  | nil => rfl
  | cons c text ih =>
    obtain ⟨hbegins, hwithin⟩ := not_or.mp (List.infix_cons_iff.not.mp h)
    rw [piecesOf_cons hbegins, ih hwithin]

/-- A word does not reach over a character that it does not hold. -/
theorem prefix_of_prefix_append {word rest : List Char} (hword : c ∉ word)
    (h : word <+: text ++ c :: rest) : word <+: text := by
  induction text generalizing word with
  | nil =>
    cases word with
    | nil => exact List.nil_prefix
    | cons a word =>
      have ha : a = c := (List.cons_prefix_cons.mp h).1
      exact absurd (ha ▸ List.mem_cons_self) hword
  | cons d text ih =>
    cases word with
    | nil => exact List.nil_prefix
    | cons a word =>
      obtain ⟨rfl, hrest⟩ := List.cons_prefix_cons.mp h
      exact List.cons_prefix_cons.mpr ⟨rfl, ih (fun ha => hword (List.mem_cons_of_mem _ ha)) hrest⟩

/-- Text without separators is the piece before the next separator. -/
theorem piecesOf_append (h : ¬ '\n' :: dashes <:+: text) (rest : List Char) :
    piecesOf (text ++ '\n' :: (dashes ++ rest)) =
      (text, (piecesOf rest).1 :: (piecesOf rest).2) := by
  induction text with
  | nil => rfl
  | cons c text ih =>
    obtain ⟨hbegins, hwithin⟩ := not_or.mp (List.infix_cons_iff.not.mp h)
    have hcons : ¬ '\n' :: dashes <+: c :: (text ++ '\n' :: (dashes ++ rest)) := by
      intro happend
      obtain ⟨hc, happend⟩ := List.cons_prefix_cons.mp happend
      have hdashes : dashes <+: text := prefix_of_prefix_append (by decide) happend
      exact hbegins (List.cons_prefix_cons.mpr ⟨hc, hdashes⟩)
    rw [List.cons_append, piecesOf_cons hcons, ih hwithin]

/-! ## Blocks -/

/-- Whole lines, of which none begins with three dashes. -/
structure IsBlock (text : List Char) : Prop where
  ended : text = [] ∨ text.getLast? = some '\n'
  noDashes : HasNoDashes text

instance (text : List Char) : Decidable (IsBlock text) :=
  decidable_of_iff ((text = [] ∨ text.getLast? = some '\n') ∧ HasNoDashes text)
    ⟨fun ⟨hended, hnoDashes⟩ => ⟨hended, hnoDashes⟩, fun h => ⟨h.ended, h.noDashes⟩⟩

/-- A block with a newline in front ends in a newline. -/
theorem IsBlock.newline_cons (h : IsBlock text) :
    '\n' :: text = ('\n' :: text).dropLast ++ ['\n'] := by
  have hlast : ('\n' :: text).getLast (List.cons_ne_nil _ _) = '\n' := by
    rcases h.ended with rfl | hlast
    · rfl
    · have hne : text ≠ [] := by
        rintro rfl
        cases hlast
      rw [List.getLast_cons hne]
      exact Option.some.inj ((List.getLast?_eq_some_getLast hne).symm.trans hlast)
  calc '\n' :: text
      = ('\n' :: text).dropLast ++ [('\n' :: text).getLast (List.cons_ne_nil _ _)] :=
        (List.dropLast_append_getLast _).symm
    _ = ('\n' :: text).dropLast ++ ['\n'] := by rw [hlast]

/-- What comes back for the blocks of a stream: every block has got the newline of the separator
before it, and all but the last have lost their own to the separator behind them. -/
def piecesOfBlocks : List (List Char) → List (List Char)
  | [] => []
  | [text] => ['\n' :: text]
  | text :: next :: rest => ('\n' :: text).dropLast :: piecesOfBlocks (next :: rest)

/-- What may come back for a block. -/
def IsPieceOf (piece text : List Char) : Prop :=
  piece = '\n' :: text ∨ piece = ('\n' :: text).dropLast

theorem piecesOfBlocks_isPieceOf (blocks : List (List Char)) :
    List.Forall₂ IsPieceOf (piecesOfBlocks blocks) blocks := by
  induction blocks with
  | nil => exact .nil
  | cons text rest ih =>
    cases rest with
    | nil => exact .cons (.inl rfl) .nil
    | cons next rest => exact .cons (.inr rfl) ih

theorem piecesOf_block {blocks : List (List Char)} (h : ∀ block ∈ text :: blocks, IsBlock block) :
    (piecesOf ('\n' :: text ++ streamChars blocks)).1 ::
      (piecesOf ('\n' :: text ++ streamChars blocks)).2 = piecesOfBlocks (text :: blocks) := by
  induction blocks generalizing text with
  | nil =>
    have htext : IsBlock text := h text List.mem_cons_self
    rw [streamChars, List.flatMap_nil, List.append_nil,
      piecesOf_of_not_within htext.noDashes.not_within]
    rfl
  | cons next rest ih =>
    obtain ⟨htext, hrest⟩ := List.forall_mem_cons.mp h
    have hcut : ¬ '\n' :: dashes <:+: ('\n' :: text).dropLast := fun hwithin =>
      htext.noDashes.not_within (hwithin.trans ( List.dropLast_prefix _).isInfix)
    have hstream : '\n' :: text ++ streamChars (next :: rest) =
        ('\n' :: text).dropLast ++ '\n' :: (dashes ++ ('\n' :: next ++ streamChars rest)) := by
      rw [htext.newline_cons, streamChars, List.flatMap_cons]
      simp only [List.dropLast_concat, List.append_assoc]
      rfl
    rw [hstream, piecesOf_append hcut, ih hrest]
    rfl

/-! ## Content -/

theorem linesOf_append_newline_cons (text rest : List Char) :
    linesOf (text ++ '\n' :: rest) = linesOf text ++ linesOf rest := by
  induction text with
  | nil => rfl
  | cons c text ih =>
    obtain ⟨line, lines, htext⟩ := exists_linesOf text
    rw [htext] at ih
    by_cases hc : c = '\n'
    · rw [hc, List.cons_append, linesOf_newline, linesOf_newline, ih, htext]
      rfl
    · rw [List.cons_append, linesOf_cons hc ih, linesOf_cons hc htext]
      rfl

theorem hasContent_newline_cons (text : List Char) : hasContent ('\n' :: text) = hasContent text :=
  rfl

theorem hasContent_append_newline (text : List Char) :
    hasContent (text ++ ['\n']) = hasContent text := by
  rw [hasContent, linesOf_append_newline_cons, List.any_append]
  exact Bool.or_false _

variable {piece : List Char}

/-- A piece has content if its block has. -/
theorem IsPieceOf.hasContent_eq (h : IsPieceOf piece text) (hblock : IsBlock text) :
    hasContent piece = hasContent text := by
  rcases h with rfl | rfl
  · exact hasContent_newline_cons text
  · rw [← hasContent_newline_cons text, hblock.newline_cons, List.dropLast_concat,
      hasContent_append_newline]

theorem IsPieceOf.dropDashes_eq (h : IsPieceOf piece text) : dropDashes piece = piece := by
  rcases h with rfl | rfl
  · rfl
  · cases text with
    | nil => rfl
    | cons c text => rfl

theorem map_dropDashes {pieces blocks : List (List Char)}
    (h : List.Forall₂ IsPieceOf pieces blocks) : pieces.map dropDashes = pieces := by
  induction h with
  | nil => rfl
  | cons hpiece _ ih => rw [List.map_cons, hpiece.dropDashes_eq, ih]

/-- **Taking a stream apart** gives back its blocks, up to newlines at their ends, in their order
and without those that have no content. -/
theorem splitDocuments_streamOf {blocks : List String}
    (h : ∀ block ∈ blocks, IsBlock block.toList) :
    splitDocuments (streamOf blocks) =
      ((piecesOfBlocks (blocks.map String.toList)).filter hasContent).map String.ofList := by
  rw [splitDocuments, streamOf_toList]
  cases blocks with
  | nil => rfl
  | cons block rest =>
    have hblocks : ∀ text ∈ block.toList :: rest.map String.toList, IsBlock text := by
      rw [← List.map_cons]
      exact List.forall_mem_map.mpr h
    -- before the first separator there is no newline, so its dashes stay with the first piece
    have hfirst : piecesOf (streamChars ((block :: rest).map String.toList)) =
        (dashes ++ (piecesOf ('\n' :: block.toList ++ streamChars (rest.map String.toList))).1,
          (piecesOf ('\n' :: block.toList ++ streamChars (rest.map String.toList))).2) := rfl
    have hpieces := piecesOf_block hblocks
    have hdrop := map_dropDashes (piecesOfBlocks_isPieceOf (block.toList :: rest.map String.toList))
    rw [← hpieces] at hdrop
    rw [hfirst, List.map_cons, ← hpieces]
    exact congrArg (fun pieces => (List.filter hasContent (_ :: pieces)).map String.ofList)
      (List.cons.inj hdrop).2

example : splitDocuments (streamOf ["# nothing\n", "a: 1\n", "b: 2\n"]) =
    ["\na: 1", "\nb: 2\n"] := by decide +kernel

end AtlasManifests.Yaml
