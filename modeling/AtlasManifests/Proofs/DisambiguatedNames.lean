import AtlasManifests.Manifest.Basic
import AtlasManifests.Proofs.JoinedLabels
import Mathlib.Data.List.Nodup

/-! # Names that are made distinct

Names that would meet are told apart in two ways.

Peerings are told apart by words that are drawn for them.  A word stays whole behind any name, with
a front of the name before it that is never empty (`Label.withSuffix_eq_append`), so peerings with
different words have different names (`Label.withSuffix_keepsSuffix`).

Other names are claimed, and a name that is in use is told apart by a token.  `Claims.History`
is any sequence of calls on the names in use, each with what it returned.  What one call does is
said by `Claims.Event.Happens`, and the rest follows from it by induction: no name is given away
twice for a kind, and in use is what the calls were about (`Claims.History.keepsApart`).
-/
namespace AtlasManifests

/-! ## Words behind names -/

namespace Label

/-- A word stays whole behind a name, of which a front is left that is not empty, and all of it if
there is room. -/
theorem withSuffix_eq_append {name suffix : String} (hn : IsLabel name.toList)
    (hs : IsWord suffix.toList) :
    ∃ front, front ≠ [] ∧ front <+: name.toList ∧
      (withSuffix name suffix).toList = front ++ '-' :: suffix.toList ∧
      (name.toList.length + 1 + suffix.toList.length ≤ maxLength → front = name.toList) := by
  have hmax : maxLength = 63 := rfl
  have hword := hs.length_le
  refine ⟨fit (roomBefore suffix.toList) name.toList, ?_, fit_prefix _ _,
    withSuffix_toList hn hs, fun hfits => fit_of_length_le ?_⟩
  · refine fit_ne_nil hn.head_ne hn.ne_nil ?_
    rw [roomBefore]
    omega
  · rw [roomBefore]
    omega

end Label

/-- A peering that is converted with a word: in a context, and with the containers that it may refer
to. -/
structure DrawnPeering where
  ctx : Context
  source : Peering
  containers : ContainerIndex
  word : String

namespace DrawnPeering

/-- The manifest of the peering. -/
def manifest (p : DrawnPeering) : Manifest :=
  .peering (p.ctx.peering p.source p.containers p.word)

theorem name_manifest (p : DrawnPeering) :
    p.manifest.name = Label.unique
      [p.ctx.projectName, "peering", lowerTag (p.source.providerName.getD ""), p.source.regionToken]
      p.word := rfl

end DrawnPeering

/-- **The word behind a name always survives.**  A name with a word behind it is a label again: the
word after a dash, and before it a front of the name that is not empty, which is the whole name if
there is room for it.  So names with different words differ, and peerings that are converted with
words of their own have names of their own, whatever their projects, providers and regions are. -/
theorem Label.withSuffix_keepsSuffix :
    (∀ name suffix : String, IsLabel name.toList → IsWord suffix.toList →
      IsLabel (withSuffix name suffix).toList ∧
        ∃ front, front ≠ [] ∧ front <+: name.toList ∧
          (withSuffix name suffix).toList = front ++ '-' :: suffix.toList ∧
          (name.toList.length + 1 + suffix.toList.length ≤ maxLength → front = name.toList)) ∧
    (∀ name name' suffix suffix' : String, IsLabel name.toList → IsLabel name'.toList →
      IsWord suffix.toList → IsWord suffix'.toList →
      withSuffix name suffix = withSuffix name' suffix' → suffix = suffix') ∧
    ∀ peerings : List DrawnPeering, (∀ p ∈ peerings, IsWord p.word.toList) →
      (peerings.map (·.word)).Nodup → (peerings.map fun p => p.manifest.name).Nodup := by
  refine ⟨fun name suffix hn hs => ⟨isLabel_withSuffix name suffix, withSuffix_eq_append hn hs⟩,
    fun _ _ _ _ hn hn' hs hs' heq => eq_of_withSuffix_eq hn hn' hs hs' heq, ?_⟩
  intro peerings hwords hnodup
  simp only [DrawnPeering.name_manifest]
  exact unique_nodup hwords hnodup

/-- A name that fills a label is cut right behind its dash, and two equal peerings of a project with
such a name are told apart by their words. -/
theorem Label.withSuffix_keepsSuffix_full :
    ∃ name : String, ∃ ctx : Context, ∃ source : Peering,
      name.toList = List.replicate 56 'a' ++ '-' :: List.replicate 6 'b' ∧
      ctx.projectName = name ∧ IsLabel name.toList ∧ IsWord "abc12".toList ∧
      IsLabel (withSuffix name "abc12").toList ∧
      (∃ front, front ≠ [] ∧ front <+: name.toList ∧
        (withSuffix name "abc12").toList = front ++ "-abc12".toList) ∧
      (["abc12", "abc13"].map fun word =>
        (DrawnPeering.mk ctx source ⟨[]⟩ word).manifest.name).Nodup := by
  have hname : (String.ofList (List.replicate 56 'a' ++ '-' :: List.replicate 6 'b')).toList =
      List.replicate 56 'a' ++ '-' :: List.replicate 6 'b' := String.toList_ofList
  have hlabel : IsLabel
      (String.ofList (List.replicate 56 'a' ++ '-' :: List.replicate 6 'b')).toList := by
    rw [hname]
    decide +kernel
  have hword : IsWord "abc12".toList := by decide
  obtain ⟨hall, -, hpeerings⟩ := withSuffix_keepsSuffix
  obtain ⟨hresult, front, hne, hprefix, heq, -⟩ := hall _ _ hlabel hword
  exact ⟨_, ⟨"atlas", "1", _, "2.10.0", false, false⟩, { containerId := "c1" }, hname, rfl, hlabel,
    hword, hresult, ⟨front, hne, hprefix, heq⟩,
    hpeerings (["abc12", "abc13"].map fun word => ⟨_, _, ⟨[]⟩, word⟩) (by decide) (by decide)⟩

/-! ## One claim -/

namespace Claims

variable {claims claims' : Claims} {kind name source found : String}

theorem isTaken_iff : claims.isTaken kind name = true ↔ (kind, name) ∈ claims.taken :=
  List.contains_iff_mem

theorem isTaken_eq_false_iff : claims.isTaken kind name = false ↔ (kind, name) ∉ claims.taken := by
  rw [← Bool.not_eq_true, isTaken_iff]

theorem mem_taken_reserve : (kind, name) ∈ (claims.reserve kind name).2.taken := by
  rw [reserve]
  split
  · exact isTaken_iff.mp ‹_›
  · exact List.mem_cons_self

theorem search_cases {tries : Nat} {seed : String}
    (h : claims.search kind name tries seed = some found) :
    claims.isTaken kind found = false ∧ ∃ seed', found = candidate name seed' := by
  induction tries generalizing seed with
  | zero => simp [search] at h
  | succ tries ih =>
    rw [search] at h
    split at h
    · exact ih h
    · obtain rfl := Option.some.inj h
      exact ⟨Bool.eq_false_iff.mpr ‹_›, seed, rfl⟩

/-- A claim that gives up after some number of seeds. -/
def claimWithin (claims : Claims) (tries : Nat) (kind name source : String) :
    Option (String × Claims) :=
  if claims.isTaken kind name then
    (claims.search kind name tries source).map fun found => (found, claims.add kind found)
  else some (name, claims.add kind name)

theorem claim_eq_claimWithin :
    claims.claim kind name source = claims.claimWithin claims.seeds kind name source := rfl

/-- **A claim returns a free name and takes it**, however many seeds it tries.  It is the name that
was asked for, or that name with a token behind it. -/
theorem claimWithin_cases {tries : Nat}
    (h : claims.claimWithin tries kind name source = some (found, claims')) :
    (kind, found) ∉ claims.taken ∧ claims' = claims.add kind found ∧
      (found = name ∨ ∃ seed, found = candidate name seed) := by
  rw [claimWithin] at h
  split at h
  · obtain ⟨other, hsearch, heq⟩ := Option.map_eq_some_iff.mp h
    obtain ⟨rfl, rfl⟩ := Prod.mk.inj heq
    obtain ⟨hfree, hseed⟩ := search_cases hsearch
    exact ⟨isTaken_eq_false_iff.mp hfree, rfl, .inr hseed⟩
  · obtain ⟨rfl, rfl⟩ := Prod.mk.inj (Option.some.inj h)
    exact ⟨isTaken_eq_false_iff.mp (Bool.eq_false_iff.mpr ‹_›), rfl, .inl rfl⟩

theorem claim_cases (h : claims.claim kind name source = some (found, claims')) :
    (kind, found) ∉ claims.taken ∧ claims' = claims.add kind found ∧
      (found = name ∨ ∃ seed, found = candidate name seed) :=
  claimWithin_cases (claim_eq_claimWithin ▸ h)

theorem isLabel_claimWithin {tries : Nat}
    (h : claims.claimWithin tries kind name source = some (found, claims'))
    (hname : Label.IsLabel name.toList) : Label.IsLabel found.toList := by
  rcases (claimWithin_cases h).2.2 with hsame | ⟨seed, hseed⟩
  · rw [hsame]
    exact hname
  · rw [hseed]
    exact Label.isLabel_withSuffix name _

theorem isLabel_claim (h : claims.claim kind name source = some (found, claims'))
    (hname : Label.IsLabel name.toList) : Label.IsLabel found.toList :=
  isLabel_claimWithin (claim_eq_claimWithin ▸ h) hname

/-! ## Claims in turn -/

/-- A call on the names in use, with what it returned. -/
inductive Event
  /-- A name was reserved, and was free or not. -/
  | reserved (kind name : String) (free : Bool)
  /-- A name was claimed, and one was found that was free. -/
  | claimed (kind name source found : String)

namespace Event

/-- What was asked for. -/
def asked : Event → String × String
  | reserved kind name _ => (kind, name)
  | claimed kind name _ _ => (kind, name)

/-- What is in use after the call. -/
def key : Event → String × String
  | reserved kind name _ => (kind, name)
  | claimed kind _ _ found => (kind, found)

/-- Whether the call gave a name away. -/
def gives : Event → Bool
  | reserved _ _ free => free
  | claimed .. => true

/-- What a call does to the names in use, and what it gives away of them. -/
structure Happens (e : Event) (before after : Claims) : Prop where
  /-- One name is in use after it, and all others are as they were before. -/
  taken : ∀ key, key ∈ after.taken ↔ key = e.key ∨ key ∈ before.taken
  /-- What it gives away was free. -/
  fresh : e.gives = true → e.key ∉ before.taken
  /-- It gives away the very name that was asked for exactly if that was free. -/
  unchanged : e.gives = true ∧ e.key = e.asked ↔ e.asked ∉ before.taken
  /-- It answers a label with a label. -/
  isLabel : Label.IsLabel e.asked.2.toList → Label.IsLabel e.key.2.toList

end Event

variable {before between after : Claims} {e : Event} {events past future : List Event}

/-- One call.  A claim may try any number of seeds. -/
inductive Step (before : Claims) : Event → Claims → Prop
  | reserve (kind name : String) :
      Step before (.reserved kind name (before.reserve kind name).1) (before.reserve kind name).2
  | claim {kind name source found : String} {after : Claims} (tries : Nat)
      (h : before.claimWithin tries kind name source = some (found, after)) :
      Step before (.claimed kind name source found) after

/-- Calls in turn. -/
inductive History : Claims → List Event → Claims → Prop
  | nil (claims : Claims) : History claims [] claims
  | cons {before between after : Claims} {e : Event} {future : List Event}
      (step : Step before e between) (later : History between future after) :
      History before (e :: future) after

/-- The names that some calls give away, each with its kind. -/
def given (events : List Event) : List (String × String) :=
  (events.filter Event.gives).map Event.key

theorem given_append (events events' : List Event) :
    given (events ++ events') = given events ++ given events' := by
  rw [given, List.filter_append, List.map_append, given, given]

theorem given_cons (e : Event) (events : List Event) :
    given (e :: events) = if e.gives then e.key :: given events else given events := by
  cases hgives : e.gives <;> simp [given, hgives]

theorem mem_taken_add {key : String × String} :
    key ∈ (claims.add kind name).taken ↔ key = (kind, name) ∨ key ∈ claims.taken := List.mem_cons

/-- A claim that returns gives the very name that was asked for exactly if that was free. -/
theorem claimWithin_eq_name_iff {tries : Nat}
    (h : claims.claimWithin tries kind name source = some (found, after)) :
    found = name ↔ (kind, name) ∉ claims.taken := by
  constructor
  · rintro rfl
    exact (claimWithin_cases h).1
  · intro hfree
    rw [claimWithin, isTaken_eq_false_iff.mpr hfree] at h
    exact (Prod.mk.inj (Option.some.inj h)).1.symm

theorem reserve_of_mem (h : (kind, name) ∈ claims.taken) :
    claims.reserve kind name = (false, claims) := if_pos (isTaken_iff.mpr h)

theorem reserve_of_not_mem (h : (kind, name) ∉ claims.taken) :
    claims.reserve kind name = (true, claims.add kind name) :=
  if_neg fun htaken => h (isTaken_iff.mp htaken)

theorem Step.of_free (h : (kind, name) ∉ before.taken) :
    Step before (.reserved kind name true) (before.add kind name) := by
  have hstep : Step before _ _ := .reserve kind name
  rwa [reserve_of_not_mem h] at hstep

theorem Step.of_taken (h : (kind, name) ∈ before.taken) :
    Step before (.reserved kind name false) before := by
  have hstep : Step before _ _ := .reserve kind name
  rwa [reserve_of_mem h] at hstep

theorem Step.of_claim (h : before.claim kind name source = some (found, after)) :
    Step before (.claimed kind name source found) after :=
  .claim before.seeds (claim_eq_claimWithin ▸ h)

/-- Of a claim that returns it is enough to know what it has found. -/
theorem Step.of_found (h : (before.claim kind name source).map (·.1) = some found) :
    Step before (.claimed kind name source found) (before.add kind found) := by
  obtain ⟨⟨_, after⟩, hclaim, rfl⟩ := Option.map_eq_some_iff.mp h
  obtain rfl := (claim_cases hclaim).2.1
  exact .of_claim hclaim

/-- **What a call does**, whether it reserves a name or claims it. -/
theorem Step.happens (h : Step before e after) : e.Happens before after := by
  cases h with
  | reserve kind name =>
    by_cases hmem : (kind, name) ∈ before.taken
    · rw [reserve_of_mem hmem]
      refine ⟨fun key => ⟨.inr, ?_⟩, ?_, ?_, id⟩
      · rintro (rfl | hkey)
        · exact hmem
        · exact hkey
      · simp [Event.gives]
      · simp [Event.gives, Event.asked, hmem]
    · rw [reserve_of_not_mem hmem]
      refine ⟨fun key => mem_taken_add, fun _ => hmem, ?_, id⟩
      simp [Event.gives, Event.key, Event.asked, hmem]
  | @claim kind name source found _ tries h =>
    obtain ⟨hfree, rfl, -⟩ := claimWithin_cases h
    refine ⟨fun key => mem_taken_add, fun _ => hfree, ?_, isLabel_claimWithin h⟩
    have hsame := claimWithin_eq_name_iff h
    simpa [Event.gives, Event.key, Event.asked] using hsame

/-- A history can be taken apart between any two calls. -/
theorem history_append_iff :
    History before (past ++ future) after ↔ ∃ between, History before past between ∧
      History between future after := by
  constructor
  · intro h
    induction past generalizing before with
    | nil => exact ⟨before, .nil before, h⟩
    | cons e rest ih =>
      cases h with
      | cons step later =>
        obtain ⟨between, hpast, hfuture⟩ := ih later
        exact ⟨between, .cons step hpast, hfuture⟩
  · rintro ⟨between, hpast, hfuture⟩
    induction hpast with
    | nil => exact hfuture
    | cons step _ ih => exact .cons step (ih hfuture)

/-- In use after a history is what its calls were about, and what was in use before. -/
theorem History.mem_taken_iff (h : History before events after) {key : String × String} :
    key ∈ after.taken ↔ key ∈ events.map Event.key ∨ key ∈ before.taken := by
  induction h with
  | nil => simp
  | cons step _ ih =>
    rw [ih, step.happens.taken, List.map_cons, List.mem_cons]
    tauto

/-- **What a history gives away was not in use before, and is given away once.** -/
theorem History.given_nodup (h : History before events after) :
    (given events).Nodup ∧ ∀ key ∈ given events, key ∉ before.taken := by
  induction h with
  | nil => simp [given]
  | @cons before between after e future step _ ih =>
    obtain ⟨hnodup, hfree⟩ := ih
    have htaken := step.happens.taken
    -- later names were free after this call, and so before it
    have hfree' : ∀ key ∈ given future, key ∉ before.taken :=
      fun key hkey hmem => hfree key hkey ((htaken key).mpr (.inr hmem))
    rw [given_cons]
    split
    · -- the name of this call was in use by then
      have hother : e.key ∉ given future := fun hmem => hfree _ hmem ((htaken _).mpr (.inl rfl))
      refine ⟨List.nodup_cons.mpr ⟨hother, hnodup⟩, fun key hkey => ?_⟩
      rcases List.mem_cons.mp hkey with rfl | hkey
      · exact step.happens.fresh ‹_›
      · exact hfree' key hkey
    · exact ⟨hnodup, hfree'⟩

/-- **What is true of every history of calls** that begins with no name in use and asks for labels.
For each kind, no name is given away twice; all names that are given away are labels; in use are
exactly the names that the calls reserved or returned; and each call did to the names that were in
use at its time what it does, so that no name gets free and no other kind is touched. -/
theorem History.keepsApart (h : History empty events after)
    (hnames : ∀ e ∈ events, Label.IsLabel e.asked.2.toList) :
    (given events).Nodup ∧
      (∀ e ∈ events, Label.IsLabel e.key.2.toList) ∧
      (∀ kind name, after.isTaken kind name = true ↔ (kind, name) ∈ events.map Event.key) ∧
      ∀ past e future, events = past ++ e :: future →
        ∃ before between, History empty past before ∧ Step before e between ∧
          History between future after ∧ e.Happens before between := by
  have hstep : ∀ past e future, events = past ++ e :: future →
      ∃ before between, History empty past before ∧ Step before e between ∧
        History between future after ∧ e.Happens before between := by
    rintro past e future rfl
    obtain ⟨before, hpast, hrest⟩ := history_append_iff.mp h
    cases hrest with
    | cons step later => exact ⟨before, _, hpast, step, later, step.happens⟩
  refine ⟨h.given_nodup.1, fun e he => ?_, fun kind name => ?_, hstep⟩
  · obtain ⟨past, future, hsplit⟩ := List.append_of_mem he
    obtain ⟨_, _, _, _, _, hhappens⟩ := hstep past e future hsplit
    exact hhappens.isLabel (hnames e he)
  · rw [isTaken_iff, h.mem_taken_iff]
    simp [empty]

/-- A name is reserved, then claimed twice for one source, which takes two seeds the second time,
then claimed for another kind; and at last the name that got the first token is claimed. -/
theorem History.keepsApart_tokens :
    ∃ events after, History empty events after ∧ (∀ e ∈ events, Label.IsLabel e.asked.2.toList) ∧
      events.map Event.key = [("Secret", "a"), ("Secret", "a-2d711642"), ("Secret", "a"),
        ("Secret", "a-7e98893c"), ("User", "a"), ("Secret", "a-2d711642-a1fce436")] ∧
      (given events).Nodup ∧
      after.isTaken "User" "a-2d711642" = false := by
  let events : List Event :=
    [.reserved "Secret" "a" true, .claimed "Secret" "a" "x" "a-2d711642",
      .reserved "Secret" "a" false, .claimed "Secret" "a" "x" "a-7e98893c",
      .claimed "User" "a" "x" "a", .claimed "Secret" "a-2d711642" "y" "a-2d711642-a1fce436"]
  have hhistory : History empty events _ :=
    .cons (.of_free (by decide)) <|
    .cons (.of_found (by decide +kernel)) <|
    .cons (.of_taken (by decide)) <|
    .cons (.of_found (by decide +kernel)) <|
    .cons (.of_found (by decide +kernel)) <|
    .cons (.of_found (by decide +kernel)) (.nil _)
  have hnames : ∀ e ∈ events, Label.IsLabel e.asked.2.toList := by decide +kernel
  obtain ⟨hnodup, -, htaken, -⟩ := hhistory.keepsApart hnames
  refine ⟨events, _, hhistory, hnames, rfl, hnodup, Bool.eq_false_iff.mpr fun h => ?_⟩
  exact absurd ((htaken _ _).mp h) (by decide)

end Claims

end AtlasManifests
