import AtlasManifests.Manifest.Context
import AtlasManifests.Proofs.JoinedLabels

/-! # Names under the name of the project

The objects of a project are named after it: the name of the project, a dash, and the name of what
the object is about, cut to the length of a name (`Label.under`).  The name behind the dash is cut
before it is put there, which does not show, since what stands before it takes up more than the
cut can (`Label.fit_cut`).

A project without a name has one as an object nevertheless, the token of the empty text, but its
objects are named as if there were no project: that is the only case in which names do not hang
under the one of the project (`Context.hangsNames_iff`).
-/
namespace AtlasManifests

namespace Label

/-- A name under another one: both with a dash between them, cut to the length of a name and
without a dash at its end. -/
def under (stem rest : String) : String :=
  String.ofList (trimEndDashes ((stem.toList ++ '-' :: rest.toList).take maxLength))

theorem toList_under {stem rest : String} (h : IsLabel rest.toList) :
    (under stem rest).toList = cut (glue stem.toList rest.toList) := by
  have hlast : (stem.toList ++ '-' :: rest.toList).getLast? ≠ some '-' := by
    rw [List.getLast?_append_of_ne_nil _ (by simp), List.getLast?_cons_of_ne_nil h.ne_nil]
    exact h.last_ne
  rw [under, String.toList_ofList, glue_of_ne_nil h.ne_nil, cut_eq_trimEndDashes hlast]

/-- What there is room for is the same before and after a cut that leaves more than it. -/
theorem fit_cut {cs : List Char} (h : IsSpelled cs) {n : Nat} (hn : n + 1 < maxLength) :
    fit n (cut cs) = fit n cs := by
  by_cases hlen : maxLength < cs.length
  · have hchain : (cs.take maxLength).IsChain Apart :=
      h.chain.prefix (List.take_prefix maxLength cs)
    have htrim := length_le_trimEndDashes hchain
    rw [List.length_take_of_le (Nat.le_of_lt hlen)] at htrim
    -- the cut takes one dash at most, so it does not reach what there is room for
    have hcut : n < (cut cs).length := by
      rw [cut, if_pos hlen]
      omega
    have hprefix : cut cs <+: cs := cut_eq_fit cs ▸ fit_prefix maxLength cs
    have htake : (cut cs).take n = cs.take n := by
      rw [List.prefix_iff_eq_take.mp hprefix, List.take_take, Nat.min_eq_left (Nat.le_of_lt hcut)]
    rw [fit_of_lt_length hcut, fit_of_lt_length (by omega), htake]
  · rw [cut_eq_self (Nat.le_of_not_lt hlen)]

/-- **The name of several texts hangs under the name of the first one**, if neither that nor all
of the others are empty. -/
theorem normalizeParts_cons_eq_under {first : String} (h : first ≠ "") {parts : List String}
    (hparts : ∃ part ∈ parts, part ≠ "") :
    normalizeParts (first :: parts) = under (normalize first) (normalizeParts parts) := by
  have hfirst := isLabel_normalize first
  have hname := toList_normalizeParts (joined_ne_nil_iff.mpr hparts)
  have hroom : room (normalize first).toList + 1 < maxLength := by
    have hpos := List.length_pos_iff.mpr hfirst.ne_nil
    have hmax : maxLength = 63 := rfl
    rw [room]
    omega
  refine String.toList_inj.mp ?_
  rw [normalizeParts_cons h, behind, if_neg h, toList_under (isLabel_normalizeParts parts),
    cut_glue hfirst, hname, fit_cut (isSpelled_joined parts) hroom]

end Label

namespace Context

variable (ctx : Context)

/-- All names of a project hang under its own name: those of its objects, and that of the secret
that gives access to it. -/
structure HangsNames : Prop where
  scopedName (parts : List String) (h : ∃ part ∈ parts, part ≠ "") :
    ctx.scopedName parts = Label.under ctx.projectResourceName (Label.normalizeParts parts)
  credentialsSecretName :
    ctx.credentialsSecretName = Label.under ctx.projectResourceName "credentials"

theorem normalizeParts_credentials : Label.normalizeParts ["credentials"] = "credentials" := by
  decide +kernel

theorem hangsNames_of_named (h : ctx.projectName ≠ "") : ctx.HangsNames where
  scopedName _ hparts := Label.normalizeParts_cons_eq_under h hparts
  credentialsSecretName := by
    have hsome : ∃ part ∈ ["credentials"], part ≠ "" :=
      ⟨_, List.mem_singleton_self _, by decide⟩
    have hunder := Label.normalizeParts_cons_eq_under h hsome
    rwa [normalizeParts_credentials] at hunder

/-- Without a name of the project, names are made of the parts alone. -/
theorem scopedName_of_unnamed (h : ctx.projectName = "") (parts : List String) :
    ctx.scopedName parts = Label.normalizeParts parts := by
  rw [scopedName, h, Label.normalizeParts_cons_empty]

theorem credentialsSecretName_of_unnamed (h : ctx.projectName = "") :
    ctx.credentialsSecretName = "credentials" := by
  rw [credentialsSecretName, h, Label.normalizeParts_cons_empty, normalizeParts_credentials]

theorem projectResourceName_of_unnamed (h : ctx.projectName = "") :
    ctx.projectResourceName = Label.token "" := by
  rw [projectResourceName, h]
  exact Label.normalize_of_spelling_nil (by decide)

/-- **Names hang under the name of the project exactly if it has one.**  Without it the project is
called by the token of the empty text, and the names of its objects are those of their parts
alone. -/
theorem hangsNames_iff :
    (ctx.HangsNames ↔ ctx.projectName ≠ "") ∧
      (ctx.projectName = "" → ctx.projectResourceName = Label.token "" ∧
        ctx.credentialsSecretName = "credentials" ∧
        ∀ parts, ctx.scopedName parts = Label.normalizeParts parts) := by
  refine ⟨⟨fun hnames hempty => ?_, ctx.hangsNames_of_named⟩, fun hempty => ?_⟩
  · have hsecret := hnames.credentialsSecretName
    rw [ctx.credentialsSecretName_of_unnamed hempty,
      ctx.projectResourceName_of_unnamed hempty] at hsecret
    exact absurd hsecret (by decide +kernel)
  · exact ⟨ctx.projectResourceName_of_unnamed hempty, ctx.credentialsSecretName_of_unnamed hempty,
      ctx.scopedName_of_unnamed hempty⟩

/-- A project with so long a name that the cut falls right behind the dash after it. -/
theorem hangsNames_iff_full :
    let ctx : Context :=
      ⟨"atlas", "1", String.ofList (List.replicate 62 'A'), "2.10.0", false, false⟩
    ctx.projectName ≠ "" ∧
      ctx.scopedName ["x"] = Label.under ctx.projectResourceName (Label.normalizeParts ["x"]) ∧
      (ctx.scopedName ["x"]).toList = List.replicate 62 'a' := by
  intro ctx
  have hname : ctx.projectName ≠ "" := by decide
  have hunder := (ctx.hangsNames_iff.1.mpr hname).scopedName ["x"] ⟨"x", by simp, by decide⟩
  exact ⟨hname, hunder, by decide +kernel⟩

/-- The names of a project without a name. -/
theorem not_hangsNames_unnamed :
    let ctx : Context := ⟨"atlas", "1", "", "2.10.0", false, false⟩
    ¬ ctx.HangsNames ∧
      ctx.scopedName ["Cluster0"] = "cluster0" ∧
      Label.under ctx.projectResourceName (Label.normalizeParts ["Cluster0"]) =
        "e3b0c442-cluster0" ∧
      ctx.credentialsSecretName = "credentials" ∧
      Label.under ctx.projectResourceName "credentials" = "e3b0c442-credentials" := by
  intro ctx
  have hapart : ctx.credentialsSecretName ≠ Label.under ctx.projectResourceName "credentials" := by
    decide +kernel
  exact ⟨fun hnames => hapart hnames.credentialsSecretName, by decide +kernel⟩

end Context

end AtlasManifests
