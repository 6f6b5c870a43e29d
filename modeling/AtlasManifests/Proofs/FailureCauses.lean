import AtlasManifests.Proofs.DefinitionLookup
import AtlasManifests.Proofs.FirstFailure

/-! # Why a run has failed

A run fails by a call of the control plane that fails, by a generated kind that there is no mapper
for, or because it runs out of page numbers or names (`Job.FailsBy`).  A computation accounts for
its errors if each of them is that of one of its events, or one of its own; this is kept by doing
one step after the other (`Traced.Accounts.bind`), so it holds of listings, of blocks and of the
whole run (`Job.failsBy_of_failed`).

What the control plane fails with is met within what the call was made for, and an error within
another one is not seen as the absence of something, whatever its root cause.  So a run is known to
have failed for want of something exactly if a definition is not there
(`Job.isNotFound_iff_of_failed`).
-/
namespace AtlasManifests

/-! ## Computations that account for their errors -/

namespace Traced

variable {ε δ α β : Type} {ofEvent : ε → Error → Prop} {own : Error → Prop}

/-- Each error of a computation is that of one of its events, or one of its own. -/
def Accounts (ofEvent : ε → Error → Prop) (own : Error → Prop) (x : Traced ε α) : Prop :=
  ∀ e, x.result = .error e → own e ∨ ∃ event ∈ x.events, ofEvent event e

namespace Accounts

theorem of_ok {x : Traced ε α} {a : α} (h : x.result = .ok a) : x.Accounts ofEvent own := by
  intro e he
  rw [h] at he
  cases he

theorem pure (a : α) : (Pure.pure a : Traced ε α).Accounts ofEvent own := of_ok rfl

theorem emit (event : ε) : (Traced.emit event).Accounts ofEvent own := of_ok rfl

theorem fail {e : Error} (h : own e) : (Traced.fail e : Traced ε α).Accounts ofEvent own := by
  intro e' he'
  obtain rfl := Except.error.inj he'
  exact .inl h

theorem ofExcept {x : Except Error α} (h : ∀ e, x = .error e → own e) :
    (Traced.ofExcept x : Traced ε α).Accounts ofEvent own := fun e he => .inl (h e he)

/-- Two steps account for their errors if each of them does. -/
theorem bind {x : Traced ε α} {f : α → Traced ε β} (hx : x.Accounts ofEvent own)
    (hf : ∀ a, (f a).Accounts ofEvent own) : (x >>= f).Accounts ofEvent own := by
  intro e he
  rw [result_bind] at he
  rw [events_bind]
  cases hresult : x.result with
  | error cause =>
    rw [hresult] at he
    obtain rfl := Except.error.inj he
    rw [List.append_nil]
    exact hx cause hresult
  | ok a =>
    rw [hresult] at he
    exact (hf a e he).imp_right fun ⟨event, hevent, hof⟩ =>
      ⟨event, List.mem_append_right _ hevent, hof⟩

theorem mapEvents {g : ε → δ} {ofEvent : δ → Error → Prop} {x : Traced ε α}
    (h : x.Accounts (fun event => ofEvent (g event)) own) :
    (x.mapEvents g).Accounts ofEvent own := fun e he =>
  (h e he).imp_right fun ⟨event, hevent, hof⟩ => ⟨g event, List.mem_map_of_mem hevent, hof⟩

end Accounts

end Traced

/-- An error says that there are no more of something. -/
def Error.IsExhausted (e : Error) : Prop := ∃ what, e = .exhausted what

section
variable {ε α : Type} {ofEvent : ε → Error → Prop}

theorem pagesFrom_accounts {fetch : PageRequest → Traced ε (Page α)}
    (h : ∀ request, (fetch request).Accounts ofEvent Error.IsExhausted) (left : Nat)
    (request : PageRequest) (received : Nat) :
    (pagesFrom fetch left request received).Accounts ofEvent Error.IsExhausted := by
  induction left generalizing request received with
  | zero => exact .fail ⟨_, rfl⟩
  | succ left ih =>
    rw [pagesFrom]
    refine .bind (h request) fun page => ?_
    dsimp only
    split
    · exact .pure _
    · exact .bind (ih _ _) fun _ => .pure _

theorem paginateEach_accounts {subject : String} {size : Nat}
    {fetch : Provider → PageRequest → Traced ε (Page α)}
    (h : ∀ provider request, ((fetch provider request).mapError
      (.fetch subject (some provider))).Accounts ofEvent Error.IsExhausted)
    (providers : List Provider) :
    (paginateEach subject size fetch providers).Accounts ofEvent Error.IsExhausted := by
  induction providers with
  | nil => exact .pure _
  | cons provider rest ih =>
    exact .bind (pagesFrom_accounts (h provider) _ _ _) fun _ => .bind ih fun _ => .pure _

end

/-! ## Calls that fail -/

namespace ControlPlane

/-- An error is that of a call that fails, within what the call was made for. -/
def FailsAt (cp : ControlPlane) (call : Call) (e : Error) : Prop :=
  ∃ subject cause, cp call = .error cause ∧ e = .fetch subject call.provider? cause

variable (cp : ControlPlane)

/-- A call accounts for its error. -/
theorem ask_accounts (subject : String) (call : Call) :
    ((cp.ask call).mapError (.fetch subject call.provider?)).Accounts cp.FailsAt
      Error.IsExhausted := by
  intro e he
  cases hreply : cp call with
  | error cause =>
    rw [Traced.mapError, ask, hreply] at he
    exact .inr ⟨call, List.mem_singleton_self call, subject, cause, hreply,
      (Except.error.inj he).symm⟩
  | ok reply =>
    rw [Traced.mapError, ask, hreply] at he
    cases he

variable (id : String) (size : Nat)

theorem accessList_accounts : (cp.accessList id size).Accounts cp.FailsAt Error.IsExhausted :=
  pagesFrom_accounts (fun request => cp.ask_accounts _ (.accessList id request)) _ _ _

theorem clusters_accounts : (cp.clusters id size).Accounts cp.FailsAt Error.IsExhausted :=
  pagesFrom_accounts (fun request => cp.ask_accounts _ (.clusters id request)) _ _ _

theorem databaseUsers_accounts :
    (cp.databaseUsers id size).Accounts cp.FailsAt Error.IsExhausted :=
  pagesFrom_accounts (fun request => cp.ask_accounts _ (.databaseUsers id request)) _ _ _

theorem containers_accounts : (cp.containers id size).Accounts cp.FailsAt Error.IsExhausted :=
  paginateEach_accounts (fun p request => cp.ask_accounts _ (.containers id p request)) _

theorem peerings_accounts : (cp.peerings id size).Accounts cp.FailsAt Error.IsExhausted :=
  paginateEach_accounts (fun p request => cp.ask_accounts _ (.peerings id p request)) _

theorem integrations_accounts : (cp.integrations id size).Accounts cp.FailsAt Error.IsExhausted :=
  pagesFrom_accounts (fun request => cp.ask_accounts _ (.integrations id request)) _ _ _

theorem mappedGroups_accounts (ctx : Context) (t : Mapper) (known : List Project)
    (ids : List String) :
    (cp.mappedGroups ctx t known ids).Accounts cp.FailsAt Error.IsExhausted := by
  induction ids with
  | nil => exact .pure _
  | cons id rest ih =>
    refine .bind ?_ fun _ => .bind ih fun _ => .pure _
    rw [knownProject]
    split
    · exact .pure _
    · exact cp.ask_accounts _ (.project id)

theorem mappedClusters_accounts (ctx : Context) (t : Mapper) (refs : ReferenceIndex)
    (ids : List String) :
    (cp.mappedClusters ctx t refs size ids).Accounts cp.FailsAt Error.IsExhausted := by
  induction ids with
  | nil => exact .pure _
  | cons id rest ih => exact .bind (cp.clusters_accounts id size) fun _ => .bind ih fun _ => .pure _

end ControlPlane

/-! ## The run -/

namespace Job

variable (job : Job)

/-- An error is that of an event of a run, which is a call that fails. -/
def EventFails (event : Event) (e : Error) : Prop :=
  ∃ call, event = .call call ∧ job.controlPlane.FailsAt call e

/-- An error is one that there is no mapper for a selected kind with. -/
def LacksMapper (e : Error) : Prop :=
  ∃ config, job.config.generated = some config ∧ ∃ kind ∈ config.kinds,
    job.mapper kind config = .error e

/-- An error is one that a run fails with by itself. -/
def OwnFault (e : Error) : Prop := e.IsExhausted ∨ job.LacksMapper e

variable {job}

theorem calls_accounts {α : Type} {x : Traced Call α}
    (h : x.Accounts job.controlPlane.FailsAt Error.IsExhausted) :
    (calls x).Accounts job.EventFails job.OwnFault := by
  refine .mapEvents fun e he => ?_
  rcases h e he with hown | ⟨call, hcall, hfails⟩
  · exact .inl (.inl hown)
  · exact .inr ⟨call, hcall, call, rfl, hfails⟩

theorem fetched_accounts {α : Type} {kind : RunKind} {x : Run α}
    (h : x.Accounts job.EventFails job.OwnFault) :
    (fetched kind x).Accounts job.EventFails job.OwnFault :=
  .bind (.emit _) fun _ => .bind h fun _ => .bind (.emit _) fun _ => .pure _

theorem listed_accounts {α : Type} {kind : CuratedKind} {listing : Traced Call (List α)}
    (h : listing.Accounts job.controlPlane.FailsAt Error.IsExhausted) :
    (job.listed kind listing).Accounts job.EventFails job.OwnFault := by
  rw [listed]
  split
  · exact fetched_accounts (calls_accounts h)
  · exact .pure _

/-- What is listed is converted without an error. -/
theorem converted_accounts {α β : Type} {kind : CuratedKind} {listing : Traced Call (List α)}
    (h : listing.Accounts job.controlPlane.FailsAt Error.IsExhausted) (convert : List α → β) :
    (job.listed kind listing >>= fun sources => pure (convert sources)).Accounts job.EventFails
      job.OwnFault := .bind (listed_accounts h) fun _ => .pure _

theorem mapped_accounts {kind : GeneratedKind} {map : Mapper → Traced Call (List MappedObject)}
    (h : ∀ t, (map t).Accounts job.controlPlane.FailsAt Error.IsExhausted) :
    (job.mapped kind map).Accounts job.EventFails job.OwnFault := by
  rw [mapped]
  split
  · exact .pure _
  · next config hconfig =>
    split
    · next hkind =>
      refine fetched_accounts (.bind (.ofExcept fun e he => ?_) fun t => calls_accounts (h t))
      exact .inr ⟨config, hconfig, kind, List.contains_iff_mem.mp hkind, he⟩
    · exact .pure _

variable (ctx : Context)

theorem projectBlock_accounts (project : Project) (settings : ProjectSettings) :
    (job.projectBlock ctx project settings).Accounts job.EventFails job.OwnFault := by
  rw [projectBlock]
  split
  · exact .bind (.emit _) fun _ => .pure _
  · exact .pure _

theorem databaseUserBlock_accounts :
    (job.databaseUserBlock ctx).Accounts job.EventFails job.OwnFault := by
  refine .bind (listed_accounts (job.controlPlane.databaseUsers_accounts _ _)) fun users => ?_
  dsimp only
  split
  · exact .fail (.inl ⟨_, rfl⟩)
  · exact .pure _

/-- The words that are drawn for the peerings do not fail. -/
theorem peeringBlock_accounts (containers : ContainerIndex) :
    (job.peeringBlock ctx containers).Accounts job.EventFails job.OwnFault :=
  .bind (listed_accounts (job.controlPlane.peerings_accounts _ _)) fun _ => .of_ok rfl

theorem blocks_accounts (project : Project) (settings : ProjectSettings) :
    (job.blocks project settings).Accounts job.EventFails job.OwnFault := by
  refine .bind (projectBlock_accounts _ project settings) fun _ => ?_
  refine .bind (converted_accounts (job.controlPlane.accessList_accounts _ _) _) fun _ => ?_
  refine .bind (converted_accounts (job.controlPlane.clusters_accounts _ _) _) fun _ => ?_
  refine .bind (databaseUserBlock_accounts _) fun _ => ?_
  refine .bind (converted_accounts (job.controlPlane.containers_accounts _ _) _) fun _ => ?_
  refine .bind (peeringBlock_accounts _ _) fun _ => ?_
  refine .bind (converted_accounts (job.controlPlane.integrations_accounts _ _) _) fun _ => ?_
  refine .bind (converted_accounts (job.controlPlane.ask_accounts _ (.federations _)) _)
    fun _ => ?_
  refine .bind (mapped_accounts fun t => job.controlPlane.mappedGroups_accounts _ t _ _)
    fun _ => ?_
  refine .bind (mapped_accounts fun t => job.controlPlane.mappedClusters_accounts _ _ t _ _)
    fun _ => ?_
  exact .pure _

/-- Each error of a run is that of a call, or one that the run fails with by itself. -/
theorem manifests_accounts : job.manifests.Accounts job.EventFails job.OwnFault :=
  .bind (.emit _) fun _ =>
  .bind (calls_accounts (job.controlPlane.ask_accounts _ (.project _))) fun project =>
  .bind (calls_accounts (job.controlPlane.ask_accounts _ (.settings _))) fun settings =>
  .bind (blocks_accounts project settings) fun _ => .pure _

/-- What a run that has made some calls fails with. -/
inductive FailsBy (job : Job) (calls : List Call) : Error → Prop
  /-- A call has failed, and its error is met within what it was made for. -/
  | call {call : Call} {subject : String} {cause : Error} (hmade : call ∈ calls)
    (hcause : job.controlPlane call = .error cause) :
    FailsBy job calls (.fetch subject call.provider? cause)
  /-- The definition of a selected kind cannot be had. -/
  | lookup {config : GeneratedConfig} {kind : GeneratedKind} {e : Error}
    (hconfig : job.config.generated = some config) (hkind : kind ∈ config.kinds)
    (hfind : job.catalogue.find kind.word config.crdVersion = .error e) : FailsBy job calls e
  /-- The definition of a selected kind does not do for the tag. -/
  | setup {config : GeneratedConfig} {kind : GeneratedKind} {d : Definition} {fault : SetupFault}
    (hconfig : job.config.generated = some config) (hkind : kind ∈ config.kinds)
    (hfind : job.catalogue.find kind.word config.crdVersion = .ok d)
    (hmake : Mapper.make job.registry (some d) config.apiTag = .error fault) :
    FailsBy job calls (.setup fault)
  /-- There are no more page numbers or names. -/
  | exhausted {what : String} : FailsBy job calls (.exhausted what)

/-- There is no mapper because there is no definition, or because of what it says. -/
theorem LacksMapper.failsBy {calls : List Call} {e : Error} (h : job.LacksMapper e) :
    job.FailsBy calls e := by
  obtain ⟨config, hconfig, kind, hkind, hmapper⟩ := h
  rw [mapper, Catalogue.mapper] at hmapper
  cases hfind : job.catalogue.find kind.word config.crdVersion with
  | error cause =>
    rw [hfind] at hmapper
    obtain rfl := Except.error.inj hmapper
    exact .lookup hconfig hkind hfind
  | ok d =>
    rw [hfind] at hmapper
    change (Mapper.make job.registry (some d) config.apiTag).mapError Error.setup =
      .error e at hmapper
    cases hmake : Mapper.make job.registry (some d) config.apiTag with
    | error fault =>
      rw [hmake] at hmapper
      obtain rfl := Except.error.inj hmapper
      exact .setup hconfig hkind hfind hmake
    | ok t =>
      rw [hmake] at hmapper
      cases hmapper

/-- A run that fails has a cause: a call that it has made, a definition, or a bound. -/
theorem failsBy_of_failed {e : Error} (h : job.exported.result = .error e) :
    job.FailsBy job.exported.calls e := by
  rw [result_exported] at h
  rw [calls_exported]
  rcases manifests_accounts e h with (⟨what, rfl⟩ | hlacks) | ⟨event, hevent, call, rfl, hfails⟩
  · exact .exhausted
  · exact hlacks.failsBy
  · obtain ⟨subject, cause, hcause, rfl⟩ := hfails
    exact .call (List.mem_filterMap.mpr ⟨_, hevent, rfl⟩) hcause

/-- A stream fails exactly if there are no manifests to write, and as they do. -/
theorem exportStream_eq_error_iff {e : Error} :
    job.exportStream.result = .error e ↔ job.exported.result = .error e := by
  rw [result_exportStream]
  cases job.exported.result with
  | error cause => simp only [Except.map, Except.error.injEq]
  | ok manifests => exact iff_of_false nofun nofun

/-- An error says that there is no definition of a selected kind. -/
def LacksDefinition (job : Job) (e : Error) : Prop :=
  ∃ config, job.config.generated = some config ∧ ∃ kind ∈ config.kinds, ∃ what,
    job.catalogue.find kind.word config.crdVersion = .error (.notFound what) ∧ e = .notFound what

/-- An error is that of a call for something that does not exist, within what the call was made
for. -/
def HidesAbsence (job : Job) (e : Error) : Prop :=
  ∃ call ∈ job.exported.calls, ∃ subject cause, job.controlPlane call = .error cause ∧
    e = .fetch subject call.provider? cause ∧ cause.rootCause.isNotFound = true

theorem LacksDefinition.isNotFound {e : Error} (h : job.LacksDefinition e) :
    e.isNotFound = true := by
  obtain ⟨_, _, _, _, _, _, rfl⟩ := h
  rfl

theorem LacksDefinition.rootCause {e : Error} (h : job.LacksDefinition e) : e.rootCause = e := by
  obtain ⟨_, _, _, _, _, _, rfl⟩ := h
  rfl

theorem HidesAbsence.isNotFound {e : Error} (h : job.HidesAbsence e) : e.isNotFound = false := by
  obtain ⟨_, _, _, _, _, rfl, _⟩ := h
  rfl

theorem HidesAbsence.rootCause {e : Error} (h : job.HidesAbsence e) :
    e.rootCause.isNotFound = true := by
  obtain ⟨_, _, _, _, _, rfl, hcause⟩ := h
  exact hcause

/-- The absence of something is at the root of an error only if a definition is not there, or a
call was for something that does not exist. -/
theorem FailsBy.lacks_or_hides {e : Error} (h : job.FailsBy job.exported.calls e)
    (hroot : e.rootCause.isNotFound = true) : job.LacksDefinition e ∨ job.HidesAbsence e := by
  cases h with
  | call hmade hcause => exact .inr ⟨_, hmade, _, _, hcause, rfl, hroot⟩
  | lookup hconfig hkind hfind =>
    rcases Catalogue.find_error hfind with ⟨what, rfl⟩ | ⟨detail, rfl⟩
    · exact .inl ⟨_, hconfig, _, hkind, what, hfind, rfl⟩
    · cases hroot
  | setup => cases hroot
  | exhausted => cases hroot

/-- **What a failed run can be told from.**  Let a run fail, with or without writing a stream.  The
cause is a call that it has made, a definition, or a bound.  The error is seen as the absence of
something exactly if there is no definition of a selected kind.  Its root cause is the absence of
something also if a call was for something that does not exist, and just then the error is not what
its root cause is. -/
theorem isNotFound_iff_of_failed {e : Error}
    (h : job.exported.result = .error e ∨ job.exportStream.result = .error e) :
    job.FailsBy job.exported.calls e ∧
    (e.isNotFound = true ↔ job.LacksDefinition e) ∧
    (e.rootCause.isNotFound = true ↔ job.LacksDefinition e ∨ job.HidesAbsence e) ∧
    ((e.isNotFound = true ↔ e.rootCause.isNotFound = true) ↔ ¬ job.HidesAbsence e) := by
  have hfails : job.FailsBy job.exported.calls e :=
    failsBy_of_failed (h.elim id exportStream_eq_error_iff.mp)
  have hroot : e.rootCause.isNotFound = true ↔ job.LacksDefinition e ∨ job.HidesAbsence e := by
    refine ⟨hfails.lacks_or_hides, ?_⟩
    rintro (hlacks | hhides)
    · rw [hlacks.rootCause, hlacks.isNotFound]
    · exact hhides.rootCause
  have hself : e.isNotFound = true ↔ job.LacksDefinition e := by
    refine ⟨fun hfound => ?_, LacksDefinition.isNotFound⟩
    have hcause : e.rootCause = e := by cases e <;> first | rfl | cases hfound
    rcases hfails.lacks_or_hides (hcause.symm ▸ hfound) with hlacks | hhides
    · exact hlacks
    · rw [hhides.isNotFound] at hfound
      cases hfound
  refine ⟨hfails, hself, hroot, ?_⟩
  rw [hself, hroot]
  constructor
  · intro hiff hhides
    have hfound := (hiff.mpr (.inr hhides)).isNotFound
    rw [hhides.isNotFound] at hfound
    cases hfound
  · exact fun hnot => ⟨.inl, fun hor => hor.resolve_right hnot⟩

/-- An export with definitions for a version of the operator that there are none for. -/
def smallOutdated : Job :=
  { small "Shop" with
    config := { space := "atlas", projectId := "1", generated := some { crdVersion := "1.0.0" } } }

/-- A run without definitions is seen to lack them. -/
theorem isNotFound_iff_of_failed_outdated :
    ∃ e, smallOutdated.exported.result = .error e ∧ smallOutdated.LacksDefinition e ∧
      (e.isNotFound = true ↔ e.rootCause.isNotFound = true) := by
  have hfailed : (smallOutdated.exported.result.map fun _ => ()) =
      .error (.notFound (.version "1.0.0")) := by decide +kernel
  cases hresult : smallOutdated.exported.result with
  | error e =>
    rw [hresult] at hfailed
    obtain rfl := Except.error.inj hfailed
    obtain ⟨-, hself, -, hsame⟩ := isNotFound_iff_of_failed (.inl hresult)
    refine ⟨_, rfl, hself.mp rfl, hsame.mpr fun hhides => ?_⟩
    cases hhides.isNotFound
  | ok manifests =>
    rw [hresult] at hfailed
    cases hfailed

/-- An export of a project that does not exist. -/
def smallUnknown : Job :=
  (small "Shop").against
    ((ControlPlane.small "Shop").failingAt (.project "1") (.api 404 "GROUP_NOT_FOUND"))

/-- The export of a project that does not exist fails, and not as if something did not exist. -/
theorem not_isNotFound_unknown :
    ∃ e, smallUnknown.exported.result = .error e ∧ e.rootCause = .api 404 "GROUP_NOT_FOUND" ∧
      e.rootCause.isNotFound = true ∧ e.isNotFound = false := ⟨_, rfl, rfl, rfl, rfl⟩

end Job

end AtlasManifests
