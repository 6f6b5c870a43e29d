import AtlasManifests.Proofs.Findings

/-! # Runs side by side

Two exports may differ in details that are of no account: how objects are linked, or which bytes
are in secrets.  A view of manifests says what is of account.  Two computations look alike in a
view if the same happens in both and what they return looks alike (`Traced.view`).  Computations
that look alike can be put one after the other (`Traced.bind_view_congr`); so if all blocks of two
runs look alike (`Job.BlocksAlike`), then so do their exports (`Job.exported_view_eq`).
-/
namespace AtlasManifests

namespace Traced

variable {ε α β γ δ : Type}

/-- What happens, and a view of the result. -/
def view (f : α → γ) (x : Traced ε α) : Traced ε γ := ⟨x.events, x.result.map f⟩

theorem view_pure (a : α) (g : α → γ) : (Pure.pure a : Traced ε α).view g = Pure.pure (g a) := rfl

theorem bind_view (x : Traced ε α) (g : α → γ) (f : γ → Traced ε β) :
    x.view g >>= f = x >>= fun a => f (g a) := by
  obtain ⟨events, result⟩ := x
  cases result with
  | error e => rfl
  | ok a => rfl

theorem view_bind (x : Traced ε α) (f : α → Traced ε β) (g : β → γ) :
    (x >>= f).view g = x >>= fun a => (f a).view g := by
  obtain ⟨events, result⟩ := x
  cases result with
  | error e => rfl
  | ok a => rfl

theorem view_id (x : Traced ε α) : x.view id = x := by
  obtain ⟨events, result⟩ := x
  cases result with
  | error e => rfl
  | ok a => rfl

/-- Two computations that look alike both fail, or both return something that looks alike. -/
theorem view_eq_cases {x x' : Traced ε α} {g : α → γ} (h : x.view g = x'.view g) :
    x.events = x'.events ∧
      ((∃ e, x.result = .error e ∧ x'.result = .error e) ∨
        ∃ a a', x.result = .ok a ∧ x'.result = .ok a' ∧ g a = g a') := by
  obtain ⟨events, result⟩ := x
  obtain ⟨events', result'⟩ := x'
  obtain ⟨hevents, hresult⟩ := Traced.mk.inj h
  refine ⟨hevents, ?_⟩
  cases result with
  | error e =>
    cases result' with
    | error e' => exact .inl ⟨e, rfl, congrArg _ (Except.error.inj hresult).symm⟩
    | ok a' => cases hresult
  | ok a =>
    cases result' with
    | error e' => cases hresult
    | ok a' => exact .inr ⟨a, a', rfl, rfl, Except.ok.inj hresult⟩

/-- **Steps that look alike look alike one after the other.** -/
theorem bind_view_congr {x x' : Traced ε α} {g : α → γ} (hx : x.view g = x'.view g)
    {f f' : α → Traced ε β} {k : β → δ}
    (hf : ∀ a a', g a = g a' → (f a).view k = (f' a').view k) :
    (x >>= f).view k = (x' >>= f').view k := by
  obtain ⟨hevents, ⟨e, he, he'⟩ | ⟨a, a', ha, ha', hview⟩⟩ := view_eq_cases hx
  · obtain ⟨events, result⟩ := x
    obtain ⟨events', result'⟩ := x'
    obtain rfl : events = events' := hevents
    obtain rfl : result = .error e := he
    obtain rfl : result' = .error e := he'
    rfl
  · obtain ⟨events, result⟩ := x
    obtain ⟨events', result'⟩ := x'
    obtain rfl : events = events' := hevents
    obtain rfl : result = .ok a := ha
    obtain rfl : result' = .ok a' := ha'
    obtain ⟨hlater, hresult⟩ := Traced.mk.inj (hf a a' hview)
    show (⟨events ++ (f a).events, (f a).result.map k⟩ : Traced ε δ) =
      ⟨events ++ (f' a').events, (f' a').result.map k⟩
    rw [hlater, hresult]

/-- After the same first step, only the second one matters. -/
theorem view_bind_congr (x : Traced ε α) {f f' : α → Traced ε β} {k : β → δ}
    (h : ∀ a, x.result = .ok a → (f a).view k = (f' a).view k) :
    (x >>= f).view k = (x >>= f').view k := by
  obtain ⟨events, result⟩ := x
  rw [view_bind, view_bind]
  cases result with
  | error e => rfl
  | ok a =>
    show (⟨events ++ ((f a).view k).events, ((f a).view k).result⟩ : Traced ε δ) = _
    rw [h a rfl]
    rfl

/-- Values that are converted one by one look alike if each of them does. -/
theorem view_map_congr (x : Traced ε (List α)) {f f' : α → β} {v : β → γ}
    (h : ∀ a, v (f a) = v (f' a)) :
    (x >>= fun as => Pure.pure (as.map f)).view (List.map v) =
      (x >>= fun as => Pure.pure (as.map f')).view (List.map v) := by
  refine view_bind_congr x fun as _ => ?_
  rw [view_pure, view_pure, List.map_map, List.map_map]
  exact congrArg _ (List.map_congr_left fun a _ => h a)

end Traced

/-- Two options that look alike are both empty, or hold things that look alike. -/
theorem option_eq_cases {α γ : Type} {g : α → γ} {x x' : Option α} (h : x.map g = x'.map g) :
    x = none ∧ x' = none ∨ ∃ a a', x = some a ∧ x' = some a' ∧ g a = g a' := by
  cases x with
  | none => exact .inl ⟨rfl, Option.map_eq_none_iff.mp h.symm⟩
  | some a =>
    obtain ⟨a', ha', heq⟩ := Option.map_eq_some_iff.mp h.symm
    exact .inr ⟨a, a', rfl, ha', heq.symm⟩

/-- Integrations with their secrets look alike if each of them does. -/
theorem map_integrations_congr {α β : Type} {v : Manifest → β}
    {f f' : α → Option (Resource IntegrationSpec × Secret)}
    (h : ∀ a, (f a).map (fun out => (v (.integration out.1), v (.secret out.2))) =
      (f' a).map fun out => (v (.integration out.1), v (.secret out.2))) (sources : List α) :
    ((sources.filterMap f).flatMap fun (integration, secret) =>
        [.integration integration, .secret secret]).map v =
      ((sources.filterMap f').flatMap fun (integration, secret) =>
        [.integration integration, .secret secret]).map v := by
  have hlook (pairs : List (Resource IntegrationSpec × Secret)) :
      (pairs.flatMap fun (integration, secret) =>
        [.integration integration, .secret secret]).map v =
      (pairs.map fun out => (v (.integration out.1), v (.secret out.2))).flatMap
        fun (integration, secret) => [integration, secret] := by
    rw [List.map_flatMap, List.flatMap_map]
    rfl
  rw [hlook, hlook, List.map_filterMap, List.map_filterMap]
  exact congrArg (fun f => (List.filterMap f sources).flatMap _) (funext h)

namespace Job

variable {β : Type} {v : Manifest → β} {job job' : Job}

/-- The blocks of two exports look alike, for one project with its settings.  Containers and
groups count also for the names that later blocks take from them. -/
structure BlocksAlike (v : Manifest → β) (job job' : Job) (p : Project)
    (settings : ProjectSettings) : Prop where
  project : (job.projectBlock (job.context p) p settings).view (List.map v) =
    (job'.projectBlock (job'.context p) p settings).view (List.map v)
  accessList : (job.accessListBlock (job.context p)).view (List.map v) =
    (job'.accessListBlock (job'.context p)).view (List.map v)
  deployments : (job.deploymentBlock (job.context p)).view (List.map v) =
    (job'.deploymentBlock (job'.context p)).view (List.map v)
  users : (job.databaseUserBlock (job.context p)).view (List.map v) =
    (job'.databaseUserBlock (job'.context p)).view (List.map v)
  containers :
    let look (rs : List (Resource ContainerSpec)) :=
      (rs.map fun r => v (.container r), ContainerIndex.ofManifests rs)
    (job.containers (job.context p)).view look =
      (job'.containers (job'.context p)).view look
  peerings : ∀ index, (job.peeringBlock (job.context p) index).view (List.map v) =
    (job'.peeringBlock (job'.context p) index).view (List.map v)
  integrations : (job.integrationBlock (job.context p)).view (List.map v) =
    (job'.integrationBlock (job'.context p)).view (List.map v)
  federations : (job.federationBlock (job.context p)).view (List.map v) =
    (job'.federationBlock (job'.context p)).view (List.map v)
  groups :
    let look (objects : List MappedObject) :=
      (objects.map fun t => v (.generated t.object), ReferenceIndex.ofMapped objects)
    (job.groups (job.context p) p).view look =
      (job'.groups (job'.context p) p).view look
  clusters : ∀ groups groups', ReferenceIndex.ofMapped groups = .ofMapped groups' →
    (job.clusters (job.context p) groups).view
        (List.map fun t => v (.generated t.object)) =
      (job'.clusters (job'.context p) groups').view
        (List.map fun t => v (.generated t.object))

theorem BlocksAlike.view_eq {project : Project} {settings : ProjectSettings}
    (h : BlocksAlike v job job' project settings) :
    (job.blocks project settings).view (List.map (List.map v)) =
      (job'.blocks project settings).view (List.map (List.map v)) := by
  rw [blocks, blocks]
  refine Traced.bind_view_congr h.project fun projects projects' hprojects => ?_
  refine Traced.bind_view_congr h.accessList fun lists lists' hlists => ?_
  refine Traced.bind_view_congr h.deployments fun deployments deployments' hdeployments => ?_
  refine Traced.bind_view_congr h.users fun users users' husers => ?_
  refine Traced.bind_view_congr h.containers fun containers containers' hcontainers => ?_
  obtain ⟨hcontainers, hindex⟩ := Prod.mk.inj hcontainers
  rw [hindex]
  refine Traced.bind_view_congr (h.peerings _) fun peerings peerings' hpeerings => ?_
  refine Traced.bind_view_congr h.integrations fun integrations integrations' hintegrations => ?_
  refine Traced.bind_view_congr h.federations fun federations federations' hfederations => ?_
  refine Traced.bind_view_congr h.groups fun groups groups' hgroups => ?_
  obtain ⟨hgroups, hrefs⟩ := Prod.mk.inj hgroups
  refine Traced.bind_view_congr (h.clusters _ _ hrefs) fun clusters clusters' hclusters => ?_
  simp only [Traced.view_pure, List.map_cons, List.map_nil, List.map_map, Function.comp_def,
    hprojects, hlists, hdeployments, husers, hcontainers, hpeerings, hintegrations, hfederations,
    hgroups, hclusters]

/-- What looks alike in a view looks alike in any coarser one. -/
theorem map_eq_map_of_view {γ δ : Type} {look : Manifest → γ} {coarse : Manifest → δ}
    (h : ∀ m m', look m = look m' → coarse m = coarse m') {manifests manifests' : List Manifest}
    (heq : manifests.map look = manifests'.map look) :
    manifests.map coarse = manifests'.map coarse := by
  induction manifests generalizing manifests' with
  | nil =>
    rw [List.map_nil, eq_comm, List.map_eq_nil_iff] at heq
    rw [heq]
  | cons m rest ih =>
    cases manifests' with
    | nil => cases heq
    | cons m' rest' =>
      obtain ⟨hhead, hrest⟩ := List.cons.inj heq
      rw [List.map_cons, List.map_cons, h m m' hhead, ih hrest]

/-- **Exports look alike** if they are of the same project, go into the same namespace, and their
blocks look alike. -/
theorem exported_view_eq (hid : job.config.projectId = job'.config.projectId)
    (hspace : job.config.space = job'.config.space)
    (hproject : ∀ id, job.controlPlane (.project id) = job'.controlPlane (.project id))
    (hsettings : ∀ id, job.controlPlane (.settings id) = job'.controlPlane (.settings id))
    (hblocks : ∀ project settings, BlocksAlike v job job' project settings)
    (hwithin : ∀ space m m', v m = v m' → v (m.within space) = v (m'.within space)) :
    job.exported.view (List.map v) = job'.exported.view (List.map v) := by
  have hmanifests : job.manifests.view (List.map v) = job'.manifests.view (List.map v) := by
    have hfetch : job.controlPlane.project "project" job.config.projectId =
        job'.controlPlane.project "project" job'.config.projectId := by
      rw [ControlPlane.project, ControlPlane.project, ControlPlane.ask, ControlPlane.ask, hid,
        hproject]
    have hlook : job.controlPlane.settings job.config.projectId =
        job'.controlPlane.settings job'.config.projectId := by
      rw [ControlPlane.settings, ControlPlane.settings, ControlPlane.ask, ControlPlane.ask, hid,
        hsettings]
    rw [manifests, manifests, hfetch, hlook]
    refine Traced.view_bind_congr _ fun _ _ => ?_
    refine Traced.view_bind_congr _ fun project _ => ?_
    refine Traced.view_bind_congr _ fun settings _ => ?_
    refine Traced.bind_view_congr (hblocks project settings).view_eq fun blocks blocks' heq => ?_
    have hflat : blocks.flatten.map v = blocks'.flatten.map v := by
      rw [List.map_flatten, List.map_flatten, heq]
    rw [Traced.view_pure, Traced.view_pure, List.map_map, List.map_map, ← hspace]
    exact congrArg _ (map_eq_map_of_view (hwithin _) hflat)
  obtain ⟨hevents, ⟨e, he, he'⟩ | ⟨ms, ms', hms, hms', hview⟩⟩ := Traced.view_eq_cases hmanifests
  · simp only [exported, Traced.view, he, he', hevents]
  · simp only [exported, Traced.view, hms, hms', hevents, Except.map, hview]

end Job

end AtlasManifests
