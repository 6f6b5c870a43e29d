import AtlasManifests.Proofs.Findings

/-! # The first failure ends a run

Let a control plane answer like another one, except that some calls fail.  A run against it does
what the run against the other one does, up to the first call that fails, and nothing after that.
`Traced.cut` cuts a computation off in this way.  It is compatible with doing one step after the
other (`Traced.cut_bind`), so what holds of single calls holds of listings, of blocks and of the
whole run (`Job.manifests_against`), and the failure that a run ends with is that of the call
(`Job.exported_against`).
-/
namespace AtlasManifests

/-! ## Computations that are cut off -/

namespace Traced

variable {ε δ α β : Type} {failure? : ε → Option Error}

/-- The events up to the first one that fails, and that one. -/
def upTo (failure? : ε → Option Error) : List ε → List ε
  | [] => []
  | event :: rest => event :: if (failure? event).isSome then [] else upTo failure? rest

/-- A computation that ends at the first event that fails. -/
def cut (failure? : ε → Option Error) (x : Traced ε α) : Traced ε α where
  events := upTo failure? x.events
  result :=
    match x.events.findSome? failure? with
    | some e => .error e
    | none => x.result

theorem upTo_append_of_none {events : List ε} (h : ∀ event ∈ events, failure? event = none)
    (later : List ε) : upTo failure? (events ++ later) = events ++ upTo failure? later := by
  induction events with
  | nil => rfl
  | cons event rest ih =>
    have hevent : ¬ (failure? event).isSome = true := by simp [h event List.mem_cons_self]
    rw [List.cons_append, upTo, if_neg hevent, List.cons_append,
      ih fun e he => h e (List.mem_cons_of_mem _ he)]

theorem upTo_eq_self {events : List ε} (h : ∀ event ∈ events, failure? event = none) :
    upTo failure? events = events := by
  have happend := upTo_append_of_none h []
  rwa [List.append_nil, upTo, List.append_nil] at happend

theorem upTo_of_first {before after : List ε} {event : ε} {e : Error}
    (h : ∀ b ∈ before, failure? b = none) (hevent : failure? event = some e) :
    upTo failure? (before ++ event :: after) = before ++ [event] := by
  rw [upTo_append_of_none h, upTo, hevent, Option.isSome_some, if_pos rfl]

theorem upTo_map (f : ε → δ) (failure? : δ → Option Error) (events : List ε) :
    upTo failure? (events.map f) = (upTo (failure? ∘ f) events).map f := by
  induction events with
  | nil => rfl
  | cons event rest ih =>
    rw [List.map_cons, upTo, upTo, ih, Function.comp_apply]
    split
    · rfl
    · rfl

theorem cut_eq_self {x : Traced ε α} (h : ∀ event ∈ x.events, failure? event = none) :
    x.cut failure? = x := by
  rw [cut, upTo_eq_self h, List.findSome?_eq_none_iff.mpr h]

/-- A computation in which an event fails ends with it. -/
theorem cut_of_first {x : Traced ε α} {before after : List ε} {event : ε} {e : Error}
    (hx : x.events = before ++ event :: after) (h : ∀ b ∈ before, failure? b = none)
    (hevent : failure? event = some e) : x.cut failure? = ⟨before ++ [event], .error e⟩ := by
  rw [cut, hx, upTo_of_first h hevent,
    List.findSome?_eq_some_iff.mpr ⟨before, event, after, rfl, hevent, h⟩]

/-- A second step only adds to the events of the first one. -/
theorem exists_events_bind (x : Traced ε α) (f : α → Traced ε β) :
    ∃ later, (x >>= f).events = x.events ++ later := ⟨_, events_bind x f⟩

/-- **Two steps are cut off** in the first one, or else in the second one. -/
theorem cut_bind (x : Traced ε α) (f : α → Traced ε β) :
    (x >>= f).cut failure? = x.cut failure? >>= fun a => (f a).cut failure? := by
  cases hfirst : x.events.findSome? failure? with
  | some e =>
    obtain ⟨before, event, after, hx, hevent, hbefore⟩ := List.findSome?_eq_some_iff.mp hfirst
    obtain ⟨later, hlater⟩ := exists_events_bind x f
    rw [hx, List.append_assoc, List.cons_append] at hlater
    rw [cut_of_first hlater hbefore hevent, cut_of_first hx hbefore hevent]
    rfl
  | none =>
    have hnone := List.findSome?_eq_none_iff.mp hfirst
    rw [cut_eq_self hnone]
    obtain ⟨events, result⟩ := x
    cases result with
    | error e => exact cut_eq_self hnone
    | ok a =>
      -- nothing fails in the first step, so what is cut off is cut off in the second one
      have hevents := upTo_append_of_none hnone (f a).events
      have hresult : (events ++ (f a).events).findSome? failure? =
          (f a).events.findSome? failure? := by
        rw [List.findSome?_append, hfirst, Option.none_or]
      show (⟨upTo failure? (events ++ (f a).events),
        match (events ++ (f a).events).findSome? failure? with
        | some e => .error e
        | none => (f a).result⟩ : Traced ε β) = _
      rw [hevents, hresult]
      rfl

/-- A step has to agree with another one only on what comes before it. -/
theorem bind_congr {x : Traced ε α} {f g : α → Traced ε β}
    (h : ∀ a, x.result = .ok a → f a = g a) : x >>= f = x >>= g := by
  obtain ⟨events, result⟩ := x
  cases result with
  | error e => rfl
  | ok a =>
    show (⟨events ++ (f a).events, (f a).result⟩ : Traced ε β) = ⟨events ++ (g a).events, _⟩
    rw [h a rfl]

theorem cut_mapEvents (f : ε → δ) (failure? : δ → Option Error) (x : Traced ε α) :
    (x.mapEvents f).cut failure? = (x.cut (failure? ∘ f)).mapEvents f := by
  rw [cut, cut, mapEvents, mapEvents]
  dsimp only
  rw [upTo_map, List.findSome?_map]

end Traced

/-! ## Control planes in which calls fail -/

namespace Call

/-- What a call is made for, in the words for its failure. -/
def subject : Call → String
  | project _ => "project"
  | settings _ => "project settings"
  | accessList _ _ => "ip access list"
  | clusters _ _ => "deployment"
  | databaseUsers _ _ => "database user"
  | containers _ _ _ => "network container"
  | peerings _ _ _ => "network peering"
  | integrations _ _ => "third party integration"
  | federations _ => "data federation"

/-- What a run fails with if a call fails with an error: the error within what the call was made
for, and at which provider. -/
def failure (call : Call) (e : Error) : Error := .fetch call.subject call.provider? e

end Call

namespace ControlPlane

/-- A control plane answers like another one, except that some calls fail. -/
def FailsBeside (cp' cp : ControlPlane) : Prop :=
  ∀ call, cp' call = cp call ∨ ∃ e, cp' call = .error e

/-- What a run fails with at a call, if the call fails. -/
def failure? (cp : ControlPlane) (call : Call) : Option Error :=
  match cp call with
  | .error e => some (call.failure e)
  | .ok _ => none

variable {cp cp' : ControlPlane} {id : String} {size : Nat}

theorem failure?_of_ok {call : Call} {reply : call.Reply} (h : cp call = .ok reply) :
    cp.failure? call = none := by rw [failure?, h]

theorem failure?_of_error {call : Call} {e : Error} (h : cp call = .error e) :
    cp.failure? call = some (call.failure e) := by rw [failure?, h]

/-- A call that fails ends what it is made for, and any other call is answered as before. -/
theorem ask_cut (h : cp'.FailsBeside cp) (call : Call) :
    (cp'.ask call).mapError call.failure =
      ((cp.ask call).mapError call.failure).cut cp'.failure? := by
  cases hcall : cp' call with
  | error e =>
    have hfailure := failure?_of_error hcall
    have hevents : ((cp.ask call).mapError call.failure).events = [] ++ [call] := rfl
    rw [Traced.cut_of_first hevents (by simp) hfailure, ask, Traced.mapError, hcall]
    rfl
  | ok reply =>
    have hsame : cp' call = cp call := by
      rcases h call with hsame | ⟨e, he⟩
      · exact hsame
      · rw [he] at hcall
        cases hcall
    have hfailure := failure?_of_ok hcall
    rw [Traced.cut_eq_self, ask, ask, hsame]
    intro event hevent
    rw [List.mem_singleton.mp hevent, hfailure]

end ControlPlane

section
variable {ε α : Type} {failure? : ε → Option Error}
  {fetch fetch' : PageRequest → Traced ε (Page α)}

theorem pagesFrom_cut (h : ∀ request, fetch' request = (fetch request).cut failure?)
    (left : Nat) (request : PageRequest) (received : Nat) :
    pagesFrom fetch' left request received =
      (pagesFrom fetch left request received).cut failure? := by
  induction left generalizing request received with
  | zero => rfl
  | succ left ih =>
    rw [pagesFrom, pagesFrom, Traced.cut_bind, h request]
    refine congrArg _ (funext fun page => ?_)
    dsimp only
    split
    · rfl
    · rw [Traced.cut_bind, ih]
      rfl

theorem paginate_cut {subject : String} {provider : Option Provider} {size : Nat}
    (h : ∀ request, (fetch' request).mapError (.fetch subject provider) =
      ((fetch request).mapError (.fetch subject provider)).cut failure?) :
    paginate subject provider size fetch' =
      (paginate subject provider size fetch).cut failure? :=
  pagesFrom_cut h _ _ _

theorem paginateEach_cut {subject : String} {size : Nat}
    {fetch fetch' : Provider → PageRequest → Traced ε (Page α)}
    (h : ∀ provider request, (fetch' provider request).mapError (.fetch subject (some provider)) =
      ((fetch provider request).mapError (.fetch subject (some provider))).cut failure?)
    (providers : List Provider) :
    paginateEach subject size fetch' providers =
      (paginateEach subject size fetch providers).cut failure? := by
  induction providers with
  | nil => rfl
  | cons provider rest ih =>
    rw [paginateEach, paginateEach, Traced.cut_bind, paginate_cut (h provider)]
    refine congrArg _ (funext fun items => ?_)
    rw [Traced.cut_bind, ih]
    rfl

end

namespace ControlPlane

variable {cp cp' : ControlPlane} (h : cp'.FailsBeside cp) (id : String) (size : Nat)

include h

theorem project_cut : cp'.project "project" id = (cp.project "project" id).cut cp'.failure? :=
  ask_cut h (.project id)

theorem settings_cut : cp'.settings id = (cp.settings id).cut cp'.failure? :=
  ask_cut h (.settings id)

theorem accessList_cut : cp'.accessList id size = (cp.accessList id size).cut cp'.failure? :=
  paginate_cut fun request => ask_cut h (.accessList id request)

theorem clusters_cut : cp'.clusters id size = (cp.clusters id size).cut cp'.failure? :=
  paginate_cut fun request => ask_cut h (.clusters id request)

theorem databaseUsers_cut :
    cp'.databaseUsers id size = (cp.databaseUsers id size).cut cp'.failure? :=
  paginate_cut fun request => ask_cut h (.databaseUsers id request)

theorem containers_cut : cp'.containers id size = (cp.containers id size).cut cp'.failure? :=
  paginateEach_cut (fun provider request => ask_cut h (.containers id provider request)) _

theorem peerings_cut : cp'.peerings id size = (cp.peerings id size).cut cp'.failure? :=
  paginateEach_cut (fun provider request => ask_cut h (.peerings id provider request)) _

theorem integrations_cut :
    cp'.integrations id size = (cp.integrations id size).cut cp'.failure? :=
  paginate_cut fun request => ask_cut h (.integrations id request)

theorem federations_cut : cp'.federations id = (cp.federations id).cut cp'.failure? :=
  ask_cut h (.federations id)

/-- A project whose call does not fail is as good as known. -/
theorem knownProject_cut {found : Project} (known : List Project)
    (hfound : cp' (.project id) = .ok found) :
    cp'.knownProject known id = (cp.knownProject known id).cut cp'.failure? := by
  have hsame : cp (.project id) = .ok found := by
    rcases h (.project id) with hsame | ⟨e, he⟩
    · exact hsame.symm.trans hfound
    · rw [he] at hfound
      cases hfound
  rw [knownProject, knownProject]
  split
  · rfl
  · rw [project, project, ask, ask, hfound, hsame, Traced.cut_eq_self]
    intro event hevent
    rw [List.mem_singleton.mp hevent, failure?_of_ok hfound]

theorem mappedGroups_cut (ctx : Context) (t : Mapper) (known : List Project) {ids : List String}
    (hids : ∀ id ∈ ids, ∃ project, cp' (.project id) = .ok project) :
    cp'.mappedGroups ctx t known ids = (cp.mappedGroups ctx t known ids).cut cp'.failure? := by
  induction ids with
  | nil => rfl
  | cons id rest ih =>
    obtain ⟨found, hfound⟩ := hids id List.mem_cons_self
    rw [mappedGroups, mappedGroups, Traced.cut_bind, knownProject_cut h id known hfound]
    refine congrArg _ (funext fun found => ?_)
    rw [Traced.cut_bind, ih fun id hid => hids id (List.mem_cons_of_mem _ hid)]
    rfl

theorem mappedClusters_cut (ctx : Context) (t : Mapper) (refs : ReferenceIndex)
    (ids : List String) : cp'.mappedClusters ctx t refs size ids =
      (cp.mappedClusters ctx t refs size ids).cut cp'.failure? := by
  induction ids with
  | nil => rfl
  | cons id rest ih =>
    rw [mappedClusters, mappedClusters, Traced.cut_bind, clusters_cut h]
    refine congrArg _ (funext fun found => ?_)
    rw [Traced.cut_bind, ih]
    rfl

end ControlPlane

/-! ## Runs against them -/

/-- What a run fails with at an event, if that is a call that fails. -/
def ControlPlane.eventFailure? (cp : ControlPlane) (event : Event) : Option Error :=
  event.call?.bind cp.failure?

/-- The calls of a run in order. -/
def Run.calls {α : Type} (x : Run α) : List Call := x.events.filterMap Event.call?

namespace Job

variable (job : Job)

/-- The same export against another control plane. -/
def against (cp : ControlPlane) : Job := { job with controlPlane := cp }

variable {job} {cp : ControlPlane}

theorem calls_cut {α : Type} (x : Traced Call α) :
    (calls x).cut cp.eventFailure? = calls (x.cut cp.failure?) :=
  Traced.cut_mapEvents Event.call cp.eventFailure? x

theorem fetched_cut {α : Type} (kind : RunKind) (x : Run α) :
    (fetched kind x).cut cp.eventFailure? = fetched kind (x.cut cp.eventFailure?) := by
  rw [fetched, fetched, Traced.cut_bind]
  refine congrArg _ (funext fun _ => ?_)
  rw [Traced.cut_bind]
  rfl

theorem listed_cut {α : Type} (kind : CuratedKind) {listing listing' : Traced Call (List α)}
    (h : listing' = listing.cut cp.failure?) :
    (job.against cp).listed kind listing' =
      (job.listed kind listing).cut cp.eventFailure? := by
  rw [listed, listed, h]
  show (if job.config.exports kind then _ else _) = _
  split
  · rw [fetched_cut, calls_cut]
  · rfl

/-- A block that is a function of one listing. -/
theorem block_cut {α β : Type} {kind : CuratedKind} {listing listing' : Traced Call (List α)}
    (h : listing' = listing.cut cp.failure?) {convert : List α → Run β}
    (hconvert : ∀ found, (convert found).cut cp.eventFailure? = convert found) :
    ((job.against cp).listed kind listing' >>= convert) =
      (job.listed kind listing >>= convert).cut cp.eventFailure? := by
  rw [Traced.cut_bind, listed_cut kind h]
  exact congrArg _ (funext fun found => (hconvert found).symm)

variable (hcp : cp.FailsBeside job.controlPlane) (ctx : Context)

theorem projectBlock_cut (project : Project) (settings : ProjectSettings) :
    (job.projectBlock ctx project settings).cut cp.eventFailure? =
      job.projectBlock ctx project settings := by
  rw [projectBlock]
  split
  · rfl
  · rfl

include hcp

theorem accessListBlock_cut : (job.against cp).accessListBlock ctx =
    (job.accessListBlock ctx).cut cp.eventFailure? :=
  block_cut (ControlPlane.accessList_cut hcp _ _) fun _ => rfl

theorem deploymentBlock_cut : (job.against cp).deploymentBlock ctx =
    (job.deploymentBlock ctx).cut cp.eventFailure? :=
  block_cut (ControlPlane.clusters_cut hcp _ _) fun _ => rfl

theorem databaseUserBlock_cut : (job.against cp).databaseUserBlock ctx =
    (job.databaseUserBlock ctx).cut cp.eventFailure? := by
  refine block_cut (ControlPlane.databaseUsers_cut hcp _ _) fun users => ?_
  split
  · rfl
  · rfl

theorem containers_cut : (job.against cp).containers ctx =
    (job.containers ctx).cut cp.eventFailure? :=
  block_cut (ControlPlane.containers_cut hcp _ _) fun _ => rfl

theorem peeringBlock_cut (index : ContainerIndex) : (job.against cp).peeringBlock ctx index =
    (job.peeringBlock ctx index).cut cp.eventFailure? := by
  refine block_cut (ControlPlane.peerings_cut hcp _ _) fun peerings => Traced.cut_eq_self ?_
  -- drawing a word for each peering does not fail
  intro event hevent
  obtain ⟨_, _, rfl⟩ := List.mem_map.mp hevent
  rfl

theorem integrationBlock_cut : (job.against cp).integrationBlock ctx =
    (job.integrationBlock ctx).cut cp.eventFailure? :=
  block_cut (ControlPlane.integrations_cut hcp _ _) fun _ => rfl

theorem federationBlock_cut : (job.against cp).federationBlock ctx =
    (job.federationBlock ctx).cut cp.eventFailure? :=
  block_cut (ControlPlane.federations_cut hcp _) fun _ => rfl

omit hcp in
theorem mapped_cut (kind : GeneratedKind) {map map' : Mapper → Traced Call (List MappedObject)}
    (h : ∀ t, map' t = (map t).cut cp.failure?) :
    (job.against cp).mapped kind map' = (job.mapped kind map).cut cp.eventFailure? := by
  have hgenerated : (job.against cp).config.generated = job.config.generated := rfl
  rw [mapped, mapped, hgenerated]
  cases job.config.generated with
  | none => rfl
  | some config =>
    dsimp only
    split
    · rw [fetched_cut, Traced.cut_bind]
      refine congrArg _ (congrArg _ (funext fun t => ?_))
      rw [h, calls_cut]
    · rfl

theorem groups_cut {project : Project}
    (hproject : cp (.project job.config.projectId) = .ok project) :
    (job.against cp).groups ctx project = (job.groups ctx project).cut cp.eventFailure? := by
  refine mapped_cut .group fun t => ControlPlane.mappedGroups_cut hcp ctx t _ fun id hid => ?_
  rw [List.mem_singleton.mp hid]
  exact ⟨project, hproject⟩

theorem clusters_cut (groups : List MappedObject) : (job.against cp).clusters ctx groups =
    (job.clusters ctx groups).cut cp.eventFailure? :=
  mapped_cut .cluster fun t => ControlPlane.mappedClusters_cut hcp _ ctx t _ _

theorem blocks_cut {project : Project} (settings : ProjectSettings)
    (hproject : cp (.project job.config.projectId) = .ok project) :
    (job.against cp).blocks project settings =
      (job.blocks project settings).cut cp.eventFailure? := by
  have hctx : (job.against cp).context project = job.context project := rfl
  have hproject' (ctx : Context) : (job.against cp).projectBlock ctx project settings =
      (job.projectBlock ctx project settings).cut cp.eventFailure? :=
    (projectBlock_cut ctx project settings).symm
  simp only [blocks, Traced.cut_bind, hctx, hproject', accessListBlock_cut hcp,
    deploymentBlock_cut hcp, databaseUserBlock_cut hcp, containers_cut hcp, peeringBlock_cut hcp,
    integrationBlock_cut hcp, federationBlock_cut hcp, groups_cut hcp _ hproject,
    clusters_cut hcp]
  rfl

/-- **A run does what the run against the other control plane does**, cut off at the first call
that fails. -/
theorem manifests_against :
    (job.against cp).manifests = job.manifests.cut cp.eventFailure? := by
  rw [manifests, manifests, Traced.cut_bind]
  refine congrArg _ (funext fun _ => ?_)
  rw [Traced.cut_bind, calls_cut, ← ControlPlane.project_cut hcp]
  refine Traced.bind_congr fun project hproject => ?_
  rw [Traced.cut_bind, calls_cut, ← ControlPlane.settings_cut hcp]
  refine congrArg _ (funext fun settings => ?_)
  rw [Traced.cut_bind, ← blocks_cut hcp settings (ControlPlane.project_eq_ok_iff.mp hproject)]
  rfl

end Job

namespace Run

variable {α : Type}

/-- A run has made some calls and failed with an error, and is known to have failed. -/
structure Fails (x : Run α) (calls : List Call) (e : Error) : Prop where
  calls_eq : x.calls = calls
  result_eq : x.result = .error e
  stage_eq : ∀ stage, lastStage stage x.events = .failed

theorem calls_append (events later : List Event) (result : Except Error α)
    (h : later.filterMap Event.call? = []) :
    Run.calls ⟨events ++ later, result⟩ = events.filterMap Event.call? := by
  rw [calls, List.filterMap_append, h, List.append_nil]

end Run

namespace Job

variable {job : Job} {cp : ControlPlane}

theorem calls_exported (job : Job) : job.exported.calls = job.manifests.calls := by
  rw [exported]
  split
  · rfl
  · exact Run.calls_append _ _ _ rfl

/-- A stream is written without any further call. -/
theorem calls_exportStream (job : Job) : job.exportStream.calls = job.exported.calls := by
  rw [exportStream, Run.calls, Traced.events_bind, List.filterMap_append]
  split
  · exact List.append_nil _
  · exact List.append_nil _

/-- A run in which no call fails is not cut off. -/
theorem manifests_against_eq_self (hcp : cp.FailsBeside job.controlPlane)
    (h : ∀ call ∈ job.manifests.calls, ∃ reply, cp call = .ok reply) :
    (job.against cp).manifests = job.manifests := by
  rw [manifests_against hcp]
  refine Traced.cut_eq_self fun event hevent => ?_
  cases event with
  | call c =>
    obtain ⟨reply, hreply⟩ := h c (List.mem_filterMap.mpr ⟨_, hevent, rfl⟩)
    exact ControlPlane.failure?_of_ok hreply
  | enter stage => rfl
  | draw => rfl

/-- A run in which a call fails ends with it. -/
theorem manifests_against_of_first (hcp : cp.FailsBeside job.controlPlane)
    {before after : List Call} {call : Call} {e : Error}
    (hcalls : job.manifests.calls = before ++ call :: after)
    (hbefore : ∀ c ∈ before, ∃ reply, cp c = .ok reply) (hcall : cp call = .error e) :
    ∃ events, events.filterMap Event.call? = before ++ [call] ∧
      (job.against cp).manifests = ⟨events, .error (call.failure e)⟩ := by
  obtain ⟨first, rest, hsplit, hfirst, hrest⟩ := List.filterMap_eq_append_iff.mp hcalls
  obtain ⟨quiet, event, later, rfl, hquiet, hevent, -⟩ := List.filterMap_eq_cons_iff.mp hrest
  have hfails : cp.eventFailure? event = some (call.failure e) := by
    rw [ControlPlane.eventFailure?, hevent]
    exact ControlPlane.failure?_of_error hcall
  have hok : ∀ b ∈ first ++ quiet, cp.eventFailure? b = none := by
    intro b hb
    rcases List.mem_append.mp hb with hb | hb
    · cases hc : b.call? with
      | none => rw [ControlPlane.eventFailure?, hc, Option.bind_none]
      | some c =>
        have hmem : c ∈ before := hfirst ▸ List.mem_filterMap.mpr ⟨b, hb, hc⟩
        obtain ⟨reply, hreply⟩ := hbefore c hmem
        rw [ControlPlane.eventFailure?, hc]
        exact ControlPlane.failure?_of_ok hreply
    · rw [ControlPlane.eventFailure?, hquiet b hb, Option.bind_none]
  refine ⟨(first ++ quiet) ++ [event], ?_, ?_⟩
  · rw [List.filterMap_append, List.filterMap_append, hfirst,
      List.filterMap_eq_nil_iff.mpr hquiet, List.append_nil]
    simp [hevent]
  · rw [manifests_against hcp]
    exact Traced.cut_of_first (by rw [hsplit, List.append_assoc]) hok hfails

/-- **A run ends with the first call that fails.**  Let some calls fail beside those that fail
anyway.  If the run makes none of them, nothing changes.  Otherwise it makes the same calls up to
the first one of them and no other, and fails with the error of this call within what it was made
for; neither manifests nor a stream come of it.  A run that writes a stream makes the same calls
as one that does not. -/
theorem exported_against (hcp : cp.FailsBeside job.controlPlane) :
    job.exportStream.calls = job.exported.calls ∧
    ((∀ call ∈ job.exported.calls, ∃ reply, cp call = .ok reply) →
      (job.against cp).exported = job.exported ∧
        (job.against cp).exportStream = job.exportStream) ∧
    ∀ before call after e, job.exported.calls = before ++ call :: after →
      (∀ c ∈ before, ∃ reply, cp c = .ok reply) → cp call = .error e →
        (job.against cp).exported.Fails (before ++ [call]) (call.failure e) ∧
          (job.against cp).exportStream.Fails (before ++ [call]) (call.failure e) := by
  refine ⟨calls_exportStream job, ?_⟩
  rw [calls_exported]
  constructor
  · intro hanswered
    have hexported : (job.against cp).exported = job.exported := by
      rw [exported, exported, manifests_against_eq_self hcp hanswered]
    exact ⟨hexported, by rw [exportStream, exportStream, hexported]⟩
  · intro before call after e hcalls hbefore hcall
    obtain ⟨events, hevents, hmanifests⟩ := manifests_against_of_first hcp hcalls hbefore hcall
    have hexported : (job.against cp).exported =
        ⟨events ++ [.enter .failed], .error (call.failure e)⟩ := by rw [exported, hmanifests]
    have hstream : (job.against cp).exportStream =
        ⟨events ++ [.enter .failed], .error (call.failure e)⟩ := by
      rw [exportStream, hexported]
      rfl
    have hstage : ∀ stage, lastStage stage (events ++ [.enter .failed]) = .failed := by
      intro stage
      rw [lastStage, List.filterMap_append]
      simp [Event.stage?]
    rw [hexported, hstream]
    exact ⟨⟨(Run.calls_append _ _ _ rfl).trans hevents, rfl, hstage⟩,
      ⟨(Run.calls_append _ _ _ rfl).trans hevents, rfl, hstage⟩⟩

end Job

/-- A control plane in which one call fails. -/
def ControlPlane.failingAt (cp : ControlPlane) (call : Call) (e : Error) : ControlPlane :=
  fun c => if c = call then .error e else cp c

/-- The calls of the export of a small project before it asks for peerings at Azure. -/
def smallCalls : List Call :=
  [.project "1", .settings "1", .accessList "1" ⟨1, 500⟩, .clusters "1" ⟨1, 500⟩,
    .databaseUsers "1" ⟨1, 500⟩, .containers "1" .aws ⟨1, 500⟩, .containers "1" .azure ⟨1, 500⟩,
    .containers "1" .gcp ⟨1, 500⟩, .peerings "1" .aws ⟨1, 500⟩]

/-- The export of a small project whose peerings at Azure cannot be had. -/
theorem Job.exported_against_small :
    let cp := (ControlPlane.small "Shop").failingAt (.peerings "1" .azure ⟨1, 500⟩)
      (.api 503 "unavailable")
    cp.FailsBeside (Job.small "Shop").controlPlane ∧
    ((Job.small "Shop").against cp).exportStream.Fails
      (smallCalls ++ [.peerings "1" .azure ⟨1, 500⟩])
      (.fetch "network peering" (some .azure) (.api 503 "unavailable")) := by
  intro cp
  have hcp : cp.FailsBeside (Job.small "Shop").controlPlane := by
    intro call
    by_cases h : call = .peerings "1" .azure ⟨1, 500⟩
    · exact .inr ⟨_, if_pos h⟩
    · exact .inl (if_neg h)
  have hcalls : (Job.small "Shop").exported.calls =
      smallCalls ++ .peerings "1" .azure ⟨1, 500⟩ ::
        [.peerings "1" .gcp ⟨1, 500⟩, .integrations "1" ⟨1, 500⟩, .federations "1",
          .clusters "1" ⟨1, 500⟩] := by decide +kernel
  have hanswered : ∀ c ∈ smallCalls, (cp c).toOption.any (fun _ => true) = true := by decide
  refine ⟨hcp, ((Job.exported_against hcp).2.2 _ _ _ (.api 503 "unavailable") hcalls ?_ rfl).2⟩
  intro c hc
  obtain ⟨reply, hreply, _⟩ := AtlasManifests.exists_of_any (hanswered c hc)
  exact ⟨reply, hreply⟩

end AtlasManifests
