import AtlasManifests.Proofs.KindSelection

/-! # The stages of an export

An export visits one kind after the other: the project, which is always fetched, and then the kinds
that are selected, in the order of a run (`Config.plan`).  A visit fetches what there is of the
kind and goes on to convert it.

A run follows some stages if it goes through all of them, or fails on the way.  One step after the
other follows the stages of both (`Run.Follows.bind`), so each block follows the visit of its kind,
and a whole run the visits that are planned (`Job.manifests_follows`).  Where a failure cuts visits
off, what is left of them are visits again (`Visit.exists_begins_of_isPrefix`).  So the stages of
every export are visits in the order of a run and an ending that tells how the export has ended
(`Job.exportStream_visits`).
-/
namespace AtlasManifests

/-! ## Visits -/

/-- A kind comes before another one in a run. -/
def RunKind.Precedes (kind later : RunKind) : Prop :=
  RunKind.all.idxOf kind < RunKind.all.idxOf later

instance : DecidableRel RunKind.Precedes := fun _ _ => inferInstanceAs (Decidable (_ < _))

/-- What a run does about a kind. -/
structure Visit where
  kind : RunKind
  /-- Whether the kind is converted once it has been fetched. -/
  converted : Bool

namespace Visit

/-- The stages of a visit. -/
def stages (visit : Visit) : List Stage :=
  .fetching visit.kind :: if visit.converted then [.converting visit.kind] else []

/-- The first of the visits that are planned.  The last of them may have been left before its kind
was converted; the others are complete. -/
structure Begins (planned begun : List Visit) : Prop where
  kinds_isPrefix : begun.map kind <+: planned.map kind
  complete : begun.dropLast <+: planned
  mem_of_converted : ∀ visit ∈ begun, visit.converted = true → visit ∈ planned

namespace Begins

variable {planned begun : List Visit}

theorem self (planned : List Visit) : Begins planned planned :=
  ⟨List.prefix_rfl, List.dropLast_prefix _, fun _ hvisit _ => hvisit⟩

theorem nil (planned : List Visit) : Begins planned [] :=
  ⟨List.nil_prefix, List.nil_prefix, fun _ hvisit => nomatch hvisit⟩

/-- A visit may be left at once, and then it is the last one. -/
theorem left (visit : Visit) (planned : List Visit) :
    Begins (visit :: planned) [⟨visit.kind, false⟩] where
  kinds_isPrefix := List.cons_prefix_cons.mpr ⟨rfl, List.nil_prefix⟩
  complete := List.nil_prefix
  mem_of_converted _ hvisit hconverted := by
    obtain rfl := List.mem_singleton.mp hvisit
    cases hconverted

theorem cons (visit : Visit) (h : Begins planned begun) :
    Begins (visit :: planned) (visit :: begun) where
  kinds_isPrefix := List.cons_prefix_cons.mpr ⟨rfl, h.kinds_isPrefix⟩
  complete := by
    cases begun with
    | nil => exact List.nil_prefix
    | cons next rest =>
      -- With a visit behind it, this one is not the last, and has to be as planned.
      exact List.cons_prefix_cons.mpr ⟨rfl, h.complete⟩
  mem_of_converted := by
    rw [List.forall_mem_cons]
    exact ⟨fun _ => List.mem_cons_self, fun other hother hconverted =>
      List.mem_cons_of_mem _ (h.mem_of_converted other hother hconverted)⟩

end Begins

/-- Where the stages of visits are cut off, visits are left. -/
theorem exists_begins_of_isPrefix {planned : List Visit} {stages : List Stage}
    (h : stages <+: planned.flatMap Visit.stages) :
    ∃ begun, Begins planned begun ∧ stages = begun.flatMap Visit.stages := by
  induction planned generalizing stages with
  | nil => exact ⟨[], .nil _, List.prefix_nil.mp h⟩
  | cons visit planned ih =>
    obtain ⟨kind, converted⟩ := visit
    rw [List.flatMap_cons, Visit.stages, List.cons_append, List.prefix_cons_iff] at h
    obtain rfl | ⟨later, rfl, h⟩ := h
    · -- Cut off before the kind is fetched.
      exact ⟨[], .nil _, rfl⟩
    · cases converted with
      | false =>
        obtain ⟨begun, hbegun, rfl⟩ := ih h
        exact ⟨⟨kind, false⟩ :: begun, hbegun.cons _, rfl⟩
      | true =>
        rw [if_pos rfl, List.singleton_append, List.prefix_cons_iff] at h
        obtain rfl | ⟨later, rfl, h⟩ := h
        · -- Cut off between fetching and converting, so the visit is no longer as planned.
          exact ⟨[⟨kind, false⟩], .left ⟨kind, true⟩ planned, rfl⟩
        · obtain ⟨begun, hbegun, rfl⟩ := ih h
          exact ⟨⟨kind, true⟩ :: begun, hbegun.cons _, rfl⟩

/-- A visit does nothing but fetch and convert. -/
theorem not_mem_stages {visits : List Visit} {stage : Stage}
    (hfetching : ∀ kind, stage ≠ .fetching kind) (hconverting : ∀ kind, stage ≠ .converting kind) :
    stage ∉ visits.flatMap stages := by
  intro hmem
  obtain ⟨⟨kind, converted⟩, -, hstage⟩ := List.mem_flatMap.mp hmem
  rcases List.mem_cons.mp hstage with heq | hstage
  · exact hfetching kind heq
  · cases converted with
    | false => cases hstage
    | true => exact hconverting kind (List.mem_singleton.mp hstage)

end Visit

/-! ## Plans -/

namespace Config

variable (c : Config)

/-- Whether a kind is selected. -/
def selects : RunKind → Bool
  | .curated kind => c.exports kind
  | .generated kind => c.exportsGenerated kind

/-- The kinds that a run works on in order: those that are selected, and always the project. -/
def plan : List RunKind :=
  RunKind.all.filter fun kind => kind = .curated .project || c.selects kind

/-- The visits of a run that does not fail. -/
def visits : List Visit := c.plan.map fun kind => ⟨kind, c.selects kind⟩

/-- The stages of a kind besides the project, if it is selected. -/
def stagesOf (kind : RunKind) : List Stage :=
  if c.selects kind then [.fetching kind, .converting kind] else []

theorem plan_pairwise : c.plan.Pairwise RunKind.Precedes := by
  have hall : RunKind.all.Pairwise RunKind.Precedes := by decide
  exact hall.sublist List.filter_sublist

/-- The project comes first, selected or not. -/
theorem plan_eq_cons : c.plan = .curated .project :: RunKind.all.tail.filter c.selects := by
  show List.filter _ (RunKind.curated .project :: RunKind.all.tail) = _
  rw [List.filter_cons_of_pos (by simp)]
  refine congrArg _ (List.filter_congr fun kind hkind => ?_)
  have hother : kind ≠ .curated .project := by
    rintro rfl
    exact absurd hkind (by decide)
  rw [decide_eq_false hother, Bool.false_or]

theorem kinds_visits : c.visits.map Visit.kind = c.plan := by
  rw [visits, List.map_map]
  exact List.map_id _

/-- The stages of a run that does not fail. -/
theorem stages_visits :
    c.visits.flatMap Visit.stages =
      .fetching (.curated .project) ::
        ((if c.exports .project then [.converting (.curated .project)] else []) ++
          RunKind.all.tail.flatMap c.stagesOf) := by
  rw [visits, plan_eq_cons, List.flatMap_map, List.flatMap_cons, flatMap_filter]
  refine congrArg₂ _ rfl (List.flatMap_congr fun kind _ => ?_)
  rw [stagesOf]
  split
  · next hselected => rw [Visit.stages, hselected, if_pos rfl]
  · rfl

end Config

/-! ## Runs that follow some stages -/

namespace Run

variable {α β : Type}

/-- The stages that a run enters. -/
def stages (x : Run α) : List Stage := x.events.filterMap Event.stage?

/-- A run goes through some stages, and through all of them unless it fails. -/
structure Follows (x : Run α) (planned : List Stage) : Prop where
  isPrefix : x.stages <+: planned
  eq_of_ok : ∀ {a}, x.result = .ok a → x.stages = planned

theorem stages_bind (x : Run α) (f : α → Run β) :
    stages (x >>= f) = x.stages ++
      match x.result with
      | .ok a => (f a).stages
      | .error _ => [] := by
  rw [stages, Traced.events_bind, List.filterMap_append]
  cases x.result <;> rfl

namespace Follows

theorem of_eq {x : Run α} {planned : List Stage} (h : x.stages = planned) : x.Follows planned :=
  ⟨h ▸ List.prefix_rfl, fun _ => h⟩

theorem pure (a : α) : (Pure.pure a : Run α).Follows [] := of_eq rfl

theorem enter (stage : Stage) : (Job.enter stage).Follows [stage] := of_eq rfl

/-- Calls are no stages. -/
theorem calls (x : Traced Call α) : (Job.calls x).Follows [] := by
  refine of_eq (List.filterMap_eq_nil_iff.mpr fun event hevent => ?_)
  obtain ⟨call, -, rfl⟩ := List.mem_map.mp hevent
  rfl

/-- One step after the other follows the stages of both. -/
theorem bind {x : Run α} {f : α → Run β} {planned later : List Stage} (hx : x.Follows planned)
    (hf : ∀ a, (f a).Follows later) : Follows (x >>= f) (planned ++ later) := by
  cases hresult : x.result with
  | error e =>
    -- Nothing happens after a failure, so the second step adds no stages.
    constructor
    · rw [stages_bind, hresult, List.append_nil]
      exact List.prefix_append_of_prefix hx.isPrefix
    · intro b hb
      rw [Traced.result_bind, hresult] at hb
      cases hb
  | ok a =>
    have hstages : stages (x >>= f) = planned ++ (f a).stages := by
      rw [stages_bind, hresult, hx.eq_of_ok hresult]
    constructor
    · rw [hstages]
      exact (List.prefix_append_right_inj _).mpr (hf a).isPrefix
    · intro b hb
      rw [Traced.result_bind, hresult] at hb
      rw [hstages, (hf a).eq_of_ok hb]

/-- A step without stages of its own changes nothing. -/
theorem bind_silent {x : Run α} {f : α → Run β} {planned : List Stage} (hx : x.Follows planned)
    (hf : ∀ a, (f a).Follows []) : Follows (x >>= f) planned :=
  List.append_nil planned ▸ hx.bind hf

/-- What follows planned visits makes the first of them, and all of them unless it fails. -/
theorem exists_begins {x : Run α} {planned : List Visit}
    (h : x.Follows (planned.flatMap Visit.stages)) :
    ∃ begun, Visit.Begins planned begun ∧ x.stages = begun.flatMap Visit.stages ∧
      ∀ a, x.result = .ok a → begun = planned := by
  cases hresult : x.result with
  | ok a => exact ⟨planned, .self planned, h.eq_of_ok hresult, fun _ _ => rfl⟩
  | error e =>
    obtain ⟨begun, hbegins, hstages⟩ := Visit.exists_begins_of_isPrefix h.isPrefix
    exact ⟨begun, hbegins, hstages, fun _ hok => nomatch hok⟩

end Follows

end Run

/-! ## The stages of blocks -/

namespace Job

variable {job : Job} {α : Type}

theorem fetched_follows {kind : RunKind} {x : Run α} (h : x.Follows []) :
    (fetched kind x).Follows [.fetching kind, .converting kind] :=
  (Run.Follows.enter _).bind fun _ => h.bind fun _ => (Run.Follows.enter _).bind fun _ => .pure _

theorem listed_follows (kind : CuratedKind) (listing : Traced Call (List α)) :
    (job.listed kind listing).Follows (job.config.stagesOf (.curated kind)) := by
  rw [listed, Config.stagesOf, Config.selects]
  split
  · exact fetched_follows (.calls _)
  · exact .pure _

/-- What is listed is converted in no further stage. -/
theorem converted_follows {β : Type} {kind : CuratedKind} {listing : Traced Call (List α)}
    (convert : List α → β) :
    Run.Follows (job.listed kind listing >>= fun sources => pure (convert sources))
      (job.config.stagesOf (.curated kind)) :=
  (listed_follows kind listing).bind_silent fun _ => .pure _

theorem mapped_follows (kind : GeneratedKind) (map : Mapper → Traced Call (List MappedObject)) :
    (job.mapped kind map).Follows (job.config.stagesOf (.generated kind)) := by
  rw [mapped, Config.stagesOf, Config.selects, Config.exportsGenerated]
  cases job.config.generated with
  | none => exact .pure _
  | some config =>
    rw [Option.any_some]
    dsimp only
    split
    · exact fetched_follows ((Run.Follows.of_eq rfl).bind fun _ => .calls _)
    · exact .pure _

variable (ctx : Context) (project : Project) (settings : ProjectSettings)

theorem projectBlock_follows :
    (job.projectBlock ctx project settings).Follows
      (if job.config.exports .project then [.converting (.curated .project)] else []) := by
  rw [projectBlock]
  split
  · exact (Run.Follows.enter _).bind fun _ => .pure _
  · exact .pure _

theorem databaseUserBlock_follows :
    (job.databaseUserBlock ctx).Follows (job.config.stagesOf (.curated .databaseUser)) := by
  refine (listed_follows _ _).bind_silent fun users => ?_
  dsimp only
  split
  · exact .of_eq rfl
  · exact .pure _

/-- Drawing words is no stage. -/
theorem peeringBlock_follows (containers : ContainerIndex) :
    (job.peeringBlock ctx containers).Follows (job.config.stagesOf (.curated .networkPeering)) := by
  refine (listed_follows _ _).bind_silent fun sources => .of_eq ?_
  refine List.filterMap_eq_nil_iff.mpr fun event hevent => ?_
  obtain ⟨source, -, rfl⟩ := List.mem_map.mp hevent
  rfl

/-- The blocks follow the visits of the kinds, once the project has been fetched. -/
theorem blocks_follows :
    (job.blocks project settings).Follows
      ((if job.config.exports .project then [.converting (.curated .project)] else []) ++
        RunKind.all.tail.flatMap job.config.stagesOf) :=
  -- The blocks stand in the order of `RunKind.all`, so that its stages unfold to theirs one by one.
  (projectBlock_follows _ project settings).bind fun _ =>
  (converted_follows _).bind fun _ =>
  (converted_follows _).bind fun _ =>
  (databaseUserBlock_follows _).bind fun _ =>
  (converted_follows _).bind fun _ =>
  (peeringBlock_follows _ _).bind fun _ =>
  (converted_follows _).bind fun _ =>
  (converted_follows _).bind fun _ =>
  (mapped_follows _ _).bind fun _ =>
  (mapped_follows _ _).bind fun _ => .pure _

/-- A run fetches the project, and then follows the visits of its blocks. -/
theorem manifests_follows : job.manifests.Follows (job.config.visits.flatMap Visit.stages) := by
  rw [Config.stages_visits]
  exact (Run.Follows.enter _).bind fun _ =>
    (Run.Follows.calls _).bind fun project =>
    (Run.Follows.calls _).bind fun settings =>
    (blocks_follows project settings).bind_silent fun _ => .pure _

end Job

/-! ## The whole export -/

/-- What an export does after its visits, by the result that it comes to. -/
def Stage.ending {α : Type} : Except Error α → List Stage
  | .ok _ => [.serializing, .done]
  | .error _ => [.failed]

/-- An export makes some visits and ends. -/
structure Run.Visits {α : Type} (x : Run α) (c : Config) (begun : List Visit) : Prop where
  /-- Kinds are visited in the order of a run, and so each of them at most once. -/
  inOrder : (begun.map Visit.kind).Pairwise RunKind.Precedes
  /-- The project comes first. -/
  project_first : (begun.map Visit.kind).head? = some (.curated .project)
  /-- No kind of the plan is passed over, and none is left before it is converted but the last. -/
  begins : Visit.Begins c.visits begun
  /-- A kind is fetched, and converted directly after that if at all, and nothing happens in between
  or beside it. -/
  stages_eq : x.stages = begun.flatMap Visit.stages ++ Stage.ending x.result
  /-- All that is planned has been visited before anything is written. -/
  visits_of_serializing : .serializing ∈ x.stages → begun = c.visits
  done_iff : x.stages.getLast? = some .done ↔ ∃ a, x.result = .ok a
  failed_iff : x.stages.getLast? = some .failed ↔ ∃ e, x.result = .error e
  /-- Nothing comes after a failure. -/
  failed_last : .failed ∉ x.stages.dropLast

namespace Run.Visits

variable {α : Type} {x : Run α} {c : Config} {begun : List Visit}

/-- Visits that begin as planned, and are finished unless the export fails. -/
theorem of_begins (hbegins : Visit.Begins c.visits begun) (hbegun : begun ≠ [])
    (hfinished : ∀ a, x.result = .ok a → begun = c.visits)
    (hstages : x.stages = begun.flatMap Visit.stages ++ Stage.ending x.result) :
    x.Visits c begun where
  inOrder := by
    have hprefix := hbegins.kinds_isPrefix
    rw [c.kinds_visits] at hprefix
    exact c.plan_pairwise.sublist hprefix.sublist
  project_first := by
    have hprefix := hbegins.kinds_isPrefix
    rw [c.kinds_visits, c.plan_eq_cons] at hprefix
    obtain ⟨visit, rest, rfl⟩ := List.exists_cons_of_ne_nil hbegun
    exact congrArg some (List.cons_prefix_cons.mp hprefix).1
  begins := hbegins
  stages_eq := hstages
  visits_of_serializing hmem := by
    rw [hstages] at hmem
    cases hresult : x.result with
    | ok a => exact hfinished a hresult
    | error e =>
      rw [hresult] at hmem
      rcases List.mem_append.mp hmem with hvisit | hending
      · exact absurd hvisit (Visit.not_mem_stages nofun nofun)
      · cases List.mem_singleton.mp hending
  done_iff := by
    rw [hstages]
    cases x.result <;> simp [Stage.ending]
  failed_iff := by
    rw [hstages]
    cases x.result <;> simp [Stage.ending]
  failed_last := by
    have hvisits : .failed ∉ begun.flatMap Visit.stages := Visit.not_mem_stages nofun nofun
    rw [hstages, List.dropLast_append_of_ne_nil (by cases x.result <;> simp [Stage.ending])]
    cases x.result with
    | ok a => simpa [Stage.ending] using hvisits
    | error e => simpa [Stage.ending] using hvisits

end Run.Visits

namespace Job

variable (job : Job)

/-- The project is fetched before anything can fail. -/
theorem stages_manifests_ne_nil : job.manifests.stages ≠ [] := by
  rw [manifests, Run.stages_bind]
  exact List.cons_ne_nil _ _

/-- Writing the manifests, or having failed, is what an export does after their stages. -/
theorem stages_exportStream :
    job.exportStream.stages = job.manifests.stages ++ Stage.ending job.exportStream.result := by
  rw [result_exportStream, exportStream, Run.stages_bind, result_exported, exported]
  cases job.manifests.result with
  | ok manifests => rfl
  | error e =>
    rw [List.append_nil, Run.stages, List.filterMap_append]
    rfl

/-- **The stages of an export.**  Whatever the control plane answers and the catalogue holds, an
export visits kinds in the order of a run: first the project, and then those that are selected.  It
fetches each of them and converts it directly after that, or fails.  It writes once all of them have
been visited, is done at last exactly if there is a stream, and has failed at last exactly if there
is an error, and not before. -/
theorem exportStream_visits : ∃ begun, job.exportStream.Visits job.config begun := by
  have hfollows : job.manifests.Follows (job.config.visits.flatMap Visit.stages) :=
    manifests_follows
  obtain ⟨begun, hbegins, hstages, hfinished⟩ := hfollows.exists_begins
  refine ⟨begun, .of_begins hbegins ?_ ?_ (hstages ▸ job.stages_exportStream)⟩
  · rintro rfl
    exact job.stages_manifests_ne_nil hstages
  · intro stream hstream
    rw [result_exportStream, result_exported] at hstream
    cases hresult : job.manifests.result with
    | ok manifests => exact hfinished manifests hresult
    | error e =>
      rw [hresult] at hstream
      cases hstream

/-- A project that is not selected is fetched but not converted. -/
example :
    let config : Config := { space := "atlas", projectId := "1", kinds := [.deployment] }
    { small "Shop" with config }.exportStream.stages =
      [.fetching (.curated .project), .fetching (.curated .deployment),
        .converting (.curated .deployment), .serializing, .done] := by
  decide +kernel

end Job

end AtlasManifests
