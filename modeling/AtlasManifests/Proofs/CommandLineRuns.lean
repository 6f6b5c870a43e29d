import AtlasManifests.Export.CommandLine

/-! # All or nothing

A run of the program either exports or does nothing.  If the words of the command line lead to a
valid configuration and the export with it succeeds, then the complete stream is given where it is
wanted, and a file that cannot be written makes the run fail without printing anything; in every
other case nothing is printed, no file is written and the run fails, and without a valid
configuration no call is made (`CommandLine.report_allOrNothing`).  Only words that ask for help or
for the version are answered without an export.
-/
namespace AtlasManifests

/-! ## Configurations -/

namespace Config

/-- A text has something in it besides blanks. -/
def HasWord (s : String) : Prop := ∃ c ∈ s.toList, Text.isBlank c = false

/-- A configuration that an export can run with. -/
structure IsValid (c : Config) : Prop where
  projectId : HasWord c.projectId
  space : HasWord c.space
  pageSize : 1 ≤ c.pageSize ∧ c.pageSize ≤ maxPageSize
  apiTag : ∀ g ∈ c.generated, HasWord g.apiTag

theorem not_isBlank_iff {s : String} : ¬ isBlank s = true ↔ HasWord s := by
  rw [isBlank, List.isEmpty_iff, Text.trim_eq_nil_iff, HasWord]
  simp

theorem fault?_eq_none_iff {c : Config} : c.fault? = none ↔ c.IsValid := by
  have hpage : ¬ (c.pageSize < 1 ∨ maxPageSize < c.pageSize) ↔
      1 ≤ c.pageSize ∧ c.pageSize ≤ maxPageSize := by
    rw [not_or, UInt32.not_lt, UInt32.not_lt]
  have htag : ¬ (c.generated.any fun g => isBlank g.apiTag) = true ↔
      ∀ g ∈ c.generated, HasWord g.apiTag := by
    cases c.generated <;> simp [← not_isBlank_iff]
  constructor
  · intro h
    unfold fault? at h
    split at h
    · cases h
    next hproject =>
    split at h
    · cases h
    next hspace =>
    split at h
    · cases h
    next hsize =>
    split at h
    · cases h
    next hgenerated =>
    exact ⟨not_isBlank_iff.mp hproject, not_isBlank_iff.mp hspace, hpage.mp hsize,
      htag.mp hgenerated⟩
  · intro h
    rw [fault?, if_neg (not_isBlank_iff.mpr h.projectId), if_neg (not_isBlank_iff.mpr h.space),
      if_neg (hpage.mpr h.pageSize), if_neg (htag.mpr h.apiTag)]

end Config

namespace CommandLine

/-- The configuration that is there before the command line is looked at: that of the file, if one
is named, or else the usual one. -/
inductive Loads (env : Surroundings) : Option String → Config → Prop
  | usual : Loads env none {}
  | file {path text : String} {config : Config} (content : env.file path = some text)
      (reads : Config.ofYaml? text = some config) : Loads env (some path) config

/-- A configuration with the project and the namespace of the command line put over it. -/
def Settings.over (s : Settings) (config : Config) : Config :=
  { config with
    projectId := s.project.getD config.projectId
    space := s.space.getD config.space }

/-- The configuration that settings lead to: it is loaded, gets the settings put over it, and has to
be valid then. -/
structure Configures (env : Surroundings) (s : Settings) (config : Config) : Prop where
  loads : ∃ loaded, Loads env s.config loaded ∧ config = s.over loaded
  isValid : config.IsValid

variable {env : Surroundings} {s : Settings} {config : Config} {words : List String}

/-- Loading as a computation. -/
def loading (env : Surroundings) : Option String → Except Failure Config
  | none => .ok {}
  | some path => (Config.ofFile (env.file path)).mapError fun _ => .loading path

theorem loading_eq_ok_iff {path : Option String} :
    loading env path = .ok config ↔ Loads env path config := by
  cases path with
  | none =>
    refine ⟨fun h => ?_, fun h => ?_⟩
    · cases h
      exact .usual
    · cases h
      rfl
  | some path =>
    refine ⟨fun h => ?_, fun h => ?_⟩
    · rw [loading] at h
      cases content : env.file path with
      | none =>
        rw [content] at h
        cases h
      | some text =>
        cases reads : Config.ofYaml? text with
        | none =>
          simp only [content, Config.ofFile, reads] at h
          cases h
        | some read =>
          simp only [content, Config.ofFile, reads] at h
          cases h
          exact .file content reads
    · cases h with
      | file content reads =>
        simp only [loading, content, Config.ofFile, reads]
        rfl

theorem merged_eq (s : Settings) : s.merged env = (loading env s.config).bind fun loaded =>
    match (s.over loaded).fault? with
    | none => .ok (s.over loaded)
    | some fault => .error (.export (.config fault)) := by
  unfold Settings.merged
  cases s.config <;> rfl

/-- Settings are merged exactly into the configuration that they lead to. -/
theorem merged_eq_ok_iff : s.merged env = .ok config ↔ Configures env s config := by
  rw [merged_eq]
  constructor
  · intro h
    cases hload : loading env s.config with
    | error failure =>
      rw [hload] at h
      cases h
    | ok loaded =>
      simp only [hload, Except.bind] at h
      split at h
      · next hfault =>
        have hconfig : s.over loaded = config := Except.ok.inj h
        refine ⟨⟨loaded, loading_eq_ok_iff.mp hload, hconfig.symm⟩, ?_⟩
        exact Config.fault?_eq_none_iff.mp (hconfig ▸ hfault)
      · cases h
  · rintro ⟨⟨loaded, hload, rfl⟩, hvalid⟩
    simp only [loading_eq_ok_iff.mpr hload, Except.bind, Config.fault?_eq_none_iff.mpr hvalid]

/-! ## Runs -/

/-- What a run has to give: the words lead to settings and a token, the settings to a configuration,
and these manifests are the export with it. -/
structure Delivers (env : Surroundings) (words : List String) (s : Settings)
    (manifests : List Manifest) : Prop where
  demand_eq : demand {} words = .export s
  exported : ∃ token config, (s.token <|> env.token) = some token ∧ Configures env s config ∧
    (Settings.job env config token).exported.result = .ok manifests

/-- The run succeeds, and all of a stream goes where it is wanted: to a file, or else to the
standard output.  If the file cannot be written, the run fails and prints nothing. -/
structure Gives (outcome : Outcome) (output : Option String) (stream : String) : Prop where
  file_eq : outcome.file? = output.map (·, stream)
  ending_eq : outcome.ending true = { status := 0, output := if output.isSome then "" else stream }
  unwritten : ∀ path ∈ output,
    outcome.ending false = { status := 1, output := "", failure := some (.writing path) }

/-- The run fails without any effect. -/
structure GivesNothing (outcome : Outcome) : Prop where
  status_ne : ∀ written, (outcome.ending written).status ≠ 0
  output_eq : ∀ written, (outcome.ending written).output = ""
  file_eq : outcome.file? = none

theorem givesNothing_failed (failure : Failure) : GivesNothing (.failed failure) where
  status_ne _ := show (1 : UInt32) ≠ 0 by decide
  output_eq _ := rfl
  file_eq := rfl

theorem givesNothing_misused : GivesNothing .misused where
  status_ne _ := show (2 : UInt32) ≠ 0 by decide
  output_eq _ := rfl
  file_eq := rfl

/-- What becomes of settings and a token: without a configuration, a failure before any call; else
the failure of the export, or its stream. -/
theorem settings_report_cases (s : Settings) (env : Surroundings) (token : String) :
    (∃ failure, s.merged env = .error failure ∧
      s.report env token = .quiet (.failed failure)) ∨
    ∃ config, Configures env s config ∧
      ((∃ e, (Settings.job env config token).exported.result = .error e ∧
        (s.report env token).outcome = .failed (.export e)) ∨
      ∃ manifests, (Settings.job env config token).exported.result = .ok manifests ∧
        Gives (s.report env token).outcome s.output (Manifest.stream manifests)) := by
  cases hmerged : s.merged env with
  | error failure =>
    refine .inl ⟨failure, rfl, ?_⟩
    rw [Settings.report, hmerged]
  | ok config =>
    refine .inr ⟨config, merged_eq_ok_iff.mp hmerged, ?_⟩
    simp only [Settings.report, hmerged, Job.result_exportStream]
    cases hresult : (Settings.job env config token).exported.result with
    | error e => exact .inl ⟨e, rfl, rfl⟩
    | ok manifests =>
      refine .inr ⟨manifests, rfl, ?_⟩
      cases s.output with
      | none => exact ⟨rfl, rfl, nofun⟩
      | some path =>
        refine ⟨rfl, rfl, ?_⟩
        rintro _ ⟨⟩
        rfl

/-- A run of the program that does not export fails without any effect, and has made no call unless
there is a valid configuration. -/
structure Abstains (env : Surroundings) (words : List String) : Prop where
  not_delivers : ¬ ∃ s manifests, Delivers env words s manifests
  givesNothing : GivesNothing (report env words).outcome
  calls : (∃ s config, demand {} words = .export s ∧ Configures env s config) ∨
    (report env words).calls = []

/-- What there is to deliver for settings is what their export results in. -/
theorem delivers_iff (env : Surroundings) (hdemand : demand {} words = .export s) :
    (∃ s' manifests, Delivers env words s' manifests) ↔ ∃ token config manifests,
      (s.token <|> env.token) = some token ∧ s.merged env = .ok config ∧
        (Settings.job env config token).exported.result = .ok manifests := by
  constructor
  · rintro ⟨s', manifests, h⟩
    obtain rfl : s = s' := Demand.export.inj (hdemand.symm.trans h.demand_eq)
    obtain ⟨token, config, htoken, hconfig, hresult⟩ := h.exported
    exact ⟨token, config, manifests, htoken, merged_eq_ok_iff.mpr hconfig, hresult⟩
  · rintro ⟨token, config, manifests, htoken, hmerged, hresult⟩
    exact ⟨s, manifests, hdemand, token, config, htoken, merged_eq_ok_iff.mp hmerged, hresult⟩

/-- **All or nothing.** A run of the program answers a question for help or for the version, and
does nothing else; or it delivers the stream of the export and succeeds; or it does nothing and
fails. -/
theorem report_allOrNothing (env : Surroundings) (words : List String) :
    (∃ notice, demand {} words = .notice notice ∧
      report env words = .quiet (.printed notice.text)) ∨
    (∃ s manifests, Delivers env words s manifests ∧
      Gives (report env words).outcome s.output (Manifest.stream manifests)) ∨
    Abstains env words := by
  cases hdemand : demand {} words with
  | notice notice =>
    refine .inl ⟨notice, rfl, ?_⟩
    rw [report, hdemand]
  | misuse =>
    have hreport : report env words = .quiet .misused := by rw [report, hdemand]
    refine .inr (.inr ⟨?_, ?_, .inr ?_⟩)
    · rintro ⟨s, manifests, h⟩
      exact Demand.noConfusion (hdemand.symm.trans h.demand_eq)
    · rw [hreport]
      exact givesNothing_misused
    · rw [hreport]
      rfl
  | «export» s =>
    have hdelivers := delivers_iff env hdemand
    cases htoken : (s.token <|> env.token) with
    | none =>
      have hreport : report env words = .quiet .misused := by
        simp only [report, hdemand, htoken]
      refine .inr (.inr ⟨?_, hreport ▸ givesNothing_misused, .inr (hreport ▸ rfl)⟩)
      rw [hdelivers, htoken]
      rintro ⟨token, _, _, htoken, _⟩
      cases htoken
    | some token =>
      have hreport : report env words = s.report env token := by
        simp only [report, hdemand, htoken]
      rcases settings_report_cases s env token with
        ⟨failure, hmerged, hquiet⟩ | ⟨config, hconfig, ⟨e, hresult, hfailed⟩ |
          ⟨manifests, hresult, hgives⟩⟩
      · rw [hquiet] at hreport
        refine .inr (.inr ⟨?_, hreport ▸ givesNothing_failed failure, .inr (hreport ▸ rfl)⟩)
        rw [hdelivers, hmerged]
        rintro ⟨_, _, _, _, hmerged, _⟩
        cases hmerged
      · refine .inr (.inr ⟨?_, ?_, .inl ⟨s, config, hdemand, hconfig⟩⟩)
        · rw [hdelivers, htoken, merged_eq_ok_iff.mpr hconfig]
          rintro ⟨_, _, _, htoken, hmerged, hexported⟩
          cases htoken
          cases hmerged
          rw [hresult] at hexported
          cases hexported
        · rw [hreport, hfailed]
          exact givesNothing_failed _
      · refine .inr (.inl ⟨s, manifests, ?_, hreport ▸ hgives⟩)
        exact ⟨hdemand, token, config, htoken, hconfig, hresult⟩

/-- Surroundings with a file that selects one kind, and a service with an empty project. -/
def Surroundings.small : Surroundings where
  file path := if path = "export.yaml" then some "kinds: [project]\n" else none
  token := some "tok"
  send _ := some ⟨200, "\x7b\"id\": \"1\", \"name\": \"Shop\"\x7d"⟩
  word _ := ""

example : (report .small ["-p", "1", "-c", "export.yaml", "-o", "out.yaml"]).outcome.ending true =
    { status := 0 } := by decide +kernel

/-- The version is printed without any export. -/
theorem report_version :
    ¬ ((∃ s manifests, Delivers .small ["--version"] s manifests ∧
        Gives (report .small ["--version"]).outcome s.output (Manifest.stream manifests)) ∨
      GivesNothing (report .small ["--version"]).outcome) := by
  have hdemand : demand {} ["--version"] = .notice .version := by decide
  have hreport : (report .small ["--version"]).outcome = .printed Notice.version.text := by
    rw [report, hdemand]
    rfl
  rintro (⟨s, manifests, h, _⟩ | h)
  · exact Demand.noConfusion (hdemand.symm.trans h.demand_eq)
  · rw [hreport] at h
    exact h.status_ne true rfl

end CommandLine

end AtlasManifests
