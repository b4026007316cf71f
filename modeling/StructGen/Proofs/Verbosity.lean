import StructGen.Proofs.AcceptedWords
import StructGen.Proofs.Interruption
import StructGen.Proofs.OptionOrder

namespace StructGen

/-! ### The log of a generation -/

/-- Whether an event is one of a generation, and not of a path that it wrote. -/
def Event.IsOfGeneration (e : Event) : Prop :=
  ∀ path, e ≠ .created path

theorem isOfGeneration_tagWarnings (tables : List Table) :
    ∀ e ∈ tagWarnings tables, e.IsOfGeneration := by
  intro e he path
  obtain ⟨table, _, he⟩ := List.mem_flatMap.mp he
  obtain ⟨column, _, he⟩ := List.mem_flatMap.mp he
  obtain ⟨index, _, rfl⟩ := List.mem_map.mp he
  exact nofun

theorem isOfGeneration_tasks {config : Config} {tables : List Table} {t : FileTask}
    (ht : t ∈ config.tasks tables) : ∀ e ∈ t.warnings ++ [t.written], e.IsOfGeneration := by
  rw [List.forall_mem_append, List.forall_mem_singleton]
  cases hsingle : config.singleFile with
  | some name =>
    rw [tasks_of_singleFile_eq_some hsingle, List.mem_singleton] at ht
    subst ht
    exact ⟨isOfGeneration_tagWarnings tables, fun path => nofun⟩
  | none =>
    rw [tasks_of_singleFile_eq_none hsingle] at ht
    obtain ⟨table, _, rfl⟩ := List.mem_map.mp ht
    exact ⟨isOfGeneration_tagWarnings [table], fun path => nofun⟩

theorem isOfGeneration_carryOut {tasks : List FileTask} {d : Disk}
    (h : ∀ t ∈ tasks, ∀ e ∈ t.warnings ++ [t.written], e.IsOfGeneration) :
    ∀ e ∈ (carryOut tasks d).2.1, e.IsOfGeneration := by
  induction tasks generalizing d with
  | nil => exact nofun
  | cons t tasks ih =>
    rw [List.forall_mem_cons, List.forall_mem_append, List.forall_mem_singleton] at h
    obtain ⟨⟨hwarnings, hwritten⟩, hlater⟩ := h
    cases ht : d.writeFile t.path t.content with
    | error e =>
      rw [carryOut_cons_of_error ht]
      exact hwarnings
    | ok mid =>
      rw [carryOut_cons_of_ok ht, List.forall_mem_append, List.forall_mem_cons]
      exact ⟨hwarnings, hwritten, ih hlater⟩

theorem isOfGeneration_writeModels (config : Config) (tables : List Table) (d : Disk) :
    ∀ e ∈ (writeModels config tables d).log, e.IsOfGeneration := by
  have hfiles : ∀ d, ∀ e ∈ (carryOut (config.tasks tables) d).2.1, e.IsOfGeneration :=
    fun d => isOfGeneration_carryOut fun t ht => isOfGeneration_tasks ht
  obtain ⟨o, ho⟩ : ∃ o, writeModels config tables d = o := ⟨_, rfl⟩
  rw [ho]
  cases writingRun_iff.mpr ho with
  | invalidPackage => exact nofun
  | noDirectory => exact nofun
  | @fileRefused e mid last log _ _ hrun =>
    have hlog := hfiles mid
    rw [hrun] at hlog
    exact hlog
  | @written mid last log _ _ hrun =>
    have hlog := hfiles mid
    rw [hrun] at hlog
    rw [List.forall_mem_append, List.forall_mem_singleton]
    exact ⟨hlog, fun path => nofun⟩

theorem isOfGeneration_generate (config : Config) (d : Disk) :
    ∀ e ∈ (generate config d).log, e.IsOfGeneration := by
  cases hload : loadTables d config.schema with
  | error e =>
    rw [generate_eq, hload, List.forall_mem_singleton]
    exact fun path => nofun
  | ok tables =>
    rw [generate_eq, hload, List.forall_mem_cons, List.forall_mem_cons]
    exact ⟨fun path => nofun, fun path => nofun, isOfGeneration_writeModels config tables d⟩

/-! ### Runs of the command -/

namespace Invocation

variable {i : Invocation} {d : Disk}

/-- The events that a run shows. -/
def shownEvents (i : Invocation) (d : Disk) : List Event :=
  (runLog (generate i.config d)).filter (·.isShown i.verbose)

def loud (i : Invocation) : Invocation :=
  { i with verbose := true }

theorem run_of_ok {paths : List Path} (h : (generate i.config d).result = .ok paths) :
    i.run d = ⟨0, unlines ((i.shownEvents d).map Event.line), "", (generate i.config d).disk⟩ := by
  rw [run, outcome_procedure, h]
  rfl

theorem run_of_error {e : GenerateError} (h : (generate i.config d).result = .error e) :
    i.run d =
      ⟨1, unlines ((i.shownEvents d).map Event.line), e.report, (generate i.config d).disk⟩ := by
  rw [run, outcome_procedure, h]
  rfl

theorem output_run (i : Invocation) (d : Disk) :
    (i.run d).output = unlines ((i.shownEvents d).map Event.line) := by
  cases hresult : (generate i.config d).result with
  | ok paths => rw [run_of_ok hresult]
  | error e => rw [run_of_error hresult]

theorem exitCode_run_eq_zero_iff :
    (i.run d).exitCode = 0 ↔ ∃ paths, (generate i.config d).result = .ok paths := by
  cases hresult : (generate i.config d).result with
  | ok paths => simp [run_of_ok hresult]
  | error e => simp [run_of_error hresult]

theorem exitCode_run_eq_one_iff :
    (i.run d).exitCode = 1 ↔ ∃ e, (generate i.config d).result = .error e := by
  cases hresult : (generate i.config d).result with
  | ok paths => simp [run_of_ok hresult]
  | error e => simp [run_of_error hresult]

/-- The events of the paths are shown at every level, behind those of the generation. -/
theorem shownEvents_of_ok {paths : List Path} (h : (generate i.config d).result = .ok paths) :
    i.shownEvents d =
      (generate i.config d).log.filter (·.isShown i.verbose) ++ paths.map .created := by
  have hshown : ∀ e ∈ paths.map Event.created, e.isShown i.verbose = true := by
    rw [List.forall_mem_map]
    intro path _
    simp [Event.isShown, Event.level]
  rw [shownEvents, runLog, h, List.filter_append, List.filter_eq_self.mpr hshown]

theorem shownEvents_of_error {e : GenerateError} (h : (generate i.config d).result = .error e) :
    i.shownEvents d = (generate i.config d).log.filter (·.isShown i.verbose) := by
  rw [shownEvents, runLog, h]

theorem created_not_mem_filter (p : Event → Bool) (path : Path) :
    .created path ∉ (generate i.config d).log.filter p := fun hmem =>
  isOfGeneration_generate i.config d _ (List.mem_of_mem_filter hmem) path rfl

theorem shownEvents_of_quiet (hquiet : i.verbose = false) (d : Disk) :
    i.shownEvents d = (i.loud.shownEvents d).filter (·.level != .debug) := by
  simp only [shownEvents, loud, hquiet, Event.isShown, Bool.true_or, Bool.false_or,
    List.filter_true]

/-- Of the report, only the output depends on how much is shown. -/
theorem run_loud (i : Invocation) (d : Disk) :
    i.loud.run d = { i.run d with output := (i.loud.run d).output } := by
  cases hresult : (generate i.config d).result with
  | ok paths =>
    have hresult' : (generate i.loud.config d).result = .ok paths := hresult
    rw [run_of_ok hresult, run_of_ok hresult']
    rfl
  | error e =>
    have hresult' : (generate i.loud.config d).result = .error e := hresult
    rw [run_of_error hresult, run_of_error hresult']
    rfl

end Invocation

/-- The events that the command shows, none if it stops at its arguments. -/
def shownEvents (words : List String) (fromEnv : Option String) (d : Disk) : List Event :=
  match Invocation.read words fromEnv with
  | .ok i => i.shownEvents d
  | .error _ => []

/-- Whether the report of the command tells how the generation went: the code is 0 just if the
generation succeeds, and then the events end with one for each path that it wrote; if the code
is 1, there is none for any path. -/
structure ReportTells (words : List String) (fromEnv : Option String) (d : Disk) : Prop where
  output : (runCommand words fromEnv d).output =
    unlines ((shownEvents words fromEnv d).map Event.line)
  succeeds_iff : (runCommand words fromEnv d).exitCode = 0 ↔
    ∃ i paths, Invocation.read words fromEnv = .ok i ∧ (generate i.config d).result = .ok paths
  created : ∀ i paths, Invocation.read words fromEnv = .ok i →
    (generate i.config d).result = .ok paths →
      ∃ front, shownEvents words fromEnv d = front ++ paths.map .created ∧
        ∀ path, .created path ∉ front
  failed : (runCommand words fromEnv d).exitCode = 1 →
    ∀ path, .created path ∉ shownEvents words fromEnv d

/-- Whether the command ends alike with some words and with others, and shows with the others
just what is not for debugging. -/
structure SameButDebug (loud quiet : List String) (fromEnv : Option String) (d : Disk) : Prop where
  exitCode : (runCommand loud fromEnv d).exitCode = (runCommand quiet fromEnv d).exitCode
  errors : (runCommand loud fromEnv d).errors = (runCommand quiet fromEnv d).errors
  disk : (runCommand loud fromEnv d).disk = (runCommand quiet fromEnv d).disk
  events : shownEvents quiet fromEnv d =
    (shownEvents loud fromEnv d).filter (·.level != .debug)

section

variable {words loud quiet : List String} {fromEnv : Option String} {i : Invocation}

theorem runCommand_of_read (h : Invocation.read words fromEnv = .ok i) (d : Disk) :
    runCommand words fromEnv d = i.run d := by
  rw [runCommand, h]

theorem shownEvents_of_read (h : Invocation.read words fromEnv = .ok i) (d : Disk) :
    shownEvents words fromEnv d = i.shownEvents d := by
  rw [shownEvents, h]

theorem runCommand_of_usage (h : Invocation.read words fromEnv = .error .usage) (d : Disk) :
    runCommand words fromEnv d = ⟨2, "", usageText, d⟩ := by
  rw [runCommand, h]
  rfl

theorem shownEvents_of_usage (h : Invocation.read words fromEnv = .error .usage) (d : Disk) :
    shownEvents words fromEnv d = [] := by
  rw [shownEvents, h]

theorem reportTells_of_read (h : Invocation.read words fromEnv = .ok i) (d : Disk) :
    ReportTells words fromEnv d := by
  have hrun := runCommand_of_read h d
  have hevents := shownEvents_of_read h d
  constructor
  case output => rw [hrun, hevents, Invocation.output_run]
  case succeeds_iff =>
    rw [hrun, Invocation.exitCode_run_eq_zero_iff]
    simp [h]
  case created =>
    intro i' paths hread hpaths
    obtain rfl : i' = i := Except.ok.inj (hread.symm.trans h)
    rw [hevents, Invocation.shownEvents_of_ok hpaths]
    exact ⟨_, rfl, Invocation.created_not_mem_filter _⟩
  case failed =>
    intro hcode path
    rw [hrun] at hcode
    obtain ⟨e, hresult⟩ := Invocation.exitCode_run_eq_one_iff.mp hcode
    rw [hevents, Invocation.shownEvents_of_error hresult]
    exact Invocation.created_not_mem_filter _ path

theorem reportTells_of_usage (h : Invocation.read words fromEnv = .error .usage) (d : Disk) :
    ReportTells words fromEnv d := by
  have hrun := runCommand_of_usage h d
  constructor
  case output =>
    rw [hrun, shownEvents_of_usage h]
    rfl
  case succeeds_iff => simp [hrun, h]
  case created => simp [h]
  case failed => simp [hrun]

theorem sameButDebug_of_read (hloud : Invocation.read loud fromEnv = .ok i.loud)
    (hquiet : Invocation.read quiet fromEnv = .ok i) (hverbose : i.verbose = false) (d : Disk) :
    SameButDebug loud quiet fromEnv d := by
  have hrun : runCommand loud fromEnv d =
      { runCommand quiet fromEnv d with output := (i.loud.run d).output } := by
    rw [runCommand_of_read hloud, runCommand_of_read hquiet, Invocation.run_loud]
  refine ⟨by rw [hrun], by rw [hrun], by rw [hrun], ?_⟩
  rw [shownEvents_of_read hloud, shownEvents_of_read hquiet,
    Invocation.shownEvents_of_quiet hverbose]

theorem sameButDebug_of_usage (hloud : Invocation.read loud fromEnv = .error .usage)
    (hquiet : Invocation.read quiet fromEnv = .error .usage) (d : Disk) :
    SameButDebug loud quiet fromEnv d := by
  have hrun : runCommand loud fromEnv d = runCommand quiet fromEnv d := by
    rw [runCommand_of_usage hloud, runCommand_of_usage hquiet]
  refine ⟨by rw [hrun], by rw [hrun], by rw [hrun], ?_⟩
  rw [shownEvents_of_usage hloud, shownEvents_of_usage hquiet]
  rfl

end

theorem Arguments.config_eq_ok_or_usage (args : Arguments) (fromEnv : Option String) :
    (∃ config, args.config fromEnv = .ok config) ∨ args.config fromEnv = .error .usage := by
  cases hschema : args.schema with
  | some schema => exact .inl ⟨_, config_of_schema hschema fromEnv⟩
  | none =>
    cases fromEnv with
    | none => exact .inr (config_of_missing hschema (.inl rfl))
    | some text =>
      by_cases htext : text = ""
      · exact .inr (config_of_missing hschema (.inr (congrArg some htext)))
      · exact .inl ⟨_, config_of_variable hschema htext⟩

/-- Asking for more to be shown adds events for debugging, and changes nothing else. -/
theorem sameButDebug_of_verbose {words : List String} {args : Arguments}
    (hwords : ({} : Arguments).readWords words = .ok args) (hquiet : args.verbose = false)
    (fromEnv : Option String) (d : Disk) :
    SameButDebug ("--verbose" :: words) words fromEnv d ∧
      ReportTells ("--verbose" :: words) fromEnv d ∧ ReportTells words fromEnv d := by
  have hread := Invocation.read_of_readWords hwords fromEnv
  have hread' := Invocation.read_of_readWords
    (Arguments.readWords_cons_verbose hwords hquiet) fromEnv
  have hconfig : args.loud.config fromEnv = args.config fromEnv := rfl
  rw [hconfig] at hread'
  rcases args.config_eq_ok_or_usage fromEnv with ⟨config, hok⟩ | husage
  · have hi : Invocation.read words fromEnv = .ok ⟨config, args.verbose⟩ := by
      rw [hread, hok]
      rfl
    have hi' : Invocation.read ("--verbose" :: words) fromEnv =
        .ok (Invocation.loud ⟨config, args.verbose⟩) := by
      rw [hread', hok]
      rfl
    exact ⟨sameButDebug_of_read hi' hi hquiet d, reportTells_of_read hi' d,
      reportTells_of_read hi d⟩
  · have hstop : Invocation.read words fromEnv = .error .usage := by
      rw [hread, husage]
      rfl
    have hstop' : Invocation.read ("--verbose" :: words) fromEnv = .error .usage := by
      rw [hread', husage]
      rfl
    exact ⟨sameButDebug_of_usage hstop' hstop d, reportTells_of_usage hstop' d,
      reportTells_of_usage hstop d⟩

/-- Words with a value that looks like the switch, on a disk with a schema of two tables. -/
theorem sameButDebug_of_verbose_of_misleading_value :
    let words : List String := ["--prefix=-v", "-oout", "-s", "schema.json"]
    let args : Arguments :=
      { schema := some ⟨"schema.json"⟩, outputDir := some ⟨"out"⟩, tableStart := some "-v" }
    let d : Disk :=
      { entries := [(["schema.json"], .file
          "\x7b\"tables\": [[\"users\"], [\"posts\"]]\x7d".toByteArray)] }
    ({} : Arguments).readWords words = .ok args ∧ args.verbose = false ∧
      SameButDebug ("--verbose" :: words) words none d ∧
      ReportTells ("--verbose" :: words) none d ∧ ReportTells words none d := by
  intro words args d
  have hwords : ({} : Arguments).readWords words = .ok args := by decide +kernel
  have hquiet : args.verbose = false := rfl
  exact ⟨hwords, hquiet, sameButDebug_of_verbose hwords hquiet none d⟩

end StructGen
