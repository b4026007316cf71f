import Mathlib.Data.List.Forall2
import StructGen.Proofs.Interruption

namespace StructGen

/-- What a reader of the log sees of an event. -/
structure LogEntry where
  level : Level
  message : String
  fields : List (String × EventValue)

def Event.entry (e : Event) : LogEntry :=
  ⟨e.level, e.message, e.fields⟩

def unknownIndexEntry (table : Table) (column : Column) (index : String) : LogEntry :=
  ⟨.warn, "Column references an unknown index, skipping",
    [("table", .text table.name), ("column", .text column.name), ("index", .text index)]⟩

def Config.wroteModelEntry (config : Config) (table : Table) : LogEntry :=
  ⟨.debug, "Wrote model",
    [("path", .text (config.modelPath table.name).text), ("table", .text table.name)]⟩

def Config.wroteModelsEntry (config : Config) (name : String) (tables : List Table) : LogEntry :=
  ⟨.debug, "Wrote models",
    [("path", .text (config.modelPath name).text), ("tables", .count tables.length)]⟩

def Config.generatedEntry (config : Config) (files : Nat) : LogEntry :=
  ⟨.info, "Generated models", [("files", .count files), ("dir", .text config.outputDir.text)]⟩

/-- Whether a log warns of the indexes that a column names and its table does not have, of each
once and in the ascending order of their names. -/
def ColumnWarned (table : Table) (column : Column) (log : List LogEntry) : Prop :=
  ∃ names : List String, names.Pairwise (· < ·) ∧
    (∀ name, name ∈ names ↔ name ∈ column.indexes ∧ table.indexes.get? name = none) ∧
    log = names.map (unknownIndexEntry table column)

/-- Whether a log has the warnings for the columns of a table, in the order of their declaration. -/
def TableWarned (table : Table) (log : List LogEntry) : Prop :=
  ∃ logs, List.Forall₂ (ColumnWarned table) table.columns logs ∧ log = logs.flatten

def TablesWarned (tables : List Table) (log : List LogEntry) : Prop :=
  ∃ logs, List.Forall₂ TableWarned tables logs ∧ log = logs.flatten

/-- Whether a log has, for each table in order, its warnings and then the note that its model was
written. -/
inductive TablesLogged (config : Config) : List Table → List LogEntry → Prop
  | nil : TablesLogged config [] []
  | cons {table : Table} {tables : List Table} {warnings log : List LogEntry}
    (warned : TableWarned table warnings) (logged : TablesLogged config tables log) :
    TablesLogged config (table :: tables) (warnings ++ config.wroteModelEntry table :: log)

theorem columnWarned_unknownIndexes (table : Table) (column : Column) :
    ColumnWarned table column
      ((unknownIndexes table column).map (unknownIndexEntry table column)) := by
  have hunknown : ∀ name,
      (!table.indexes.contains name) = true ↔ table.indexes.get? name = none := by
    intro name
    rw [Dict.contains, Bool.not_eq_true', Option.isSome_eq_false_iff, Option.isNone_iff_eq_none]
  refine ⟨_, column.indexes.ascending.sublist List.filter_sublist, fun name => ?_, rfl⟩
  rw [List.mem_filter, hunknown]
  rfl

theorem map_entry_tagWarnings (tables : List Table) :
    (tagWarnings tables).map Event.entry =
      tables.flatMap fun table => table.columns.flatMap fun column =>
        (unknownIndexes table column).map (unknownIndexEntry table column) := by
  simp only [tagWarnings, List.map_flatMap, List.map_map]
  rfl

theorem tableWarned_flatMap (table : Table) :
    TableWarned table (table.columns.flatMap fun column =>
      (unknownIndexes table column).map (unknownIndexEntry table column)) := by
  refine ⟨_, ?_, List.flatMap_def⟩
  rw [List.forall₂_map_right_iff, List.forall₂_same]
  exact fun column _ => columnWarned_unknownIndexes table column

theorem tableWarned_tagWarnings (table : Table) :
    TableWarned table ((tagWarnings [table]).map Event.entry) := by
  rw [map_entry_tagWarnings, List.flatMap_singleton]
  exact tableWarned_flatMap table

theorem tablesWarned_tagWarnings (tables : List Table) :
    TablesWarned tables ((tagWarnings tables).map Event.entry) := by
  rw [map_entry_tagWarnings]
  refine ⟨_, ?_, List.flatMap_def⟩
  rw [List.forall₂_map_right_iff, List.forall₂_same]
  exact fun table _ => tableWarned_flatMap table

/-- The log of tasks that are all carried out. -/
theorem log_carryOut_of_ok {tasks : List FileTask} {d : Disk}
    (h : (carryOut tasks d).1 = .ok ()) :
    (carryOut tasks d).2.1 = tasks.flatMap fun t => t.warnings ++ [t.written] := by
  induction tasks generalizing d with
  | nil => rfl
  | cons t tasks ih =>
    cases ht : d.writeFile t.path t.content with
    | error e =>
      rw [carryOut_cons_of_error ht] at h
      contradiction
    | ok mid =>
      rw [carryOut_cons_of_ok ht] at h ⊢
      rw [List.flatMap_cons, ih h, List.append_assoc]
      rfl

/-- The log of tasks that stop at one of them ends with the warnings of that one. -/
theorem log_carryOut_of_refused {before : List FileTask} {t : FileTask} {d : Disk} {e : IoError}
    (hbefore : (carryOut before d).1 = .ok ())
    (hrefused : (carryOut before d).2.2.writeFile t.path t.content = .error e)
    (later : List FileTask) :
    (carryOut (before ++ t :: later) d).2.1 = (carryOut before d).2.1 ++ t.warnings := by
  induction before generalizing d with
  | nil =>
    have hfirst : d.writeFile t.path t.content = .error e := hrefused
    rw [List.nil_append, carryOut_cons_of_error hfirst]
    rfl
  | cons u before ih =>
    cases hu : d.writeFile u.path u.content with
    | error e' =>
      rw [carryOut_cons_of_error hu] at hbefore
      contradiction
    | ok mid =>
      rw [carryOut_cons_of_ok hu] at hbefore hrefused ⊢
      rw [List.cons_append, carryOut_cons_of_ok hu, ih hbefore hrefused]
      simp

/-- The log of a run that succeeds. -/
theorem log_writeModels_of_ok {config : Config} {tables : List Table} {d : Disk}
    {paths : List Path} (h : (writeModels config tables d).result = .ok paths) :
    (writeModels config tables d).log =
      ((config.tasks tables).flatMap fun t => t.warnings ++ [t.written]) ++
        [.generated paths.length config.outputDir] := by
  obtain ⟨o, ho⟩ : ∃ o, writeModels config tables d = o := ⟨_, rfl⟩
  rw [ho] at h ⊢
  cases writingRun_iff.mpr ho with
  | invalidPackage => contradiction
  | noDirectory => contradiction
  | fileRefused => contradiction
  | @written mid last log _ _ hfiles =>
    have hok : (carryOut (config.tasks tables) mid).1 = .ok () := by rw [hfiles]
    have hlog := log_carryOut_of_ok hok
    rw [hfiles] at hlog
    rw [← Except.ok.inj h, List.length_map, ← hlog]

/-- A run that stops once its directory is there stops at one of its files. -/
theorem writeModels_stopped {config : Config} {tables : List Table} {d : Disk} {e : GenerateError}
    (hpackage : isValidPackage config.package = true)
    (hmade : (d.makeDirs config.outputDir).1 = .ok ())
    (h : (writeModels config tables d).result = .error e) :
    ∃ before t later refusal, config.tasks tables = before ++ t :: later ∧
      (carryOut before (d.makeDirs config.outputDir).2).1 = .ok () ∧
      (writeModels config tables d).disk = (carryOut before (d.makeDirs config.outputDir).2).2.2 ∧
      e = .io refusal ∧
      (writeModels config tables d).disk.writeFile t.path t.content = .error refusal ∧
      (writeModels config tables d).log =
        (before.flatMap fun t => t.warnings ++ [t.written]) ++ t.warnings := by
  obtain ⟨o, ho⟩ : ∃ o, writeModels config tables d = o := ⟨_, rfl⟩
  rw [ho] at h ⊢
  cases writingRun_iff.mpr ho with
  | invalidPackage hinvalid => simp [hpackage] at hinvalid
  | noDirectory _ hfailed => simp [hfailed] at hmade
  | written => contradiction
  | @fileRefused refusal mid last log _ hdirs hfiles =>
    obtain rfl : mid = (d.makeDirs config.outputDir).2 := by rw [hdirs]
    have hstop : (carryOut (config.tasks tables) (d.makeDirs config.outputDir).2).1 =
        .error refusal := by rw [hfiles]
    obtain ⟨before, t, later, hsplit, hbefore, hlast, hrefused⟩ := carryOut_eq_error hstop
    have hlog := log_carryOut_of_refused hbefore hrefused later
    rw [← hsplit, hfiles, log_carryOut_of_ok hbefore] at hlog
    rw [hfiles] at hlast
    have hlast : last = (carryOut before (d.makeDirs config.outputDir).2).2.2 := hlast
    exact ⟨before, t, later, refusal, hsplit, hbefore, hlast, (Except.error.inj h).symm,
      hlast ▸ hrefused, hlog⟩

theorem tablesLogged_tasks (config : Config) (tables : List Table) :
    TablesLogged config tables
      (((tables.map config.tableTask).flatMap fun t => t.warnings ++ [t.written]).map
        Event.entry) := by
  induction tables with
  | nil => exact .nil
  | cons table tables ih =>
    have hentry : (config.tableTask table).written.entry = config.wroteModelEntry table := rfl
    rw [List.map_cons, List.flatMap_cons, List.map_append, List.map_append, List.append_assoc,
      List.map_singleton, hentry]
    exact .cons (tableWarned_tagWarnings table) ih

theorem ColumnWarned.level_eq {table : Table} {column : Column} {log : List LogEntry}
    (h : ColumnWarned table column log) : ∀ entry ∈ log, entry.level = .warn := by
  obtain ⟨names, _, _, rfl⟩ := h
  rw [List.forall_mem_map]
  exact fun _ _ => rfl

theorem TableWarned.level_eq {table : Table} {log : List LogEntry} (h : TableWarned table log) :
    ∀ entry ∈ log, entry.level = .warn := by
  obtain ⟨logs, hlogs, rfl⟩ := h
  generalize table.columns = columns at hlogs
  induction hlogs with
  | nil => simp
  | cons hcolumn _ ih =>
    rw [List.flatten_cons, List.forall_mem_append]
    exact ⟨hcolumn.level_eq, ih⟩

theorem TableWarned.filter_debug {table : Table} {log : List LogEntry}
    (h : TableWarned table log) : log.filter (·.level = .debug) = [] := by
  rw [List.filter_eq_nil_iff]
  intro entry hentry
  simp [h.level_eq entry hentry]

/-- The debug entries of a log of tables are those of their models, one for each. -/
theorem TablesLogged.filter_debug {config : Config} {tables : List Table} {log : List LogEntry}
    (h : TablesLogged config tables log) :
    log.filter (·.level = .debug) = tables.map config.wroteModelEntry := by
  induction h with
  | nil => rfl
  | @cons table tables warnings log warned _ ih =>
    have hlevel : (config.wroteModelEntry table).level = .debug := rfl
    rw [List.filter_append, warned.filter_debug, List.filter_cons_of_pos (by simp [hlevel]), ih]
    rfl

theorem TablesLogged.level_ne_info {config : Config} {tables : List Table} {log : List LogEntry}
    (h : TablesLogged config tables log) : ∀ entry ∈ log, entry.level ≠ .info := by
  induction h with
  | nil => simp
  | @cons table tables warnings log warned _ ih =>
    have hlevel : (config.wroteModelEntry table).level ≠ .info := nofun
    rw [List.forall_mem_append, List.forall_mem_cons]
    exact ⟨fun entry hentry => by simp [warned.level_eq entry hentry], hlevel, ih⟩

/-- Whether a log ends where the model of a table cannot be written, after those of the tables
before it: with the warnings for that table, but no note that its model or a later one was
written, and none that all were. -/
structure StopsAt (config : Config) (before : List Table) (table : Table) (log : List LogEntry) :
    Prop where
  parts : ∃ front warnings, TablesLogged config before front ∧ TableWarned table warnings ∧
    log = front ++ warnings
  debug : log.filter (·.level = .debug) = before.map config.wroteModelEntry
  info : ∀ entry ∈ log, entry.level ≠ .info

theorem stopsAt_append {config : Config} {before : List Table} {table : Table}
    {front warnings : List LogEntry} (hfront : TablesLogged config before front)
    (hwarned : TableWarned table warnings) : StopsAt config before table (front ++ warnings) where
  parts := ⟨front, warnings, hfront, hwarned, rfl⟩
  debug := by rw [List.filter_append, hfront.filter_debug, hwarned.filter_debug, List.append_nil]
  info := by
    rw [List.forall_mem_append]
    exact ⟨hfront.level_ne_info, fun entry hentry => by simp [hwarned.level_eq entry hentry]⟩

/-- Whether the log of an outcome tells what happened when models were written: nothing before the
first file, the warnings for what goes into a file before that file, and the end of a run that
succeeds. -/
structure LogTells (config : Config) (tables : List Table) (d : Disk) (o : Outcome) : Prop where
  silent : isValidPackage config.package = false ∨
    (∃ e, (d.makeDirs config.outputDir).1 = .error e) → o.log = []
  written : config.singleFile = none → ∀ paths, o.result = .ok paths →
    ∃ front, TablesLogged config tables front ∧
      o.log.map Event.entry = front ++ [config.generatedEntry paths.length]
  stopped : config.singleFile = none → isValidPackage config.package = true →
    (d.makeDirs config.outputDir).1 = .ok () → ∀ e, o.result = .error e →
      ∃ before table later refusal, tables = before ++ table :: later ∧
        (writeModels config before d).result = .ok (before.map fun t => config.modelPath t.name) ∧
        o.disk = (writeModels config before d).disk ∧ e = .io refusal ∧
        o.disk.writeFile (config.modelPath table.name)
          (renderFile config.renderContext [table]) = .error refusal ∧
        StopsAt config before table (o.log.map Event.entry)
  singleWritten : ∀ name ∈ config.singleFile, ∀ paths, o.result = .ok paths →
    ∃ warnings, TablesWarned tables warnings ∧ o.log.map Event.entry =
      warnings ++ [config.wroteModelsEntry name tables, config.generatedEntry 1]
  singleStopped : ∀ name ∈ config.singleFile, isValidPackage config.package = true →
    (d.makeDirs config.outputDir).1 = .ok () → ∀ e, o.result = .error e →
      TablesWarned tables (o.log.map Event.entry)

theorem log_writeModels_eq_nil {config : Config} {tables : List Table} {d : Disk}
    (h : isValidPackage config.package = false ∨ ∃ e, (d.makeDirs config.outputDir).1 = .error e) :
    (writeModels config tables d).log = [] := by
  obtain ⟨o, ho⟩ : ∃ o, writeModels config tables d = o := ⟨_, rfl⟩
  rw [ho]
  cases writingRun_iff.mpr ho with
  | invalidPackage => rfl
  | noDirectory => rfl
  | fileRefused hpackage hmade => simp [hpackage, hmade] at h
  | written hpackage hmade => simp [hpackage, hmade] at h

theorem logTells_writeModels (config : Config) (tables : List Table) (d : Disk) :
    LogTells config tables d (writeModels config tables d) where
  silent := log_writeModels_eq_nil
  written hnone paths h := by
    have hlog := log_writeModels_of_ok h
    rw [tasks_of_singleFile_eq_none hnone] at hlog
    rw [hlog, List.map_append]
    exact ⟨_, tablesLogged_tasks config tables, rfl⟩
  stopped hnone hpackage hmade e h := by
    obtain ⟨before, task, later, refusal, hsplit, hbefore, hdisk, rfl, hrefused, hlog⟩ :=
      writeModels_stopped hpackage hmade h
    rcases tasks_eq_append_cons hsplit with
      ⟨name, hsingle, _⟩ | ⟨_, front, table, back, rfl, rfl, rfl⟩
    · simp [hnone] at hsingle
    · -- The tasks before the refused one are those of a run for the tables before its table.
      have hfront := writingRun_iff.mp
        (.written hpackage (Prod.ext hmade rfl) (Prod.ext hbefore rfl))
      rw [tasks_of_singleFile_eq_none hnone] at hlog
      refine ⟨front, table, back, refusal, rfl, ?_, ?_, rfl, hrefused, ?_⟩
      · simp [hfront, tasks_of_singleFile_eq_none hnone, path_tableTask]
      · rw [hfront, hdisk]
      · rw [hlog, List.map_append]
        exact stopsAt_append (tablesLogged_tasks config front) (tableWarned_tagWarnings table)
  singleWritten name hname paths h := by
    have hlog := log_writeModels_of_ok h
    obtain ⟨_, _, _, hpaths, _⟩ := writeModels_eq_ok h
    rw [tasks_of_singleFile_eq_some hname] at hlog hpaths
    rw [hlog, hpaths, List.flatMap_singleton, List.map_append, List.map_append, List.append_assoc]
    exact ⟨_, tablesWarned_tagWarnings tables, rfl⟩
  singleStopped name hname hpackage hmade e h := by
    obtain ⟨before, task, later, refusal, hsplit, _, _, _, _, hlog⟩ :=
      writeModels_stopped hpackage hmade h
    rcases tasks_eq_append_cons hsplit with ⟨name', _, rfl, rfl⟩ | ⟨hnone, _⟩
    · rw [hlog]
      exact tablesWarned_tagWarnings tables
    · simp [hnone] at hname

end StructGen
