import StructGen.Proofs.FileWriting
import StructGen.Proofs.WritingRun

namespace StructGen

/-- What a run leaves on the disk, whether it succeeds or not: directories on the way to the
output directory, and then the files of the first so many tasks. -/
theorem writeModels_run (config : Config) (tables : List Table) (d : Disk) :
    ∃ mid done, d.AddsDirectories mid (d.placesTo config.outputDir) ∧
      done <+: config.tasks tables ∧ FilesWritten done mid (writeModels config tables d).disk ∧
      ∀ paths, (writeModels config tables d).result = .ok paths →
        done = config.tasks tables ∧ paths = (config.tasks tables).map (·.path) ∧
        ∀ loc, mid.isDirectoryAt loc ↔ d.isDirectoryAt loc ∨ loc ∈ d.placesTo config.outputDir := by
  have hadds := Disk.addsDirectories_makeDirs d config.outputDir
  obtain ⟨o, ho⟩ : ∃ o, writeModels config tables d = o := ⟨_, rfl⟩
  rw [ho]
  cases writingRun_iff.mpr ho with
  | invalidPackage => exact ⟨d, [], .refl d _, List.nil_prefix, .nil d, nofun⟩
  | @noDirectory e mid _ hmade =>
    rw [hmade] at hadds
    exact ⟨mid, [], hadds, List.nil_prefix, .nil mid, nofun⟩
  | @fileRefused e mid last log _ hmade hfiles =>
    obtain ⟨done, hlead, _, hwritten⟩ := filesWritten_carryOut (config.tasks tables) mid
    rw [hmade] at hadds
    rw [hfiles] at hwritten
    exact ⟨mid, done, hadds, hlead, hwritten, nofun⟩
  | @written mid last log _ hmade hfiles =>
    have hwritten := filesWritten_of_carryOut_ok (congrArg Prod.fst hfiles)
    have hdirs := Disk.isDirectoryAt_makeDirs (congrArg Prod.fst hmade)
    rw [hmade] at hadds hdirs
    rw [hfiles] at hwritten
    refine ⟨mid, config.tasks tables, hadds, List.prefix_rfl, hwritten, fun paths h => ?_⟩
    exact ⟨rfl, (Except.ok.inj h).symm, hdirs⟩

/-- The path of the file for a table, or for all of them. -/
def Config.modelPath (config : Config) (name : String) : Path :=
  config.outputDir.join (goFileName name)

/-- Whether a table is the last of some tables whose path denotes a place. -/
def IsLastAt (config : Config) (d : Disk) (tables : List Table) (loc : Location) (t : Table) :
    Prop :=
  ∃ before later, tables = before ++ t :: later ∧ d.destination (config.modelPath t.name) = loc ∧
    ∀ u ∈ later, d.destination (config.modelPath u.name) ≠ loc

/-- What writing models to a disk comes to: where the files are, what is in them, and that
nothing else has changed but for the directories on the way to the output directory. -/
structure ModelsWritten (config : Config) (tables : List Table) (d : Disk) (paths : List Path)
    (after : Disk) : Prop where
  tablePaths : config.singleFile = none → paths = tables.map fun t => config.modelPath t.name
  tableFiles : config.singleFile = none → ∀ path ∈ paths, ∃ t,
    IsLastAt config d tables (d.destination path) t ∧
      after.readFile path = .ok (renderFile config.renderContext [t])
  singlePath : ∀ name ∈ config.singleFile, paths = [config.modelPath name]
  singleFile : ∀ name ∈ config.singleFile,
    after.readFile (config.modelPath name) = .ok (renderFile config.renderContext tables)
  located : ∀ path ∈ paths, after.locate path = .ok (d.destination path)
  otherFiles : ∀ loc, loc ∉ paths.map d.destination → ∀ content,
    after.entryAt? loc = some (.file content) ↔ d.entryAt? loc = some (.file content)
  directories : ∀ loc,
    after.isDirectoryAt loc ↔ d.isDirectoryAt loc ∨ loc ∈ d.placesTo config.outputDir

theorem tasks_of_singleFile_eq_none {config : Config} (h : config.singleFile = none)
    (tables : List Table) : config.tasks tables = tables.map config.tableTask := by
  rw [Config.tasks, h]

theorem tasks_of_singleFile_eq_some {config : Config} {name : String}
    (h : config.singleFile = some name) (tables : List Table) :
    config.tasks tables = [config.singleTask name tables] := by
  rw [Config.tasks, h]

/-- The names from which the names of the files are made. -/
def Config.modelNames (config : Config) (tables : List Table) : List String :=
  match config.singleFile with
  | some name => [name]
  | none => tables.map (·.name)

theorem path_tableTask (config : Config) (t : Table) :
    (config.tableTask t).path = config.modelPath t.name := by
  rw [Config.tableTask, Config.modelPath]

theorem content_tableTask (config : Config) (t : Table) :
    (config.tableTask t).content = renderFile config.renderContext [t] := by
  rw [Config.tableTask]

theorem path_singleTask (config : Config) (name : String) (tables : List Table) :
    (config.singleTask name tables).path = config.modelPath name := by
  rw [Config.singleTask, Config.modelPath]

theorem content_singleTask (config : Config) (name : String) (tables : List Table) :
    (config.singleTask name tables).content = renderFile config.renderContext tables := by
  rw [Config.singleTask]

theorem map_path_tasks (config : Config) (tables : List Table) :
    (config.tasks tables).map (·.path) = (config.modelNames tables).map config.modelPath := by
  rw [Config.modelNames]
  cases h : config.singleFile with
  | none => simp [tasks_of_singleFile_eq_none h, path_tableTask]
  | some name => simp [tasks_of_singleFile_eq_some h, path_singleTask]

theorem exists_name_of_mem_tasks {config : Config} {tables : List Table} {task : FileTask}
    (h : task ∈ config.tasks tables) :
    ∃ name ∈ config.modelNames tables, task.path = config.modelPath name := by
  have hm : task.path ∈ (config.tasks tables).map (·.path) := List.mem_map_of_mem h
  rw [map_path_tasks] at hm
  obtain ⟨name, hname, heq⟩ := List.mem_map.mp hm
  exact ⟨name, hname, heq.symm⟩

theorem exists_task_of_mem_modelNames {config : Config} {tables : List Table} {name : String}
    (h : name ∈ config.modelNames tables) :
    ∃ task ∈ config.tasks tables, task.path = config.modelPath name := by
  have hm : config.modelPath name ∈ (config.modelNames tables).map config.modelPath :=
    List.mem_map_of_mem h
  rw [← map_path_tasks] at hm
  exact List.mem_map.mp hm

/-- The file at the path of a table reads as the model of the last table that goes there. -/
theorem readFile_of_filesWritten {config : Config} (h : config.singleFile = none)
    {tables : List Table} {d d' : Disk} (hw : FilesWritten (config.tasks tables) d d') {t : Table}
    (ht : t ∈ tables) :
    ∃ u, IsLastAt config d tables (d.destination (config.modelPath t.name)) u ∧
      d'.readFile (config.modelPath t.name) = .ok (renderFile config.renderContext [u]) := by
  rw [tasks_of_singleFile_eq_none h] at hw
  obtain ⟨before, task, later, hsplit, hdest, hlater, hread⟩ :=
    hw.readFile (List.mem_map_of_mem ht)
  obtain ⟨front, rest, rfl, rfl, hrest⟩ := List.map_eq_append_iff.mp hsplit
  obtain ⟨u, back, rfl, rfl, rfl⟩ := List.map_eq_cons_iff.mp hrest
  simp only [path_tableTask, content_tableTask, List.forall_mem_map] at hdest hlater hread
  exact ⟨u, ⟨front, back, rfl, hdest, hlater⟩, hread⟩

theorem modelsWritten_writeModels {config : Config} {tables : List Table} {d : Disk}
    {paths : List Path} (h : (writeModels config tables d).result = .ok paths) :
    ModelsWritten config tables d paths (writeModels config tables d).disk := by
  obtain ⟨mid, done, hadds, _, hwritten, hok⟩ := writeModels_run config tables d
  obtain ⟨rfl, rfl, hdirs⟩ := hok paths h
  -- New directories do not change what a path denotes.
  have hdest : ∀ p, mid.destination p = d.destination p :=
    Disk.destination_eq_of_workingDir_eq hadds.workingDir
  constructor
  case tablePaths =>
    intro hnone
    simp [tasks_of_singleFile_eq_none hnone, path_tableTask]
  case tableFiles =>
    intro hnone path hp
    simp only [tasks_of_singleFile_eq_none hnone, List.map_map, List.mem_map, Function.comp_apply,
      path_tableTask] at hp
    obtain ⟨t, ht, rfl⟩ := hp
    have hread := readFile_of_filesWritten hnone hwritten ht
    simpa only [IsLastAt, hdest] using hread
  case singlePath =>
    intro name hname
    simp [tasks_of_singleFile_eq_some hname, path_singleTask]
  case singleFile =>
    intro name hname
    rw [tasks_of_singleFile_eq_some hname] at hwritten
    obtain ⟨before, task, later, hsplit, _, _, hread⟩ := hwritten.readFile List.mem_cons_self
    have htask : task ∈ [config.singleTask name tables] := by simp [hsplit]
    rw [List.mem_singleton.mp htask, content_singleTask, path_singleTask] at hread
    exact hread
  case located =>
    intro path hp
    obtain ⟨t, ht, rfl⟩ := List.mem_map.mp hp
    rw [hwritten.located t ht, hdest]
  case otherFiles =>
    intro loc hloc content
    have hne : ∀ t ∈ config.tasks tables, mid.destination t.path ≠ loc := by
      rintro t ht rfl
      exact hloc (by simpa [hdest] using ⟨t, ht, rfl⟩)
    rw [hwritten.entry_of_forall_ne hne, hadds.file_iff]
  case directories =>
    intro loc
    rw [hwritten.isDirectoryAt_iff, hdirs]

/-- Tables that share a file under several spellings, beside an older file, in a directory that
is made with another on the way. -/
theorem modelsWritten_of_shared_file :
    let config : Config := { schema := ⟨"schema.json"⟩, outputDir := ⟨"out/gen/../models/"⟩ }
    let tables : List Table := [{ name := "a" }, { name := "b" }, { name := "./a" }, { name := "a.go" }]
    let d : Disk :=
      { workingDir := ["work"]
        entries := [(["work"], .directory), (["work", "out"], .directory),
          (["work", "out", "a.go"], .file "package out".toByteArray)] }
    let paths : List Path := [⟨"out/gen/../models/a.go"⟩, ⟨"out/gen/../models/b.go"⟩,
      ⟨"out/gen/../models/./a.go"⟩, ⟨"out/gen/../models/a.go"⟩]
    (writeModels config tables d).result = .ok paths ∧
      ModelsWritten config tables d paths (writeModels config tables d).disk := by
  intro config tables d paths
  have h : (writeModels config tables d).result = .ok paths := by decide +kernel
  exact ⟨h, modelsWritten_writeModels h⟩

end StructGen
