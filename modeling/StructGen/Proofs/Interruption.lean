import StructGen.Proofs.WrittenModels

namespace StructGen

/-- The tasks of a run split where its tables split; there is one task if there is one file. -/
theorem tasks_eq_append_cons {config : Config} {tables : List Table} {before later : List FileTask}
    {task : FileTask} (h : config.tasks tables = before ++ task :: later) :
    (∃ name, config.singleFile = some name ∧ before = [] ∧ task = config.singleTask name tables) ∨
      config.singleFile = none ∧ ∃ front t back, tables = front ++ t :: back ∧
        before = config.tasks front ∧ task = config.tableTask t := by
  cases hs : config.singleFile with
  | some name =>
    rw [tasks_of_singleFile_eq_some hs] at h
    cases before with
    | nil => exact Or.inl ⟨name, rfl, rfl, (List.cons.inj h).1.symm⟩
    | cons => simp at h
  | none =>
    rw [tasks_of_singleFile_eq_none hs] at h
    obtain ⟨front, rest, rfl, rfl, hrest⟩ := List.map_eq_append_iff.mp h
    obtain ⟨t, back, rfl, rfl, _⟩ := List.map_eq_cons_iff.mp hrest
    exact Or.inr ⟨rfl, front, t, back, rfl, (tasks_of_singleFile_eq_none hs front).symm, rfl⟩

/-- How writing models stops when the disk refuses something, and what is left then. No file is
changed if the output directory cannot be made or the only file cannot be written. If the file of
a table cannot be written, the disk is as a run for the tables before it leaves it, which succeeds,
and no file is created, changed or removed but those of the tables before it: none of the table
itself or of a later one, unless a table before it has the same file. -/
inductive Interrupted (config : Config) (tables : List Table) (d : Disk) (e : IoError)
    (after : Disk) : Prop
  | directory (refused : (d.makeDirs config.outputDir).1 = .error e)
    (files : d.SameFilesBut after [])
  | single {name : String} (hsingle : config.singleFile = some name)
    (refused : after.writeFile (config.modelPath name)
      (renderFile config.renderContext tables) = .error e)
    (files : d.SameFilesBut after [])
  | table {before : List Table} {t : Table} {later : List Table}
    (hnone : config.singleFile = none) (split : tables = before ++ t :: later)
    (succeeds : (writeModels config before d).result =
      .ok (before.map fun u => config.modelPath u.name))
    (disk : after = (writeModels config before d).disk)
    (refused : after.writeFile (config.modelPath t.name)
      (renderFile config.renderContext [t]) = .error e)
    (files : d.SameFilesBut after
      (before.map fun u => d.destination (config.modelPath u.name)))

theorem interrupted_of_io {config : Config} {tables : List Table} {d : Disk} {e : IoError}
    (h : (writeModels config tables d).result = .error (.io e)) :
    Interrupted config tables d e (writeModels config tables d).disk := by
  obtain ⟨o, ho⟩ : ∃ o, writeModels config tables d = o := ⟨_, rfl⟩
  rw [ho] at h ⊢
  cases writingRun_iff.mpr ho with
  | invalidPackage => simp at h
  | written => simp at h
  | noDirectory hpackage hmade =>
    have hadds := Disk.addsDirectories_makeDirs d config.outputDir
    rw [hmade] at hadds
    exact .directory (by simpa [hmade] using h) (hadds.sameFilesBut [])
  | @fileRefused _ mid last _ hpackage hmade hfiles =>
    obtain rfl : mid = (d.makeDirs config.outputDir).2 := by rw [hmade]
    have hstop : (carryOut (config.tasks tables) (d.makeDirs config.outputDir).2).1 = .error e := by
      simpa [hfiles] using h
    obtain ⟨before, task, later, hsplit, hbefore, hlast, hrefused⟩ := carryOut_eq_error hstop
    have hsame := sameFilesBut_of_carryOut_ok hbefore
    obtain rfl : last = (carryOut before (d.makeDirs config.outputDir).2).2.2 := by
      rw [← hlast, hfiles]
    rcases tasks_eq_append_cons hsplit with
      ⟨name, hsingle, rfl, rfl⟩ | ⟨hnone, front, t, back, rfl, rfl, rfl⟩
    · rw [path_singleTask, content_singleTask] at hrefused
      exact .single hsingle hrefused hsame
    · -- The tasks before the refused one are those of a run for the tables before its table.
      have hfront := writingRun_iff.mp (.written hpackage hmade (Prod.ext hbefore rfl))
      have hpaths : (config.tasks front).map (·.path) =
          front.map fun u => config.modelPath u.name := by
        simp [tasks_of_singleFile_eq_none hnone, path_tableTask]
      have hplaces : (config.tasks front).map (fun task => d.destination task.path) =
          front.map fun u => d.destination (config.modelPath u.name) := by
        simp [tasks_of_singleFile_eq_none hnone, path_tableTask]
      rw [path_tableTask, content_tableTask] at hrefused
      rw [hplaces] at hsame
      refine .table hnone rfl ?_ ?_ hrefused hsame
      · rw [hfront, hpaths]
      · rw [hfront]

/-- A file that was written earlier in the same run stands where a later table needs a
directory: the run stops there, and the table after it keeps its old file. -/
theorem interrupted_of_file_as_directory :
    let config : Config := { schema := ⟨"schema.json"⟩, outputDir := ⟨"out/models"⟩ }
    let tables : List Table := [{ name := "a" }, { name := "b" }, { name := "a.go/b" }, { name := "c" }]
    let d : Disk :=
      { workingDir := ["work"]
        entries := [(["work"], .directory), (["work", "out"], .directory),
          (["work", "out", "models"], .directory),
          (["work", "out", "models", "b.go"], .file "package old".toByteArray),
          (["work", "out", "models", "c.go"], .file "package old".toByteArray)] }
    (writeModels config tables d).result = .error (.io .notADirectory) ∧
      Interrupted config tables d .notADirectory (writeModels config tables d).disk := by
  intro config tables d
  have h : (writeModels config tables d).result = .error (.io .notADirectory) := by decide +kernel
  exact ⟨h, interrupted_of_io h⟩

end StructGen
