import StructGen.Proofs.SchemaLoading

namespace StructGen

namespace Disk

theorem isDirectory_of_growsTo {d d' : Disk} (hd : d.GrowsTo d') {p : Path}
    (h : d.isDirectory p) : d'.isDirectory p := by
  obtain ⟨hlocate, hdir⟩ := isDirectory_iff.mp h
  rw [isDirectory_iff, destination_eq_of_workingDir_eq hd.workingDir]
  exact ⟨locate_of_growsTo hd hlocate, hd.directory _ hdir⟩

/-- The names of a path with steps end in a name that is not empty, but for blank ones. -/
theorem exists_last_name {p : Path} (h : p.steps ≠ []) :
    ∃ front name, dropTrailingEmpty p.names = front ++ [name] := by
  refine ⟨_, _, (List.dropLast_concat_getLast fun hnil => ?_).symm⟩
  obtain ⟨blanks, hblanks, hnames⟩ := dropTrailingEmpty_append p.names
  obtain ⟨step, hstep⟩ := List.exists_mem_of_ne_nil _ h
  have hm := Path.mem_names_of_mem_steps hstep
  rw [hnames, hnil, List.nil_append] at hm
  exact Path.ne_empty_of_mem_steps hstep (hblanks step hm)

/-- A directory that is there is not made again. -/
theorem makeDir_of_isDirectory {d : Disk} {p : Path} (h : d.isDirectory p) (hsteps : p.steps ≠ []) :
    d.makeDir p = .error .alreadyExists := by
  obtain ⟨blanks, _, hnames⟩ := dropTrailingEmpty_append p.names
  obtain ⟨front, name, hfront⟩ := exists_last_name hsteps
  obtain ⟨hcheck, hwalk⟩ := locate_eq_ok.mp (isDirectory_iff.mp h).1
  rw [hnames, hfront, List.append_assoc] at hwalk
  obtain ⟨dir, hdir, hrest⟩ := walk_append_eq_ok.mp hwalk
  obtain ⟨next, hnext, _⟩ := walk_cons_eq_ok.mp hrest
  obtain ⟨hdirectory, heq, hproper⟩ := enter_eq_ok.mp hnext
  obtain rfl := eq_resolve_of_walk hdir
  have hkind : name = "." ∨ name = ".." ∨ IsProperName name := by
    have hne := last_dropTrailingEmpty hfront
    by_cases hdot : name = "." <;> by_cases hdots : name = ".." <;> simp_all [IsProperName]
  have hsize : name.utf8ByteSize ≤ longestName := by
    rcases hkind with rfl | rfl | hname
    · decide
    · decide
    · exact (hproper hname).1
  have htaken : name = "." ∨ name = ".." ∨
      (d.entryAt? (resolve (d.start p) front ++ [name])).isSome := by
    refine hkind.imp_right (Or.imp_right fun hname => ?_)
    rw [← stepFrom_of_isProperName hname, heq]
    exact (hproper hname).2
  have hplace := place_eq_ok.mpr ⟨hdir, hdirectory, hsize, rfl, rfl⟩
  simp only [makeDir, hcheck, hfront, List.dropLast_concat, List.getLast?_concat,
    Option.getD_some, hplace, bind, Except.bind, if_pos htaken]
  rfl

theorem makeDirs_of_isDirectory {d : Disk} {p : Path} (h : d.isDirectory p) :
    d.makeDirs p = (.ok (), d) := by
  rw [makeDirs]
  cases hlength : p.steps.length with
  | zero => rfl
  | succ n =>
    have hsteps : p.steps ≠ [] := by
      rintro hnil
      simp [hnil] at hlength
    simp [makeDirsUpTo_succ, ensureDir_eq, makeDir_of_isDirectory h hsteps, h]

/-- Directories that were made are left alone when they are made again later. -/
theorem makeDirs_of_growsTo {d d' : Disk} {p : Path} (h : (d.makeDirs p).1 = .ok ())
    (hd : (d.makeDirs p).2.GrowsTo d') : d'.makeDirs p = (.ok (), d') := by
  cases hsteps : p.steps with
  | nil => rw [makeDirs, hsteps]; rfl
  | cons first rest =>
    rw [makeDirs, hsteps, List.length_cons] at h hd
    exact makeDirs_of_isDirectory (isDirectory_of_growsTo hd (isDirectory_of_makeDirsUpTo h))

theorem GrowsTo.put {d d' : Disk} (h : d.GrowsTo d') {loc : Location} (hne : loc ≠ []) (e : Entry) :
    (d.put loc e).GrowsTo (d'.put loc e) where
  workingDir := h.workingDir
  directory other hd := by
    rw [isDirectoryAt_iff, entryAt?_put _ hne] at hd ⊢
    split
    next heq => simpa [heq] using hd
    next hother =>
      rw [if_neg hother, ← isDirectoryAt_iff] at hd
      exact isDirectoryAt_iff.mp (h.directory other hd)
  present other hp := by
    rw [entryAt?_put _ hne] at hp ⊢
    split
    next => rfl
    next hother =>
      rw [if_neg hother] at hp
      exact h.present other hp

theorem not_isDirectoryAt_put_file {d : Disk} {loc other : Location} (hne : loc ≠ [])
    {content : ByteArray} (h : ¬ d.isDirectoryAt other) :
    ¬ (d.put loc (.file content)).isDirectoryAt other := by
  rw [isDirectoryAt_iff] at h ⊢
  rw [entryAt?_put d hne]
  split
  · simp
  · exact h

end Disk

/-- What could be written once can be written again where no directory has taken a file's place. -/
theorem carryOut_of_growsTo {tasks : List FileTask} {d d' : Disk}
    (h : (carryOut tasks d).1 = .ok ()) (hd : d.GrowsTo d')
    (hfree : ∀ t ∈ tasks, ¬ d'.isDirectoryAt (d.destination t.path)) :
    (carryOut tasks d').1 = .ok () := by
  induction tasks generalizing d d' with
  | nil => rfl
  | cons t tasks ih =>
    obtain ⟨hfirst, hrest⟩ := List.forall_mem_cons.mp hfree
    cases ht : d.writeFile t.path t.content with
    | error e =>
      rw [carryOut_cons_of_error ht] at h
      contradiction
    | ok mid =>
      rw [carryOut_cons_of_ok ht] at h
      obtain ⟨hw, rfl⟩ := Disk.writeFile_eq_ok_iff.mp ht
      obtain ⟨hne, _⟩ := Disk.writeFile_eq_ok ht
      have hdest := Disk.destination_eq_of_workingDir_eq hd.workingDir t.path
      have ht' : d'.writeFile t.path t.content =
          .ok (d'.put (d.destination t.path) (.file t.content.toByteArray)) :=
        Disk.writeFile_eq_ok_iff.mpr ⟨hw.of_growsTo hd hfirst, by rw [hdest]⟩
      rw [carryOut_cons_of_ok ht']
      refine ih h (hd.put hne _) fun u hu => ?_
      exact Disk.not_isDirectoryAt_put_file hne (hrest u hu)

/-- Writing the same models again succeeds and leaves everything as it is. -/
theorem writeModels_again {config : Config} {tables : List Table} {d : Disk} {paths : List Path}
    (h : (writeModels config tables d).result = .ok paths) :
    (writeModels config tables (writeModels config tables d).disk).result = .ok paths ∧
      ∀ loc, (writeModels config tables (writeModels config tables d).disk).disk.entryAt? loc =
        (writeModels config tables d).disk.entryAt? loc := by
  obtain ⟨hpackage, hmade, hfiles, rfl, hdisk⟩ := writeModels_eq_ok h
  have hwritten := filesWritten_of_carryOut_ok hfiles
  rw [← hdisk] at hwritten
  have hmade' := Disk.makeDirs_of_growsTo hmade hwritten.growsTo
  have hfiles' := carryOut_of_growsTo hfiles hwritten.growsTo fun t ht =>
    hwritten.not_isDirectoryAt ht
  rw [writingRun_iff.mp (.written hpackage hmade' (Prod.ext hfiles' rfl))]
  exact ⟨rfl, hwritten.entry_of_again (filesWritten_of_carryOut_ok hfiles')⟩

theorem Disk.growsTo_writeModels (config : Config) (tables : List Table) (d : Disk) :
    d.GrowsTo (writeModels config tables d).disk := by
  obtain ⟨mid, done, hadds, _, hwritten, _⟩ := writeModels_run config tables d
  exact hadds.growsTo.trans hwritten.growsTo

theorem Disk.sameFilesBut_writeModels {config : Config} {tables : List Table} {d : Disk}
    {paths : List Path} (h : (writeModels config tables d).result = .ok paths) :
    d.SameFilesBut (writeModels config tables d).disk (paths.map d.destination) := by
  obtain ⟨_, _, hfiles, rfl, hdisk⟩ := writeModels_eq_ok h
  rw [hdisk, List.map_map]
  exact sameFilesBut_of_carryOut_ok hfiles

/-- A text can still be read once a disk has grown, unless its file is one that was changed. -/
theorem Disk.readFile_of_growsTo {d d' : Disk} {locs : List Location} {p : Path} {text : String}
    (h : d.readFile p = .ok text) (hd : d.GrowsTo d') (hsame : d.SameFilesBut d' locs)
    (hp : d.destination p ∉ locs) : d'.readFile p = .ok text := by
  obtain ⟨loc, hlocate, _⟩ := bind_eq_ok.mp h
  obtain rfl := eq_destination_of_locate hlocate
  rw [readFile_eq_ok hlocate] at h
  rw [readFile_eq_ok (locate_of_growsTo hd hlocate)]
  exact (hsame _ hp _).mpr h

/-- A run that succeeds and leaves the schema alone can be repeated: it succeeds with the same
paths and changes neither files nor directories. -/
theorem generate_again {config : Config} {d : Disk} {paths : List Path}
    (h : (generate config d).result = .ok paths)
    (hschema : ∀ path ∈ paths, d.destination path ≠ d.destination config.schema) :
    (generate config (generate config d).disk).result = .ok paths ∧
      ∀ loc, (generate config (generate config d).disk).disk.entryAt? loc =
        (generate config d).disk.entryAt? loc := by
  obtain ⟨tables, hloads, hwritten⟩ := generate_eq_ok h
  obtain ⟨text, hread, hparse⟩ := hloads.document
  obtain ⟨_, hdisk⟩ := generate_of_loadTables_eq_ok (loadTables_of_loads hloads)
  have hplace : d.destination config.schema ∉ paths.map d.destination := by
    intro hm
    obtain ⟨path, hpath, heq⟩ := List.mem_map.mp hm
    exact hschema path hpath heq
  have hread' := Disk.readFile_of_growsTo hread (Disk.growsTo_writeModels config tables d)
    (Disk.sameFilesBut_writeModels hwritten) hplace
  have hloads' : Loads (writeModels config tables d).disk config.schema tables :=
    ⟨hloads.nonempty, text, hread', hparse⟩
  obtain ⟨hresult', hdisk'⟩ := generate_of_loadTables_eq_ok (loadTables_of_loads hloads')
  rw [hdisk, hresult', hdisk']
  exact writeModels_again hwritten

/-- A schema in the output directory beside an older file, with tables that share a file and a
directory to be made on the way. -/
theorem generate_again_of_shared_file :
    let config : Config :=
      { schema := ⟨"out/models/schema.json"⟩, outputDir := ⟨"out/new/../models"⟩ }
    let d : Disk :=
      { workingDir := ["work"]
        entries := [(["work"], .directory), (["work", "out"], .directory),
          (["work", "out", "models"], .directory),
          (["work", "out", "models", "a.go"], .file "package old".toByteArray),
          (["work", "out", "models", "schema.json"], .file
            "\x7b\"tables\": [[\"a\"], [\"b\"], [\"./a\", \"again\"]]\x7d".toByteArray)] }
    let paths : List Path := [⟨"out/new/../models/a.go"⟩, ⟨"out/new/../models/b.go"⟩,
      ⟨"out/new/../models/./a.go"⟩]
    (generate config d).result = .ok paths ∧
      (∀ path ∈ paths, d.destination path ≠ d.destination config.schema) ∧
      (generate config (generate config d).disk).result = .ok paths ∧
      ∀ loc, (generate config (generate config d).disk).disk.entryAt? loc =
        (generate config d).disk.entryAt? loc := by
  intro config d paths
  have h : (generate config d).result = .ok paths := by decide +kernel
  have hschema : ∀ path ∈ paths, d.destination path ≠ d.destination config.schema := by
    decide +kernel
  exact ⟨h, hschema, generate_again h hschema⟩

end StructGen
