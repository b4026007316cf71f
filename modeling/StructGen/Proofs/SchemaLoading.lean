import StructGen.Proofs.WrittenModels

namespace StructGen

theorem Disk.readFile_of_unreachable {d : Disk} {p : Path} {e : IoError}
    (h : d.locate p = .error e) : d.readFile p = .error e := by
  rw [readFile, h]
  rfl

theorem Disk.readFile_of_not_file {d : Disk} {p : Path} {loc : Location}
    (h : d.locate p = .ok loc) (hentry : ∀ content, d.entryAt? loc ≠ some (.file content)) :
    d.readFile p = .error .isADirectory := by
  simp only [readFile, h, bind, Except.bind]
  rfl

theorem Disk.readFile_of_not_text {d : Disk} {p : Path} {loc : Location} {content : ByteArray}
    (h : d.locate p = .ok loc) (hfile : d.entryAt? loc = some (.file content))
    (hbytes : ∀ text : String, content ≠ text.toByteArray) :
    d.readFile p = .error .invalidUtf8 := by
  have hnone : String.fromUTF8? content = none :=
    Option.eq_none_iff_forall_ne_some.mpr fun text ht => hbytes text (fromUTF8?_eq_some_iff.mp ht)
  simp only [readFile, h, bind, Except.bind, hfile, hnone]
  rfl

/-- Why no tables can be loaded from a path: nothing can be found there, what is there is no file
or no text, the text is no schema document, or the document has no tables. -/
inductive LoadFailure (d : Disk) (path : Path) : GenerateError → Prop
  | unreachable {e : IoError} (hlocate : d.locate path = .error e) : LoadFailure d path (.io e)
  | notFile {loc : Location} (hlocate : d.locate path = .ok loc)
    (hentry : ∀ content, d.entryAt? loc ≠ some (.file content)) :
    LoadFailure d path (.io .isADirectory)
  | notText {loc : Location} {content : ByteArray} (hlocate : d.locate path = .ok loc)
    (hfile : d.entryAt? loc = some (.file content))
    (hbytes : ∀ text : String, content ≠ text.toByteArray) :
    LoadFailure d path (.io .invalidUtf8)
  | notSchema {text : String} {e : Json.ReadError} (hread : d.readFile path = .ok text)
    (hparse : (Json.Document.ofText text).readWith Schema.format.read = .error e) :
    LoadFailure d path (.schema path e)
  | noTables {text : String} (hread : d.readFile path = .ok text)
    (hparse : (Json.Document.ofText text).readWith Schema.format.read = .ok ⟨[]⟩) :
    LoadFailure d path (.noTables path)

/-- Whether the file at a path is a schema document with some tables, of which there is one at
least. -/
structure Loads (d : Disk) (path : Path) (tables : List Table) : Prop where
  nonempty : tables ≠ []
  document : ∃ text, d.readFile path = .ok text ∧
    (Json.Document.ofText text).readWith Schema.format.read = .ok ⟨tables⟩

theorem loadTables_of_failure {d : Disk} {path : Path} {e : GenerateError}
    (h : LoadFailure d path e) : loadTables d path = .error e := by
  cases h with
  | unreachable hlocate => rw [loadTables, Disk.readFile_of_unreachable hlocate, tablesOf]
  | notFile hlocate hentry => rw [loadTables, Disk.readFile_of_not_file hlocate hentry, tablesOf]
  | notText hlocate hfile hbytes =>
    rw [loadTables, Disk.readFile_of_not_text hlocate hfile hbytes, tablesOf]
  | notSchema hread hparse => simp only [loadTables, hread, tablesOf, tablesOfText, hparse]
  | noTables hread hparse => simp [loadTables, hread, tablesOf, tablesOfText, hparse]

theorem loadTables_of_loads {d : Disk} {path : Path} {tables : List Table}
    (h : Loads d path tables) : loadTables d path = .ok tables := by
  obtain ⟨text, hread, hparse⟩ := h.document
  simp [loadTables, hread, tablesOf, tablesOfText, hparse, h.nonempty]

/-- Either some tables can be loaded or there is a reason why none can. -/
theorem loads_or_loadFailure (d : Disk) (path : Path) :
    (∃ tables, Loads d path tables) ∨ ∃ e, LoadFailure d path e := by
  cases hlocate : d.locate path with
  | error e => exact Or.inr ⟨_, .unreachable hlocate⟩
  | ok loc =>
    by_cases hfile : ∃ content, d.entryAt? loc = some (.file content)
    · obtain ⟨content, hfile⟩ := hfile
      by_cases htext : ∃ text : String, content = text.toByteArray
      · obtain ⟨text, rfl⟩ := htext
        have hread := (Disk.readFile_eq_ok hlocate).mpr hfile
        cases hparse : (Json.Document.ofText text).readWith Schema.format.read with
        | error e => exact Or.inr ⟨_, .notSchema hread hparse⟩
        | ok schema =>
          obtain ⟨tables⟩ := schema
          by_cases hnil : tables = []
          · exact Or.inr ⟨_, .noTables hread (hnil ▸ hparse)⟩
          · exact Or.inl ⟨tables, hnil, text, hread, hparse⟩
      · exact Or.inr ⟨_, .notText hlocate hfile fun text heq => htext ⟨text, heq⟩⟩
    · exact Or.inr ⟨_, .notFile hlocate fun content heq => hfile ⟨content, heq⟩⟩

theorem loadTables_eq_ok_iff {d : Disk} {path : Path} {tables : List Table} :
    loadTables d path = .ok tables ↔ Loads d path tables := by
  refine ⟨fun h => ?_, loadTables_of_loads⟩
  rcases loads_or_loadFailure d path with ⟨tables', hloads⟩ | ⟨e, hfailure⟩
  · rw [loadTables_of_loads hloads] at h
    exact Except.ok.inj h ▸ hloads
  · rw [loadTables_of_failure hfailure] at h
    contradiction

theorem generate_of_loadTables_eq_error {config : Config} {d : Disk} {e : GenerateError}
    (h : loadTables d config.schema = .error e) :
    (generate config d).result = .error e ∧ (generate config d).disk = d := by
  rw [generate_eq, h]
  exact ⟨rfl, rfl⟩

/-- Once the tables are loaded, a run is the writing of their models. -/
theorem generate_of_loadTables_eq_ok {config : Config} {d : Disk} {tables : List Table}
    (h : loadTables d config.schema = .ok tables) :
    (generate config d).result = (writeModels config tables d).result ∧
      (generate config d).disk = (writeModels config tables d).disk := by
  rw [generate_eq, h]
  exact ⟨rfl, rfl⟩

theorem generate_eq_ok {config : Config} {d : Disk} {paths : List Path}
    (h : (generate config d).result = .ok paths) :
    ∃ tables, Loads d config.schema tables ∧ (writeModels config tables d).result = .ok paths := by
  cases hload : loadTables d config.schema with
  | error e =>
    rw [(generate_of_loadTables_eq_error hload).1] at h
    contradiction
  | ok tables =>
    rw [(generate_of_loadTables_eq_ok hload).1] at h
    exact ⟨tables, loadTables_eq_ok_iff.mp hload, h⟩

/-- What a run does before it writes anything: without tables it fails for the reason why there
are none, whatever the package name is, and then for a package name that is refused; the disk
stays as it is. Only a run with tables and an accepted package name can succeed. -/
structure ChecksBeforeWriting (config : Config) (d : Disk) : Prop where
  loadFailure : ∀ e, LoadFailure d config.schema e →
    (generate config d).result = .error e ∧ (generate config d).disk = d
  invalidPackage : ∀ tables, Loads d config.schema tables →
    isValidPackage config.package = false →
      (generate config d).result = .error (.invalidPackage config.package) ∧
        (generate config d).disk = d
  success : ∀ paths, (generate config d).result = .ok paths →
    (∃ tables, Loads d config.schema tables) ∧ isValidPackage config.package = true

theorem checksBeforeWriting (config : Config) (d : Disk) : ChecksBeforeWriting config d where
  loadFailure e h := generate_of_loadTables_eq_error (loadTables_of_failure h)
  invalidPackage tables hloads hpackage := by
    have hrun : writeModels config tables d = ⟨.error (.invalidPackage config.package), [], d⟩ :=
      writingRun_iff.mp (.invalidPackage hpackage)
    obtain ⟨hresult, hdisk⟩ := generate_of_loadTables_eq_ok (loadTables_of_loads hloads)
    rw [hresult, hdisk, hrun]
    exact ⟨rfl, rfl⟩
  success paths h := by
    obtain ⟨tables, hloads, hwritten⟩ := generate_eq_ok h
    exact ⟨⟨tables, hloads⟩, (writeModels_eq_ok hwritten).1⟩

/-- A schema in which a table has no name is reported before a package name that is a keyword,
and the output directory is not made. -/
theorem checksBeforeWriting_of_two_faults :
    let config : Config := { schema := ⟨"schema.json"⟩, package := "type" }
    let d : Disk :=
      { workingDir := ["work"]
        entries := [(["work"], .directory),
          (["work", "schema.json"], .file "\x7b\"tables\": [\x7b\x7d]\x7d".toByteArray)] }
    let e : GenerateError := .schema ⟨"schema.json"⟩ (.missingField "name")
    LoadFailure d config.schema e ∧ isValidPackage config.package = false ∧
      (generate config d).result = .error e ∧ (generate config d).disk = d := by
  intro config d e
  have hread : d.readFile config.schema = .ok "\x7b\"tables\": [\x7b\x7d]\x7d" := by decide +kernel
  have hfailure : LoadFailure d config.schema e := .notSchema hread (by decide +kernel)
  exact ⟨hfailure, by decide +kernel, (checksBeforeWriting config d).loadFailure e hfailure⟩

end StructGen
