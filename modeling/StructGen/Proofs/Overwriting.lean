import Mathlib.Data.List.Forall2
import Mathlib.Data.List.Nodup
import StructGen.Proofs.ModelNames
import StructGen.Proofs.WrittenModels

namespace StructGen

/-- Whether each table has its own model in the file at the path given for it. -/
def KeepsModels (config : Config) (tables : List Table) (paths : List Path) (after : Disk) : Prop :=
  List.Forall₂ (fun t path => after.readFile path = .ok (renderFile config.renderContext [t]))
    tables paths

/-- Whether tables whose paths denote one file have the same model. -/
def SharesOnlyEqualModels (config : Config) (tables : List Table) (d : Disk) : Prop :=
  ∀ t ∈ tables, ∀ u ∈ tables,
    d.destination (config.modelPath t.name) = d.destination (config.modelPath u.name) →
      renderFile config.renderContext [t] = renderFile config.renderContext [u]

instance (config : Config) (tables : List Table) (d : Disk) :
    Decidable (SharesOnlyEqualModels config tables d) :=
  inferInstanceAs (Decidable (∀ t ∈ tables, ∀ u ∈ tables, _ → _))

theorem keepsModels_map_iff {config : Config} {tables : List Table} {after : Disk} :
    KeepsModels config tables (tables.map fun t => config.modelPath t.name) after ↔
      ∀ t ∈ tables, after.readFile (config.modelPath t.name) =
        .ok (renderFile config.renderContext [t]) := by
  rw [KeepsModels, List.forall₂_map_right_iff, List.forall₂_same]

theorem keepsModels_iff_of_filesWritten {config : Config} (hnone : config.singleFile = none)
    {tables : List Table} {d after : Disk} (hw : FilesWritten (config.tasks tables) d after) :
    KeepsModels config tables (tables.map fun t => config.modelPath t.name) after ↔
      SharesOnlyEqualModels config tables d := by
  rw [keepsModels_map_iff]
  constructor
  · intro hkept t ht u hu hsame
    have hlocated : ∀ v ∈ tables, after.locate (config.modelPath v.name) =
        .ok (d.destination (config.modelPath v.name)) := by
      intro v hv
      have hm : config.tableTask v ∈ config.tasks tables := by
        rw [tasks_of_singleFile_eq_none hnone]
        exact List.mem_map_of_mem hv
      exact path_tableTask config v ▸ hw.located _ hm
    have htext := (Disk.readFile_eq_ok (hlocated t ht)).mp (hkept t ht)
    have hutext := (Disk.readFile_eq_ok (hlocated u hu)).mp (hkept u hu)
    rw [hsame, hutext] at htext
    exact String.toByteArray_inj.mp (Entry.file.inj (Option.some.inj htext)).symm
  · intro hshared t ht
    obtain ⟨u, ⟨before, later, hsplit, hsame, _⟩, hread⟩ := readFile_of_filesWritten hnone hw ht
    have hu : u ∈ tables := by simp [hsplit]
    rw [hread, hshared u hu t ht hsame]

/-- Tables whose names have no slash share no file if their file names are distinct. -/
theorem sharesOnlyEqualModels_of_plain_names {config : Config} {tables : List Table}
    (hplain : ∀ t ∈ tables, '/' ∉ t.name.toList)
    (hnodup : (tables.map fun t => goFileName t.name).Nodup) (d : Disk) :
    SharesOnlyEqualModels config tables d := by
  intro t ht u hu hsame
  rw [Config.modelPath, Config.modelPath, destination_join_goFileName d _ (hplain t ht),
    destination_join_goFileName d _ (hplain u hu)] at hsame
  have hname : goFileName t.name = goFileName u.name :=
    List.singleton_inj.mp (List.append_cancel_left hsame)
  rw [List.inj_on_of_nodup_map hnodup ht hu hname]

/-- No model is lost by a run exactly when tables that share a file have the same model. -/
theorem keepsModels_iff {config : Config} {tables : List Table} {d : Disk} {paths : List Path}
    (hnone : config.singleFile = none)
    (h : (writeModels config tables d).result = .ok paths) :
    KeepsModels config tables paths (writeModels config tables d).disk ↔
      SharesOnlyEqualModels config tables d := by
  obtain ⟨mid, done, hadds, _, hwritten, hok⟩ := writeModels_run config tables d
  obtain ⟨rfl, rfl, _⟩ := hok paths h
  have hpaths : (config.tasks tables).map (·.path) = tables.map fun t => config.modelPath t.name := by
    simp [tasks_of_singleFile_eq_none hnone, path_tableTask]
  rw [hpaths, keepsModels_iff_of_filesWritten hnone hwritten, SharesOnlyEqualModels,
    SharesOnlyEqualModels]
  simp only [Disk.destination_eq_of_workingDir_eq hadds.workingDir]

/-- Tables that share a file keep their models when a dropped start was all that told them
apart. -/
theorem keepsModels_iff_of_dropped_start :
    let config : Config := { schema := ⟨"schema.json"⟩, tableStart := some "./" }
    let tables : List Table := [{ name := "user" }, { name := "./user" }, { name := "group.go" }]
    let d : Disk := { workingDir := ["work"], entries := [(["work"], .directory)] }
    let paths : List Path := [⟨"models/user.go"⟩, ⟨"models/./user.go"⟩, ⟨"models/group.go"⟩]
    config.singleFile = none ∧ (writeModels config tables d).result = .ok paths ∧
      SharesOnlyEqualModels config tables d ∧
      KeepsModels config tables paths (writeModels config tables d).disk := by
  intro config tables d paths
  have h : (writeModels config tables d).result = .ok paths := by decide +kernel
  have hshared : SharesOnlyEqualModels config tables d := by decide +kernel
  exact ⟨rfl, h, hshared, (keepsModels_iff rfl h).mpr hshared⟩

/-- A table whose name has the ending of a source file takes the file of the table without it. -/
theorem not_keepsModels_of_ending :
    let config : Config := { schema := ⟨"schema.json"⟩ }
    let tables : List Table := [{ name := "a" }, { name := "a.go" }]
    let d : Disk := { workingDir := ["work"], entries := [(["work"], .directory)] }
    let paths : List Path := [⟨"models/a.go"⟩, ⟨"models/a.go"⟩]
    config.singleFile = none ∧ (tables.map (·.name)).Nodup ∧
      (writeModels config tables d).result = .ok paths ∧
      ¬ KeepsModels config tables paths (writeModels config tables d).disk := by
  intro config tables d paths
  have h : (writeModels config tables d).result = .ok paths := by decide +kernel
  refine ⟨rfl, by decide, h, fun hkept => ?_⟩
  have hread : (writeModels config tables d).disk.readFile ⟨"models/a.go"⟩ =
      .ok (renderFile config.renderContext [{ name := "a.go" }]) := by decide +kernel
  have hdiffer : renderFile config.renderContext [{ name := "a.go" }] ≠
      renderFile config.renderContext [{ name := "a" }] := by decide +kernel
  obtain ⟨hfirst, _⟩ := List.forall₂_cons.mp hkept
  rw [hread] at hfirst
  exact hdiffer (Except.ok.inj hfirst)

end StructGen
