import StructGen.Proofs.ModelNames
import StructGen.Proofs.WrittenModels

namespace StructGen

/-- Whether names never lead above the place where they start, from `depth` steps below it. -/
def staysBelow : Nat → List String → Bool
  | _, [] => true
  | depth, name :: names =>
    if name = "" ∨ name = "." then staysBelow depth names
    else if name = ".." then 0 < depth && staysBelow (depth - 1) names
    else staysBelow (depth + 1) names

/-- Whether a file stays inside the directory from which it is seen, whatever that is. -/
def StaysInside (file : String) : Prop :=
  (Path.mk file).isAbsolute = false ∧ staysBelow 0 (Path.mk file).names = true

instance (file : String) : Decidable (StaysInside file) :=
  inferInstanceAs (Decidable (_ ∧ _))

theorem prefix_resolve_of_staysBelow (base below : Location) {names : List String}
    (h : staysBelow below.length names = true) : base <+: resolve (base ++ below) names := by
  induction names generalizing below with
  | nil => exact List.prefix_append base below
  | cons name names ih =>
    rw [staysBelow] at h
    rw [resolve_cons, stepFrom]
    split at h
    next hblank =>
      rw [if_pos hblank]
      exact ih below h
    next hblank =>
      rw [if_neg hblank]
      split at h
      next hup =>
        obtain ⟨hpos, h⟩ := Bool.and_eq_true_iff.mp h
        have hne : below ≠ [] := List.length_pos_iff.mp (of_decide_eq_true hpos)
        rw [if_pos hup, List.dropLast_append_of_ne_nil hne]
        exact ih below.dropLast (by rwa [List.length_dropLast])
      next hup =>
        rw [if_neg hup, List.append_assoc]
        exact ih (below ++ [name]) (by simpa using h)

theorem staysBelow_of_append {depth : Nat} {names names' : List String}
    (h : staysBelow depth (names ++ names') = true) : staysBelow depth names = true := by
  induction names generalizing depth with
  | nil => rfl
  | cons name names ih =>
    rw [List.cons_append, staysBelow] at h
    rw [staysBelow]
    split at h
    next hblank => rw [if_pos hblank, ih h]
    next hblank =>
      rw [if_neg hblank]
      split at h
      next hup =>
        obtain ⟨hpos, h⟩ := Bool.and_eq_true_iff.mp h
        rw [if_pos hup, hpos, ih h]
        rfl
      next hup => rw [if_neg hup, ih h]

theorem not_mem_resolve {fresh : String} {loc : Location} {names : List String}
    (hloc : fresh ∉ loc) (hnames : fresh ∉ names) : fresh ∉ resolve loc names := by
  induction names generalizing loc with
  | nil => exact hloc
  | cons name names ih =>
    obtain ⟨hne, hrest⟩ := not_or.mp (List.mem_cons.not.mp hnames)
    refine ih ?_ hrest
    rw [stepFrom]
    split
    · exact hloc
    · split
      · exact fun hm => hloc (List.mem_of_mem_dropLast hm)
      · simp [hloc, hne]

/-- Names that lead above a place do not lead back to it unless they name it. -/
theorem not_mem_resolve_of_staysBelow_eq_false {fresh : String} {below : Location}
    {names : List String} (hbelow : fresh ∉ below) (hnames : fresh ∉ names)
    (h : staysBelow below.length names = false) : fresh ∉ resolve (fresh :: below) names := by
  induction names generalizing below with
  | nil => simp [staysBelow] at h
  | cons name names ih =>
    obtain ⟨hne, hrest⟩ := not_or.mp (List.mem_cons.not.mp hnames)
    rw [staysBelow] at h
    rw [resolve_cons, stepFrom]
    split at h
    next hblank =>
      rw [if_pos hblank]
      exact ih hbelow hrest h
    next hblank =>
      rw [if_neg hblank]
      split at h
      next hup =>
        rw [if_pos hup]
        cases below with
        | nil => exact not_mem_resolve List.not_mem_nil hrest
        | cons last below =>
          rw [List.dropLast_cons_cons]
          refine ih (fun hm => hbelow (List.mem_of_mem_dropLast hm)) hrest ?_
          simpa using h
      next hup =>
        rw [if_neg hup]
        exact ih (by simp [hbelow, hne]) hrest (by simpa using h)

theorem exists_fresh_name {names : List String} (h : ∀ name ∈ names, '/' ∉ name.toList) :
    ∃ fresh, fresh ∉ names ∧ IsProperName fresh ∧ '/' ∉ fresh.toList := by
  obtain ⟨fresh, hchars⟩ : ∃ fresh : String,
      fresh.toList = 'a' :: (names.map String.toList).flatten := ⟨_, String.toList_ofList⟩
  -- It is longer than all the names together.
  refine ⟨fresh, fun hm => ?_, ⟨?_, ?_, ?_⟩, ?_⟩
  · have hsub := List.sublist_flatten_of_mem (List.mem_map_of_mem (f := String.toList) hm)
    have hlen := hsub.length_le
    rw [hchars, List.length_cons] at hlen
    omega
  · rintro rfl
    simp at hchars
  · rintro rfl
    simp at hchars
  · rintro rfl
    simp at hchars
  · rw [hchars]
    simpa using h

/-- A file stays inside exactly when its path leads below every directory, wherever it is. -/
theorem staysInside_iff {file : String} :
    StaysInside file ↔
      ∀ (d : Disk) (directory : Path),
        d.destination directory <+: d.destination (directory.join file) := by
  constructor
  · rintro ⟨hrel, hbelow⟩ d directory
    have hlead := prefix_resolve_of_staysBelow (d.destination directory) [] hbelow
    rw [Disk.destination_join, hrel]
    simpa using hlead
  · intro h
    -- A directory at the root with a name of its own shows whether the path leaves it: once the
    -- names have led above it, none of them leads back.
    obtain ⟨fresh, hfresh, hproper, hslash⟩ :=
      exists_fresh_name fun name hm => Path.slash_not_mem_of_mem_names (p := ⟨file⟩) hm
    have hnames : (Path.mk ("/" ++ fresh)).names = ["", fresh] := by
      have hsplit := Path.names_append_slash "" fresh
      rwa [Path.names_eq_singleton hslash] at hsplit
    have hdest : ∀ d : Disk, d.destination ⟨"/" ++ fresh⟩ = [fresh] := by
      intro d
      have habs : (Path.mk ("/" ++ fresh)).isAbsolute = true := by simp [Path.isAbsolute]
      rw [Disk.destination, Disk.start, habs, hnames]
      exact stepFrom_of_isProperName hproper []
    have hmem : fresh ∈ resolve (if (Path.mk file).isAbsolute then [] else [fresh])
        (Path.mk file).names := by
      have hlead := h {} ⟨"/" ++ fresh⟩
      rw [Disk.destination_join, hdest] at hlead
      exact hlead.mem List.mem_cons_self
    constructor
    · refine Bool.eq_false_iff.mpr fun habs => ?_
      rw [if_pos habs] at hmem
      exact not_mem_resolve List.not_mem_nil hfresh hmem
    · by_contra hstays
      have hclimbs := Bool.eq_false_iff.mpr hstays
      split at hmem
      next => exact not_mem_resolve List.not_mem_nil hfresh hmem
      next => exact not_mem_resolve_of_staysBelow_eq_false List.not_mem_nil hfresh hclimbs hmem

/-- A source file that stays inside a directory is below it. -/
theorem below_of_staysInside {name : String} (h : StaysInside (goFileName name)) (d : Disk)
    (directory : Path) : ∃ below, below ≠ [] ∧
      d.destination (directory.join (goFileName name)) = d.destination directory ++ below := by
  obtain ⟨front, last, hnames, hproper⟩ := names_goFileName name
  obtain ⟨hrel, hbelow⟩ := h
  rw [hnames] at hbelow
  obtain ⟨below, hfront⟩ := prefix_resolve_of_staysBelow (d.destination directory) []
    (staysBelow_of_append hbelow)
  refine ⟨below ++ [last], by simp, ?_⟩
  rw [Disk.destination_join, hrel, hnames, resolve_append, ← List.append_assoc, hfront,
    List.append_nil]
  exact stepFrom_of_isProperName hproper _

/-- Whether writing models keeps to the output directory: every path of a file leads below it,
and no file elsewhere is created, changed or removed. -/
structure Confined (config : Config) (tables : List Table) (d : Disk) : Prop where
  paths : ∀ task ∈ config.tasks tables, ∃ below, below ≠ [] ∧
    d.destination task.path = d.destination config.outputDir ++ below
  files : ∀ loc, ¬ d.destination config.outputDir <+: loc → ∀ content,
    (writeModels config tables d).disk.entryAt? loc = some (.file content) ↔
      d.entryAt? loc = some (.file content)

theorem confined_of_staysInside {config : Config} {tables : List Table}
    (h : ∀ name ∈ config.modelNames tables, StaysInside (goFileName name)) (d : Disk) :
    Confined config tables d := by
  have hpaths : ∀ task ∈ config.tasks tables, ∃ below, below ≠ [] ∧
      d.destination task.path = d.destination config.outputDir ++ below := by
    intro task ht
    obtain ⟨name, hname, hpath⟩ := exists_name_of_mem_tasks ht
    rw [hpath]
    exact below_of_staysInside (h name hname) d config.outputDir
  refine ⟨hpaths, fun loc hloc content => ?_⟩
  obtain ⟨mid, done, hadds, hlead, hwritten, _⟩ := writeModels_run config tables d
  have hne : ∀ task ∈ done, mid.destination task.path ≠ loc := by
    rintro task ht rfl
    obtain ⟨below, _, hbelow⟩ := hpaths task (hlead.mem ht)
    rw [Disk.destination_eq_of_workingDir_eq hadds.workingDir, hbelow] at hloc
    exact hloc (List.prefix_append _ below)
  rw [hwritten.entry_of_forall_ne hne, hadds.file_iff]

/-- Writing models keeps to the output directory, whatever that is and whatever is on the disk,
exactly when the name of every file stays inside. -/
theorem confined_iff_staysInside (config : Config) (tables : List Table) :
    (∀ (directory : Path) (d : Disk), Confined { config with outputDir := directory } tables d) ↔
      ∀ name ∈ config.modelNames tables, StaysInside (goFileName name) := by
  constructor
  · intro h name hname
    refine staysInside_iff.mpr fun d directory => ?_
    have hm : name ∈ Config.modelNames { config with outputDir := directory } tables := hname
    obtain ⟨task, ht, hpath⟩ := exists_task_of_mem_modelNames hm
    obtain ⟨below, _, hbelow⟩ := (h directory d).paths task ht
    rw [hpath] at hbelow
    exact ⟨below, hbelow.symm⟩
  · intro h directory d
    exact @confined_of_staysInside { config with outputDir := directory } tables h d

/-- A table whose name leads up gets its file beside the output directory. -/
theorem not_confined_of_leading_dots :
    let config : Config := { schema := ⟨"schema.json"⟩ }
    let tables : List Table := [{ name := "../evil" }]
    let d : Disk := { workingDir := ["work"], entries := [(["work"], .directory)] }
    d.entryAt? ["work", "evil.go"] = none ∧
      (writeModels config tables d).disk.entryAt? ["work", "evil.go"] =
        some (.file (renderFile config.renderContext tables).toByteArray) ∧
      d.destination config.outputDir = ["work", "models"] ∧ ¬ Confined config tables d := by
  intro config tables d
  have hnone : d.entryAt? ["work", "evil.go"] = none := by decide
  have hfile : (writeModels config tables d).disk.entryAt? ["work", "evil.go"] =
      some (.file (renderFile config.renderContext tables).toByteArray) := by decide +kernel
  have hdest : d.destination config.outputDir = ["work", "models"] := by decide
  refine ⟨hnone, hfile, hdest, fun hconfined => ?_⟩
  have hold := (hconfined.files ["work", "evil.go"] (by rw [hdest]; decide) _).mp hfile
  rw [hnone] at hold
  contradiction

end StructGen
