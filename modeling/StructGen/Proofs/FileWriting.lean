import StructGen.Generate
import StructGen.Proofs.DirectoryMaking

namespace StructGen

/-- The last of some files that is written to a place. -/
def newestAt (d : Disk) (tasks : List FileTask) (loc : Location) : Option FileTask :=
  (tasks.filter fun t => d.destination t.path = loc).getLast?

theorem newestAt_eq_of_workingDir_eq {d d' : Disk} (h : d'.workingDir = d.workingDir)
    (tasks : List FileTask) (loc : Location) : newestAt d' tasks loc = newestAt d tasks loc := by
  simp only [newestAt, Disk.destination_eq_of_workingDir_eq h]

theorem newestAt_cons (d : Disk) (t : FileTask) (tasks : List FileTask) (loc : Location) :
    newestAt d (t :: tasks) loc =
      (newestAt d tasks loc).or (if d.destination t.path = loc then some t else none) := by
  rw [newestAt, newestAt, List.filter_cons]
  by_cases h : d.destination t.path = loc
  · simp only [h, decide_true, if_true, List.getLast?_cons]
    cases (tasks.filter fun t => d.destination t.path = loc).getLast? <;> rfl
  · simp [h]

theorem newestAt_eq_none {d : Disk} {tasks : List FileTask} {loc : Location} :
    newestAt d tasks loc = none ↔ ∀ t ∈ tasks, d.destination t.path ≠ loc := by
  simp [newestAt]

theorem split_of_newestAt {d : Disk} {tasks : List FileTask} {loc : Location} {t : FileTask}
    (h : newestAt d tasks loc = some t) :
    ∃ before later, tasks = before ++ t :: later ∧ d.destination t.path = loc ∧
      ∀ u ∈ later, d.destination u.path ≠ loc := by
  obtain ⟨front, hfront⟩ := List.getLast?_eq_some_iff.mp h
  obtain ⟨before, rest, rfl, _, hrest⟩ := List.filter_eq_append_iff.mp hfront
  obtain ⟨skipped, later, rfl, _, ht, hlater⟩ := List.filter_eq_cons_iff.mp hrest
  refine ⟨before ++ skipped, later, by simp, by simpa using ht, fun u hu => ?_⟩
  simpa using List.filter_eq_nil_iff.mp hlater u hu

/-- What is on a disk after some files have been written to another: every file can be found by
its path and has the content that was written last, and all else is as it was. -/
structure FilesWritten (tasks : List FileTask) (d d' : Disk) : Prop where
  growsTo : d.GrowsTo d'
  located : ∀ t ∈ tasks, d'.locate t.path = .ok (d.destination t.path)
  entry : ∀ loc, d'.entryAt? loc =
    ((newestAt d tasks loc).map fun t => .file t.content.toByteArray).or (d.entryAt? loc)

namespace FilesWritten

theorem nil (d : Disk) : FilesWritten [] d d :=
  ⟨.refl d, by simp, fun _ => rfl⟩

theorem cons {t : FileTask} {tasks : List FileTask} {d mid d' : Disk}
    (ht : d.writeFile t.path t.content = .ok mid) (h : FilesWritten tasks mid d') :
    FilesWritten (t :: tasks) d d' := by
  obtain ⟨hne, hfree, rfl, hlocate⟩ := Disk.writeFile_eq_ok ht
  have hdir : ∀ p, (d.put (d.destination t.path) (.file t.content.toByteArray)).destination p =
      d.destination p := Disk.destination_eq_of_workingDir_eq (Disk.workingDir_put _ _ _)
  refine ⟨(Disk.growsTo_put hne fun hd => absurd hd hfree).trans h.growsTo, ?_, fun loc => ?_⟩
  · rintro u hu
    rcases List.mem_cons.mp hu with rfl | hu
    · exact Disk.locate_of_growsTo h.growsTo hlocate
    · rw [h.located u hu, hdir]
  · rw [h.entry, newestAt_cons, newestAt_eq_of_workingDir_eq (Disk.workingDir_put _ _ _),
      Disk.entryAt?_put d hne]
    cases newestAt d tasks loc with
    | some u => rfl
    | none =>
      by_cases heq : loc = d.destination t.path
      · simp [heq]
      · simp [heq, Ne.symm heq]

theorem isDirectoryAt_iff {tasks : List FileTask} {d d' : Disk} (h : FilesWritten tasks d d')
    {loc : Location} : d'.isDirectoryAt loc ↔ d.isDirectoryAt loc := by
  refine ⟨fun hd => ?_, h.growsTo.directory loc⟩
  rw [Disk.isDirectoryAt_iff, h.entry] at hd
  cases hn : newestAt d tasks loc with
  | none => simpa [hn, Disk.isDirectoryAt_iff] using hd
  | some t => simp [hn] at hd

theorem entry_of_forall_ne {tasks : List FileTask} {d d' : Disk} (h : FilesWritten tasks d d')
    {loc : Location} (hne : ∀ t ∈ tasks, d.destination t.path ≠ loc) :
    d'.entryAt? loc = d.entryAt? loc := by
  rw [h.entry, newestAt_eq_none.mpr hne]
  rfl

/-- Where a file was written there is no directory. -/
theorem not_isDirectoryAt {tasks : List FileTask} {d d' : Disk} (h : FilesWritten tasks d d')
    {t : FileTask} (ht : t ∈ tasks) : ¬ d'.isDirectoryAt (d.destination t.path) := by
  rw [Disk.isDirectoryAt_iff, h.entry]
  cases hn : newestAt d tasks (d.destination t.path) with
  | none => exact absurd rfl (newestAt_eq_none.mp hn t ht)
  | some u => simp

/-- Files that are written a second time are as they were. -/
theorem entry_of_again {tasks : List FileTask} {d d' d'' : Disk} (h : FilesWritten tasks d d')
    (h' : FilesWritten tasks d' d'') (loc : Location) : d''.entryAt? loc = d'.entryAt? loc := by
  rw [h'.entry, newestAt_eq_of_workingDir_eq h.growsTo.workingDir, h.entry]
  cases newestAt d tasks loc <;> rfl

/-- A file that was written reads as the last one that was written to its place. -/
theorem readFile {tasks : List FileTask} {d d' : Disk} (h : FilesWritten tasks d d')
    {t : FileTask} (ht : t ∈ tasks) :
    ∃ before u later, tasks = before ++ u :: later ∧
      d.destination u.path = d.destination t.path ∧
      (∀ v ∈ later, d.destination v.path ≠ d.destination t.path) ∧
      d'.readFile t.path = .ok u.content := by
  cases hn : newestAt d tasks (d.destination t.path) with
  | none => exact absurd rfl (newestAt_eq_none.mp hn t ht)
  | some u =>
    obtain ⟨before, later, hsplit, hu, hlater⟩ := split_of_newestAt hn
    refine ⟨before, u, later, hsplit, hu, hlater, ?_⟩
    rw [Disk.readFile_eq_ok (h.located t ht), h.entry, hn]
    rfl

end FilesWritten

theorem carryOut_cons_of_error {t : FileTask} {d : Disk} {e : IoError}
    (h : d.writeFile t.path t.content = .error e) (tasks : List FileTask) :
    carryOut (t :: tasks) d = (.error e, t.warnings, d) := by
  simp [carryOut, Procedure.carryOut, Procedure.on, h]

theorem carryOut_cons_of_ok {t : FileTask} {d mid : Disk}
    (h : d.writeFile t.path t.content = .ok mid) (tasks : List FileTask) :
    carryOut (t :: tasks) d =
      ((carryOut tasks mid).1, t.warnings ++ t.written :: (carryOut tasks mid).2.1,
        (carryOut tasks mid).2.2) := by
  simp [carryOut, Procedure.carryOut, Procedure.on, h]

/-- Carrying out tasks, whether it succeeds or not, writes the files of the first so many. -/
theorem filesWritten_carryOut (tasks : List FileTask) (d : Disk) :
    ∃ done, done <+: tasks ∧ ((carryOut tasks d).1 = .ok () → done = tasks) ∧
      FilesWritten done d (carryOut tasks d).2.2 := by
  induction tasks generalizing d with
  | nil => exact ⟨[], List.prefix_rfl, fun _ => rfl, .nil d⟩
  | cons t tasks ih =>
    cases ht : d.writeFile t.path t.content with
    | error e =>
      rw [carryOut_cons_of_error ht]
      exact ⟨[], List.nil_prefix, nofun, .nil d⟩
    | ok mid =>
      obtain ⟨done, hlead, hall, hwritten⟩ := ih mid
      rw [carryOut_cons_of_ok ht]
      refine ⟨t :: done, List.cons_prefix_cons.mpr ⟨rfl, hlead⟩, fun h => ?_, hwritten.cons ht⟩
      rw [hall h]

theorem filesWritten_of_carryOut_ok {tasks : List FileTask} {d : Disk}
    (h : (carryOut tasks d).1 = .ok ()) : FilesWritten tasks d (carryOut tasks d).2.2 := by
  obtain ⟨done, _, hall, hwritten⟩ := filesWritten_carryOut tasks d
  rwa [hall h] at hwritten

/-- Tasks that cannot all be carried out stop at one of them, after those before it. -/
theorem carryOut_eq_error {tasks : List FileTask} {d : Disk} {e : IoError}
    (h : (carryOut tasks d).1 = .error e) :
    ∃ before t later, tasks = before ++ t :: later ∧ (carryOut before d).1 = .ok () ∧
      (carryOut tasks d).2.2 = (carryOut before d).2.2 ∧
      (carryOut before d).2.2.writeFile t.path t.content = .error e := by
  induction tasks generalizing d with
  | nil => contradiction
  | cons t tasks ih =>
    cases ht : d.writeFile t.path t.content with
    | error e' =>
      rw [carryOut_cons_of_error ht] at h ⊢
      obtain rfl := Except.error.inj h
      exact ⟨[], t, tasks, rfl, rfl, rfl, ht⟩
    | ok mid =>
      rw [carryOut_cons_of_ok ht] at h ⊢
      obtain ⟨before, u, later, rfl, hbefore, hlast, hu⟩ := ih h
      refine ⟨t :: before, u, later, rfl, ?_⟩
      rw [carryOut_cons_of_ok ht]
      exact ⟨hbefore, hlast, hu⟩

/-- Whether two disks have the same files, but for some places. -/
def Disk.SameFilesBut (d d' : Disk) (locs : List Location) : Prop :=
  ∀ loc, loc ∉ locs → ∀ content,
    d'.entryAt? loc = some (.file content) ↔ d.entryAt? loc = some (.file content)

theorem Disk.AddsDirectories.sameFilesBut {d d' : Disk} {new : List Location}
    (h : d.AddsDirectories d' new) (locs : List Location) : d.SameFilesBut d' locs :=
  fun _ _ _ => h.file_iff

theorem FilesWritten.sameFilesBut {tasks : List FileTask} {d d' : Disk}
    (h : FilesWritten tasks d d') :
    d.SameFilesBut d' (tasks.map fun t => d.destination t.path) := by
  intro loc hloc content
  rw [h.entry_of_forall_ne fun t ht heq => hloc (List.mem_map.mpr ⟨t, ht, heq⟩)]

/-- Making directories and then writing files changes no other files. -/
theorem sameFilesBut_of_carryOut_ok {d : Disk} {p : Path} {tasks : List FileTask}
    (h : (carryOut tasks (d.makeDirs p).2).1 = .ok ()) :
    d.SameFilesBut (carryOut tasks (d.makeDirs p).2).2.2
      (tasks.map fun t => d.destination t.path) := by
  have hadds := Disk.addsDirectories_makeDirs d p
  have hwritten := (filesWritten_of_carryOut_ok h).sameFilesBut
  simp only [Disk.destination_eq_of_workingDir_eq hadds.workingDir] at hwritten
  exact fun loc hloc content => (hwritten loc hloc content).trans hadds.file_iff

end StructGen
