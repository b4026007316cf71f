import StructGen.Procedure
import StructGen.Proofs.Walking

namespace StructGen.Disk

/-- Whether one disk is another with some new directories at places where nothing was. -/
structure AddsDirectories (d d' : Disk) (locs : List Location) : Prop where
  workingDir : d'.workingDir = d.workingDir
  entry : ∀ loc, d'.entryAt? loc = d.entryAt? loc ∨
    loc ∈ locs ∧ d.entryAt? loc = none ∧ d'.entryAt? loc = some .directory

namespace AddsDirectories

variable {d d' d'' : Disk} {locs locs' : List Location}

theorem refl (d : Disk) (locs : List Location) : d.AddsDirectories d locs :=
  ⟨rfl, fun _ => Or.inl rfl⟩

theorem trans (h : d.AddsDirectories d' locs) (h' : d'.AddsDirectories d'' locs) :
    d.AddsDirectories d'' locs where
  workingDir := h'.workingDir.trans h.workingDir
  entry loc := by
    rcases h'.entry loc with hsame' | ⟨hm, hnone', hnew'⟩
    · rw [hsame']
      exact h.entry loc
    · rcases h.entry loc with hsame | ⟨_, _, hnew⟩
      · exact Or.inr ⟨hm, hsame ▸ hnone', hnew'⟩
      · simp [hnew] at hnone'

theorem mono (h : d.AddsDirectories d' locs) (hsub : ∀ loc ∈ locs, loc ∈ locs') :
    d.AddsDirectories d' locs' where
  workingDir := h.workingDir
  entry loc := (h.entry loc).imp_right fun ⟨hm, hnew⟩ => ⟨hsub loc hm, hnew⟩

/-- New directories leave the files as they are. -/
theorem file_iff (h : d.AddsDirectories d' locs) {loc : Location} {content : ByteArray} :
    d'.entryAt? loc = some (.file content) ↔ d.entryAt? loc = some (.file content) := by
  rcases h.entry loc with hsame | ⟨_, hnone, hnew⟩
  · rw [hsame]
  · simp [hnone, hnew]

theorem isDirectoryAt (h : d.AddsDirectories d' locs) {loc : Location}
    (hd : d'.isDirectoryAt loc) : d.isDirectoryAt loc ∨ loc ∈ locs := by
  rcases h.entry loc with hsame | ⟨hm, _, _⟩
  · rw [isDirectoryAt_iff, hsame] at hd
    exact Or.inl (isDirectoryAt_iff.mpr hd)
  · exact Or.inr hm

theorem growsTo (h : d.AddsDirectories d' locs) : d.GrowsTo d' where
  workingDir := h.workingDir
  directory loc hd := by
    rw [isDirectoryAt_iff] at hd ⊢
    rcases h.entry loc with hsame | ⟨_, hnone, _⟩
    · rw [hsame, hd]
    · simp [hnone] at hd
  present loc hp := by
    rcases h.entry loc with hsame | ⟨_, hnone, _⟩
    · rwa [hsame]
    · simp [hnone] at hp

end AddsDirectories

theorem addsDirectories_put {d : Disk} {loc : Location} (hne : loc ≠ [])
    (hnone : d.entryAt? loc = none) : d.AddsDirectories (d.put loc .directory) [loc] where
  workingDir := rfl
  entry other := by
    rw [entryAt?_put d hne]
    by_cases heq : other = loc
    · subst heq
      exact Or.inr ⟨List.mem_cons_self, hnone, if_pos rfl⟩
    · exact Or.inl (if_neg heq)

/-- Making a directory adds at most the directory itself. -/
theorem addsDirectories_ensureDir (d : Disk) (p : Path) :
    d.AddsDirectories (d.ensureDir p).2 (d.placesTo p) := by
  rw [ensureDir_eq]
  split
  next d' h =>
    obtain ⟨hsteps, hne, hnone, rfl, _⟩ := makeDir_eq_ok h
    refine (addsDirectories_put hne hnone).mono fun loc hm => ?_
    rw [List.mem_singleton.mp hm]
    exact destination_mem_placesTo hsteps
  next => exact .refl d _

theorem isDirectory_of_ensureDir {d : Disk} {p : Path} (h : (d.ensureDir p).1 = .ok ()) :
    (d.ensureDir p).2.isDirectory p := by
  rw [ensureDir_eq] at h ⊢
  split at h
  next hmade =>
    obtain ⟨_, hne, _, rfl, hlocate⟩ := makeDir_eq_ok hmade
    rw [isDirectory_iff, destination_eq_of_workingDir_eq (workingDir_put _ _ _)]
    exact ⟨hlocate, by rw [isDirectoryAt_iff, entryAt?_put_self d hne]⟩
  next =>
    split at h
    next hd => exact hd
    next => contradiction

/-- What making directories comes to: the directory itself, at once or after its parents. -/
theorem makeDirsUpTo_cases (n : Nat) (d : Disk) (p : Path) :
    makeDirsUpTo (n + 1) d p = d.ensureDir p ∨
      ∃ parent, p.parent? = some parent ∧
        (makeDirsUpTo (n + 1) d p = (makeDirsUpTo n d parent).2.ensureDir p ∨
          ∃ e, makeDirsUpTo (n + 1) d p = (.error e, (makeDirsUpTo n d parent).2)) := by
  rw [makeDirsUpTo_succ]
  split
  next parent _ hparent =>
    refine Or.inr ⟨parent, hparent, ?_⟩
    split
    next h => exact Or.inl (by rw [h])
    next e _ h => exact Or.inr ⟨e, by rw [h]⟩
  next => exact Or.inl rfl

/-- Making directories, whether it succeeds or not, adds nothing but places on the way. -/
theorem addsDirectories_makeDirsUpTo (n : Nat) (d : Disk) (p : Path) :
    d.AddsDirectories (makeDirsUpTo n d p).2 (d.placesTo p) := by
  induction n generalizing p with
  | zero => exact .refl d _
  | succ n ih =>
    rcases makeDirsUpTo_cases n d p with h | ⟨parent, hparent, h⟩
    · rw [h]
      exact addsDirectories_ensureDir d p
    · have hup : d.AddsDirectories (makeDirsUpTo n d parent).2 (d.placesTo p) :=
        (ih parent).mono fun _ => mem_placesTo_of_parent? hparent
      rcases h with h | ⟨e, h⟩
      · have hself := addsDirectories_ensureDir (makeDirsUpTo n d parent).2 p
        rw [placesTo_eq_of_workingDir_eq hup.workingDir] at hself
        rw [h]
        exact hup.trans hself
      · rw [h]
        exact hup

theorem isDirectory_of_makeDirsUpTo {n : Nat} {d : Disk} {p : Path}
    (h : (makeDirsUpTo (n + 1) d p).1 = .ok ()) : (makeDirsUpTo (n + 1) d p).2.isDirectory p := by
  rcases makeDirsUpTo_cases n d p with hc | ⟨parent, _, hc | ⟨e, hc⟩⟩
  · rw [hc] at h ⊢
    exact isDirectory_of_ensureDir h
  · rw [hc] at h ⊢
    exact isDirectory_of_ensureDir h
  · rw [hc] at h
    contradiction

/-- A path that leads to a directory leads through directories. -/
theorem isDirectoryAt_of_mem_placesTo {d : Disk} {p : Path} (h : d.isDirectory p) {loc : Location}
    (hm : loc ∈ d.placesTo p) : d.isDirectoryAt loc := by
  obtain ⟨hlocate, hdir⟩ := isDirectory_iff.mp h
  obtain ⟨_, hwalk⟩ := locate_eq_ok.mp hlocate
  obtain ⟨steps, _, hlead, rfl⟩ := mem_placesTo.mp hm
  obtain ⟨names, rest, hnames, heq⟩ := p.resolve_prefix_steps hlead (d.start p)
  rw [hnames] at hwalk
  rw [← heq]
  exact isDirectoryAt_of_walk_append hwalk hdir

theorem addsDirectories_makeDirs (d : Disk) (p : Path) :
    d.AddsDirectories (d.makeDirs p).2 (d.placesTo p) :=
  addsDirectories_makeDirsUpTo p.steps.length d p

/-- Once they are made, the directories on a path are those there were and all that it leads
through. -/
theorem isDirectoryAt_makeDirs {d : Disk} {p : Path} (h : (d.makeDirs p).1 = .ok ())
    (loc : Location) :
    (d.makeDirs p).2.isDirectoryAt loc ↔ d.isDirectoryAt loc ∨ loc ∈ d.placesTo p := by
  have hadds := addsDirectories_makeDirs d p
  constructor
  · exact hadds.isDirectoryAt
  · rintro (hd | hm)
    · exact hadds.growsTo.directory loc hd
    · -- The path leads to a directory now, so there are directories all the way to it.
      rw [← placesTo_eq_of_workingDir_eq hadds.workingDir] at hm
      cases hsteps : p.steps with
      | nil => simp [placesTo, hsteps] at hm
      | cons first rest =>
        rw [makeDirs, hsteps, List.length_cons] at h hm ⊢
        exact isDirectoryAt_of_mem_placesTo (isDirectory_of_makeDirsUpTo h) hm

end StructGen.Disk
