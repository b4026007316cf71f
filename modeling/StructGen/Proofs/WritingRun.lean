import StructGen.Generate

namespace StructGen

/-- The ways in which writing models can go, with the outcome of each: the package name is
refused, the output directory cannot be made, one of the files cannot be written, or all are
written. -/
inductive WritingRun (config : Config) (tables : List Table) (d : Disk) : Outcome → Prop
  | invalidPackage (hpackage : isValidPackage config.package = false) :
    WritingRun config tables d ⟨.error (.invalidPackage config.package), [], d⟩
  | noDirectory {e : IoError} {mid : Disk} (hpackage : isValidPackage config.package = true)
    (hmade : d.makeDirs config.outputDir = (.error e, mid)) :
    WritingRun config tables d ⟨.error (.io e), [], mid⟩
  | fileRefused {e : IoError} {mid last : Disk} {log : List Event}
    (hpackage : isValidPackage config.package = true)
    (hmade : d.makeDirs config.outputDir = (.ok (), mid))
    (hfiles : carryOut (config.tasks tables) mid = (.error e, log, last)) :
    WritingRun config tables d ⟨.error (.io e), log, last⟩
  | written {mid last : Disk} {log : List Event}
    (hpackage : isValidPackage config.package = true)
    (hmade : d.makeDirs config.outputDir = (.ok (), mid))
    (hfiles : carryOut (config.tasks tables) mid = (.ok (), log, last)) :
    WritingRun config tables d
      ⟨.ok ((config.tasks tables).map (·.path)),
        log ++ [.generated (config.tasks tables).length config.outputDir], last⟩

theorem writingRun_iff {config : Config} {tables : List Table} {d : Disk} {o : Outcome} :
    WritingRun config tables d o ↔ writeModels config tables d = o := by
  constructor
  · intro h
    cases h with
    | invalidPackage hpackage => simp [writeModels_eq, hpackage]
    | noDirectory hpackage hmade => simp [writeModels_eq, hpackage, hmade]
    | fileRefused hpackage hmade hfiles => simp [writeModels_eq, hpackage, hmade, hfiles]
    | written hpackage hmade hfiles => simp [writeModels_eq, hpackage, hmade, hfiles]
  · rintro rfl
    rw [writeModels_eq]
    split
    next hpackage => exact .invalidPackage (by simpa using hpackage)
    next hpackage =>
      have hpackage : isValidPackage config.package = true := by simpa using hpackage
      split
      next hmade => exact .noDirectory hpackage hmade
      next hmade =>
        dsimp only
        split
        next hfiles => exact .fileRefused hpackage hmade hfiles
        next hfiles => exact .written hpackage hmade hfiles

/-- A run that succeeds goes through all stages, and its disk is the one after the last file. -/
theorem writeModels_eq_ok {config : Config} {tables : List Table} {d : Disk} {paths : List Path}
    (h : (writeModels config tables d).result = .ok paths) :
    isValidPackage config.package = true ∧ (d.makeDirs config.outputDir).1 = .ok () ∧
      (carryOut (config.tasks tables) (d.makeDirs config.outputDir).2).1 = .ok () ∧
      paths = (config.tasks tables).map (·.path) ∧
      (writeModels config tables d).disk =
        (carryOut (config.tasks tables) (d.makeDirs config.outputDir).2).2.2 := by
  obtain ⟨o, ho⟩ : ∃ o, writeModels config tables d = o := ⟨_, rfl⟩
  rw [ho] at h ⊢
  cases writingRun_iff.mpr ho with
  | invalidPackage => contradiction
  | noDirectory => contradiction
  | fileRefused => contradiction
  | written hpackage hmade hfiles =>
    rw [hmade, hfiles]
    exact ⟨hpackage, rfl, rfl, (Except.ok.inj h).symm, rfl⟩

end StructGen
