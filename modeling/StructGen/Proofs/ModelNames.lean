import StructGen.Generate
import StructGen.Proofs.Destination

namespace StructGen

/-- Whether a name has the ending of source files. -/
def HasEnding (name : String) : Prop :=
  ∃ stem, name = stem ++ ".go"

theorem hasEnding_iff {name : String} :
    HasEnding name ↔ ".go".toList.isSuffixOf name.toList = true := by
  rw [List.isSuffixOf_iff_suffix]
  constructor
  · rintro ⟨stem, rfl⟩
    exact ⟨stem.toList, String.toList_append.symm⟩
  · rintro ⟨stem, hstem⟩
    exact ⟨String.ofList stem, String.toList_inj.mp (by simp [← hstem])⟩

instance : DecidablePred HasEnding :=
  fun _ => decidable_of_iff _ hasEnding_iff.symm

theorem goFileName_of_hasEnding {name : String} (h : HasEnding name) : goFileName name = name :=
  if_pos (hasEnding_iff.mp h)

theorem goFileName_of_not_hasEnding {name : String} (h : ¬ HasEnding name) :
    goFileName name = name ++ ".go" :=
  if_neg fun hsuffix => h (hasEnding_iff.mpr hsuffix)

theorem hasEnding_goFileName (name : String) : HasEnding (goFileName name) := by
  by_cases h : HasEnding name
  · rwa [goFileName_of_hasEnding h]
  · exact ⟨name, goFileName_of_not_hasEnding h⟩

theorem isProperName_append_go (stem : String) : IsProperName (stem ++ ".go") := by
  have hlast : (stem ++ ".go").toList.getLast? = some 'o' := by simp
  refine ⟨?_, ?_, ?_⟩ <;>
    · intro h
      rw [h] at hlast
      revert hlast
      decide

/-- A text without slashes goes on the last piece of the text before it. -/
theorem slashPieces_append (cs ds : List Char) (h : '/' ∉ ds) :
    ∃ front last, slashPieces cs = front ++ [last] ∧
      slashPieces (cs ++ ds) = front ++ [last ++ ds] := by
  induction cs with
  | nil =>
    refine ⟨[], [], rfl, ?_⟩
    rw [slashPieces_eq_splitOn, List.nil_append, List.splitOn_eq_singleton h]
    rfl
  | cons c cs ih =>
    obtain ⟨front, last, hcs, happend⟩ := ih
    rw [List.cons_append, slashPieces, slashPieces, hcs, happend]
    by_cases hc : c = '/'
    · exact ⟨[] :: front, last, by simp [hc], by simp [hc]⟩
    · cases front with
      | nil => exact ⟨[], c :: last, by simp [hc], by simp [hc]⟩
      | cons first front => exact ⟨(c :: first) :: front, last, by simp [hc], by simp [hc]⟩

/-- The last name of a source file can be that of an entry. -/
theorem names_goFileName (name : String) :
    ∃ front last, (Path.mk (goFileName name)).names = front ++ [last] ∧ IsProperName last := by
  obtain ⟨stem, hstem⟩ := hasEnding_goFileName name
  obtain ⟨front, last, _, happend⟩ := slashPieces_append stem.toList ".go".toList (by decide)
  have hlast : String.ofList (last ++ ".go".toList) = String.ofList last ++ ".go" :=
    String.toList_inj.mp (by simp)
  refine ⟨front.map String.ofList, String.ofList last ++ ".go", ?_, isProperName_append_go _⟩
  rw [Path.names, hstem, String.toList_append, happend, List.map_append, List.map_singleton, hlast]

theorem slash_not_mem_goFileName {name : String} (h : '/' ∉ name.toList) :
    '/' ∉ (goFileName name).toList := by
  by_cases hending : HasEnding name
  · rwa [goFileName_of_hasEnding hending]
  · rw [goFileName_of_not_hasEnding hending]
    simpa using h

/-- A source file whose name has no slash is in the directory from which it is seen. -/
theorem destination_join_goFileName (d : Disk) (directory : Path) {name : String}
    (h : '/' ∉ name.toList) :
    d.destination (directory.join (goFileName name)) =
      d.destination directory ++ [goFileName name] := by
  have hplain := slash_not_mem_goFileName h
  have hrel : (Path.mk (goFileName name)).isAbsolute = false := by
    refine Bool.eq_false_iff.mpr fun habs => hplain ?_
    exact List.mem_of_head? (beq_iff_eq.mp habs)
  have hproper : IsProperName (goFileName name) := by
    obtain ⟨stem, hstem⟩ := hasEnding_goFileName name
    exact hstem ▸ isProperName_append_go stem
  rw [Disk.destination_join, hrel, Path.names_eq_singleton hplain, resolve_cons,
    stepFrom_of_isProperName hproper]
  simp

end StructGen
