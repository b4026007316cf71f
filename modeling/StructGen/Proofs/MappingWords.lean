import Mathlib.Data.List.Basic
import StructGen.Proofs.TagTexts
import StructGen.Proofs.Words

namespace StructGen

/-- What an index says about a column in a tag: its kind and, if it spans several columns, its
name. -/
def Index.mark (index : Index) : IndexKind × Option String :=
  (index.kind, if index.isComposite then some index.name else none)

structure Mapping where
  type : String
  primaryKey : Bool
  autoIncrement : Bool
  isVersion : Bool
  /-- Whether the column is said not to be null, which is left out of a primary key. -/
  notNull : Bool
  defaultLiteral : String
  created : Bool
  updated : Bool
  indexes : List (IndexKind × Option String)
  deriving DecidableEq

namespace Mapping

def ofColumn (table : Table) (column : Column) : Mapping where
  type := typeSegment column
  primaryKey := column.primaryKey
  autoIncrement := column.autoIncrement
  isVersion := column.isVersion
  notNull := !column.nullable && !column.primaryKey
  defaultLiteral := column.defaultLiteral
  created := column.created
  updated := column.updated
  indexes := (resolvedIndexes table column).map Index.mark

def flagSlot (keyword : String) (arguments : List String) (set : Bool) : Slot :=
  (keyword, if set then some arguments else none)

def defaultSlot (literal : String) : Slot :=
  ("default", if literal.isEmpty then none else some [literal])

/-- The words of a mapping between its type and its indexes. -/
def slots (m : Mapping) : List Slot :=
  [flagSlot "pk" [] m.primaryKey, flagSlot "autoincr" [] m.autoIncrement,
   flagSlot "version" [] m.isVersion, flagSlot "not" ["null"] m.notNull,
   defaultSlot m.defaultLiteral, flagSlot "created" [] m.created, flagSlot "updated" [] m.updated]

def indexWord : IndexKind × Option String → String
  | (kind, none) => kind.keyword
  | (kind, some name) => kind.keyword ++ "(" ++ name ++ ")"

def words (m : Mapping) : List String :=
  m.type :: (m.slots.flatMap Slot.words ++ m.indexes.map indexWord)

def arity (keyword : String) : Nat :=
  if keyword = "not" ∨ keyword = "default" then 1 else 0

theorem keys_slots (m : Mapping) : m.slots.map Prod.fst =
    ["pk", "autoincr", "version", "not", "default", "created", "updated"] := rfl

theorem flagSlot_hasArity {keyword : String} {arguments : List String}
    (h : arguments.length = arity keyword) (set : Bool) :
    (flagSlot keyword arguments set).HasArity arity := by
  intro found hf
  cases set with
  | false => cases hf
  | true => cases Option.some.inj hf; exact h

theorem defaultSlot_hasArity (literal : String) : (defaultSlot literal).HasArity arity := by
  intro found hf
  obtain ⟨_, hf⟩ : literal.isEmpty = false ∧ [literal] = found := by
    simpa [defaultSlot] using hf
  rw [← hf]
  rfl

theorem slots_hasArity (m : Mapping) : ∀ slot ∈ m.slots, slot.HasArity arity := by
  simp only [slots, List.forall_mem_cons]
  exact ⟨flagSlot_hasArity rfl _, flagSlot_hasArity rfl _, flagSlot_hasArity rfl _,
    flagSlot_hasArity rfl _, defaultSlot_hasArity _, flagSlot_hasArity rfl _,
    flagSlot_hasArity rfl _, List.forall_mem_nil _⟩

theorem flagSlot_inj {keyword : String} {arguments : List String} {set set' : Bool}
    (h : flagSlot keyword arguments set = flagSlot keyword arguments set') : set = set' := by
  cases set <;> cases set' <;> simp_all [flagSlot]

theorem defaultSlot_injective {literal literal' : String}
    (h : defaultSlot literal = defaultSlot literal') : literal = literal' := by
  unfold defaultSlot at h
  split at h
  next he =>
    split at h
    next he' => rw [String.isEmpty_iff.mp he, String.isEmpty_iff.mp he']
    next => simp at h
  next =>
    split at h
    next => simp at h
    next => simpa using h

theorem indexWord_injective : Function.Injective indexWord := by
  rintro ⟨kind, name⟩ ⟨kind', name'⟩ h
  have hchars := congrArg String.toList h
  cases kind <;> cases kind' <;> cases name <;> cases name' <;>
    simp [indexWord, IndexKind.keyword] at hchars ⊢
  all_goals exact String.toList_inj.mp hchars

theorem indexWord_not_mem_keys (mark : IndexKind × Option String) (m : Mapping) :
    indexWord mark ∉ m.slots.map Prod.fst := by
  have hkeys : ∀ w ∈ m.slots.map Prod.fst,
      w.toList.take 2 ≠ ['u', 'n'] ∧ w.toList.take 2 ≠ ['i', 'n'] := by
    rw [keys_slots]
    decide
  intro hm
  obtain ⟨hunique, hplain⟩ := hkeys _ hm
  obtain ⟨kind, name⟩ := mark
  cases kind with
  | unique => cases name <;> simp [indexWord, IndexKind.keyword] at hunique
  | plain => cases name <;> simp [indexWord, IndexKind.keyword] at hplain

theorem head_indexWords (marks : List (IndexKind × Option String)) (m : Mapping) :
    ∀ w ∈ m.slots.map Prod.fst, (marks.map indexWord).head? ≠ some w := by
  intro w hw hh
  cases marks with
  | nil => simp at hh
  | cons mark marks =>
    obtain rfl : indexWord mark = w := by simpa using hh
    exact indexWord_not_mem_keys mark m hw

/-- The words of a mapping tell it apart from every other mapping. -/
theorem words_injective : Function.Injective words := by
  intro m n h
  obtain ⟨htype, hrest⟩ := List.cons.inj h
  have hkeys : m.slots.map Prod.fst = n.slots.map Prod.fst := rfl
  have hnodup : (m.slots.map Prod.fst).Nodup := by rw [keys_slots]; decide
  obtain ⟨hslots, hindexes⟩ := slots_append_inj hkeys hnodup (slots_hasArity m) (slots_hasArity n)
    (head_indexWords m.indexes m) (head_indexWords n.indexes m) hrest
  have hmarks := List.map_injective_iff.mpr indexWord_injective hindexes
  simp only [slots, List.cons.injEq] at hslots
  obtain ⟨hpk, hauto, hversion, hnull, hdefault, hcreated, hupdated, -⟩ := hslots
  cases m
  cases n
  cases htype
  cases flagSlot_inj hpk
  cases flagSlot_inj hauto
  cases flagSlot_inj hversion
  cases flagSlot_inj hnull
  cases defaultSlot_injective hdefault
  cases flagSlot_inj hcreated
  cases flagSlot_inj hupdated
  cases hmarks
  rfl

end Mapping

end StructGen
