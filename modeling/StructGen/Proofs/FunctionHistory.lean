import StructGen.FunctionTable

namespace StructGen

/-- The functions that some operations register, with their names, in order. -/
def registrations : List FunctionOperation → List (String × TemplateFunction)
  | [] => []
  | .register name f :: operations => (name, f) :: registrations operations
  | .call .. :: operations => registrations operations

def FunctionOperation.isRegistration : FunctionOperation → Bool
  | register .. => true
  | call .. => false

/-- The function that was registered last under a name. -/
def latestFunction? (history : List (String × TemplateFunction)) (name : String) :
    Option TemplateFunction :=
  history.reverse.lookup name

theorem latestFunction?_append_singleton (history : List (String × TemplateFunction))
    (name other : String) (f : TemplateFunction) :
    latestFunction? (history ++ [(name, f)]) other =
      if other = name then some f else latestFunction? history other := by
  unfold latestFunction?
  rw [List.reverse_concat, List.lookup_cons]
  by_cases h : other = name
  · simp [h]
  · simp [h, beq_eq_false_iff_ne.mpr h]

/-- A name has a last function exactly if it was ever registered. -/
theorem exists_latestFunction?_iff {history : List (String × TemplateFunction)} {name : String} :
    (∃ f, latestFunction? history name = some f) ↔ ∃ f, (name, f) ∈ history := by
  rw [← Option.isSome_iff_exists, latestFunction?, List.lookup_isSome_iff]
  simp

namespace FunctionTable

theorem call_register (table : FunctionTable) (name other : String) (f : TemplateFunction)
    (args : List Value) :
    (table.register name f).call other args =
      if other = name then f args else table.call other args := by
  unfold call register
  rw [Dict.get?_insert]
  by_cases h : other = name
  · simp [h]
  · simp [h]

theorem contains_register {table : FunctionTable} {name other : String} {f : TemplateFunction} :
    (table.register name f).contains other = true ↔ other = name ∨ table.contains other = true := by
  unfold contains register Dict.contains
  rw [Dict.get?_insert]
  by_cases h : other = name
  · simp [h]
  · simp [h]

theorem mem_names_iff {table : FunctionTable} {name : String} :
    name ∈ table.names ↔ table.contains name = true :=
  Dict.mem_keys_iff

theorem run_register (table : FunctionTable) (name : String) (f : TemplateFunction)
    (operations : List FunctionOperation) :
    table.run (.register name f :: operations) = (table.register name f).run operations :=
  rfl

theorem run_call (table : FunctionTable) (name : String) (args : List Value)
    (operations : List FunctionOperation) :
    table.run (.call name args :: operations) =
      ((table.run operations).1, table.call name args :: (table.run operations).2) :=
  rfl

/-- Calls leave no trace in the table. -/
theorem run_filter_isRegistration (table : FunctionTable) (operations : List FunctionOperation) :
    (table.run (operations.filter (·.isRegistration))).1 = (table.run operations).1 := by
  induction operations generalizing table with
  | nil => rfl
  | cons operation operations ih =>
    cases operation with
    | register name f =>
      rw [List.filter_cons_of_pos rfl, run_register, run_register, ih]
    | call name args =>
      have hskipped : ¬ (FunctionOperation.call name args).isRegistration = true := nofun
      rw [List.filter_cons_of_neg hskipped, run_call, ih]

end FunctionTable

/-- Whether a table is what a history of registrations makes of it: it has their names in
ascending order, a call goes to the function registered last, and all other names are unknown. -/
structure FollowsHistory (history : List (String × TemplateFunction)) (table : FunctionTable) :
    Prop where
  ascending : table.names.Pairwise (· < ·)
  names : ∀ name, name ∈ table.names ↔ ∃ f, (name, f) ∈ history
  contains : ∀ name, table.contains name = true ↔ ∃ f, (name, f) ∈ history
  known : ∀ name f, latestFunction? history name = some f → ∀ args, table.call name args = f args
  unknown : ∀ name, (∀ f, (name, f) ∉ history) →
    ∀ args, table.call name args = .error (.unknownFunction name)

namespace FollowsHistory

variable {history : List (String × TemplateFunction)} {table : FunctionTable}

theorem empty : FollowsHistory [] .empty where
  ascending := .nil
  names _ := by simp [FunctionTable.names, FunctionTable.empty, Dict.keys, Dict.empty]
  contains _ := by simp [FunctionTable.contains, FunctionTable.empty, Dict.contains]
  known := nofun
  unknown _ _ _ := rfl

theorem register (h : FollowsHistory history table) (name : String) (f : TemplateFunction) :
    FollowsHistory (history ++ [(name, f)]) (table.register name f) := by
  have hcontains : ∀ other, (table.register name f).contains other = true ↔
      ∃ g, (other, g) ∈ history ++ [(name, f)] := by
    intro other
    rw [FunctionTable.contains_register, h.contains]
    simp [exists_or, or_comm]
  refine ⟨Dict.keys_ascending _, ?_, hcontains, ?_, ?_⟩
  · intro other
    rw [FunctionTable.mem_names_iff, hcontains]
  · intro other g hlatest args
    rw [latestFunction?_append_singleton] at hlatest
    rw [FunctionTable.call_register]
    split at hlatest
    next heq => rw [if_pos heq, Option.some.inj hlatest]
    next hne => rw [if_neg hne, h.known other g hlatest]
  · intro other hfresh args
    have hne : other ≠ name := by
      rintro rfl
      exact hfresh f List.mem_concat_self
    have hfresh' : ∀ g, (other, g) ∉ history := fun g hg => hfresh g (List.mem_append_left _ hg)
    rw [FunctionTable.call_register, if_neg hne, h.unknown other hfresh']

theorem foldl_register (h : FollowsHistory history table)
    (named : List (String × TemplateFunction)) :
    FollowsHistory (history ++ named)
      (named.foldl (fun table e => table.register e.1 e.2) table) := by
  induction named generalizing history table with
  | nil => simpa using h
  | cons e named ih => simpa using ih (h.register e.1 e.2)

theorem standard : FollowsHistory FunctionTable.builtins .standard :=
  empty.foldl_register FunctionTable.builtins

example : FunctionTable.standard.names =
    ["UnTitle", "distinct", "eq", "ge", "gt", "le", "lt", "ne"] := by decide

end FollowsHistory

/-- Whether some operations are answered as their history asks for: a call goes to the function
that was registered last before it, and fails if there is none. -/
inductive AnswersFollow : List (String × TemplateFunction) → List FunctionOperation →
    List (Except CallError Value) → Prop
  | nil {history} : AnswersFollow history [] []
  | register {history name f operations answers}
    (later : AnswersFollow (history ++ [(name, f)]) operations answers) :
    AnswersFollow history (.register name f :: operations) answers
  | known {history name f args operations answers}
    (latest : latestFunction? history name = some f)
    (later : AnswersFollow history operations answers) :
    AnswersFollow history (.call name args :: operations) (f args :: answers)
  | unknown {history name args operations answers} (fresh : ∀ f, (name, f) ∉ history)
    (later : AnswersFollow history operations answers) :
    AnswersFollow history (.call name args :: operations)
      (.error (.unknownFunction name) :: answers)

/-- What a run does to a table that follows a history: the registrations extend the history, the
calls are answered by what is before them and leave no trace, and another registration changes
nothing for other names. -/
structure RunFollows (history : List (String × TemplateFunction)) (table : FunctionTable)
    (operations : List FunctionOperation) : Prop where
  last : FollowsHistory (history ++ registrations operations) (table.run operations).1
  answers : AnswersFollow history operations (table.run operations).2
  calls : (table.run (operations.filter (·.isRegistration))).1 = (table.run operations).1
  others : ∀ name f other, other ≠ name →
    (((table.run operations).1.register name f).contains other =
      (table.run operations).1.contains other) ∧
    ∀ args, ((table.run operations).1.register name f).call other args =
      (table.run operations).1.call other args

namespace FollowsHistory

variable {history : List (String × TemplateFunction)} {table : FunctionTable}

theorem run (h : FollowsHistory history table) (operations : List FunctionOperation) :
    FollowsHistory (history ++ registrations operations) (table.run operations).1 ∧
      AnswersFollow history operations (table.run operations).2 := by
  induction operations generalizing history table with
  | nil => exact ⟨by simpa [registrations, FunctionTable.run] using h, .nil⟩
  | cons operation operations ih =>
    cases operation with
    | register name f =>
      obtain ⟨hlast, hanswers⟩ := ih (h.register name f)
      rw [FunctionTable.run_register]
      exact ⟨by simpa [registrations] using hlast, .register hanswers⟩
    | call name args =>
      obtain ⟨hlast, hanswers⟩ := ih h
      rw [FunctionTable.run_call]
      refine ⟨hlast, ?_⟩
      by_cases hknown : ∃ f, (name, f) ∈ history
      · obtain ⟨f, hf⟩ := exists_latestFunction?_iff.mpr hknown
        rw [h.known name f hf]
        exact .known hf hanswers
      · have hfresh : ∀ f, (name, f) ∉ history := fun f hf => hknown ⟨f, hf⟩
        rw [h.unknown name hfresh]
        exact .unknown hfresh hanswers

theorem runFollows (h : FollowsHistory history table) (operations : List FunctionOperation) :
    RunFollows history table operations := by
  obtain ⟨hlast, hanswers⟩ := h.run operations
  refine ⟨hlast, hanswers, table.run_filter_isRegistration operations, ?_⟩
  intro name f other hne
  refine ⟨?_, fun args => ?_⟩
  · rw [Bool.eq_iff_iff, FunctionTable.contains_register]
    simp [hne]
  · rw [FunctionTable.call_register, if_neg hne]

end FollowsHistory

/-- Runs that start from the standard functions or from none follow their history. -/
theorem runs_follow_registrations (operations : List FunctionOperation) :
    RunFollows FunctionTable.builtins .standard operations ∧
      RunFollows FunctionTable.builtins default operations ∧
      RunFollows [] .empty operations :=
  ⟨FollowsHistory.standard.runFollows operations, FollowsHistory.standard.runFollows operations,
    FollowsHistory.empty.runFollows operations⟩

end StructGen
