import StructGen.Proofs.FirstOccurrences
import StructGen.Proofs.FunctionHistory

namespace StructGen

/-- The result of a comparison as the result of a call: an answer as a truth value, and a failure as
it is. -/
inductive Carried : Except CompareError Bool → Except CallError Value → Prop
  | answer (b : Bool) : Carried (.ok b) (.ok (.bool b))
  | failure (e : CompareError) : Carried (.error e) (.error (.compare e))

/-- How calls of equality with some of the other arguments come out. -/
inductive EqCall : List Value → Except CallError Value → Prop
  | some {a : Value} {candidates : List Value} {r : Except CallError Value}
    (h : Carried (a.eq candidates) r) : EqCall (a :: candidates) r
  | none : EqCall [] (.error (.argumentCount "eq" (.atLeast 1) 0))

/-- How calls of a comparison of two arguments come out. -/
inductive PairCall (name : String) (compare : Value → Value → Except CompareError Bool) :
    List Value → Except CallError Value → Prop
  | two {a b : Value} {r : Except CallError Value} (h : Carried (compare a b) r) :
    PairCall name compare [a, b] r
  | notTwo {args : List Value} (h : args.length ≠ 2) :
    PairCall name compare args (.error (.argumentCount name (.exactly 2) args.length))

/-- How calls of a function of one argument come out that gives nothing for some arguments. -/
inductive SingleCall (name expected : String) (gives : Value → Value → Prop) :
    List Value → Except CallError Value → Prop
  | one {a result : Value} (h : gives a result) : SingleCall name expected gives [a] (.ok result)
  | misfit {a : Value} (h : ∀ result, ¬ gives a result) :
    SingleCall name expected gives [a] (.error (.argumentType name 0 expected))
  | notOne {args : List Value} (h : args.length ≠ 1) :
    SingleCall name expected gives args (.error (.argumentCount name (.exactly 1) args.length))

/-- From a list of strings to the list of their first occurrences. -/
inductive GivesDistinct : Value → Value → Prop
  | strings {ss us : List String} (h : FirstOccurrences ss us) :
    GivesDistinct (.list (ss.map .string)) (.list (us.map .string))

inductive GivesUnTitled : Value → Value → Prop
  | string (s : String) : GivesUnTitled (.string s) (.string (unTitle s))

def pairComparisons : List (String × (Value → Value → Except CompareError Bool)) :=
  [("ne", Value.ne), ("lt", Value.lt), ("le", Value.le), ("gt", Value.gt), ("ge", Value.ge)]

/-- A function that checks the number of its arguments and then takes them by their positions. It
comes to nothing if it asks for a position that is not there. -/
def byPosition (name : String) (count : Nat)
    (body : (Nat → Option Value) → Option (Except CallError Value)) (args : List Value) :
    Option (Except CallError Value) :=
  if args.length = count then body (args[·]?)
  else some (.error (.argumentCount name (.exactly count) args.length))

def pairBody (compare : Value → Value → Except CompareError Bool) (argument : Nat → Option Value) :
    Option (Except CallError Value) := do
  let a ← argument 0
  let b ← argument 1
  return comparisonResult (compare a b)

def singleResult (name expected : String) : Option Value → Except CallError Value
  | some result => .ok result
  | none => .error (.argumentType name 0 expected)

def singleBody (name expected : String) (result? : Value → Option Value)
    (argument : Nat → Option Value) : Option (Except CallError Value) := do
  let a ← argument 0
  return singleResult name expected (result? a)

def distinctResult? (a : Value) : Option Value := do
  let items ← a.asList?
  let ss ← stringItems? items
  return .list ((distinct ss).map .string)

def unTitleResult? (a : Value) : Option Value := do
  let s ← a.asString?
  return .string (unTitle s)

/-- What calls of the standard functions with some arguments come to. Checking the number of
arguments first makes sure that none is taken from a position that is not there. -/
structure StandardAnswers (args : List Value) : Prop where
  eq : ∀ r, FunctionTable.standard.call "eq" args = r ↔ EqCall args r
  pairs : ∀ named ∈ pairComparisons, ∀ r,
    FunctionTable.standard.call named.1 args = r ↔ PairCall named.1 named.2 args r
  expected : (Arity.atLeast 1).describe = "at least 1" ∧ (Arity.exactly 2).describe = "2"
  distinct : ∀ r, FunctionTable.standard.call "distinct" args = r ↔
    SingleCall "distinct" "list of strings" GivesDistinct args r
  distinctAgain : ∀ result, FunctionTable.standard.call "distinct" args = .ok result →
    FunctionTable.standard.call "distinct" [result] = .ok result
  unTitle : ∀ r, FunctionTable.standard.call "UnTitle" args = r ↔
    SingleCall "UnTitle" "string" GivesUnTitled args r
  pairsInRange : ∀ named ∈ pairComparisons,
    byPosition named.1 2 (pairBody named.2) args = some (FunctionTable.standard.call named.1 args)
  distinctInRange :
    byPosition "distinct" 1 (singleBody "distinct" "list of strings" distinctResult?) args =
      some (FunctionTable.standard.call "distinct" args)
  unTitleInRange : byPosition "UnTitle" 1 (singleBody "UnTitle" "string" unTitleResult?) args =
    some (FunctionTable.standard.call "UnTitle" args)

theorem carried_iff {answer : Except CompareError Bool} {r : Except CallError Value} :
    comparisonResult answer = r ↔ Carried answer r := by
  constructor
  · rintro rfl
    cases answer with
    | ok b => exact .answer b
    | error e => exact .failure e
  · intro h
    cases h <;> rfl

theorem callEq_eq_iff {args : List Value} {r : Except CallError Value} :
    callEq args = r ↔ EqCall args r := by
  constructor
  · rintro rfl
    cases args with
    | nil => exact .none
    | cons a candidates => exact .some (carried_iff.mp rfl)
  · intro h
    cases h with
    | some h => exact carried_iff.mpr h
    | none => rfl

section Pair

variable {name : String} {compare : Value → Value → Except CompareError Bool} {args : List Value}

theorem callComparison_of_length_ne (h : args.length ≠ 2) :
    callComparison name compare args = .error (.argumentCount name (.exactly 2) args.length) := by
  unfold callComparison
  split
  · simp at h
  · rfl

theorem callComparison_eq_iff {r : Except CallError Value} :
    callComparison name compare args = r ↔ PairCall name compare args r := by
  constructor
  · rintro rfl
    by_cases h : args.length = 2
    · obtain ⟨a, b, rfl⟩ := List.length_eq_two.mp h
      exact .two (carried_iff.mp rfl)
    · rw [callComparison_of_length_ne h]
      exact .notTwo h
  · intro h
    cases h with
    | two h => exact carried_iff.mpr h
    | notTwo h => exact callComparison_of_length_ne h

theorem byPosition_pairBody :
    byPosition name 2 (pairBody compare) args = some (callComparison name compare args) := by
  by_cases h : args.length = 2
  · obtain ⟨a, b, rfl⟩ := List.length_eq_two.mp h
    rfl
  · rw [byPosition, if_neg h, callComparison_of_length_ne h]

end Pair

/-- Whether a function takes one argument and asks of it that something can be made of it. -/
structure TakesOne (name expected : String) (result? : Value → Option Value)
    (f : TemplateFunction) : Prop where
  one : ∀ a, f [a] = singleResult name expected (result? a)
  other : ∀ args, args.length ≠ 1 →
    f args = .error (.argumentCount name (.exactly 1) args.length)

namespace TakesOne

variable {name expected : String} {result? : Value → Option Value} {f : TemplateFunction}

theorem eq_iff (h : TakesOne name expected result? f) {gives : Value → Value → Prop}
    (hgives : ∀ a result, gives a result ↔ result? a = some result) {args : List Value}
    {r : Except CallError Value} : f args = r ↔ SingleCall name expected gives args r := by
  constructor
  · rintro rfl
    by_cases hlength : args.length = 1
    · obtain ⟨a, rfl⟩ := List.length_eq_one_iff.mp hlength
      rw [h.one]
      cases ha : result? a with
      | none => exact .misfit fun result => by simp [hgives, ha]
      | some result => exact .one ((hgives a result).mpr ha)
    · rw [h.other args hlength]
      exact .notOne hlength
  · intro hr
    cases hr with
    | @one a result hgiven => rw [h.one, (hgives a result).mp hgiven, singleResult]
    | @misfit a hnone =>
      have ha : result? a = none :=
        Option.eq_none_iff_forall_ne_some.mpr fun result => (hgives a result).not.mp (hnone result)
      rw [h.one, ha, singleResult]
    | notOne hlength => exact h.other args hlength

theorem byPosition_eq (h : TakesOne name expected result? f) (args : List Value) :
    byPosition name 1 (singleBody name expected result?) args = some (f args) := by
  by_cases hlength : args.length = 1
  · obtain ⟨a, rfl⟩ := List.length_eq_one_iff.mp hlength
    rw [h.one]
    rfl
  · rw [byPosition, if_neg hlength, h.other args hlength]

end TakesOne

theorem stringItems?_eq_some_iff {items : List Value} {ss : List String} :
    stringItems? items = some ss ↔ items = ss.map .string := by
  unfold stringItems?
  induction items generalizing ss with
  | nil => cases ss <;> simp
  | cons item items ih =>
    rw [List.mapM_cons]
    cases item with
    | string s =>
      cases ss with
      | nil => simp [Value.asString?, Option.bind_eq_some_iff]
      | cons t ss => simp [Value.asString?, Option.bind_eq_some_iff, ih, and_comm]
    | _ => cases ss <;> simp [Value.asString?]

theorem takesOne_callDistinct :
    TakesOne "distinct" "list of strings" distinctResult? callDistinct where
  one a := by
    cases a with
    | list items =>
      cases hs : stringItems? items <;>
        simp [callDistinct, distinctResult?, Value.asList?, hs, singleResult]
    | _ => rfl
  other args h := by
    unfold callDistinct
    split
    · simp at h
    · simp at h
    · rfl

theorem givesDistinct_iff (a result : Value) :
    GivesDistinct a result ↔ distinctResult? a = some result := by
  constructor
  · intro h
    cases h with
    | @strings ss us h =>
      have hs : stringItems? (ss.map .string) = some ss := stringItems?_eq_some_iff.mpr rfl
      simp [distinctResult?, Value.asList?, hs, firstOccurrences_iff.mp h]
  · intro h
    cases a with
    | list items =>
      obtain ⟨ss, hs, hresult⟩ := Option.bind_eq_some_iff.mp h
      cases hresult
      rw [stringItems?_eq_some_iff.mp hs]
      exact .strings (firstOccurrences_distinct ss)
    | _ => contradiction

theorem takesOne_callUnTitle : TakesOne "UnTitle" "string" unTitleResult? callUnTitle where
  one a := by cases a <;> rfl
  other args h := by
    unfold callUnTitle
    split
    · simp at h
    · simp at h
    · rfl

theorem givesUnTitled_iff (a result : Value) :
    GivesUnTitled a result ↔ unTitleResult? a = some result := by
  constructor
  · intro h
    cases h
    rfl
  · intro h
    cases a with
    | string s =>
      cases h
      exact .string s
    | _ => contradiction

/-- Removing repeats again changes nothing. -/
theorem GivesDistinct.again {a result : Value} (h : GivesDistinct a result) :
    GivesDistinct result result := by
  cases h with
  | strings h => exact .strings (firstOccurrences_self h.nodup)

theorem call_standard {name : String} {f : TemplateFunction}
    (h : latestFunction? FunctionTable.builtins name = some f) (args : List Value) :
    FunctionTable.standard.call name args = f args :=
  FollowsHistory.standard.known name f h args

theorem call_of_mem_pairComparisons (args : List Value) :
    ∀ named ∈ pairComparisons, FunctionTable.standard.call named.1 args =
      callComparison named.1 named.2 args := by
  simp only [pairComparisons, List.forall_mem_cons]
  exact ⟨call_standard rfl args, call_standard rfl args, call_standard rfl args,
    call_standard rfl args, call_standard rfl args, List.forall_mem_nil _⟩

theorem call_distinct_iff {args : List Value} {r : Except CallError Value} :
    FunctionTable.standard.call "distinct" args = r ↔
      SingleCall "distinct" "list of strings" GivesDistinct args r := by
  rw [call_standard (f := callDistinct) rfl]
  exact takesOne_callDistinct.eq_iff givesDistinct_iff

/-- Calls of the standard functions come to what the functions behind them give. -/
theorem standardAnswers (args : List Value) : StandardAnswers args where
  eq r := by
    rw [call_standard (f := callEq) rfl]
    exact callEq_eq_iff
  pairs named hnamed r := by
    rw [call_of_mem_pairComparisons args named hnamed]
    exact callComparison_eq_iff
  expected := by decide
  distinct _ := call_distinct_iff
  distinctAgain result h := by
    cases call_distinct_iff.mp h with
    | one h => exact call_distinct_iff.mpr (.one h.again)
  unTitle r := by
    rw [call_standard (f := callUnTitle) rfl]
    exact takesOne_callUnTitle.eq_iff givesUnTitled_iff
  pairsInRange named hnamed := by
    rw [call_of_mem_pairComparisons args named hnamed]
    exact byPosition_pairBody
  distinctInRange := by
    rw [call_standard (f := callDistinct) rfl]
    exact takesOne_callDistinct.byPosition_eq args
  unTitleInRange := by
    rw [call_standard (f := callUnTitle) rfl]
    exact takesOne_callUnTitle.byPosition_eq args

end StructGen
