import StructGen.Comparison
import StructGen.Proofs.DoubleOrder

namespace StructGen

theorem Complex.equals_comm (z w : Complex) : z.equals w = w.equals z := by
  rw [equals, equals, Binary64.equals_comm z.re, Binary64.equals_comm z.im]

namespace Value

/-- With a single candidate, equality with some candidate is equality with that one. -/
theorem eq_singleton (a b : Value) : a.eq [b] = a.equals b := by
  cases ha : a.kind with
  | error e => simp [eq, equals, ha, bind, Except.bind]
  | ok k =>
    simp only [eq, equalsSome, ha]
    cases a.equals b with
    | error e => rfl
    | ok r => cases r <;> rfl

theorem eq_invalidType_of_kind {a : Value} {e : CompareError} (h : a.kind = .error e) :
    e = .invalidType := by
  cases a <;> cases h <;> rfl

/-- Whether two values are of different kinds. -/
def Mixed (a b : Value) : Prop :=
  ∃ k l, a.kind = .ok k ∧ b.kind = .ok l ∧ k ≠ l

theorem Mixed.symm {a b : Value} (h : Mixed a b) : Mixed b a := by
  obtain ⟨k, l, ha, hb, hne⟩ := h
  exact ⟨l, k, hb, ha, hne.symm⟩

/-- How two values meet in a comparison: the answer to whether they are equal, and the answer to
whether the first is below the second. -/
inductive Compared : Value → Value → Except CompareError Bool → Except CompareError Bool → Prop
  | kindless {a b : Value} (h : a.kind = .error .invalidType ∨ b.kind = .error .invalidType) :
    Compared a b (.error .invalidType) (.error .invalidType)
  | mixed {a b : Value} (h : Mixed a b) : Compared a b (.error .incompatible) (.error .incompatible)
  | bool (x y : Bool) : Compared (.bool x) (.bool y) (.ok (x == y)) (.error .invalidType)
  | complex (z w : Complex) :
    Compared (.complex z) (.complex w) (.ok (z.equals w)) (.error .invalidType)
  | list (xs ys : List Value) :
    Compared (.list xs) (.list ys) (.error .invalidType) (.error .invalidType)
  | int (m n : Int64) : Compared (.int m) (.int n) (.ok (m == n)) (.ok (decide (m < n)))
  | uint (m n : UInt64) : Compared (.uint m) (.uint n) (.ok (m == n)) (.ok (decide (m < n)))
  | float (x y : Binary64) : Compared (.float x) (.float y) (.ok (x.equals y)) (.ok (x.less y))
  | string (s t : String) : Compared (.string s) (.string t) (.ok (s == t)) (.ok (decide (s < t)))

theorem exists_compared_of_kind_ne {a b : Value} (h : a.kind ≠ b.kind) :
    ∃ equal less, Compared a b equal less := by
  cases ha : a.kind with
  | error e => exact ⟨_, _, .kindless (.inl (eq_invalidType_of_kind ha ▸ ha))⟩
  | ok k =>
    cases hb : b.kind with
    | error e => exact ⟨_, _, .kindless (.inr (eq_invalidType_of_kind hb ▸ hb))⟩
    | ok l => exact ⟨_, _, .mixed ⟨k, l, ha, hb, fun heq => h (by rw [ha, hb, heq])⟩⟩

theorem exists_compared (a b : Value) : ∃ equal less, Compared a b equal less := by
  cases a with
  | nil | map entries => exact ⟨_, _, .kindless (.inl rfl)⟩
  | bool x =>
    cases b with
    | bool y => exact ⟨_, _, .bool x y⟩
    | _ => exact exists_compared_of_kind_ne nofun
  | int m =>
    cases b with
    | int n => exact ⟨_, _, .int m n⟩
    | _ => exact exists_compared_of_kind_ne nofun
  | uint m =>
    cases b with
    | uint n => exact ⟨_, _, .uint m n⟩
    | _ => exact exists_compared_of_kind_ne nofun
  | float x =>
    cases b with
    | float y => exact ⟨_, _, .float x y⟩
    | _ => exact exists_compared_of_kind_ne nofun
  | complex z =>
    cases b with
    | complex w => exact ⟨_, _, .complex z w⟩
    | _ => exact exists_compared_of_kind_ne nofun
  | string s =>
    cases b with
    | string t => exact ⟨_, _, .string s t⟩
    | _ => exact exists_compared_of_kind_ne nofun
  | list xs =>
    cases b with
    | list ys => exact ⟨_, _, .list xs ys⟩
    | _ => exact exists_compared_of_kind_ne nofun

theorem outcome_of_compared {a b : Value} {equal less : Except CompareError Bool}
    (h : Compared a b equal less) : a.equals b = equal ∧ a.lt b = less := by
  cases h with
  | kindless h =>
    cases ha : a.kind with
    | error e =>
      obtain rfl := eq_invalidType_of_kind ha
      simp [equals, lt, ha, bind, Except.bind]
    | ok k =>
      have hb : b.kind = .error .invalidType := h.resolve_left (by simp [ha])
      simp [equals, lt, ha, hb, bind, Except.bind]
  | mixed h =>
    obtain ⟨k, l, ha, hb, hne⟩ := h
    simp [equals, lt, ha, hb, hne, bind, Except.bind, throw, throwThe, MonadExceptOf.throw]
  | _ => exact ⟨rfl, rfl⟩

theorem compared_iff {a b : Value} {equal less : Except CompareError Bool} :
    Compared a b equal less ↔ a.equals b = equal ∧ a.lt b = less := by
  refine ⟨outcome_of_compared, ?_⟩
  rintro ⟨rfl, rfl⟩
  obtain ⟨equal, less, h⟩ := exists_compared a b
  obtain ⟨rfl, rfl⟩ := outcome_of_compared h
  exact h

theorem compared (a b : Value) : Compared a b (a.equals b) (a.lt b) :=
  compared_iff.mpr ⟨rfl, rfl⟩

/-- Why a comparison gives no answer, if it gives none. -/
def failure? : Except CompareError Bool → Option CompareError
  | .ok _ => none
  | .error e => some e

@[simp]
theorem failure?_ok (answer : Bool) : failure? (.ok answer) = none := rfl

@[simp]
theorem failure?_error (e : CompareError) : failure? (.error e) = some e := rfl

theorem failure?_eq_some_iff {r : Except CompareError Bool} {e : CompareError} :
    failure? r = some e ↔ r = .error e := by
  cases r <;> simp

theorem failure?_map (f : Bool → Bool) (r : Except CompareError Bool) :
    failure? (f <$> r) = failure? r := by
  cases r <;> rfl

theorem exists_compared_swap {a b : Value} {equal less : Except CompareError Bool}
    (h : Compared a b equal less) :
    ∃ less', Compared b a equal less' ∧ failure? less' = failure? less := by
  cases h with
  | kindless h => exact ⟨_, .kindless h.symm, rfl⟩
  | mixed h => exact ⟨_, .mixed h.symm, rfl⟩
  | bool x y => exact ⟨_, BEq.comm (a := y) ▸ .bool y x, rfl⟩
  | complex z w => exact ⟨_, Complex.equals_comm w z ▸ .complex w z, rfl⟩
  | list xs ys => exact ⟨_, .list ys xs, rfl⟩
  | int m n => exact ⟨.ok (decide (n < m)), BEq.comm (a := n) ▸ .int n m, by simp⟩
  | uint m n => exact ⟨.ok (decide (n < m)), BEq.comm (a := n) ▸ .uint n m, by simp⟩
  | float x y => exact ⟨.ok (y.less x), Binary64.equals_comm y x ▸ .float y x, by simp⟩
  | string s t => exact ⟨.ok (decide (t < s)), BEq.comm (a := t) ▸ .string t s, by simp⟩

theorem equals_comm (a b : Value) : a.equals b = b.equals a := by
  obtain ⟨_, hswap, _⟩ := exists_compared_swap (compared a b)
  exact (outcome_of_compared hswap).1.symm

theorem failure?_lt_comm (a b : Value) : failure? (a.lt b) = failure? (b.lt a) := by
  obtain ⟨less, hswap, hfailure⟩ := exists_compared_swap (compared a b)
  rw [(outcome_of_compared hswap).2, hfailure]

/-- The equality that the order falls back on has an answer. -/
theorem exists_equals_of_lt {a b : Value} {less : Bool} (h : a.lt b = .ok less) :
    ∃ equal, a.equals b = .ok equal := by
  have hc := compared a b
  rw [h] at hc
  generalize a.equals b = equal at hc ⊢
  cases hc <;> exact ⟨_, rfl⟩

theorem le_of_lt_eq_ok {a b : Value} {less equal : Bool} (hless : a.lt b = .ok less)
    (hequal : a.equals b = .ok equal) : a.le b = .ok (less || equal) := by
  cases less <;> simp only [le, hless, eq_singleton, hequal, bind, Except.bind] <;> rfl

theorem le_of_lt_eq_error {a b : Value} {e : CompareError} (h : a.lt b = .error e) :
    a.le b = .error e := by
  simp only [le, h, bind, Except.bind]

theorem failure?_le (a b : Value) : failure? (a.le b) = failure? (a.lt b) := by
  cases h : a.lt b with
  | error e => rw [le_of_lt_eq_error h]
  | ok less =>
    obtain ⟨equal, hequal⟩ := exists_equals_of_lt h
    rw [le_of_lt_eq_ok h hequal, failure?_ok, failure?_ok]

/-- The comparisons that ask for the order of two values. -/
def orderings : List (Value → Value → Except CompareError Bool) :=
  [lt, le, gt, ge]

/-- The comparisons that ask whether two values are equal. -/
def equalities : List (Value → Value → Except CompareError Bool) :=
  [fun a b => a.eq [b], ne]

theorem failure?_of_mem_orderings {op : Value → Value → Except CompareError Bool}
    (h : op ∈ orderings) (a b : Value) : failure? (op a b) = failure? (a.lt b) := by
  simp only [orderings, List.mem_cons, List.not_mem_nil, or_false] at h
  rcases h with rfl | rfl | rfl | rfl
  · rfl
  · exact failure?_le a b
  · exact (failure?_map _ _).trans (failure?_le a b)
  · exact failure?_map _ _

theorem failure?_of_mem_equalities {op : Value → Value → Except CompareError Bool}
    (h : op ∈ equalities) (a b : Value) : failure? (op a b) = failure? (a.equals b) := by
  simp only [equalities, List.mem_cons, List.not_mem_nil, or_false] at h
  rw [← eq_singleton]
  rcases h with rfl | rfl
  · rfl
  · exact failure?_map _ _

/-- Whether two values have an equality but no order. -/
inductive Unordered : Value → Value → Prop
  | bool (x y : Bool) : Unordered (.bool x) (.bool y)
  | complex (z w : Complex) : Unordered (.complex z) (.complex w)

theorem unordered_iff (a b : Value) :
    failure? (a.lt b) ≠ none ∧ failure? (a.equals b) = none ↔ Unordered a b := by
  have hc := compared a b
  generalize a.equals b = equal, a.lt b = less at hc
  cases hc with
  | bool x y => exact iff_of_true (by simp) (.bool x y)
  | complex z w => exact iff_of_true (by simp) (.complex z w)
  | kindless h => exact iff_of_false (by simp) fun hu => by cases hu <;> simp [kind] at h
  | mixed h => exact iff_of_false (by simp) fun hu => by cases hu <;> simp [Mixed, kind] at h
  | _ => exact iff_of_false (by simp) nofun

theorem incompatible_iff (a b : Value) {r : Except CompareError Bool}
    (hr : r ∈ [a.lt b, a.equals b]) : failure? r = some .incompatible ↔ Mixed a b := by
  have hc := compared a b
  generalize a.equals b = equal, a.lt b = less at hc hr
  simp only [List.mem_cons, List.not_mem_nil, or_false] at hr
  cases hc with
  | kindless h => rcases hr with rfl | rfl <;> rcases h with h | h <;> simp [Mixed, h]
  | mixed h => rcases hr with rfl | rfl <;> simp [h]
  | _ => rcases hr with rfl | rfl <;> simp [Mixed, kind]

/-- How the comparisons of two values fail, if they do: all that ask for the order for one reason,
and both that ask for equality for one reason. -/
structure FailsAs (a b : Value) (order equality : Option CompareError) : Prop where
  orderings : ∀ op ∈ orderings, failure? (op a b) = order
  equalities : ∀ op ∈ equalities, failure? (op a b) = equality
  order_of_equality : ∀ e, equality = some e → order = some e
  fallback : ∀ less, a.lt b = .ok less → ∃ equal, a.eq [b] = .ok equal
  order_only : order ≠ none ∧ equality = none ↔ Unordered a b
  incompatible : ∀ failure ∈ [order, equality], failure = some .incompatible ↔ Mixed a b
  not_missing : ∀ failure ∈ [order, equality], failure ≠ some .missingArgument

theorem failsAs (a b : Value) : FailsAs a b (failure? (a.lt b)) (failure? (a.equals b)) where
  orderings op h := failure?_of_mem_orderings h a b
  equalities op h := failure?_of_mem_equalities h a b
  order_of_equality := by
    have hc := compared a b
    generalize a.equals b = equal, a.lt b = less at hc ⊢
    cases hc <;> simp
  fallback less h := by
    obtain ⟨equal, hequal⟩ := exists_equals_of_lt h
    exact ⟨equal, (eq_singleton a b).trans hequal⟩
  order_only := unordered_iff a b
  incompatible := by
    simp only [List.forall_mem_cons]
    exact ⟨incompatible_iff a b (by simp), incompatible_iff a b (by simp), List.forall_mem_nil _⟩
  not_missing := by
    have hc := compared a b
    generalize a.equals b = equal, a.lt b = less at hc ⊢
    cases hc <;> simp

/-- The comparisons of two values fail together, and in the same way after the values are
exchanged. -/
theorem fails_together (a b : Value) :
    ∃ order equality, FailsAs a b order equality ∧ FailsAs b a order equality := by
  refine ⟨_, _, failsAs a b, ?_⟩
  rw [failure?_lt_comm, equals_comm]
  exact failsAs b a

end Value

end StructGen
