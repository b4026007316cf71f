import Mathlib.Data.String.Basic
import Mathlib.Order.Compare
import StructGen.Proofs.ValueEquality

namespace StructGen

namespace Binary64

variable {x y : Binary64} {p q : WithBot (WithTop ℚ)}

theorem less_eq_decide (hx : x.number? = some p) (hy : y.number? = some q) :
    x.less y = decide (p < q) := by
  rw [Bool.eq_iff_iff, less_iff, hx, hy]
  simp

theorem equals_eq_decide (hx : x.number? = some p) (hy : y.number? = some q) :
    x.equals y = decide (p = q) := by
  rw [Bool.eq_iff_iff, equals_iff, hx, hy]
  simp [eq_comm]

end Binary64

namespace Value

/-- The order of values: whole numbers and doubles as the numbers that they denote, strings by their
first characters that differ. Values of different kinds are not in order, and no NaN is in order
with anything. -/
inductive Below : Value → Value → Prop
  | int {m n : Int64} (h : m.toInt < n.toInt) : Below (.int m) (.int n)
  | uint {m n : UInt64} (h : m.toNat < n.toNat) : Below (.uint m) (.uint n)
  | float {x y : Binary64} {p q : WithBot (WithTop ℚ)} (hx : x.number? = some p)
    (hy : y.number? = some q) (h : p < q) : Below (.float x) (.float y)
  | string {s t : String} (h : s.toList < t.toList) : Below (.string s) (.string t)

/-- Two values of one kind that has an order, neither of them a NaN. -/
inductive Comparable : Value → Value → Prop
  | int (m n : Int64) : Comparable (.int m) (.int n)
  | uint (m n : UInt64) : Comparable (.uint m) (.uint n)
  | float {x y : Binary64} (hx : x.isNaN = false) (hy : y.isNaN = false) :
    Comparable (.float x) (.float y)
  | string (s t : String) : Comparable (.string s) (.string t)

/-- The answers of the six comparisons to two values that stand in an order. -/
structure AnswersAs (a b : Value) (order : Ordering) : Prop where
  lt : a.lt b = .ok order.isLT
  eq : a.eq [b] = .ok order.isEq
  le : a.le b = .ok order.isLE
  gt : a.gt b = .ok order.isGT
  ge : a.ge b = .ok order.isGE
  ne : a.ne b = .ok order.isNe

/-- The answers of the six comparisons to two values of which one is a NaN. -/
structure AnswersNone (a b : Value) : Prop where
  lt : a.lt b = .ok false
  eq : a.eq [b] = .ok false
  le : a.le b = .ok false
  gt : a.gt b = .ok true
  ge : a.ge b = .ok true
  ne : a.ne b = .ok true

theorem lt_eq_true_iff {a b : Value} : a.lt b = .ok true ↔ Below a b := by
  constructor
  · intro h
    have hc := compared a b
    rw [h] at hc
    generalize a.equals b = equal, hr : Except.ok true = r at hc
    cases hc with
    | kindless | mixed | bool | complex | list => contradiction
    | int m n =>
      have hlt := of_decide_eq_true (Except.ok.inj hr).symm
      exact .int (Int64.lt_iff_toInt_lt.mp hlt)
    | uint m n =>
      have hlt := of_decide_eq_true (Except.ok.inj hr).symm
      exact .uint (UInt64.lt_iff_toNat_lt.mp hlt)
    | float x y =>
      obtain ⟨p, q, hx, hy, hlt⟩ := Binary64.less_iff.mp (Except.ok.inj hr).symm
      exact .float hx hy hlt
    | string s t =>
      have hlt := of_decide_eq_true (Except.ok.inj hr).symm
      exact .string (String.lt_iff_toList_lt.mp hlt)
  · intro h
    cases h with
    | int h => exact congrArg Except.ok (decide_eq_true (Int64.lt_iff_toInt_lt.mpr h))
    | uint h => exact congrArg Except.ok (decide_eq_true (UInt64.lt_iff_toNat_lt.mpr h))
    | float hx hy h => exact congrArg Except.ok (Binary64.less_iff.mpr ⟨_, _, hx, hy, h⟩)
    | string h => exact congrArg Except.ok (decide_eq_true (String.lt_iff_toList_lt.mpr h))

theorem Below.trans {a b c : Value} (h : Below a b) (h' : Below b c) : Below a c := by
  cases h with
  | int h => cases h' with | int h' => exact .int (h.trans h')
  | uint h => cases h' with | uint h' => exact .uint (h.trans h')
  | float hx hy h =>
    cases h' with
    | float hy' hz h' =>
      obtain rfl := Option.some.inj (hy.symm.trans hy')
      exact .float hx hz (h.trans h')
  | string h => cases h' with | string h' => exact .string (List.lt_trans h h')

theorem le_eq_true_iff {a b : Value} :
    a.le b = .ok true ↔ a.lt b = .ok true ∨ a.lt b = .ok false ∧ a.equals b = .ok true := by
  cases hless : a.lt b with
  | error e => simp [le_of_lt_eq_error hless]
  | ok less =>
    obtain ⟨equal, hequal⟩ := exists_equals_of_lt hless
    rw [le_of_lt_eq_ok hless hequal, hequal]
    cases less <;> simp

theorem le_eq_true_trans {a b c : Value} (h : a.le b = .ok true) (h' : b.le c = .ok true) :
    a.le c = .ok true := by
  rcases le_eq_true_iff.mp h with hless | ⟨_, hequal⟩
  · rcases le_eq_true_iff.mp h' with hless' | ⟨_, hequal'⟩
    · exact le_eq_true_iff.mpr (.inl (lt_eq_true_iff.mpr
        ((lt_eq_true_iff.mp hless).trans (lt_eq_true_iff.mp hless'))))
    · have hright := ((alike_of_equals hequal').lt_eq a).2
      exact le_eq_true_iff.mpr (.inl (hright ▸ hless))
  · rw [((alike_of_equals hequal).le_eq c).1, h']

/-- Values whose places in a linear order decide both equality and order answer as these places
compare. -/
theorem answersAs_cmp {γ : Type} [LinearOrder γ] {a b : Value} {p q : γ}
    (hless : a.lt b = .ok (decide (p < q))) (hequal : a.equals b = .ok (decide (p = q))) :
    AnswersAs a b (cmp p q) := by
  have hle := le_of_lt_eq_ok hless hequal
  have heq := (eq_singleton a b).trans hequal
  rcases lt_trichotomy p q with h | rfl | h
  · rw [(cmp_eq_lt_iff p q).mpr h]
    simp only [h, h.ne, decide_true, decide_false, Bool.or_false] at hless heq hle
    constructor <;> simp [hless, heq, hle, gt, ge, ne]
  · rw [cmp_self_eq_eq]
    simp only [lt_irrefl, decide_true, decide_false, Bool.or_true] at hless heq hle
    constructor <;> simp [hless, heq, hle, gt, ge, ne]
  · rw [(cmp_eq_gt_iff p q).mpr h]
    simp only [h.not_gt, h.ne', decide_false, Bool.or_false] at hless heq hle
    constructor <;> simp [hless, heq, hle, gt, ge, ne]

theorem answersAs_int (m n : Int64) : AnswersAs (.int m) (.int n) (cmp m.toInt n.toInt) := by
  refine answersAs_cmp (congrArg Except.ok ?_) (congrArg Except.ok ?_)
  · exact decide_eq_decide.mpr Int64.lt_iff_toInt_lt
  · rw [Bool.eq_iff_iff, beq_iff_eq, decide_eq_true_eq, Int64.toInt_inj]

theorem answersAs_uint (m n : UInt64) : AnswersAs (.uint m) (.uint n) (cmp m.toNat n.toNat) := by
  refine answersAs_cmp (congrArg Except.ok ?_) (congrArg Except.ok ?_)
  · exact decide_eq_decide.mpr UInt64.lt_iff_toNat_lt
  · rw [Bool.eq_iff_iff, beq_iff_eq, decide_eq_true_eq, UInt64.toNat_inj]

theorem answersAs_float {x y : Binary64} {p q : WithBot (WithTop ℚ)} (hx : x.number? = some p)
    (hy : y.number? = some q) : AnswersAs (.float x) (.float y) (cmp p q) :=
  answersAs_cmp (congrArg Except.ok (Binary64.less_eq_decide hx hy))
    (congrArg Except.ok (Binary64.equals_eq_decide hx hy))

theorem answersAs_string (s t : String) : AnswersAs (.string s) (.string t) (cmp s t) := by
  refine answersAs_cmp rfl (congrArg Except.ok ?_)
  rw [Bool.eq_iff_iff, beq_iff_eq, decide_eq_true_eq]

/-- Comparable values stand in exactly one of three orders, and all comparisons follow it. -/
theorem exists_ordering {a b : Value} (h : Comparable a b) :
    ∃ order, AnswersAs a b order ∧ AnswersAs b a order.swap := by
  cases h with
  | int m n => exact ⟨_, answersAs_int m n, cmp_swap m.toInt n.toInt ▸ answersAs_int n m⟩
  | uint m n => exact ⟨_, answersAs_uint m n, cmp_swap m.toNat n.toNat ▸ answersAs_uint n m⟩
  | string s t => exact ⟨_, answersAs_string s t, cmp_swap s t ▸ answersAs_string t s⟩
  | float hx hy =>
    have hp := Binary64.number?_of_not_isNaN hx
    have hq := Binary64.number?_of_not_isNaN hy
    refine ⟨_, answersAs_float hp hq, ?_⟩
    rw [cmp_swap]
    exact answersAs_float hq hp

theorem AnswersAs.lt_iff_below {a b : Value} {order : Ordering} (h : AnswersAs a b order) :
    order = .lt ↔ Below a b := by
  rw [← lt_eq_true_iff, h.lt]
  cases order <;> simp

theorem answersNone_of_isNaN {x y : Binary64} (h : x.isNaN = true ∨ y.isNaN = true) :
    AnswersNone (.float x) (.float y) := by
  have hless : (float x).lt (.float y) = .ok false :=
    congrArg Except.ok (by rcases h with h | h <;> simp [Binary64.less, h])
  have hequal : (float x).equals (.float y) = .ok false :=
    congrArg Except.ok (by rcases h with h | h <;> simp [Binary64.equals, h])
  have hle := le_of_lt_eq_ok hless hequal
  have heq := (eq_singleton _ _).trans hequal
  constructor <;> simp [hless, heq, hle, gt, ge, ne]

theorem gt_eq_error_iff {a b : Value} {e : CompareError} :
    a.gt b = .error e ↔ b.lt a = .error e := by
  rw [← failure?_eq_some_iff, ← failure?_eq_some_iff, gt, failure?_map, failure?_le,
    failure?_lt_comm]

/-- The six comparisons follow one order of the values of each kind: comparable values answer as
they stand in it, and a NaN answers as if it stood nowhere. -/
theorem comparisons_follow_order :
    (∀ a b, Comparable a b → ∃ order : Ordering, (order = .lt ↔ Below a b) ∧
      (order = .gt ↔ Below b a) ∧ AnswersAs a b order ∧ AnswersAs b a order.swap) ∧
    (∀ a b c : Value, a.lt b = .ok true → b.lt c = .ok true → a.lt c = .ok true) ∧
    (∀ a b c : Value, a.le b = .ok true → b.le c = .ok true → a.le c = .ok true) ∧
    (∀ x y : Binary64, x.isNaN = true ∨ y.isNaN = true → AnswersNone (.float x) (.float y)) ∧
    ∀ (a b : Value) (e : CompareError), a.gt b = .error e ↔ b.lt a = .error e := by
  refine ⟨fun a b h => ?_, fun a b c h h' => ?_, fun a b c => le_eq_true_trans,
    fun x y => answersNone_of_isNaN, fun a b e => gt_eq_error_iff⟩
  · obtain ⟨order, hforth, hback⟩ := exists_ordering h
    refine ⟨order, hforth.lt_iff_below, ?_, hforth, hback⟩
    rw [← hback.lt_iff_below]
    cases order <;> simp
  · exact lt_eq_true_iff.mpr ((lt_eq_true_iff.mp h).trans (lt_eq_true_iff.mp h'))

/-- The two zeros are comparable, the infinities stand at the ends, and a NaN answers to nothing. -/
theorem comparisons_follow_order_of_special_doubles :
    let double (x : Binary64) : Value := .float x
    let nan := Binary64.ofMagnitude true (Binary64.infiniteMagnitude + 1)
    let low := double (.infinity true)
    let zero := double (.zero true)
    let high := double (.infinity false)
    (Comparable zero (double (.zero false)) ∧ ∃ order : Ordering,
      (order = .lt ↔ Below zero (double (.zero false))) ∧
      (order = .gt ↔ Below (double (.zero false)) zero) ∧
      AnswersAs zero (double (.zero false)) order ∧
      AnswersAs (double (.zero false)) zero order.swap) ∧
    (low.lt zero = .ok true ∧ zero.lt high = .ok true ∧ low.lt high = .ok true) ∧
    (low.le zero = .ok true ∧ zero.le high = .ok true ∧ low.le high = .ok true) ∧
    (nan.isNaN = true ∧ AnswersNone (.float nan) zero) ∧
    ((Value.list []).gt (.list []) = .error .invalidType ↔
      (Value.list []).lt (.list []) = .error .invalidType) := by
  intro double nan low zero high
  obtain ⟨hordered, hlt, hle, hnan, herror⟩ := comparisons_follow_order
  have hzeros : Comparable zero (double (.zero false)) := .float (by decide) (by decide)
  have hlow : low.lt zero = .ok true := by decide
  have hhigh : zero.lt high = .ok true := by decide
  have hlow' : low.le zero = .ok true := by decide
  have hhigh' : zero.le high = .ok true := by decide
  have hisNaN : nan.isNaN = true := by decide
  exact ⟨⟨hzeros, hordered _ _ hzeros⟩, ⟨hlow, hhigh, hlt _ _ _ hlow hhigh⟩,
    ⟨hlow', hhigh', hle _ _ _ hlow' hhigh'⟩, ⟨hisNaN, hnan _ _ (.inl hisNaN)⟩, herror _ _ _⟩

end Value

end StructGen
