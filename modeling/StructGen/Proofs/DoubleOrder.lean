import Mathlib.Algebra.Order.Field.Basic
import Mathlib.Algebra.Order.Field.Rat
import Mathlib.Data.Int.ConditionallyCompleteOrder
import Mathlib.Order.Monotone.Basic
import Mathlib.Order.WithBot
import Mathlib.Tactic.Positivity
import Mathlib.Tactic.Ring
import StructGen.Binary64

namespace StructGen

namespace Binary64

/-- The absolute value of a finite double, as a multiple of the least positive double. -/
def multiple (x : Binary64) : Nat :=
  x.significand.1 * 2 ^ x.significand.2

/-- The number that a double denotes on the line with its two infinite ends; a NaN denotes none. -/
def number? (x : Binary64) : Option (WithBot (WithTop ℚ)) :=
  if x.isNaN then none
  else if x.isInfinite then some (if x.isNegative then ⊥ else ⊤)
  else
    let signed : Int := if x.isNegative then -x.multiple else x.multiple
    some ((signed / 2 ^ 1074 : ℚ) : WithTop ℚ)

def multipleAt (m : Nat) : Nat :=
  if m / 2 ^ 52 = 0 then m % 2 ^ 52 else (m % 2 ^ 52 + 2 ^ 52) * 2 ^ (m / 2 ^ 52 - 1)

theorem multiple_eq (x : Binary64) : x.multiple = multipleAt x.magnitude := by
  simp only [multiple, significand, multipleAt, Nat.pow_eq]
  split <;> simp

/-- The next magnitude stands for a greater number, also where the exponent changes. -/
theorem multipleAt_lt_succ (m : Nat) : multipleAt m < multipleAt (m + 1) := by
  by_cases hlast : m % 2 ^ 52 + 1 = 2 ^ 52
  · have hfield : (m + 1) / 2 ^ 52 = m / 2 ^ 52 + 1 := by omega
    have hfraction : (m + 1) % 2 ^ 52 = 0 := by omega
    simp only [multipleAt, hfield, hfraction]
    cases m / 2 ^ 52 with
    | zero =>
      simp only [if_true, zero_add, one_ne_zero, if_false, Nat.sub_self, pow_zero, mul_one]
      omega
    | succ e =>
      simp only [Nat.add_one_ne_zero, if_false, Nat.add_sub_cancel]
      calc (m % 2 ^ 52 + 2 ^ 52) * 2 ^ e < (2 ^ 52 + 2 ^ 52) * 2 ^ e :=
            Nat.mul_lt_mul_of_pos_right (by omega) (by positivity)
        _ = (0 + 2 ^ 52) * 2 ^ (e + 1) := by ring
  · have hfield : (m + 1) / 2 ^ 52 = m / 2 ^ 52 := by omega
    have hfraction : (m + 1) % 2 ^ 52 = m % 2 ^ 52 + 1 := by omega
    simp only [multipleAt, hfield, hfraction]
    split
    · omega
    · exact Nat.mul_lt_mul_of_pos_right (by omega) (by positivity)

def signedMultipleAt (r : Int) : Int :=
  r.sign * multipleAt r.natAbs

theorem signedMultipleAt_natCast (m : Nat) : signedMultipleAt m = multipleAt m := by
  cases m with
  | zero => decide
  | succ m => rw [signedMultipleAt, Int.sign_eq_one_of_pos (by omega), one_mul, Int.natAbs_natCast]

theorem signedMultipleAt_neg_natCast (m : Nat) :
    signedMultipleAt (-(m : Int)) = -(multipleAt m : Int) := by
  rw [← signedMultipleAt_natCast, signedMultipleAt, Int.sign_neg, Int.natAbs_neg, neg_mul,
    signedMultipleAt]

theorem strictMono_signedMultipleAt : StrictMono signedMultipleAt := by
  refine strictMono_int_of_lt_succ fun r => ?_
  cases r with
  | ofNat m =>
    have hlt := multipleAt_lt_succ m
    have hnext : signedMultipleAt (m + 1) = multipleAt (m + 1) := signedMultipleAt_natCast (m + 1)
    rw [Int.ofNat_eq_natCast, hnext, signedMultipleAt_natCast]
    omega
  | negSucc m =>
    have hlt := multipleAt_lt_succ m
    have hthis : Int.negSucc m = -((m + 1 : Nat) : Int) := rfl
    have hnext : -((m + 1 : Nat) : Int) + 1 = -(m : Int) := by omega
    rw [hthis, hnext, signedMultipleAt_neg_natCast, signedMultipleAt_neg_natCast]
    omega

/-- The number at a rank that no infinity exceeds. -/
def numberAt (r : Int) : WithBot (WithTop ℚ) :=
  if r = -infiniteMagnitude then ⊥
  else if r = infiniteMagnitude then ⊤
  else ((signedMultipleAt r / 2 ^ 1074 : ℚ) : WithTop ℚ)

theorem strictMonoOn_numberAt :
    StrictMonoOn numberAt (Set.Icc (-(infiniteMagnitude : Int)) infiniteMagnitude) := by
  rintro r ⟨hr, -⟩ s ⟨-, hs⟩ hlt
  have hends : r ≠ infiniteMagnitude ∧ s ≠ -infiniteMagnitude := by omega
  simp only [numberAt, hends, if_false]
  by_cases hbottom : r = -infiniteMagnitude
  · rw [if_pos hbottom]
    split <;> exact WithBot.bot_lt_coe _
  · rw [if_neg hbottom]
    split
    next => exact WithBot.coe_lt_coe.mpr (WithTop.coe_lt_top _)
    next =>
      have hmultiples : (signedMultipleAt r : ℚ) < signedMultipleAt s :=
        Int.cast_lt.mpr (strictMono_signedMultipleAt hlt)
      have hnumbers : (signedMultipleAt r / 2 ^ 1074 : ℚ) < signedMultipleAt s / 2 ^ 1074 :=
        div_lt_div_of_pos_right hmultiples (by positivity)
      exact WithBot.coe_lt_coe.mpr (WithTop.coe_lt_coe.mpr hnumbers)

theorem rank_mem_of_not_isNaN {x : Binary64} (h : x.isNaN = false) :
    x.rank ∈ Set.Icc (-(infiniteMagnitude : Int)) infiniteMagnitude := by
  simp only [isNaN, decide_eq_false_iff_not] at h
  rw [Set.mem_Icc, rank]
  split <;> omega

theorem number?_of_not_isNaN {x : Binary64} (h : x.isNaN = false) :
    x.number? = some (numberAt x.rank) := by
  have hpos : 0 < infiniteMagnitude := by decide
  cases hsign : x.isNegative with
  | false =>
    have hbottom : (x.magnitude : Int) ≠ -infiniteMagnitude := by omega
    simp only [number?, numberAt, rank, isInfinite, h, hsign, hbottom, Bool.false_eq_true, if_false,
      decide_eq_true_eq, Int.natCast_inj, multiple_eq, signedMultipleAt_natCast]
    split <;> rfl
  | true =>
    have htop : -(x.magnitude : Int) ≠ infiniteMagnitude := by omega
    simp only [number?, numberAt, rank, isInfinite, h, hsign, htop, Bool.false_eq_true, if_false,
      if_true, decide_eq_true_eq, Int.neg_inj, Int.natCast_inj, multiple_eq,
      signedMultipleAt_neg_natCast]
    split <;> rfl

theorem number?_eq_some_iff {x : Binary64} {p : WithBot (WithTop ℚ)} :
    x.number? = some p ↔ x.isNaN = false ∧ p = numberAt x.rank := by
  cases h : x.isNaN with
  | true => simp [number?, h]
  | false => simp [number?_of_not_isNaN h, eq_comm]

/-- A double is below another exactly when both denote numbers that stand in this order. -/
theorem less_iff {x y : Binary64} :
    x.less y = true ↔ ∃ p q, x.number? = some p ∧ y.number? = some q ∧ p < q := by
  simp only [less, Bool.and_eq_true, Bool.not_eq_true', decide_eq_true_eq, number?_eq_some_iff]
  constructor
  · rintro ⟨⟨hx, hy⟩, hlt⟩
    have hnumbers := strictMonoOn_numberAt (rank_mem_of_not_isNaN hx) (rank_mem_of_not_isNaN hy) hlt
    exact ⟨_, _, ⟨hx, rfl⟩, ⟨hy, rfl⟩, hnumbers⟩
  · rintro ⟨_, _, ⟨hx, rfl⟩, ⟨hy, rfl⟩, hlt⟩
    have hranks := strictMonoOn_numberAt.lt_iff_lt (rank_mem_of_not_isNaN hx)
      (rank_mem_of_not_isNaN hy)
    exact ⟨⟨hx, hy⟩, hranks.mp hlt⟩

/-- Doubles are equal exactly when they denote one number. -/
theorem equals_iff {x y : Binary64} :
    x.equals y = true ↔ ∃ p, x.number? = some p ∧ y.number? = some p := by
  simp only [equals, Bool.and_eq_true, Bool.not_eq_true', decide_eq_true_eq, number?_eq_some_iff]
  constructor
  · rintro ⟨⟨hx, hy⟩, heq⟩
    exact ⟨_, ⟨hx, rfl⟩, hy, congrArg numberAt heq⟩
  · rintro ⟨_, ⟨hx, rfl⟩, hy, heq⟩
    have hranks := strictMonoOn_numberAt.injOn (rank_mem_of_not_isNaN hx)
      (rank_mem_of_not_isNaN hy) heq
    exact ⟨⟨hx, hy⟩, hranks⟩

theorem equals_comm (x y : Binary64) : x.equals y = y.equals x := by
  rw [Bool.eq_iff_iff, equals_iff, equals_iff]
  simp only [and_comm]

end Binary64

end StructGen
