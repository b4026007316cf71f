import StructGen.Proofs.EqualityCandidates

namespace StructGen

namespace Binary64

variable {x y : Binary64}

theorem equals_self_iff : x.equals x = true ↔ x.isNaN = false := by
  simp only [equals_iff, number?_eq_some_iff, and_self, exists_and_left, exists_eq, and_true]

theorem equals_eq_of_number?_eq (h : x.number? = y.number?) (z : Binary64) :
    x.equals z = y.equals z := by
  rw [Bool.eq_iff_iff, equals_iff, equals_iff, h]

theorem less_eq_of_number?_eq (h : x.number? = y.number?) (z : Binary64) :
    x.less z = y.less z ∧ z.less x = z.less y := by
  constructor <;> rw [Bool.eq_iff_iff, less_iff, less_iff, h]

end Binary64

namespace Value

/-- Whether two values are the same, but for different doubles that denote one number. -/
inductive Alike : Value → Value → Prop
  | same (a : Value) : Alike a a
  | float {x y : Binary64} (h : x.number? = y.number?) : Alike (.float x) (.float y)
  | complex {z w : Complex} (hre : z.re.number? = w.re.number?)
    (him : z.im.number? = w.im.number?) : Alike (.complex z) (.complex w)

theorem alike_of_equals {a b : Value} (h : a.equals b = .ok true) : Alike a b := by
  cases equal_iff.mpr h with
  | bool | int | uint | string => exact .same _
  | float hx hy => exact .float (hx.trans hy.symm)
  | complex hzre hwre hzim hwim =>
    exact .complex (hzre.trans hwre.symm) (hzim.trans hwim.symm)

namespace Alike

variable {a b : Value}

theorem kind_eq (h : Alike a b) : a.kind = b.kind := by
  cases h <;> rfl

theorem equals_eq (h : Alike a b) (c : Value) : a.equals c = b.equals c := by
  cases h with
  | same => rfl
  | float h =>
    cases c with
    | float z => exact congrArg Except.ok (Binary64.equals_eq_of_number?_eq h z)
    | _ => rfl
  | complex hre him =>
    cases c with
    | complex v =>
      exact congrArg Except.ok (congrArg₂ and (Binary64.equals_eq_of_number?_eq hre v.re)
        (Binary64.equals_eq_of_number?_eq him v.im))
    | _ => rfl

theorem lt_eq (h : Alike a b) (c : Value) : a.lt c = b.lt c ∧ c.lt a = c.lt b := by
  cases h with
  | same => exact ⟨rfl, rfl⟩
  | float h =>
    cases c with
    | float z =>
      obtain ⟨hleft, hright⟩ := Binary64.less_eq_of_number?_eq h z
      exact ⟨congrArg Except.ok hleft, congrArg Except.ok hright⟩
    | _ => exact ⟨rfl, rfl⟩
  | complex hre him =>
    cases c <;> exact ⟨rfl, rfl⟩

theorem equalsSome_eq (h : Alike a b) (candidates : List Value) :
    a.equalsSome candidates = b.equalsSome candidates := by
  induction candidates with
  | nil => rfl
  | cons c candidates ih => rw [equalsSome, equalsSome, h.equals_eq c, ih]

theorem eq_eq (h : Alike a b) (candidates : List Value) : a.eq candidates = b.eq candidates := by
  rw [eq, eq, h.kind_eq, h.equalsSome_eq]

theorem le_eq (h : Alike a b) (c : Value) : a.le c = b.le c ∧ c.le a = c.le b := by
  obtain ⟨hleft, hright⟩ := h.lt_eq c
  constructor
  · rw [le, le, hleft, h.eq_eq]
  · rw [le, le, hright, eq_singleton, eq_singleton, equals_comm c a, equals_comm c b, h.equals_eq]

end Alike

/-- Whether a value may take the place of another in every comparison: against any candidates, and
on either side of an order. -/
structure Interchangeable (a b : Value) : Prop where
  candidates : ∀ cs, a.eq cs = b.eq cs
  left : ∀ op ∈ orderings, ∀ c, op a c = op b c
  right : ∀ op ∈ orderings, ∀ c, op c a = op c b

theorem Alike.interchangeable {a b : Value} (h : Alike a b) : Interchangeable a b where
  candidates := h.eq_eq
  left := by
    simp only [orderings, List.forall_mem_cons, gt, ge]
    refine ⟨fun c => (h.lt_eq c).1, fun c => (h.le_eq c).1, fun c => ?_, fun c => ?_,
      List.forall_mem_nil _⟩
    · rw [(h.le_eq c).1]
    · rw [(h.lt_eq c).1]
  right := by
    simp only [orderings, List.forall_mem_cons, gt, ge]
    refine ⟨fun c => (h.lt_eq c).2, fun c => (h.le_eq c).2, fun c => ?_, fun c => ?_,
      List.forall_mem_nil _⟩
    · rw [(h.le_eq c).2]
    · rw [(h.lt_eq c).2]

/-- Whether a value equals itself: it has an equality, and no NaN is in it. -/
inductive EqualsItself : Value → Prop
  | bool (b : Bool) : EqualsItself (.bool b)
  | int (n : Int64) : EqualsItself (.int n)
  | uint (n : UInt64) : EqualsItself (.uint n)
  | string (s : String) : EqualsItself (.string s)
  | float {x : Binary64} (h : x.isNaN = false) : EqualsItself (.float x)
  | complex {z : Complex} (hre : z.re.isNaN = false) (him : z.im.isNaN = false) :
    EqualsItself (.complex z)

theorem equals_self_iff {a : Value} : a.equals a = .ok true ↔ EqualsItself a := by
  cases a with
  | nil | list | map => exact iff_of_false nofun nofun
  | bool b => exact iff_of_true (congrArg Except.ok (beq_self_eq_true b)) (.bool b)
  | int n => exact iff_of_true (congrArg Except.ok (beq_self_eq_true n)) (.int n)
  | uint n => exact iff_of_true (congrArg Except.ok (beq_self_eq_true n)) (.uint n)
  | string s => exact iff_of_true (congrArg Except.ok (beq_self_eq_true s)) (.string s)
  | float x =>
    refine ⟨fun h => .float (Binary64.equals_self_iff.mp (Except.ok.inj h)), ?_⟩
    intro h
    cases h with
    | float h => exact congrArg Except.ok (Binary64.equals_self_iff.mpr h)
  | complex z =>
    constructor
    · intro h
      obtain ⟨hre, him⟩ := Bool.and_eq_true_iff.mp (Except.ok.inj h)
      exact .complex (Binary64.equals_self_iff.mp hre) (Binary64.equals_self_iff.mp him)
    · intro h
      cases h with
      | complex hre him =>
        exact congrArg Except.ok (congrArg₂ and (Binary64.equals_self_iff.mpr hre)
          (Binary64.equals_self_iff.mpr him))

/-- Equality with a single candidate is symmetric and transitive, and equal values are
interchangeable. Values without an equality and those with a NaN do not even equal themselves. -/
theorem equality_partial :
    (∀ a b : Value, a.eq [b] = b.eq [a]) ∧
    (∀ a b c : Value, a.eq [b] = .ok true → b.eq [c] = .ok true → a.eq [c] = .ok true) ∧
    (∀ a : Value, a.eq [a] = .ok true ↔ EqualsItself a) ∧
    ∀ a b : Value, a.eq [b] = .ok true → Interchangeable a b := by
  simp only [eq_singleton]
  refine ⟨equals_comm, ?_, fun _ => equals_self_iff,
    fun a b h => (alike_of_equals h).interchangeable⟩
  intro a b c hab hbc
  rw [(alike_of_equals hab).equals_eq, hbc]

/-- Zeros of either sign are equal, also as parts of a complex number. -/
theorem equality_partial_of_signed_zeros :
    let zeros (real imaginary : Bool) : Value := .complex ⟨.zero real, .zero imaginary⟩
    let a := zeros true false
    let b := zeros false false
    let c := zeros false true
    (a.eq [b] = b.eq [a]) ∧ (a.eq [b] = .ok true ∧ b.eq [c] = .ok true ∧ a.eq [c] = .ok true) ∧
      (a.eq [a] = .ok true ↔ EqualsItself a) ∧ Interchangeable a b := by
  intro zeros a b c
  obtain ⟨hcomm, htrans, hself, hplace⟩ := equality_partial
  have hab : a.eq [b] = .ok true := by decide
  have hbc : b.eq [c] = .ok true := by decide
  exact ⟨hcomm a b, ⟨hab, hbc, htrans a b c hab hbc⟩, hself a, hplace a b hab⟩

end Value

end StructGen
