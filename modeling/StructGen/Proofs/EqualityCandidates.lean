import StructGen.Proofs.ComparisonFailure

namespace StructGen

namespace Value

/-- Whether a value is of no kind. -/
inductive Kindless : Value → Prop
  | nil : Kindless .nil
  | map (entries : List (String × Value)) : Kindless (.map entries)

/-- Whether two values are equal. Doubles are equal by the numbers that they denote, so that a NaN
equals nothing; lists and values of no kind have no equality. -/
inductive Equal : Value → Value → Prop
  | bool (b : Bool) : Equal (.bool b) (.bool b)
  | int (n : Int64) : Equal (.int n) (.int n)
  | uint (n : UInt64) : Equal (.uint n) (.uint n)
  | string (s : String) : Equal (.string s) (.string s)
  | float {x y : Binary64} {p : WithBot (WithTop ℚ)} (hx : x.number? = some p)
    (hy : y.number? = some p) : Equal (.float x) (.float y)
  | complex {z w : Complex} {p q : WithBot (WithTop ℚ)} (hzre : z.re.number? = some p)
    (hwre : w.re.number? = some p) (hzim : z.im.number? = some q) (hwim : w.im.number? = some q) :
    Equal (.complex z) (.complex w)

/-- What a candidate makes of the question whether it or a later one equals a value, if it decides
the question. -/
inductive Decides (a : Value) : Value → Except CompareError Bool → Prop
  | equal {c : Value} (h : Equal a c) : Decides a c (.ok true)
  | kindless {c : Value} (h : Kindless c) : Decides a c (.error .invalidType)
  | lists {xs : List Value} (h : a = .list xs) (ys : List Value) :
    Decides a (.list ys) (.error .invalidType)
  | mixed {c : Value} (h : Mixed a c) : Decides a c (.error .incompatible)

/-- Whether a candidate leaves the question open: it is of the kind of the value, which is not that
of lists, but does not equal it. -/
def LeavesOpen (a c : Value) : Prop :=
  ∃ k, a.kind = .ok k ∧ c.kind = .ok k ∧ k ≠ .list ∧ ¬ Equal a c

/-- How equality of a value with some of the candidates comes out: the first candidate that decides
gives the answer, and without one the answer is no. -/
inductive Settled (a : Value) : List Value → Except CompareError Bool → Prop
  | kindless (h : Kindless a) (candidates : List Value) :
    Settled a candidates (.error .invalidType)
  | missing (h : ¬ Kindless a) : Settled a [] (.error .missingArgument)
  | decided (h : ¬ Kindless a) {before : List Value} {c : Value} {r : Except CompareError Bool}
    (skipped : ∀ b ∈ before, LeavesOpen a b) (decides : Decides a c r) (later : List Value) :
    Settled a (before ++ c :: later) r
  | leftOpen (h : ¬ Kindless a) {candidates : List Value} (any : candidates ≠ [])
    (skipped : ∀ c ∈ candidates, LeavesOpen a c) : Settled a candidates (.ok false)

variable {a c : Value} {r : Except CompareError Bool} {before later candidates : List Value}

theorem kindless_iff : Kindless a ↔ a.kind = .error .invalidType := by
  constructor
  · intro h
    cases h <;> rfl
  · intro h
    cases a with
    | nil => exact .nil
    | map entries => exact .map entries
    | _ => cases h

theorem exists_kind_of_not_kindless (h : ¬ Kindless a) : ∃ k, a.kind = .ok k := by
  cases hk : a.kind with
  | error e => exact absurd (kindless_iff.mpr (eq_invalidType_of_kind hk ▸ hk)) h
  | ok k => exact ⟨k, rfl⟩

theorem equal_iff : Equal a c ↔ a.equals c = .ok true := by
  constructor
  · intro h
    cases h with
    | bool | int | uint | string => exact congrArg Except.ok (beq_self_eq_true _)
    | float hx hy => exact congrArg Except.ok (Binary64.equals_iff.mpr ⟨_, hx, hy⟩)
    | complex hzre hwre hzim hwim =>
      exact congrArg Except.ok (congrArg₂ and (Binary64.equals_iff.mpr ⟨_, hzre, hwre⟩)
        (Binary64.equals_iff.mpr ⟨_, hzim, hwim⟩))
  · intro h
    have hc := compared a c
    rw [h] at hc
    generalize hr : Except.ok true = r, a.lt c = less at hc
    cases hc with
    | kindless | mixed | list => contradiction
    | bool x y =>
      obtain rfl := eq_of_beq (Except.ok.inj hr).symm
      exact .bool x
    | int m n =>
      obtain rfl := eq_of_beq (Except.ok.inj hr).symm
      exact .int m
    | uint m n =>
      obtain rfl := eq_of_beq (Except.ok.inj hr).symm
      exact .uint m
    | string s t =>
      obtain rfl := eq_of_beq (Except.ok.inj hr).symm
      exact .string s
    | float x y =>
      obtain ⟨p, hx, hy⟩ := Binary64.equals_iff.mp (Except.ok.inj hr).symm
      exact .float hx hy
    | complex z w =>
      obtain ⟨hre, him⟩ := Bool.and_eq_true_iff.mp (Except.ok.inj hr).symm
      obtain ⟨p, hzre, hwre⟩ := Binary64.equals_iff.mp hre
      obtain ⟨q, hzim, hwim⟩ := Binary64.equals_iff.mp him
      exact .complex hzre hwre hzim hwim

/-- A candidate leaves the question open exactly if comparing it says no. -/
theorem leavesOpen_iff : LeavesOpen a c ↔ a.equals c = .ok false := by
  have hc := compared a c
  constructor
  · rintro ⟨k, ha, hck, hlist, hne⟩
    rw [equal_iff] at hne
    generalize a.equals c = equal, a.lt c = less at hc hne ⊢
    cases hc with
    | kindless h => simp [ha, hck] at h
    | mixed h => simp [Mixed, ha, hck] at h
    | list => exact absurd (Except.ok.inj ha).symm hlist
    | _ => simpa using hne
  · intro h
    have hne : ¬ Equal a c := by simp [equal_iff, h]
    rw [h] at hc
    generalize hr : Except.ok false = r, a.lt c = less at hc
    cases hc with
    | kindless | mixed | list => contradiction
    | _ => exact ⟨_, rfl, rfl, by decide, hne⟩

/-- A candidate decides with the answer that comparing it gives, unless that is no. -/
theorem decides_iff (ha : ¬ Kindless a) : Decides a c r ↔ a.equals c = r ∧ r ≠ .ok false := by
  constructor
  · intro h
    cases h with
    | equal h => exact ⟨equal_iff.mp h, nofun⟩
    | kindless h => exact ⟨(outcome_of_compared (.kindless (.inr (kindless_iff.mp h)))).1, nofun⟩
    | lists h ys =>
      subst h
      exact ⟨rfl, nofun⟩
    | mixed h => exact ⟨(outcome_of_compared (.mixed h)).1, nofun⟩
  · rintro ⟨rfl, hne⟩
    have hc := compared a c
    cases hr : a.equals c with
    | ok answer =>
      cases answer with
      | true => exact .equal (equal_iff.mpr hr)
      | false => exact absurd hr hne
    | error e =>
      rw [hr] at hc
      generalize hr : Except.error e = r, a.lt c = less at hc ⊢
      cases hc with
      | kindless h =>
        have hkind := h.resolve_left fun h => ha (kindless_iff.mpr h)
        exact .kindless (kindless_iff.mpr hkind)
      | mixed h => exact .mixed h
      | list xs ys => exact .lists rfl ys
      | _ => contradiction

theorem decides_or_leavesOpen (ha : ¬ Kindless a) (c : Value) :
    (∃ r, Decides a c r) ∨ LeavesOpen a c := by
  by_cases h : a.equals c = .ok false
  · exact .inr (leavesOpen_iff.mpr h)
  · exact .inl ⟨a.equals c, (decides_iff ha).mpr ⟨rfl, h⟩⟩

theorem Decides.not_leavesOpen (h : Decides a c r) (ha : ¬ Kindless a) : ¬ LeavesOpen a c := by
  obtain ⟨rfl, hne⟩ := (decides_iff ha).mp h
  rwa [leavesOpen_iff]

theorem equalsSome_append (h : ∀ b ∈ before, LeavesOpen a b) (later : List Value) :
    a.equalsSome (before ++ later) = a.equalsSome later := by
  induction before with
  | nil => rfl
  | cons b before ih =>
    obtain ⟨hb, hbefore⟩ := List.forall_mem_cons.mp h
    rw [List.cons_append, equalsSome, leavesOpen_iff.mp hb]
    exact ih hbefore

theorem equalsSome_cons_of_decides (ha : ¬ Kindless a) (h : Decides a c r) (later : List Value) :
    a.equalsSome (c :: later) = r := by
  obtain ⟨hr, hne⟩ := (decides_iff ha).mp h
  rw [equalsSome, hr]
  cases r with
  | error e => rfl
  | ok answer =>
    cases answer with
    | true => rfl
    | false => exact absurd rfl hne

theorem eq_of_not_kindless (ha : ¬ Kindless a) (any : candidates ≠ []) :
    a.eq candidates = a.equalsSome candidates := by
  obtain ⟨k, hk⟩ := exists_kind_of_not_kindless ha
  have hany : candidates.isEmpty = false := List.isEmpty_eq_false_iff.mpr any
  rw [eq, hk, hany]
  rfl

theorem Settled.eq_eq (h : Settled a candidates r) : a.eq candidates = r := by
  cases h with
  | kindless h =>
    rw [eq, kindless_iff.mp h]
    rfl
  | missing h =>
    obtain ⟨k, hk⟩ := exists_kind_of_not_kindless h
    rw [eq, hk]
    rfl
  | decided h skipped decides later =>
    rw [eq_of_not_kindless h (by simp), equalsSome_append skipped]
    exact equalsSome_cons_of_decides h decides later
  | leftOpen h any skipped =>
    rw [eq_of_not_kindless h any, ← List.append_nil candidates, equalsSome_append skipped]
    rfl

/-- Among some candidates there is a first that decides, if not all leave the question open. -/
theorem exists_first_decides (ha : ¬ Kindless a) (candidates : List Value) :
    (∀ c ∈ candidates, LeavesOpen a c) ∨ ∃ before c r later, candidates = before ++ c :: later ∧
      (∀ b ∈ before, LeavesOpen a b) ∧ Decides a c r := by
  induction candidates with
  | nil => exact .inl (List.forall_mem_nil _)
  | cons c candidates ih =>
    rcases decides_or_leavesOpen ha c with ⟨r, hr⟩ | hopen
    · exact .inr ⟨[], c, r, candidates, rfl, List.forall_mem_nil _, hr⟩
    · rcases ih with hall | ⟨before, d, r, later, rfl, hbefore, hr⟩
      · exact .inl (List.forall_mem_cons.mpr ⟨hopen, hall⟩)
      · exact .inr ⟨c :: before, d, r, later, rfl, List.forall_mem_cons.mpr ⟨hopen, hbefore⟩, hr⟩

theorem settled_eq (a : Value) (candidates : List Value) :
    Settled a candidates (a.eq candidates) := by
  have hsettled : ∃ r, Settled a candidates r := by
    by_cases ha : Kindless a
    · exact ⟨_, .kindless ha candidates⟩
    · rcases exists_first_decides ha candidates with hall | ⟨before, c, r, later, rfl, hbefore, hr⟩
      · cases candidates with
        | nil => exact ⟨_, .missing ha⟩
        | cons c candidates => exact ⟨_, .leftOpen ha (List.cons_ne_nil _ _) hall⟩
      · exact ⟨r, .decided ha hbefore hr later⟩
  obtain ⟨r, hr⟩ := hsettled
  rwa [hr.eq_eq]

theorem eq_eq_iff_settled : a.eq candidates = r ↔ Settled a candidates r :=
  ⟨fun h => h ▸ settled_eq a candidates, Settled.eq_eq⟩

theorem eq_append_of_decides (h : Decides a c r) (hc : c ∈ candidates) (later : List Value) :
    a.eq (candidates ++ later) = a.eq candidates := by
  by_cases ha : Kindless a
  · rw [(Settled.kindless ha _).eq_eq, (Settled.kindless ha _).eq_eq]
  · rcases exists_first_decides ha candidates with hall | ⟨before, d, r, rest, rfl, hbefore, hr⟩
    · exact absurd (hall c hc) (h.not_leavesOpen ha)
    · rw [List.append_assoc, List.cons_append, (Settled.decided ha hbefore hr _).eq_eq,
        (Settled.decided ha hbefore hr _).eq_eq]

section SameKind

variable {k : Kind}

/-- Beside a value of a kind that has an equality, a candidate of the kind can only decide by
being equal. -/
theorem Decides.equal_of_kind (h : Decides a c r) (ha : a.kind = .ok k) (hlist : k ≠ .list)
    (hc : c.kind = .ok k) : r = .ok true ∧ Equal a c := by
  cases h with
  | equal h => exact ⟨rfl, h⟩
  | kindless h => simp [kindless_iff.mp h] at hc
  | lists h => exact absurd (Except.ok.inj hc).symm hlist
  | mixed h => simp [Mixed, ha, hc] at h

theorem eq_of_same_kind (ha : a.kind = .ok k) (hlist : k ≠ .list)
    (hkind : ∀ c ∈ candidates, c.kind = .ok k) (any : candidates ≠ []) :
    ((∃ c ∈ candidates, Equal a c) ∧ a.eq candidates = .ok true) ∨
      ((∀ c ∈ candidates, ¬ Equal a c) ∧ a.eq candidates = .ok false) := by
  have hkindless : ¬ Kindless a := by simp [kindless_iff, ha]
  rcases exists_first_decides hkindless candidates with
    hall | ⟨before, c, r, later, rfl, hbefore, hr⟩
  · refine .inr ⟨fun c hc => ?_, (Settled.leftOpen hkindless any hall).eq_eq⟩
    obtain ⟨_, _, _, _, hne⟩ := hall c hc
    exact hne
  · have hc : c ∈ before ++ c :: later := by simp
    obtain ⟨rfl, hequal⟩ := hr.equal_of_kind ha hlist (hkind c hc)
    exact .inl ⟨⟨c, hc, hequal⟩, (Settled.decided hkindless hbefore hr later).eq_eq⟩

theorem eq_eq_true_iff (ha : a.kind = .ok k) (hlist : k ≠ .list)
    (hkind : ∀ c ∈ candidates, c.kind = .ok k) :
    a.eq candidates = .ok true ↔ ∃ c ∈ candidates, Equal a c := by
  by_cases hnil : candidates = []
  · have hmissing : a.eq [] = .error .missingArgument :=
      (Settled.missing (by simp [kindless_iff, ha])).eq_eq
    simp [hnil, hmissing]
  · rcases eq_of_same_kind ha hlist hkind hnil with ⟨hsome, heq⟩ | ⟨hnone, heq⟩
    · exact iff_of_true heq hsome
    · refine iff_of_false (by simp [heq]) ?_
      rintro ⟨c, hc, hequal⟩
      exact hnone c hc hequal

theorem eq_eq_of_same_members (ha : a.kind = .ok k) (hlist : k ≠ .list)
    (hkind : ∀ c ∈ candidates, c.kind = .ok k) {others : List Value}
    (hsame : ∀ c, c ∈ others ↔ c ∈ candidates) : a.eq others = a.eq candidates := by
  have hnone : others = [] ↔ candidates = [] := by
    simp only [List.eq_nil_iff_forall_not_mem, hsame]
  by_cases hnil : candidates = []
  · rw [hnil, hnone.mpr hnil]
  · have hany : others ≠ [] := hnone.not.mpr hnil
    have hkind' : ∀ c ∈ others, c.kind = .ok k := fun c hc => hkind c ((hsame c).mp hc)
    rcases eq_of_same_kind ha hlist hkind' hany with ⟨⟨c, hc, hequal⟩, heq⟩ | ⟨hunequal, heq⟩
    · rw [heq, (eq_eq_true_iff ha hlist hkind).mpr ⟨c, (hsame c).mp hc, hequal⟩]
    · rcases eq_of_same_kind ha hlist hkind hnil with ⟨⟨c, hc, hequal⟩, _⟩ | ⟨_, heq'⟩
      · exact absurd hequal (hunequal c ((hsame c).mpr hc))
      · rw [heq, heq']

end SameKind

/-- Equality with some of the candidates comes out as the first candidate that decides says, and
nothing after that one matters. Among candidates of the value's own kind, if that has an equality,
neither order nor repetition matters: the answer is whether one of them equals the value. -/
theorem eq_decided_by_first (a : Value) :
    (∀ candidates r, a.eq candidates = r ↔ Settled a candidates r) ∧
    (∀ candidates, (∃ c ∈ candidates, ∃ r, Decides a c r) →
      ∀ later, a.eq (candidates ++ later) = a.eq candidates) ∧
    ∀ k, a.kind = .ok k → k ≠ .list → ∀ candidates, (∀ c ∈ candidates, c.kind = .ok k) →
      (a.eq candidates = .ok true ↔ ∃ c ∈ candidates, Equal a c) ∧
      ∀ others, (∀ c, c ∈ others ↔ c ∈ candidates) → a.eq others = a.eq candidates := by
  refine ⟨fun _ _ => eq_eq_iff_settled, ?_, ?_⟩
  · rintro candidates ⟨c, hc, r, hr⟩
    exact eq_append_of_decides hr hc
  · intro k ha hlist candidates hkind
    exact ⟨eq_eq_true_iff ha hlist hkind, fun _ => eq_eq_of_same_members ha hlist hkind⟩

/-- A candidate of another kind decides before one that is equal, and a NaN beside the zeros leaves
the question open wherever it stands. -/
theorem eq_decided_by_first_of_zeros :
    let double (x : Binary64) : Value := .float x
    let nan := double (.ofMagnitude true (Binary64.infiniteMagnitude + 1))
    let a := double (.zero true)
    let b := double (.zero false)
    let mixed : List Value := [nan, .string "0", b]
    let zeros : List Value := [nan, b]
    (a.eq mixed = .error .incompatible ↔ Settled a mixed (.error .incompatible)) ∧
    ((∃ c ∈ mixed, ∃ r, Decides a c r) ∧ a.eq (mixed ++ [.nil]) = a.eq mixed) ∧
    (a.kind = .ok .float ∧ Kind.float ≠ .list) ∧ (∀ c ∈ zeros, c.kind = .ok .float) ∧
    (a.eq zeros = .ok true ↔ ∃ c ∈ zeros, Equal a c) ∧
    (∀ c, c ∈ [b, nan, b] ↔ c ∈ zeros) ∧ a.eq [b, nan, b] = a.eq zeros := by
  intro double nan a b mixed zeros
  obtain ⟨houtcome, hlater, hkinds⟩ := eq_decided_by_first a
  have hdecides : ∃ c ∈ mixed, ∃ r, Decides a c r :=
    ⟨.string "0", by simp [mixed], _, .mixed ⟨.float, .string, rfl, rfl, nofun⟩⟩
  have hkind : ∀ c ∈ zeros, c.kind = .ok .float := by
    simp only [zeros, List.forall_mem_cons]
    exact ⟨rfl, rfl, List.forall_mem_nil _⟩
  have hsame : ∀ c, c ∈ [b, nan, b] ↔ c ∈ zeros := by
    intro c
    simp only [zeros, List.mem_cons, List.not_mem_nil, or_false]
    exact ⟨fun h => h.elim .inr id, fun h => h.elim (.inr ∘ .inl) .inl⟩
  obtain ⟨htrue, hothers⟩ := hkinds .float rfl nofun zeros hkind
  exact ⟨houtcome _ _, ⟨hdecides, hlater _ hdecides _⟩, ⟨rfl, nofun⟩, hkind, htrue, hsame,
    hothers _ hsame⟩

end Value

end StructGen
