import Mathlib.Data.List.Forall2
import Mathlib.Data.List.Nodup
import StructGen.Json.Record

namespace StructGen

namespace Json

/-- Whether two readings both fail, for whatever reasons, or both give the same value. -/
def Agree {α : Type} (a b : Except ReadError α) : Prop :=
  a.toOption = b.toOption

namespace Agree

variable {α β : Type} {a b : Except ReadError α} {f g : α → Except ReadError β}

theorem refl (a : Except ReadError α) : Agree a a := rfl

theorem trans {c : Except ReadError α} (h : Agree a b) (h' : Agree b c) : Agree a c :=
  Eq.trans h h'

theorem errors (e e' : ReadError) : Agree (.error e : Except ReadError α) (.error e') := rfl

theorem bind (h : Agree a b) (hf : ∀ x, Agree (f x) (g x)) : Agree (a >>= f) (b >>= g) := by
  cases a with
  | error e =>
    cases b with
    | error e' => exact errors e e'
    | ok y => cases h
  | ok x =>
    cases b with
    | error e' => cases h
    | ok y => cases h; exact hf x

theorem map (h : Agree a b) (f : α → β) : Agree (f <$> a) (f <$> b) := by
  cases a with
  | error e =>
    cases b with
    | error e' => exact errors e e'
    | ok y => cases h
  | ok x =>
    cases b with
    | error e' => cases h
    | ok y => cases h; rfl

/-- Two readings that do not depend on each other may be exchanged. -/
theorem exchange {γ : Type} (a : Except ReadError α) (b : Except ReadError β)
    {f g : α → β → Except ReadError γ} (h : ∀ x y, a = .ok x → b = .ok y → Agree (f x y) (g x y)) :
    Agree (a >>= fun x => b >>= f x) (b >>= fun y => a >>= fun x => g x y) := by
  cases a with
  | error e =>
    cases b with
    | error e' => exact errors e e'
    | ok y => exact refl _
  | ok x =>
    cases b with
    | error e' => exact refl _
    | ok y => exact h x y rfl rfl

theorem eq_ok {x : α} (h : Agree a b) (ha : a = .ok x) : b = .ok x := by
  subst ha
  cases b with
  | error e => cases h
  | ok y => cases h; rfl

end Agree

abbrev FieldRelation := String → Node → Node → Prop

/-- Whether members have the same keys in the same order and values that are related for them. -/
def MembersRelated (R : FieldRelation) : List Member → List Member → Prop :=
  List.Forall₂ fun m m' => m.1 = m'.1 ∧ ∀ key, m.1 = .ok key → R key m.2 m'.2

/-- Whether items are related as values of some fields in their order; items past the last field
are the same. -/
def ItemsRelated (R : FieldRelation) : List String → List Node → List Node → Prop
  | name :: names, n :: ns, n' :: ns' => R name n n' ∧ ItemsRelated R names ns ns'
  | _, ns, ns' => ns = ns'

/-- Whether two nodes write a record in the same form with related values. -/
inductive RecordRelated (R : FieldRelation) (names : List String) : Node → Node → Prop
  | object {ms ms' : List Member} (ending : ObjectEnd) (h : MembersRelated R ms ms') :
    RecordRelated R names (.object ms ending) (.object ms' ending)
  | array {ns ns' : List Node} (ending : ArrayEnd) (h : ItemsRelated R names ns ns') :
    RecordRelated R names (.array ns ending) (.array ns' ending)
  | same (n : Node) : RecordRelated R names n n

/-- Whether related values are read alike by the fields they belong to, or passed over alike if
there is no such field. -/
structure Respects (R : FieldRelation) (fs : List Field) : Prop where
  read : ∀ f ∈ fs, ∀ n n', R f.name n n' → Agree (f.read n) (f.read n')
  skip : ∀ key, key ∉ fs.map (·.name) → ∀ n n', R key n n' → Agree n.skip n'.skip

theorem agree_readMember {fs : List Field} {key : String} {n n' : Node}
    (hread : ∀ f ∈ fs, f.name = key → Agree (f.read n) (f.read n'))
    (hskip : key ∉ fs.map (·.name) → Agree n.skip n'.skip) (draft : Draft fs) :
    Agree (readMember fs key n draft) (readMember fs key n' draft) := by
  induction fs with
  | nil => exact (hskip (by simp)).bind fun _ => .refl _
  | cons f fs ih =>
    obtain ⟨value, rest⟩ := draft
    simp only [readMember]
    split
    next hk =>
      cases value with
      | some v => exact .refl _
      | none => exact (hread f List.mem_cons_self hk).bind fun _ => .refl _
    next hk =>
      have hih := ih (fun g hg => hread g (List.mem_cons_of_mem f hg)) (fun hn => hskip (by
        simpa [hn] using Ne.symm hk)) rest
      exact hih.bind fun _ => .refl _

theorem agree_readMembers {R : FieldRelation} {fs : List Field} (hR : Respects R fs)
    {ms ms' : List Member} (h : MembersRelated R ms ms') (draft : Draft fs) :
    Agree (readMembers fs ms draft) (readMembers fs ms' draft) := by
  induction h generalizing draft with
  | nil => exact .refl _
  | @cons m m' ms ms' hm _ ih =>
    obtain ⟨key, n⟩ := m
    obtain ⟨key', n'⟩ := m'
    obtain ⟨rfl, hvalue⟩ := hm
    simp only [readMembers]
    cases key with
    | error e => exact .refl _
    | ok key =>
      have hn : R key n n' := hvalue key rfl
      have hmember := agree_readMember (fun f hf hk => hR.read f hf n n' (hk ▸ hn))
        (fun hk => hR.skip key hk n n' hn) draft
      exact hmember.bind ih

theorem agree_readItems {R : FieldRelation} {fs : List Field}
    (hR : ∀ f ∈ fs, ∀ n n', R f.name n n' → Agree (f.read n) (f.read n'))
    (length : Nat → ReadError) {ns ns' : List Node}
    (h : ItemsRelated R (fs.map (·.name)) ns ns') (i : Nat) (ending : ArrayEnd) :
    Agree (readItems length fs i ns ending) (readItems length fs i ns' ending) := by
  induction fs generalizing ns ns' i with
  | nil =>
    have heq : ns = ns' := by simpa [ItemsRelated] using h
    rw [heq]
    exact .refl _
  | cons f fs ih =>
    cases ns with
    | nil =>
      have heq : [] = ns' := by simpa [ItemsRelated] using h
      rw [heq]
      exact .refl _
    | cons n ns =>
      cases ns' with
      | nil => simp [ItemsRelated] at h
      | cons n' ns' =>
        obtain ⟨hn, hns⟩ := h
        simp only [readItems]
        have hitems := ih (fun g hg => hR g (List.mem_cons_of_mem f hg)) hns (i + 1)
        exact (hR f List.mem_cons_self n n' hn).bind fun _ => hitems.bind fun _ => .refl _

theorem Record.agree_read {α : Type} (r : Record α) {R : FieldRelation}
    (hR : Respects R r.fields) {n n' : Node} (h : RecordRelated R (r.fields.map (·.name)) n n') :
    Agree (r.read n) (r.read n') := by
  cases h with
  | object ending h =>
    exact (agree_readMembers hR h (emptyDraft r.fields)).bind fun _ => .refl _
  | array ending h => exact (agree_readItems hR.read _ h 0 ending).map r.make
  | same => exact .refl _

/-- The values of a field are the same or related by a relation that is given for the field. -/
def differingAt (relations : List (String × (Node → Node → Prop))) : FieldRelation :=
  fun key n n' => n = n' ∨ ∃ R, (key, R) ∈ relations ∧ R n n'

theorem MembersRelated.cons_same {relations : List (String × (Node → Node → Prop))}
    {ms ms' : List Member} (m : Member) (h : MembersRelated (differingAt relations) ms ms') :
    MembersRelated (differingAt relations) (m :: ms) (m :: ms') :=
  .cons ⟨rfl, fun _ _ => .inl rfl⟩ h

theorem MembersRelated.same {relations : List (String × (Node → Node → Prop))}
    (ms : List Member) : MembersRelated (differingAt relations) ms ms :=
  List.forall₂_same.mpr fun _ _ => ⟨rfl, fun _ _ => .inl rfl⟩

theorem MembersRelated.cons_differing {relations : List (String × (Node → Node → Prop))}
    {ms ms' : List Member} {key : String} {R : Node → Node → Prop} {n n' : Node}
    (hR : (key, R) ∈ relations) (hn : R n n')
    (h : MembersRelated (differingAt relations) ms ms') :
    MembersRelated (differingAt relations) ((.ok key, n) :: ms) ((.ok key, n') :: ms') := by
  refine .cons ⟨rfl, ?_⟩ h
  intro k hk
  cases hk
  exact .inr ⟨R, hR, hn⟩

theorem respects_differingAt {relations : List (String × (Node → Node → Prop))} {fs : List Field}
    (hnames : (fs.map (·.name)).Nodup)
    (h : ∀ r ∈ relations, ∃ f ∈ fs, f.name = r.1 ∧
      ∀ n n', r.2 n n' → Agree (f.read n) (f.read n')) : Respects (differingAt relations) fs := by
  constructor
  · rintro f hf n n' (rfl | ⟨R, hR, hn⟩)
    · exact .refl _
    · obtain ⟨g, hg, hname, hread⟩ := h _ hR
      obtain rfl : g = f := List.inj_on_of_nodup_map hnames hg hf hname
      exact hread n n' hn
  · rintro key hk n n' (rfl | ⟨R, hR, _⟩)
    · exact .refl _
    · obtain ⟨g, hg, hname, _⟩ := h _ hR
      exact absurd (List.mem_map.mpr ⟨g, hg, hname⟩) hk

theorem agree_mapM {α : Type} {read : Node → Except ReadError α} {ns ns' : List Node}
    (h : List.Forall₂ (fun n n' => Agree (read n) (read n')) ns ns') :
    Agree (ns.mapM read) (ns'.mapM read) := by
  induction h with
  | nil => exact .refl _
  | cons hn _ ih =>
    rw [List.mapM_cons, List.mapM_cons]
    exact hn.bind fun _ => ih.bind fun _ => .refl _

end Json

end StructGen
