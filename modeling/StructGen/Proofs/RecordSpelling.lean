import StructGen.Proofs.RecordRoundTrip
import StructGen.Proofs.Walking

namespace StructGen

namespace Json

/-- The values that members give for a name, in their order. -/
def valuesFor (name : String) (ms : List Member) : List Node :=
  ms.filterMap fun m => if m.1 = .ok name then some m.2 else none

@[simp]
theorem valuesFor_nil (name : String) : valuesFor name [] = [] := rfl

@[simp]
theorem valuesFor_append (name : String) (ms ms' : List Member) :
    valuesFor name (ms ++ ms') = valuesFor name ms ++ valuesFor name ms' :=
  List.filterMap_append

@[simp]
theorem valuesFor_cons_self (name : String) (n : Node) (ms : List Member) :
    valuesFor name ((.ok name, n) :: ms) = n :: valuesFor name ms := by
  simp [valuesFor]

theorem valuesFor_cons_of_ne {name key : String} (h : name ≠ key) (n : Node) (ms : List Member) :
    valuesFor name ((.ok key, n) :: ms) = valuesFor name ms := by
  simp [valuesFor, h.symm]

theorem mem_valuesFor {name : String} {ms : List Member} {n : Node} :
    n ∈ valuesFor name ms ↔ (.ok name, n) ∈ ms := by
  simp only [valuesFor, List.mem_filterMap, Option.ite_none_right_eq_some, Option.some.injEq]
  constructor
  · rintro ⟨⟨key, _⟩, hm, rfl, rfl⟩
    exact hm
  · intro hm
    exact ⟨_, hm, rfl, rfl⟩

theorem valuesFor_eq_nil {name : String} {ms : List Member} (h : ∀ m ∈ ms, m.1 ≠ .ok name) :
    valuesFor name ms = [] :=
  List.eq_nil_iff_forall_not_mem.mpr fun _ hn => h _ (mem_valuesFor.mp hn) rfl

/-- Whether a field has a value where some nodes are given for it: one node that reads as the value,
or none if this is the value of a field that is left out. -/
inductive Field.Gives (f : Field) : List Node → f.Carrier → Prop
  | given {n : Node} {v : f.Carrier} (h : f.read n = .ok v) : f.Gives [n] v
  | absent {v : f.Carrier} (h : f.absent = some v) : f.Gives [] v

/-- Whether the value of a field in a draft becomes another when some nodes are read for it. -/
inductive Field.Fills (f : Field) : Option f.Carrier → List Node → Option f.Carrier → Prop
  | kept (value : Option f.Carrier) : f.Fills value [] value
  | filled {n : Node} {v : f.Carrier} (h : f.read n = .ok v) : f.Fills none [n] (some v)

/-- Whether members give the values of some fields. -/
def MembersGive : (fs : List Field) → List Member → Values fs → Prop
  | [], _, _ => True
  | f :: fs, ms, (v, rest) => f.Gives (valuesFor f.name ms) v ∧ MembersGive fs ms rest

/-- Whether items give the values of some fields, in the order of the fields. -/
def ItemsGive : (fs : List Field) → List Node → Values fs → Prop
  | [], ns, _ => ns = []
  | f :: fs, ns, (v, rest) => f.Gives (ns.take 1) v ∧ ItemsGive fs (ns.drop 1) rest

def MembersFill : (fs : List Field) → Draft fs → List Member → Draft fs → Prop
  | [], _, _, _ => True
  | f :: fs, (value, draft), ms, (value', draft') =>
    f.Fills value (valuesFor f.name ms) value' ∧ MembersFill fs draft ms draft'

/-- Whether members can be told apart by their keys, and those that belong to no field can be passed
over. -/
def Legible (names : List String) (ms : List Member) : Prop :=
  ∀ m ∈ ms, ∃ key, m.1 = .ok key ∧ (key ∉ names → m.2.skip = .ok ())

theorem Field.fills_nil_iff {f : Field} {value value' : Option f.Carrier} :
    f.Fills value [] value' ↔ value = value' := by
  constructor
  · intro h
    cases h with
    | kept => rfl
  · rintro rfl
    exact .kept value

theorem Field.fills_cons_iff {f : Field} {n : Node} {ns : List Node}
    {value value' : Option f.Carrier} :
    f.Fills value (n :: ns) value' ↔
      value = none ∧ ∃ v, f.read n = .ok v ∧ f.Fills (some v) ns value' := by
  constructor
  · intro h
    cases h with
    | filled h => exact ⟨rfl, _, h, .kept _⟩
  · rintro ⟨rfl, v, hv, h⟩
    cases h with
    | kept => exact .filled hv

theorem Field.gives_iff {f : Field} {ns : List Node} {v : f.Carrier} :
    f.Gives ns v ↔ ∃ value, f.Fills none ns value ∧ (value <|> f.absent) = some v := by
  constructor
  · intro h
    cases h with
    | given h => exact ⟨_, .filled h, rfl⟩
    | absent h => exact ⟨_, .kept none, h⟩
  · rintro ⟨value, h, hv⟩
    cases h with
    | kept => exact .absent hv
    | filled h =>
      cases hv
      exact .given h

theorem membersFill_nil_iff {fs : List Field} {draft draft' : Draft fs} :
    MembersFill fs draft [] draft' ↔ draft = draft' := by
  induction fs with
  | nil => exact iff_of_true trivial rfl
  | cons f fs ih =>
    obtain ⟨value, draft⟩ := draft
    obtain ⟨value', draft'⟩ := draft'
    rw [MembersFill, valuesFor_nil, Field.fills_nil_iff, ih, Prod.mk.injEq]

/-- Members that belong to none of the fields do not matter. -/
theorem membersFill_cons_of_not_mem {fs : List Field} {key : String} (h : key ∉ fs.map (·.name))
    (n : Node) (ms : List Member) (draft draft' : Draft fs) :
    MembersFill fs draft ((.ok key, n) :: ms) draft' ↔ MembersFill fs draft ms draft' := by
  induction fs with
  | nil => exact Iff.rfl
  | cons f fs ih =>
    obtain ⟨value, draft⟩ := draft
    obtain ⟨value', draft'⟩ := draft'
    have hne : f.name ≠ key := fun heq => h (heq ▸ List.mem_cons_self)
    have hrest : key ∉ fs.map (·.name) := fun hmem => h (List.mem_cons_of_mem _ hmem)
    rw [MembersFill, MembersFill, valuesFor_cons_of_ne hne, ih hrest]

theorem readMember_self (f : Field) (fs : List Field) (n : Node) (draft : Draft fs) :
    readMember (f :: fs) f.name n (none, draft) = (some ·, draft) <$> f.read n := by
  simp only [readMember, if_true]
  rfl

/-- Reading one member into a draft is the first step of filling it. -/
theorem exists_readMember_iff {fs : List Field} (hnames : (fs.map (·.name)).Nodup) (key : String)
    (n : Node) (ms : List Member) (draft draft' : Draft fs) :
    (∃ next, readMember fs key n draft = .ok next ∧ MembersFill fs next ms draft') ↔
      (key ∉ fs.map (·.name) → n.skip = .ok ()) ∧
        MembersFill fs draft ((.ok key, n) :: ms) draft' := by
  induction fs with
  | nil =>
    cases hskip : n.skip <;> simp [readMember, hskip, bind_eq_ok, pure, Except.pure, MembersFill]
  | cons f fs ih =>
    obtain ⟨value, draft⟩ := draft
    obtain ⟨value', draft'⟩ := draft'
    obtain ⟨hfresh, hnames⟩ := List.nodup_cons.mp hnames
    by_cases hkey : f.name = key
    · subst hkey
      rw [MembersFill, valuesFor_cons_self, Field.fills_cons_iff,
        membersFill_cons_of_not_mem hfresh]
      cases value with
      | some u => simp [readMember]
      | none =>
        simp only [readMember_self, map_eq_ok, exists_exists_and_eq_and, MembersFill]
        constructor
        · rintro ⟨v, hv, hfills, hrest⟩
          exact ⟨fun hnot => absurd List.mem_cons_self hnot, ⟨trivial, v, hv, hfills⟩, hrest⟩
        · rintro ⟨-, ⟨-, v, hv, hfills⟩, hrest⟩
          exact ⟨v, hv, hfills, hrest⟩
    · have hmem : key ∈ (f :: fs).map (·.name) ↔ key ∈ fs.map (·.name) := by
        simp [Ne.symm hkey]
      simp only [readMember_of_ne hkey, map_eq_ok, exists_exists_and_eq_and, MembersFill,
        valuesFor_cons_of_ne hkey, hmem]
      constructor
      · rintro ⟨next, hnext, hfills, hrest⟩
        obtain ⟨hskip, hrest⟩ := (ih hnames draft draft').mp ⟨next, hnext, hrest⟩
        exact ⟨hskip, hfills, hrest⟩
      · rintro ⟨hskip, hfills, hrest⟩
        obtain ⟨next, hnext, hrest⟩ := (ih hnames draft draft').mpr ⟨hskip, hrest⟩
        exact ⟨next, hnext, hfills, hrest⟩

theorem legible_cons_iff {names : List String} {key : String} {n : Node} {ms : List Member} :
    Legible names ((.ok key, n) :: ms) ↔ (key ∉ names → n.skip = .ok ()) ∧ Legible names ms := by
  simp [Legible]

theorem readMembers_eq_ok_iff {fs : List Field} (hnames : (fs.map (·.name)).Nodup)
    {ms : List Member} {draft draft' : Draft fs} :
    readMembers fs ms draft = .ok draft' ↔
      Legible (fs.map (·.name)) ms ∧ MembersFill fs draft ms draft' := by
  induction ms generalizing draft with
  | nil => simp [readMembers, pure, Except.pure, Legible, membersFill_nil_iff]
  | cons m ms ih =>
    obtain ⟨key, n⟩ := m
    cases key with
    | error e => simp [readMembers, bind, Except.bind, Legible]
    | ok key =>
      calc readMembers fs ((.ok key, n) :: ms) draft = .ok draft'
          ↔ ∃ next, readMember fs key n draft = .ok next ∧ readMembers fs ms next = .ok draft' := by
            simp only [readMembers, bind_eq_ok, Except.ok.injEq, exists_eq_left']
        _ ↔ Legible (fs.map (·.name)) ms ∧
              ∃ next, readMember fs key n draft = .ok next ∧ MembersFill fs next ms draft' := by
            simp only [ih, and_left_comm (b := Legible _ _), exists_and_left]
        _ ↔ Legible (fs.map (·.name)) ((.ok key, n) :: ms) ∧
              MembersFill fs draft ((.ok key, n) :: ms) draft' := by
            rw [exists_readMember_iff hnames, legible_cons_iff, ← and_assoc, and_comm (b := _ → _)]

theorem finishDraft_cons_eq_ok_iff {f : Field} {fs : List Field} {value : Option f.Carrier}
    {draft : Draft fs} {v : f.Carrier} {rest : Values fs} :
    finishDraft (f :: fs) (value, draft) = .ok (v, rest) ↔
      (value <|> f.absent) = some v ∧ finishDraft fs draft = .ok rest := by
  rw [finishDraft]
  cases (value <|> f.absent) with
  | none => simp [throw, throwThe, MonadExceptOf.throw, bind, Except.bind]
  | some u => cases finishDraft fs draft <;> simp [pure, Except.pure, bind, Except.bind]

/-- What members give is what a draft has after they were read into it. -/
theorem membersGive_iff {fs : List Field} {ms : List Member} {vs : Values fs} :
    MembersGive fs ms vs ↔
      ∃ draft, MembersFill fs (emptyDraft fs) ms draft ∧ finishDraft fs draft = .ok vs := by
  induction fs with
  | nil => exact iff_of_true trivial ⟨(), trivial, rfl⟩
  | cons f fs ih =>
    obtain ⟨v, rest⟩ := vs
    rw [MembersGive, Field.gives_iff, ih]
    constructor
    · rintro ⟨⟨value, hfills, hv⟩, draft, hrest, hfinish⟩
      exact ⟨(value, draft), ⟨hfills, hrest⟩, finishDraft_cons_eq_ok_iff.mpr ⟨hv, hfinish⟩⟩
    · rintro ⟨⟨value, draft⟩, ⟨hfills, hrest⟩, h⟩
      obtain ⟨hv, hfinish⟩ := finishDraft_cons_eq_ok_iff.mp h
      exact ⟨⟨value, hfills, hv⟩, draft, hrest, hfinish⟩

theorem ArrayEnd.onClose_eq_ok_iff {ending : ArrayEnd} :
    failOn ending.onClose = .ok () ↔ ending = .closed := by
  cases ending <;> simp [onClose, failOn]

theorem ObjectEnd.onNext_eq_ok_iff {ending : ObjectEnd} :
    failOn ending.onNext = .ok () ↔ ending = .closed := by
  cases ending <;> simp [onNext, failOn]

theorem Field.gives_singleton_iff {f : Field} {n : Node} {v : f.Carrier} :
    f.Gives [n] v ↔ f.read n = .ok v := by
  constructor
  · intro h
    cases h with
    | given h => exact h
  · exact .given

theorem Field.gives_nil_iff {f : Field} {v : f.Carrier} : f.Gives [] v ↔ f.absent = some v := by
  constructor
  · intro h
    cases h with
    | absent h => exact h
  · exact .absent

section Items

variable {length : Nat → ReadError} {f : Field} {fs : List Field} {i : Nat} {ending : ArrayEnd}
  {v : f.Carrier} {rest : Values fs}

theorem readItems_nil_eq_ok_iff :
    readItems length (f :: fs) i [] ending = .ok (v, rest) ↔
      ending = .closed ∧ f.absent = some v ∧
        readItems length fs (i + 1) [] ending = .ok rest := by
  rw [readItems]
  cases ending with
  | closed =>
    cases f.absent with
    | none =>
      simp [ArrayEnd.onNext, failOn, throw, throwThe, MonadExceptOf.throw, bind, Except.bind]
    | some u =>
      cases readItems length fs (i + 1) [] .closed <;>
        simp [ArrayEnd.onNext, failOn, pure, Except.pure, bind, Except.bind]
  | _ => simp [ArrayEnd.onNext, failOn, bind, Except.bind]

theorem readItems_cons_eq_ok_iff {n : Node} {ns : List Node} :
    readItems length (f :: fs) i (n :: ns) ending = .ok (v, rest) ↔
      f.read n = .ok v ∧ readItems length fs (i + 1) ns ending = .ok rest := by
  rw [readItems]
  cases f.read n <;> cases readItems length fs (i + 1) ns ending <;>
    simp [pure, Except.pure, bind, Except.bind]

theorem readItems_eq_ok_iff {fs : List Field} {i : Nat} {ns : List Node} {vs : Values fs} :
    readItems length fs i ns ending = .ok vs ↔ ending = .closed ∧ ItemsGive fs ns vs := by
  induction fs generalizing i ns with
  | nil =>
    cases ns with
    | nil => exact ArrayEnd.onClose_eq_ok_iff.trans (by simp [ItemsGive])
    | cons n ns => simp [readItems, ItemsGive]
  | cons f fs ih =>
    obtain ⟨v, rest⟩ := vs
    cases ns with
    | nil =>
      rw [readItems_nil_eq_ok_iff, ih, ItemsGive, List.take_nil, List.drop_nil,
        Field.gives_nil_iff]
      tauto
    | cons n ns =>
      rw [readItems_cons_eq_ok_iff, ih, ItemsGive, List.take_one, List.head?_cons, List.drop_one,
        List.tail_cons, Option.toList_some, Field.gives_singleton_iff]
      tauto

end Items

/-- Whether a node is a record of a value: an object whose members give the fields, or an array of
their values in order. -/
inductive Record.Spells {α : Type} (r : Record α) : Node → α → Prop
  | object {ms : List Member} {vs : Values r.fields} (hms : Legible (r.fields.map (·.name)) ms)
    (h : MembersGive r.fields ms vs) : r.Spells (.object ms .closed) (r.make vs)
  | array {ns : List Node} {vs : Values r.fields} (h : ItemsGive r.fields ns vs) :
    r.Spells (.array ns .closed) (r.make vs)

theorem Record.read_eq_ok_iff {α : Type} {r : Record α} (hnames : (r.fields.map (·.name)).Nodup)
    {n : Node} {x : α} : r.read n = .ok x ↔ r.Spells n x := by
  constructor
  · intro h
    cases n with
    | object ms ending =>
      simp only [read, bind_eq_ok, map_eq_ok] at h
      obtain ⟨draft, hdraft, _, hclosed, vs, hvs, rfl⟩ := h
      obtain rfl := ObjectEnd.onNext_eq_ok_iff.mp hclosed
      obtain ⟨hms, hfill⟩ := (readMembers_eq_ok_iff hnames).mp hdraft
      exact .object hms (membersGive_iff.mpr ⟨draft, hfill, hvs⟩)
    | array ns ending =>
      simp only [read, map_eq_ok, readItems_eq_ok_iff] at h
      obtain ⟨vs, ⟨rfl, hvs⟩, rfl⟩ := h
      exact .array hvs
    | _ => contradiction
  · intro h
    cases h with
    | object hms h =>
      obtain ⟨draft, hfill, hvs⟩ := membersGive_iff.mp h
      have hdraft := (readMembers_eq_ok_iff hnames).mpr ⟨hms, hfill⟩
      simp only [read, bind_eq_ok, map_eq_ok]
      exact ⟨draft, hdraft, (), rfl, _, hvs, rfl⟩
    | array h =>
      simp only [read, map_eq_ok, readItems_eq_ok_iff]
      exact ⟨_, ⟨trivial, h⟩, rfl⟩

end Json

end StructGen
