import Mathlib.Data.List.Nodup
import StructGen.Json.Record

namespace StructGen

namespace Json

/-- Whether a field reads back every value that it writes, and leaves a value out only if it takes
that value when it is absent. -/
structure Field.Lawful (f : Field) : Prop where
  read : ∀ v n, f.write v = some n → f.read n = .ok v
  absent : ∀ v, f.write v = none → f.absent = some v

/-- Whether a record has lawful fields with names of their own, and is made of its parts. -/
structure Record.Lawful {α : Type} (r : Record α) : Prop where
  names : (r.fields.map (·.name)).Nodup
  fields : ∀ f ∈ r.fields, f.Lawful
  make : ∀ x, r.make (r.parts x) = x

theorem readMember_of_ne {f : Field} {fs : List Field} {key : String} (h : f.name ≠ key) (n : Node)
    (value : Option f.Carrier) (draft : Draft fs) :
    readMember (f :: fs) key n (value, draft) = (value, ·) <$> readMember fs key n draft := by
  simp only [readMember, if_neg h]
  rfl

/-- Members that do not belong to a field leave its value in the draft as it is. -/
theorem readMembers_of_forall_ne {f : Field} {fs : List Field} {ms : List Member}
    (h : ∀ m ∈ ms, m.1 ≠ .ok f.name) (value : Option f.Carrier) (draft : Draft fs) :
    readMembers (f :: fs) ms (value, draft) = (value, ·) <$> readMembers fs ms draft := by
  induction ms generalizing draft with
  | nil => rfl
  | cons m ms ih =>
    obtain ⟨key, n⟩ := m
    obtain ⟨hfirst, hrest⟩ := List.forall_mem_cons.mp h
    cases key with
    | error e => rfl
    | ok key =>
      have hne : f.name ≠ key := fun heq => hfirst (by rw [heq])
      simp only [readMembers, bind, Except.bind, readMember_of_ne hne]
      cases readMember fs key n draft with
      | error e => rfl
      | ok next => exact ih hrest next

theorem key_of_mem_writeMembers {fs : List Field} {vs : Values fs} {m : Member}
    (h : m ∈ writeMembers fs vs) : ∃ f ∈ fs, m.1 = .ok f.name := by
  induction fs with
  | nil => simp [writeMembers] at h
  | cons f fs ih =>
    obtain ⟨v, rest⟩ := vs
    rw [writeMembers] at h
    split at h
    next n hn =>
      rcases List.mem_cons.mp h with rfl | h
      · exact ⟨f, List.mem_cons_self, rfl⟩
      · obtain ⟨g, hg, hkey⟩ := ih h
        exact ⟨g, List.mem_cons_of_mem f hg, hkey⟩
    next =>
      obtain ⟨g, hg, hkey⟩ := ih h
      exact ⟨g, List.mem_cons_of_mem f hg, hkey⟩

/-- What is written of the values of lawful fields is read into a draft that gives them back. -/
theorem readMembers_writeMembers {fs : List Field} (hnames : (fs.map (·.name)).Nodup)
    (hlawful : ∀ f ∈ fs, f.Lawful) (vs : Values fs) :
    ∃ draft, readMembers fs (writeMembers fs vs) (emptyDraft fs) = .ok draft ∧
      finishDraft fs draft = .ok vs := by
  induction fs with
  | nil => exact ⟨(), rfl, rfl⟩
  | cons f fs ih =>
    obtain ⟨v, rest⟩ := vs
    obtain ⟨hfresh, hnames⟩ := List.nodup_cons.mp hnames
    obtain ⟨hf, hlawful⟩ := List.forall_mem_cons.mp hlawful
    obtain ⟨draft, hread, hfinish⟩ := ih hnames hlawful rest
    -- The members of the other fields pass by the value of the first one.
    have hpass : ∀ m ∈ writeMembers fs rest, m.1 ≠ .ok f.name := by
      intro m hm heq
      obtain ⟨g, hg, hkey⟩ := key_of_mem_writeMembers hm
      obtain hname : g.name = f.name := Except.ok.inj (hkey.symm.trans heq)
      exact hfresh (List.mem_map.mpr ⟨g, hg, hname⟩)
    cases hw : f.write v with
    | some n =>
      refine ⟨(some v, draft), ?_, ?_⟩
      · simp only [writeMembers, hw, readMembers, emptyDraft, readMember, if_true, bind, Except.bind,
          hf.read v n hw, pure, Except.pure]
        rw [readMembers_of_forall_ne hpass, hread]
        rfl
      · simp [finishDraft, hfinish, bind, Except.bind, pure, Except.pure]
    | none =>
      refine ⟨(none, draft), ?_, ?_⟩
      · simp only [writeMembers, hw, emptyDraft]
        rw [readMembers_of_forall_ne hpass, hread]
        rfl
      · simp [finishDraft, hfinish, hf.absent v hw, bind, Except.bind, pure, Except.pure]

theorem Record.read_write {α : Type} {r : Record α} (h : r.Lawful) (x : α) :
    r.read (r.write x) = .ok x := by
  obtain ⟨draft, hread, hfinish⟩ := readMembers_writeMembers h.names h.fields (r.parts x)
  simp only [write, read, hread, hfinish, bind, Except.bind, ObjectEnd.onNext, failOn, Functor.map, Except.map, h.make]

theorem readWord_writeWord (w : UInt32) : readWord (writeWord w) = .ok w := by
  have hbounds : (0 : Int) ≤ w.toNat ∧ (w.toNat : Int) < UInt32.size := by
    have hlt := w.toNat_lt
    simp only [UInt32.size]
    omega
  simp only [writeWord, readWord, if_pos hbounds, Int.toNat_natCast, UInt32.ofNat_toNat]

theorem readList_writeList {α : Type} {read : Node → Except ReadError α} {write : α → Node}
    (h : ∀ x, read (write x) = .ok x) (xs : List α) :
    readList read (writeList write xs) = .ok xs := by
  have hitems : (xs.map write).mapM read = .ok xs := by
    induction xs with
    | nil => rfl
    | cons x xs ih =>
      rw [List.map_cons, List.mapM_cons, h, ih]
      rfl
  simp only [writeList, readList, hitems]
  rfl

theorem readSet_writeList (set : StringSet) :
    readSet (writeList .string set.toList) = .ok set := by
  have hstring : ∀ s, readString (.string s) = .ok s := fun _ => rfl
  have hstrings := readList_writeList hstring set.toList
  rw [readSet, hstrings]
  exact congrArg Except.ok set.ofList_toList

theorem readEntries_writeEntries {α : Type} {read : Node → Except ReadError α} {write : α → Node}
    (h : ∀ x, read (write x) = .ok x) (es : List (String × α)) (d : Dict α) :
    readEntries read (es.map fun (key, value) => (.ok key, write value)) d =
      .ok (es.foldl (fun d e => d.insert e.1 e.2) d) := by
  induction es generalizing d with
  | nil => rfl
  | cons e es ih =>
    simp only [List.map_cons, readEntries, h, List.foldl_cons]
    exact ih (d.insert e.1 e.2)

theorem readDict_writeDict {α : Type} {read : Node → Except ReadError α} {write : α → Node}
    (h : ∀ x, read (write x) = .ok x) (d : Dict α) :
    readDict read (writeDict write d) = .ok d := by
  simp only [writeDict, readDict, readEntries_writeEntries h, Dict.foldl_insert_entries]
  rfl

namespace Field.Lawful

/-- A field that always writes its value is lawful if it reads the value back. -/
theorem of_written {f : Field} (h : ∀ v, ∃ n, f.write v = some n ∧ f.read n = .ok v) :
    f.Lawful where
  read v n hw := by
    obtain ⟨n', hw', hread⟩ := h v
    obtain rfl := Option.some.inj (hw.symm.trans hw')
    exact hread
  absent v hw := by
    obtain ⟨n', hw', _⟩ := h v
    rw [hw] at hw'
    contradiction

theorem requiredString (name : String) : (Field.requiredString name).Lawful :=
  of_written fun s => ⟨.string s, rfl, rfl⟩

theorem string (name : String) : (Field.string name).Lawful :=
  of_written fun s => ⟨.string s, rfl, rfl⟩

theorem bool (name : String) (absent : Bool) : (Field.bool name absent).Lawful :=
  of_written fun b => ⟨.bool b, rfl, rfl⟩

theorem record {α : Type} (name : String) {r : Record α} (h : r.Lawful) :
    (Field.record name r).Lawful :=
  of_written fun x => ⟨r.write x, rfl, Record.read_write h x⟩

theorem list {α : Type} (name : String) {read : Node → Except ReadError α}
    {write : α → Node} (h : ∀ x, read (write x) = .ok x) : (Field.list name read write).Lawful :=
  of_written fun xs => ⟨writeList write xs, rfl, readList_writeList h xs⟩

theorem dict {α : Type} (name : String) {r : Record α} (h : r.Lawful) :
    (Field.dict name r).Lawful :=
  of_written fun d => ⟨writeDict r.write d, rfl, readDict_writeDict (Record.read_write h) d⟩

theorem optionalWord (name : String) : (Field.optionalWord name).Lawful where
  read v n hw := by
    obtain ⟨w, rfl, rfl⟩ := Option.map_eq_some_iff.mp hw
    have hword : readOptional readWord (writeWord w) = some <$> readWord (writeWord w) := rfl
    exact hword.trans (by rw [readWord_writeWord]; rfl)
  absent v hw := by
    rw [Option.map_eq_none_iff.mp hw]
    rfl

theorem set (name : String) : (Field.set name).Lawful where
  read s n hw := by
    have hw : (if s.isEmpty then none else some (writeList .string s.toList)) = some n := hw
    split at hw
    next => contradiction
    next =>
      obtain rfl := Option.some.inj hw
      exact readSet_writeList s
  absent s hw := by
    have hw : (if s.isEmpty then none else some (writeList .string s.toList)) = none := hw
    split at hw
    next hempty =>
      have hnil : s.toList = [] := List.isEmpty_iff.mp hempty
      obtain ⟨members, hascending⟩ := s
      obtain rfl : members = [] := hnil
      rfl
    next => contradiction

end Field.Lawful

end Json

end StructGen
