import StructGen.Proofs.RecordReading
import StructGen.SchemaFormat

namespace StructGen

open Json

/-- Whether two arrays have the same items, in any order and any number of times. -/
inductive SameItems : Node → Node → Prop
  | array {items items' : List Node} (ending : ArrayEnd) (h : ∀ n, n ∈ items ↔ n ∈ items') :
    SameItems (.array items ending) (.array items' ending)

/-- Whether two objects have the same members in any order, each under a key of its own. -/
inductive SameMembers : Node → Node → Prop
  | object {ms ms' : List Member} (ending : ObjectEnd) (h : ms.Perm ms')
    (hkeys : (ms.map Prod.fst).Nodup) : SameMembers (.object ms ending) (.object ms' ending)

inductive ListRelated (R : Node → Node → Prop) : Node → Node → Prop
  | array {ns ns' : List Node} (ending : ArrayEnd) (h : List.Forall₂ R ns ns') :
    ListRelated R (.array ns ending) (.array ns' ending)

/-- Reading a list gives the values of its items, unless one of them cannot be read. -/
theorem toOption_mapM {α : Type} (read : Node → Except ReadError α) (ns : List Node) :
    (ns.mapM read).toOption =
      if ∀ n ∈ ns, (read n).isOk = true then some (ns.filterMap fun n => (read n).toOption)
      else none := by
  induction ns with
  | nil => rfl
  | cons n ns ih =>
    rw [List.mapM_cons]
    cases hn : read n with
    | error e =>
      rw [if_neg fun h => by simpa [hn, Except.isOk, Except.toBool] using h n List.mem_cons_self]
      rfl
    | ok x =>
      have hx : (Except.ok x : Except ReadError α).isOk = true := rfl
      have hv : (Except.ok x : Except ReadError α).toOption = some x := rfl
      have hstep : (do let x ← Except.ok x; let xs ← ns.mapM read; pure (x :: xs)).toOption =
          (ns.mapM read).toOption.map (x :: ·) := by
        cases ns.mapM read <;> rfl
      rw [hstep, ih]
      simp only [List.forall_mem_cons, hx, true_and, List.filterMap_cons, hn, hv]
      split <;> rfl

theorem agree_readSet {n n' : Node} (h : SameItems n n') : Agree (readSet n) (readSet n') := by
  cases h with
  | @array items items' ending h =>
    have hread : ∀ ns : List Node, (readSet (.array ns ending)).toOption =
        (ns.mapM readString).toOption.bind fun values =>
          (failOn ending.onNext).toOption.map fun _ => StringSet.ofList values := by
      intro ns
      simp only [readSet, readList]
      cases ns.mapM readString with
      | error e => rfl
      | ok values => cases failOn ending.onNext <;> rfl
    have hall : (∀ n ∈ items, (readString n).isOk = true) ↔
        ∀ n ∈ items', (readString n).isOk = true := by simp only [h]
    have hset : StringSet.ofList (items.filterMap fun n => (readString n).toOption) =
        StringSet.ofList (items'.filterMap fun n => (readString n).toOption) := by
      rw [StringSet.ofList_eq_ofList_iff]
      intro s
      simp only [List.mem_filterMap, h]
    unfold Agree
    rw [hread, hread, toOption_mapM, toOption_mapM]
    simp only [hall]
    split
    next => simp only [Option.bind_some, hset]
    next => rfl

def readEntry {α : Type} (read : Node → Except ReadError α) (m : Member) :
    Except ReadError (String × α) := do
  let name ← m.1
  let value ← read m.2
  pure (name, value)

theorem key_of_readEntry {α : Type} {read : Node → Except ReadError α} {m : Member}
    {e : String × α} (h : readEntry read m = .ok e) : m.1 = .ok e.1 := by
  obtain ⟨key, n⟩ := m
  cases key with
  | error e => cases h
  | ok name =>
    cases hn : read n with
    | error e => simp [readEntry, hn, bind, Except.bind] at h
    | ok value =>
      simp only [readEntry, hn] at h
      cases h
      rfl

theorem readEntries_cons {α : Type} (read : Node → Except ReadError α) (m : Member)
    (ms : List Member) (d : Dict α) :
    readEntries read (m :: ms) d =
      readEntry read m >>= fun e => readEntries read ms (d.insert e.1 e.2) := by
  obtain ⟨key, n⟩ := m
  cases key with
  | error e => rfl
  | ok name =>
    simp only [readEntries, readEntry]
    cases read n <;> rfl

/-- The order of the members does not matter where no key is repeated. -/
theorem agree_readEntries {α : Type} (read : Node → Except ReadError α) {ms ms' : List Member}
    (h : ms.Perm ms') (hkeys : (ms.map Prod.fst).Nodup) (d : Dict α) :
    Agree (readEntries read ms d) (readEntries read ms' d) := by
  induction h generalizing d with
  | nil => exact .refl _
  | cons m _ ih =>
    rw [readEntries_cons, readEntries_cons]
    exact (Agree.refl (readEntry read m)).bind fun e =>
      ih (List.nodup_cons.mp hkeys).2 (d.insert e.1 e.2)
  | swap m m' ms =>
    simp only [readEntries_cons]
    refine Agree.exchange _ _ fun e' e he' he => ?_
    have hne : e'.1 ≠ e.1 := by
      intro heq
      apply (List.nodup_cons.mp hkeys).1
      rw [key_of_readEntry he', heq, ← key_of_readEntry he]
      exact List.mem_cons_self
    rw [Dict.insert_comm hne]
    exact .refl _
  | trans h _ ih ih' =>
    exact (ih hkeys d).trans (ih' ((h.map Prod.fst).nodup_iff.mp hkeys) d)

theorem agree_readDict {α : Type} (read : Node → Except ReadError α) {n n' : Node}
    (h : SameMembers n n') : Agree (readDict read n) (readDict read n') := by
  cases h with
  | object ending h hkeys =>
    exact (agree_readEntries read h hkeys .empty).bind fun _ => .refl _

theorem agree_readList {α : Type} {read : Node → Except ReadError α} {R : Node → Node → Prop}
    (hR : ∀ n n', R n n' → Agree (read n) (read n')) {n n' : Node} (h : ListRelated R n n') :
    Agree (readList read n) (readList read n') := by
  cases h with
  | array ending h => exact (agree_mapM (h.imp hR)).bind fun _ => .refl _

/-- Descriptions of a column that differ in how its options and indexes are listed. -/
def ColumnRelisted : Node → Node → Prop :=
  RecordRelated (differingAt
    [("enum_options", SameItems), ("set_options", SameItems), ("indexes", SameItems)])
    (Column.format.fields.map (·.name))

/-- Descriptions of a table that differ in the order of its indexes and in how the sets of its
columns are listed. -/
def TableRelisted : Node → Node → Prop :=
  RecordRelated (differingAt [("columns", ListRelated ColumnRelisted), ("indexes", SameMembers)])
    (Table.format.fields.map (·.name))

def SchemaRelisted : Node → Node → Prop :=
  RecordRelated (differingAt [("tables", ListRelated TableRelisted)])
    (Schema.format.fields.map (·.name))

theorem Column.agree_read {n n' : Node} (h : ColumnRelisted n n') :
    Agree (Column.format.read n) (Column.format.read n') := by
  have hnames : (Column.format.fields.map (·.name)).Nodup := by decide
  refine Column.format.agree_read (respects_differingAt hnames ?_) h
  simp only [List.forall_mem_cons]
  refine ⟨⟨.set "enum_options", ?_, rfl, fun _ _ => agree_readSet⟩,
    ⟨.set "set_options", ?_, rfl, fun _ _ => agree_readSet⟩,
    ⟨.set "indexes", ?_, rfl, fun _ _ => agree_readSet⟩, List.forall_mem_nil _⟩
  all_goals simp [Column.format]

theorem Table.agree_read {n n' : Node} (h : TableRelisted n n') :
    Agree (Table.format.read n) (Table.format.read n') := by
  have hnames : (Table.format.fields.map (·.name)).Nodup := by decide
  have hcolumns : ∀ n n', ListRelated ColumnRelisted n n' →
      Agree (readList Column.format.read n) (readList Column.format.read n') :=
    fun _ _ => agree_readList fun _ _ hc => Column.agree_read hc
  refine Table.format.agree_read (respects_differingAt hnames ?_) h
  simp only [List.forall_mem_cons]
  refine ⟨⟨.list "columns" Column.format.read Column.format.write, ?_, rfl, hcolumns⟩,
    ⟨.dict "indexes" Index.format, ?_, rfl, fun _ _ => agree_readDict Index.format.read⟩,
    List.forall_mem_nil _⟩
  all_goals simp [Table.format]

theorem Schema.agree_read {n n' : Node} (h : SchemaRelisted n n') :
    Agree (Schema.format.read n) (Schema.format.read n') := by
  have hnames : (Schema.format.fields.map (·.name)).Nodup := by decide
  have htables : ∀ n n', ListRelated TableRelisted n n' →
      Agree (readList Table.format.read n) (readList Table.format.read n') :=
    fun _ _ => agree_readList fun _ _ ht => Table.agree_read ht
  refine Schema.format.agree_read (respects_differingAt hnames ?_) h
  simp only [List.forall_mem_cons]
  exact ⟨⟨.list "tables" Table.format.read Table.format.write, List.mem_cons_self, rfl, htables⟩,
    List.forall_mem_nil _⟩

end StructGen
