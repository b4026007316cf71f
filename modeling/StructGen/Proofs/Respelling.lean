import StructGen.Proofs.RecordSpelling
import StructGen.Proofs.Relisting

namespace StructGen

namespace Json

/-- Whether a node is a whole JSON value. A number that is too large for the reader and a string
with half of a surrogate pair are whole all the same. -/
inductive Node.WellFormed : Node → Prop
  | null : WellFormed .null
  | bool (b : Bool) : WellFormed (.bool b)
  | number (x : Number) : WellFormed (.number x)
  | string (s : String) : WellFormed (.string s)
  | unreadable {f : Fault} (h : f.skipping = none) : WellFormed (.fault f)
  | array {items : List Node} (h : ∀ n ∈ items, WellFormed n) : WellFormed (.array items .closed)
  | object {ms : List Member} (h : ∀ m ∈ ms, WellFormed m.2) : WellFormed (.object ms .closed)

theorem skipItems_eq_ok {ns : List Node} (h : ∀ n ∈ ns, n.skip = .ok ()) :
    Node.skipItems ns = .ok () := by
  induction ns with
  | nil => rfl
  | cons n ns ih =>
    obtain ⟨hn, hns⟩ := List.forall_mem_cons.mp h
    rw [Node.skipItems, hn, ih hns]
    rfl

theorem skipMembers_eq_ok {ms : List Member} (h : ∀ m ∈ ms, m.2.skip = .ok ()) :
    Node.skipMembers ms = .ok () := by
  induction ms with
  | nil => rfl
  | cons m ms ih =>
    obtain ⟨hm, hms⟩ := List.forall_mem_cons.mp h
    rw [Node.skipMembers, hm, ih hms]
    rfl

/-- Whole values can be passed over. -/
theorem Node.WellFormed.skip_eq_ok {n : Node} (h : n.WellFormed) : n.skip = .ok () := by
  induction h with
  | null | bool | number | string => simp [skip]
  | unreadable h => simp [skip, h, failOn]
  | array _ ih =>
    rw [skip, skipItems_eq_ok ih]
    rfl
  | object _ ih =>
    rw [skip, skipMembers_eq_ok ih]
    rfl

/-- Whether a node is the value that a field has when it is left out. -/
def Field.IsDefault (f : Field) (n : Node) : Prop :=
  ∃ v, f.absent = some v ∧ f.read n = .ok v

/-- Whether what is read from one node is read from another too. -/
def Keeps {α : Type} (read : Node → Except ReadError α) (n n' : Node) : Prop :=
  ∀ x, read n = .ok x → read n' = .ok x

/-- Whether a record is written in another way: by one change of its form, by a change inside the
value of one field, or by several of these. -/
inductive Respelled {α : Type} (r : Record α) (inside : FieldRelation) : Node → Node → Prop
  | refl (n : Node) : Respelled r inside n n
  | trans {n n' n'' : Node} (h : Respelled r inside n n') (h' : Respelled r inside n' n'') :
    Respelled r inside n n''
  | permuted {ms ms' : List Member} (h : ms.Perm ms') :
    Respelled r inside (.object ms .closed) (.object ms' .closed)
  /-- A field that the record does not have is added. -/
  | extended (before after : List Member) {key : String} {n : Node}
    (hkey : key ∉ r.fields.map (·.name)) (hn : n.WellFormed) :
    Respelled r inside (.object (before ++ after) .closed)
      (.object (before ++ (.ok key, n) :: after) .closed)
  | writtenOut (before after : List Member) {f : Field} {n : Node} (hf : f ∈ r.fields)
    (habsent : ∀ m ∈ before ++ after, m.1 ≠ .ok f.name) (hn : f.IsDefault n) :
    Respelled r inside (.object (before ++ after) .closed)
      (.object (before ++ (.ok f.name, n) :: after) .closed)
  | leftOut (before after : List Member) {f : Field} {n : Node} (hf : f ∈ r.fields)
    (hn : f.IsDefault n) :
    Respelled r inside (.object (before ++ (.ok f.name, n) :: after) .closed)
      (.object (before ++ after) .closed)
  /-- An object becomes the array of the values of all fields. -/
  | listed {ms : List Member} {ns : List Node}
    (h : List.Forall₂ (fun f n => (.ok f.name, n) ∈ ms) r.fields ns) :
    Respelled r inside (.object ms .closed) (.array ns .closed)
  | shortened (ns last : List Node)
    (h : List.Forall₂ Field.IsDefault ((r.fields.drop ns.length).take last.length) last) :
    Respelled r inside (.array (ns ++ last) .closed) (.array ns .closed)
  | lengthened (ns last : List Node)
    (h : List.Forall₂ Field.IsDefault ((r.fields.drop ns.length).take last.length) last) :
    Respelled r inside (.array ns .closed) (.array (ns ++ last) .closed)
  | member (before after : List Member) {f : Field} {n n' : Node} (hf : f ∈ r.fields)
    (h : inside f.name n n') :
    Respelled r inside (.object (before ++ (.ok f.name, n) :: after) .closed)
      (.object (before ++ (.ok f.name, n') :: after) .closed)
  | item (before after : List Node) {f : Field} {n n' : Node}
    (hf : r.fields[before.length]? = some f) (h : inside f.name n n') :
    Respelled r inside (.array (before ++ n :: after) .closed)
      (.array (before ++ n' :: after) .closed)

theorem MembersGive.imp {fs : List Field} {ms ms' : List Member} {vs : Values fs}
    (h : ∀ f ∈ fs, ∀ v, f.Gives (valuesFor f.name ms) v → f.Gives (valuesFor f.name ms') v)
    (hgive : MembersGive fs ms vs) : MembersGive fs ms' vs := by
  induction fs with
  | nil => exact trivial
  | cons f fs ih =>
    obtain ⟨v, rest⟩ := vs
    obtain ⟨hf, hfs⟩ := List.forall_mem_cons.mp h
    exact ⟨hf v hgive.1, ih hfs hgive.2⟩

theorem Field.Gives.perm {f : Field} {ns ns' : List Node} {v : f.Carrier} (h : f.Gives ns v)
    (hperm : ns.Perm ns') : f.Gives ns' v := by
  cases h with
  | given h => exact List.singleton_perm.mp hperm ▸ .given h
  | absent h => exact List.nil_perm.mp hperm ▸ .absent h

/-- A field to which a node is given has the value of that node, and no other node is given. -/
theorem Field.gives_insert_iff {f : Field} {before after : List Node} {n : Node} {v : f.Carrier} :
    f.Gives (before ++ n :: after) v ↔ before = [] ∧ after = [] ∧ f.read n = .ok v := by
  constructor
  · intro h
    generalize hns : before ++ n :: after = ns at h
    cases h with
    | given h =>
      cases before with
      | nil =>
        obtain ⟨rfl, rfl⟩ := List.cons_eq_cons.mp hns
        exact ⟨rfl, rfl, h⟩
      | cons m before => simp at hns
    | absent => simp at hns
  · rintro ⟨rfl, rfl, h⟩
    exact .given h

theorem valuesFor_insert_self (before after : List Member) (name : String) (n : Node) :
    valuesFor name (before ++ (.ok name, n) :: after) =
      valuesFor name before ++ n :: valuesFor name after := by
  rw [valuesFor_append, valuesFor_cons_self]

theorem valuesFor_insert_of_ne {name key : String} (h : name ≠ key) (before after : List Member)
    (n : Node) :
    valuesFor name (before ++ (.ok key, n) :: after) = valuesFor name (before ++ after) := by
  rw [valuesFor_append, valuesFor_cons_of_ne h, valuesFor_append]

theorem legible_insert_iff {names : List String} {before after : List Member} {key : String}
    {n : Node} : Legible names (before ++ (.ok key, n) :: after) ↔
      (key ∉ names → n.skip = .ok ()) ∧ Legible names (before ++ after) := by
  have hperm : (before ++ (.ok key, n) :: after).Perm ((.ok key, n) :: (before ++ after)) :=
    List.perm_middle
  simp only [Legible, hperm.mem_iff]
  exact legible_cons_iff

theorem Field.Gives.read_of_mem {f : Field} {ns : List Node} {n : Node} {v : f.Carrier}
    (h : f.Gives ns v) (hn : n ∈ ns) : f.read n = .ok v := by
  cases h with
  | given h => exact List.mem_singleton.mp hn ▸ h
  | absent => contradiction

theorem Field.IsDefault.gives_iff {f : Field} {n : Node} {v : f.Carrier} (h : f.IsDefault n) :
    f.Gives [n] v ↔ f.Gives [] v := by
  obtain ⟨u, hu, hread⟩ := h
  rw [Field.gives_singleton_iff, Field.gives_nil_iff, hu, hread, Except.ok.injEq, Option.some.injEq]

theorem itemsGive_of_listed {fs : List Field} {ms : List Member} {ns : List Node} {vs : Values fs}
    (h : List.Forall₂ (fun f n => (.ok f.name, n) ∈ ms) fs ns) (hgive : MembersGive fs ms vs) :
    ItemsGive fs ns vs := by
  induction h with
  | nil => rfl
  | cons hn _ ih =>
    obtain ⟨v, rest⟩ := vs
    exact ⟨.given (hgive.1.read_of_mem (mem_valuesFor.mpr hn)), ih hgive.2⟩

/-- Items at the end that are defaults of their fields may stand or be dropped. -/
theorem itemsGive_append_iff {fs : List Field} {ns last : List Node} {vs : Values fs}
    (h : List.Forall₂ Field.IsDefault ((fs.drop ns.length).take last.length) last) :
    ItemsGive fs (ns ++ last) vs ↔ ItemsGive fs ns vs := by
  induction fs generalizing ns last with
  | nil =>
    rw [List.drop_nil, List.take_nil, List.forall₂_nil_left_iff] at h
    rw [h, List.append_nil]
  | cons f fs ih =>
    obtain ⟨v, rest⟩ := vs
    cases ns with
    | nil =>
      cases last with
      | nil => rfl
      | cons n last =>
        obtain ⟨hn, hlast⟩ := List.forall₂_cons.mp h
        have hrest : ItemsGive fs ([] ++ last) rest ↔ ItemsGive fs [] rest := ih hlast
        exact and_congr hn.gives_iff hrest
    | cons n ns => exact and_congr_right fun _ => ih h

theorem itemsGive_of_item {fs : List Field} {before after : List Node} {f : Field} {n n' : Node}
    {vs : Values fs} (hf : fs[before.length]? = some f) (h : Keeps f.read n n')
    (hgive : ItemsGive fs (before ++ n :: after) vs) : ItemsGive fs (before ++ n' :: after) vs := by
  induction before generalizing fs with
  | nil =>
    cases fs with
    | nil => contradiction
    | cons g fs =>
      obtain rfl : g = f := Option.some.inj hf
      obtain ⟨v, rest⟩ := vs
      obtain ⟨hv, hrest⟩ := hgive
      exact ⟨.given (h v (Field.gives_singleton_iff.mp hv)), hrest⟩
  | cons m before ih =>
    cases fs with
    | nil => contradiction
    | cons g fs =>
      obtain ⟨v, rest⟩ := vs
      exact ⟨hgive.1, ih hf hgive.2⟩

section Changes

variable {α : Type} {r : Record α} (hnames : (r.fields.map (·.name)).Nodup)

include hnames

theorem keeps_object {ms ms' : List Member}
    (hms : Legible (r.fields.map (·.name)) ms → Legible (r.fields.map (·.name)) ms')
    (hvalues : ∀ f ∈ r.fields, ∀ v, f.Gives (valuesFor f.name ms) v →
      f.Gives (valuesFor f.name ms') v) :
    Keeps r.read (.object ms .closed) (.object ms' .closed) := by
  intro x hx
  cases (Record.read_eq_ok_iff hnames).mp hx with
  | object hlegible hgive =>
    exact (Record.read_eq_ok_iff hnames).mpr (.object (hms hlegible) (hgive.imp hvalues))

theorem keeps_array {ns ns' : List Node}
    (h : ∀ vs : Values r.fields, ItemsGive r.fields ns vs → ItemsGive r.fields ns' vs) :
    Keeps r.read (.array ns .closed) (.array ns' .closed) := by
  intro x hx
  cases (Record.read_eq_ok_iff hnames).mp hx with
  | array hgive => exact (Record.read_eq_ok_iff hnames).mpr (.array (h _ hgive))

theorem keeps_permuted {ms ms' : List Member} (h : ms.Perm ms') :
    Keeps r.read (.object ms .closed) (.object ms' .closed) :=
  keeps_object hnames (fun hms m hm => hms m (h.mem_iff.mpr hm))
    fun _ _ _ hv => hv.perm (h.filterMap _)

theorem keeps_extended (before after : List Member) {key : String} {n : Node}
    (hkey : key ∉ r.fields.map (·.name)) (hn : n.WellFormed) :
    Keeps r.read (.object (before ++ after) .closed)
      (.object (before ++ (.ok key, n) :: after) .closed) := by
  refine keeps_object hnames (fun hms => legible_insert_iff.mpr ⟨fun _ => hn.skip_eq_ok, hms⟩) ?_
  intro f hf v hv
  have hne : f.name ≠ key := fun heq => hkey (heq ▸ List.mem_map_of_mem hf)
  rwa [valuesFor_insert_of_ne hne]

/-- A change of one member of an object is a change for the field of that member alone. -/
theorem keeps_at_field {ms ms' : List Member} {f : Field} (hf : f ∈ r.fields)
    (hms : Legible (r.fields.map (·.name)) ms → Legible (r.fields.map (·.name)) ms')
    (hother : ∀ name, name ≠ f.name → valuesFor name ms' = valuesFor name ms)
    (hvalue : ∀ v, f.Gives (valuesFor f.name ms) v → f.Gives (valuesFor f.name ms') v) :
    Keeps r.read (.object ms .closed) (.object ms' .closed) := by
  refine keeps_object hnames hms fun g hg v hv => ?_
  by_cases hname : g.name = f.name
  · obtain rfl : g = f := List.inj_on_of_nodup_map hnames hg hf hname
    exact hvalue v hv
  · rwa [hother g.name hname]

theorem keeps_writtenOut {before after : List Member} {f : Field} {n : Node} (hf : f ∈ r.fields)
    (habsent : ∀ m ∈ before ++ after, m.1 ≠ .ok f.name) (hn : f.IsDefault n) :
    Keeps r.read (.object (before ++ after) .closed)
      (.object (before ++ (.ok f.name, n) :: after) .closed) := by
  have hfield : f.name ∈ r.fields.map (·.name) := List.mem_map_of_mem hf
  refine keeps_at_field hnames hf
    (fun hms => legible_insert_iff.mpr ⟨fun h => absurd hfield h, hms⟩)
    (fun name hne => valuesFor_insert_of_ne hne before after n) fun v hv => ?_
  obtain ⟨u, hu, hread⟩ := hn
  have hnil := valuesFor_eq_nil habsent
  rw [hnil, Field.gives_nil_iff, hu] at hv
  obtain rfl := Option.some.inj hv
  rw [valuesFor_append] at hnil
  obtain ⟨hbefore, hafter⟩ := List.append_eq_nil_iff.mp hnil
  rw [valuesFor_insert_self, Field.gives_insert_iff]
  exact ⟨hbefore, hafter, hread⟩

theorem keeps_leftOut (before after : List Member) {f : Field} {n : Node} (hf : f ∈ r.fields)
    (hn : f.IsDefault n) :
    Keeps r.read (.object (before ++ (.ok f.name, n) :: after) .closed)
      (.object (before ++ after) .closed) := by
  refine keeps_at_field hnames hf (fun hms => (legible_insert_iff.mp hms).2)
    (fun name hne => (valuesFor_insert_of_ne hne before after n).symm) fun v hv => ?_
  obtain ⟨u, hu, hread⟩ := hn
  rw [valuesFor_insert_self, Field.gives_insert_iff] at hv
  obtain ⟨hbefore, hafter, hv⟩ := hv
  rw [valuesFor_append, hbefore, hafter]
  exact .absent (hu.trans (congrArg some (Except.ok.inj (hread.symm.trans hv))))

theorem keeps_member (before after : List Member) {f : Field} {n n' : Node} (hf : f ∈ r.fields)
    (h : Keeps f.read n n') :
    Keeps r.read (.object (before ++ (.ok f.name, n) :: after) .closed)
      (.object (before ++ (.ok f.name, n') :: after) .closed) := by
  have hfield : f.name ∈ r.fields.map (·.name) := List.mem_map_of_mem hf
  refine keeps_at_field hnames hf (fun hms => legible_insert_iff.mpr
    ⟨fun h => absurd hfield h, (legible_insert_iff.mp hms).2⟩) ?_ fun v hv => ?_
  · intro name hne
    rw [valuesFor_insert_of_ne hne, valuesFor_insert_of_ne hne]
  · rw [valuesFor_insert_self, Field.gives_insert_iff] at hv ⊢
    exact ⟨hv.1, hv.2.1, h v hv.2.2⟩

theorem keeps_listed {ms : List Member} {ns : List Node}
    (h : List.Forall₂ (fun f n => (.ok f.name, n) ∈ ms) r.fields ns) :
    Keeps r.read (.object ms .closed) (.array ns .closed) := by
  intro x hx
  cases (Record.read_eq_ok_iff hnames).mp hx with
  | object _ hgive =>
    exact (Record.read_eq_ok_iff hnames).mpr (.array (itemsGive_of_listed h hgive))

/-- Whatever way a record is written in, the same is read. -/
theorem Respelled.keeps {inside : FieldRelation}
    (hinside : ∀ f ∈ r.fields, ∀ n n', inside f.name n n' → Keeps f.read n n') {n n' : Node}
    (h : Respelled r inside n n') : Keeps r.read n n' := by
  induction h with
  | refl => exact fun _ hx => hx
  | trans _ _ ih ih' => exact fun x hx => ih' x (ih x hx)
  | permuted h => exact keeps_permuted hnames h
  | extended before after hkey hn => exact keeps_extended hnames before after hkey hn
  | writtenOut before after hf habsent hn => exact keeps_writtenOut hnames hf habsent hn
  | leftOut before after hf hn => exact keeps_leftOut hnames before after hf hn
  | listed h => exact keeps_listed hnames h
  | shortened ns last h => exact keeps_array hnames fun _ => (itemsGive_append_iff h).mp
  | lengthened ns last h => exact keeps_array hnames fun _ => (itemsGive_append_iff h).mpr
  | member before after hf h => exact keeps_member hnames before after hf (hinside _ hf _ _ h)
  | item before after hf h =>
    have hmem := List.mem_of_getElem? hf
    exact keeps_array hnames fun _ => itemsGive_of_item hf (hinside _ hmem _ _ h)

end Changes

/-- Whether two objects have the same keys in the same order and values that are related. -/
inductive DictRelated (R : Node → Node → Prop) : Node → Node → Prop
  | object {ms ms' : List Member} (ending : ObjectEnd) (h : MembersRelated (fun _ => R) ms ms') :
    DictRelated R (.object ms ending) (.object ms' ending)

section Containers

variable {α : Type} {read : Node → Except ReadError α}

theorem mapM_eq_ok_of_keeps {ns ns' : List Node} (h : List.Forall₂ (Keeps read) ns ns')
    {xs : List α} (hread : ns.mapM read = .ok xs) : ns'.mapM read = .ok xs := by
  induction h generalizing xs with
  | nil => exact hread
  | cons hn _ ih =>
    simp only [List.mapM_cons, bind_eq_ok] at hread ⊢
    obtain ⟨x, hx, rest, hrest, hxs⟩ := hread
    exact ⟨x, hn x hx, rest, ih hrest, hxs⟩

theorem keeps_readList {R : Node → Node → Prop} (hR : ∀ n n', R n n' → Keeps read n n')
    {n n' : Node} (h : ListRelated R n n') : Keeps (readList read) n n' := by
  intro xs hxs
  cases h with
  | array ending h =>
    simp only [readList, bind_eq_ok] at hxs ⊢
    obtain ⟨values, hvalues, hrest⟩ := hxs
    exact ⟨values, mapM_eq_ok_of_keeps (h.imp hR) hvalues, hrest⟩

theorem readEntries_eq_ok_of_keeps {ms ms' : List Member}
    (h : MembersRelated (fun _ => Keeps read) ms ms') {d e : Dict α}
    (hread : readEntries read ms d = .ok e) : readEntries read ms' d = .ok e := by
  induction h generalizing d with
  | nil => exact hread
  | @cons m m' ms ms' hm _ ih =>
    obtain ⟨key, n⟩ := m
    obtain ⟨key', n'⟩ := m'
    obtain ⟨rfl, hkeeps⟩ := hm
    simp only [readEntries, bind_eq_ok] at hread ⊢
    obtain ⟨name, hname, x, hx, hrest⟩ := hread
    exact ⟨name, hname, x, hkeeps name hname x hx, ih hrest⟩

theorem keeps_readDict {R : Node → Node → Prop} (hR : ∀ n n', R n n' → Keeps read n n')
    {n n' : Node} (h : DictRelated R n n') : Keeps (readDict read) n n' := by
  intro d hd
  cases h with
  | object ending h =>
    have hkeeps : MembersRelated (fun _ => Keeps read) _ _ :=
      h.imp fun _ _ hm => ⟨hm.1, fun key hkey => hR _ _ (hm.2 key hkey)⟩
    simp only [readDict, bind_eq_ok] at hd ⊢
    obtain ⟨entries, hentries, hrest⟩ := hd
    exact ⟨entries, readEntries_eq_ok_of_keeps hkeeps hentries, hrest⟩

end Containers

theorem keeps_differingAt {relations : List (String × (Node → Node → Prop))} {fs : List Field}
    (hnames : (fs.map (·.name)).Nodup)
    (h : ∀ r ∈ relations, ∃ f ∈ fs, f.name = r.1 ∧ ∀ n n', r.2 n n' → Keeps f.read n n') :
    ∀ f ∈ fs, ∀ n n', differingAt relations f.name n n' → Keeps f.read n n' := by
  rintro f hf n n' (rfl | ⟨R, hR, hn⟩)
  · exact fun _ hx => hx
  · obtain ⟨g, hg, hname, hkeeps⟩ := h _ hR
    obtain rfl : g = f := List.inj_on_of_nodup_map hnames hg hf hname
    exact hkeeps n n' hn

end Json

end StructGen
