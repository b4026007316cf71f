import Mathlib.Data.List.TakeWhile
import StructGen.FieldType

namespace StructGen

/-- All entries of two maps; where they share a key, the value of the second. -/
def Dict.union {α : Type u} (d e : Dict α) : Dict α :=
  e.entries.foldl (fun d e => d.insert e.1 e.2) d

theorem Dict.get?_union {α : Type u} (d e : Dict α) (key : String) :
    (d.union e).get? key = (e.get? key).or (d.get? key) :=
  get?_foldl_insert e.ascending d key

/-- Whether a column of some tables has a field type that needs a package. -/
def TypeMapping.Needs (mapping : TypeMapping) (tables : List Table) (path : String) : Prop :=
  ∃ table ∈ tables, ∃ column ∈ table.columns,
    mapping.importPath (mapping.fieldType column) = some path

theorem TypeMapping.needs_iff {mapping : TypeMapping} {tables : List Table} {path : String} :
    mapping.Needs tables path ↔ ∃ column ∈ tables.flatMap (·.columns),
      mapping.importPath (mapping.fieldType column) = some path := by
  simp only [Needs, List.mem_flatMap]
  constructor
  · rintro ⟨table, htable, column, hcolumn, hpath⟩
    exact ⟨column, ⟨table, htable, hcolumn⟩, hpath⟩
  · rintro ⟨column, ⟨table, htable, hcolumn⟩, hpath⟩
    exact ⟨table, htable, column, hcolumn, hpath⟩

theorem get?_foldl_insert_self (paths : List String) (d : Dict String) (key : String) :
    (paths.foldl (fun d path => d.insert path path) d).get? key =
      if key ∈ paths then some key else d.get? key := by
  induction paths generalizing d with
  | nil => simp
  | cons path paths ih =>
    rw [List.foldl_cons, ih, Dict.get?_insert]
    by_cases hkey : key = path
    · simp [hkey]
    · simp [hkey]

/-- The imports of tables are the packages that their columns need, each under its own path. -/
theorem get?_resolveImports (tables : List Table) (mapping : TypeMapping) (key path : String) :
    (resolveImports tables mapping).get? key = some path ↔
      path = key ∧ mapping.Needs tables key := by
  have hmem : key ∈ (tables.flatMap (·.columns)).filterMap
      (fun column => mapping.importPath (mapping.fieldType column)) ↔ mapping.Needs tables key :=
    List.mem_filterMap.trans TypeMapping.needs_iff.symm
  rw [resolveImports, get?_foldl_insert_self, ← hmem]
  split
  next hkey => simp [hkey, eq_comm]
  next hkey => simp [hkey]

theorem mem_keys_resolveImports {tables : List Table} {mapping : TypeMapping} {path : String} :
    path ∈ (resolveImports tables mapping).keys ↔ mapping.Needs tables path := by
  rw [Dict.mem_keys_iff, Option.isSome_iff_exists]
  simp only [get?_resolveImports, exists_eq_left]

theorem resolveImports_eq_of_needs_iff {tables tables' : List Table} {mapping : TypeMapping}
    (h : ∀ path, mapping.Needs tables path ↔ mapping.Needs tables' path) :
    resolveImports tables mapping = resolveImports tables' mapping := by
  apply Dict.ext_get?
  intro key
  apply Option.ext
  intro path
  rw [get?_resolveImports, get?_resolveImports, h]

theorem TypeMapping.needs_append {mapping : TypeMapping} {tables tables' : List Table}
    {path : String} :
    mapping.Needs (tables ++ tables') path ↔
      mapping.Needs tables path ∨ mapping.Needs tables' path := by
  simp only [Needs, List.mem_append, or_and_right, exists_or]

/-- What tables import together is what each part of them imports. -/
theorem resolveImports_append (tables tables' : List Table) (mapping : TypeMapping) :
    resolveImports (tables ++ tables') mapping =
      (resolveImports tables mapping).union (resolveImports tables' mapping) := by
  apply Dict.ext_get?
  intro key
  apply Option.ext
  intro path
  rw [Dict.get?_union, Option.or_eq_some_iff, Option.eq_none_iff_forall_ne_some]
  simp only [ne_eq, get?_resolveImports, TypeMapping.needs_append]
  constructor
  · rintro ⟨hpath, hneeds⟩
    by_cases hsecond : mapping.Needs tables' key
    · exact Or.inl ⟨hpath, hsecond⟩
    · exact Or.inr ⟨fun _ hother => hsecond hother.2, hpath, hneeds.resolve_right hsecond⟩
  · rintro (⟨hpath, hsecond⟩ | ⟨_, hpath, hfirst⟩)
    · exact ⟨hpath, Or.inr hsecond⟩
    · exact ⟨hpath, Or.inl hfirst⟩

def isWrapper (c : Char) : Bool :=
  c == '*' || c == '[' || c == ']'

/-- Whether a type name is that of a type from a package, behind any pointers and slices. -/
structure Qualifies (package typeName : String) : Prop where
  split : ∃ wrappers rest, (∀ c ∈ wrappers, isWrapper c = true) ∧
    typeName.toList = wrappers ++ (package.toList ++ '.' :: rest)
  start : ∃ first more, package.toList = first :: more ∧ isWrapper first = false
  noPoint : '.' ∉ package.toList

theorem qualifier?_of_dropWhile {typeName : String} {name : List Char}
    (h : typeName.toList.dropWhile isWrapper = name) :
    qualifier? typeName =
      if (name.takeWhile (· != '.')).length < name.length && !(name.takeWhile (· != '.')).isEmpty
      then some (String.ofList (name.takeWhile (· != '.'))) else none := by
  rw [← h]
  rfl

theorem qualifier?_of_qualifies {package typeName : String} (h : Qualifies package typeName) :
    qualifier? typeName = some package := by
  obtain ⟨⟨wrappers, rest, hwrappers, hsplit⟩, ⟨first, more, hstart, hfirst⟩, hpoint⟩ := h
  have hname : typeName.toList.dropWhile isWrapper = package.toList ++ '.' :: rest := by
    rw [hsplit, List.dropWhile_append_of_pos hwrappers, hstart, List.cons_append]
    exact List.dropWhile_cons_of_neg (by simp [hfirst])
  have hpackage : (package.toList ++ '.' :: rest).takeWhile (· != '.') = package.toList := by
    have hplain : ∀ c ∈ package.toList, (c != '.') = true := by
      intro c hc
      have hne : c ≠ '.' := fun heq => hpoint (heq ▸ hc)
      simpa using hne
    rw [List.takeWhile_append_of_pos hplain, List.takeWhile_cons_of_neg (by decide), List.append_nil]
  have hlength : package.toList.length < (package.toList ++ '.' :: rest).length := by
    rw [List.length_append, List.length_cons]
    omega
  have hne : package.toList.isEmpty = false := by rw [hstart]; rfl
  rw [qualifier?_of_dropWhile hname, hpackage, hne, String.ofList_toList]
  simp only [hlength, decide_true, Bool.not_false, Bool.and_self, if_true]

theorem qualifies_of_qualifier? {package typeName : String} (h : qualifier? typeName = some package) :
    Qualifies package typeName := by
  obtain ⟨name, hname⟩ : ∃ name, typeName.toList.dropWhile isWrapper = name := ⟨_, rfl⟩
  rw [qualifier?_of_dropWhile hname] at h
  simp only [Bool.and_eq_true, decide_eq_true_eq, Bool.not_eq_true', Option.ite_none_right_eq_some,
    Option.some.injEq] at h
  obtain ⟨⟨hshort, hne⟩, rfl⟩ := h
  have hparts : name.takeWhile (· != '.') ++ name.dropWhile (· != '.') = name :=
    List.takeWhile_append_dropWhile
  have hwhole : typeName.toList.takeWhile isWrapper ++ name = typeName.toList := by
    rw [← hname]
    exact List.takeWhile_append_dropWhile
  constructor
  case split =>
    cases hrest : name.dropWhile (· != '.') with
    | nil =>
      rw [hrest, List.append_nil] at hparts
      rw [hparts] at hshort
      exact absurd hshort (Nat.lt_irrefl _)
    | cons c rest =>
      have hpoint := List.head?_dropWhile_not (· != '.') name
      rw [hrest] at hpoint
      obtain rfl : c = '.' := by simpa using hpoint
      refine ⟨typeName.toList.takeWhile isWrapper, rest, fun _ => List.mem_takeWhile_imp, ?_⟩
      rw [String.toList_ofList, ← hrest, hparts, hwhole]
  case start =>
    cases hfirst : name with
    | nil => simp [hfirst] at hne
    | cons c cs =>
      have hstop := List.head?_dropWhile_not isWrapper typeName.toList
      rw [hname, hfirst] at hstop
      have hplain : (c != '.') = true := by
        cases hc : c != '.' with
        | true => rfl
        | false => simp [hfirst, hc] at hne
      refine ⟨c, cs.takeWhile (· != '.'), ?_, hstop⟩
      rw [String.toList_ofList]
      exact List.takeWhile_cons_of_pos hplain
  case noPoint =>
    rw [String.toList_ofList]
    intro hpoint
    have hplain := List.mem_takeWhile_imp hpoint
    simp at hplain

/-- The qualifier of a type name is the package that it is qualified with. -/
theorem qualifier?_eq_some_iff {package typeName : String} :
    qualifier? typeName = some package ↔ Qualifies package typeName :=
  ⟨qualifies_of_qualifier?, qualifier?_of_qualifies⟩

/-- More pointers and slices before a type name do not change its qualifier. -/
theorem qualifier?_append {wrappers : String} (h : wrappers.toList.all isWrapper = true)
    (typeName : String) : qualifier? (wrappers ++ typeName) = qualifier? typeName := by
  have hname : (wrappers ++ typeName).toList.dropWhile isWrapper =
      typeName.toList.dropWhile isWrapper := by
    rw [String.toList_append]
    exact List.dropWhile_append_of_pos (List.all_eq_true.mp h)
  rw [qualifier?_of_dropWhile hname, qualifier?_of_dropWhile rfl]

/-! ### Tables listed in other ways -/

/-- Whether imports are some packages, each once and under its own path, in ascending order. -/
def ImportsExactly (needed : String → Prop) (imports : Dict String) : Prop :=
  ∃ paths : List String, imports.entries = paths.map (fun path => (path, path)) ∧
    paths.Pairwise (· < ·) ∧ ∀ path, path ∈ paths ↔ needed path

theorem importsExactly_resolveImports (tables : List Table) (mapping : TypeMapping) :
    ImportsExactly (mapping.Needs tables) (resolveImports tables mapping) := by
  refine ⟨_, ?_, Dict.keys_ascending _, fun _ => mem_keys_resolveImports⟩
  have hself : ∀ entry ∈ (resolveImports tables mapping).entries, (entry.1, entry.1) = entry := by
    rintro ⟨key, path⟩ hentry
    have hget : (resolveImports tables mapping).get? key = some path :=
      (Dict.lookup_eq_some_iff (Dict.ascending _)).mpr hentry
    rw [((get?_resolveImports tables mapping key path).mp hget).1]
  rw [Dict.keys, List.map_map]
  exact ((List.map_congr_left hself).trans (List.map_id _)).symm

/-- Whether tables have the same columns, whatever the order and the repetition of the tables and
of the columns in them. -/
def SameColumns (tables tables' : List Table) : Prop :=
  ∀ column, column ∈ tables.flatMap (·.columns) ↔ column ∈ tables'.flatMap (·.columns)

theorem SameColumns.resolveImports_eq {tables tables' : List Table} (h : SameColumns tables tables')
    (mapping : TypeMapping) : resolveImports tables mapping = resolveImports tables' mapping := by
  apply resolveImports_eq_of_needs_iff
  intro path
  simp only [TypeMapping.needs_iff, h _]

/-- Whether the packages of types are told by what qualifies their names, behind any pointers and
slices. -/
structure TellsQualifier (importPath : String → Option String) : Prop where
  qualified : ∀ package typeName,
    importPath typeName = some package ↔ Qualifies package typeName
  wrapped : ∀ wrappers typeName, wrappers.toList.all isWrapper = true →
    importPath (wrappers ++ typeName) = importPath typeName

theorem tellsQualifier_default (typeName : Column → String) :
    TellsQualifier ({ typeName } : TypeMapping).importPath where
  qualified _ _ := qualifier?_eq_some_iff
  wrapped _ typeName h := qualifier?_append h typeName

/-- For any choice of field types, tables import exactly the packages that their columns need: the
imports of some tables and some more are those of both, and how the columns are listed does not
matter. Unless the choice says otherwise, a package is needed where it qualifies the type. -/
theorem resolveImports_collects (mapping : TypeMapping) :
    (∀ tables, ImportsExactly (mapping.Needs tables) (resolveImports tables mapping)) ∧
    (∀ tables tables', resolveImports (tables ++ tables') mapping =
      (resolveImports tables mapping).union (resolveImports tables' mapping)) ∧
    (∀ tables tables', SameColumns tables tables' →
      resolveImports tables mapping = resolveImports tables' mapping) ∧
    TellsQualifier ({ typeName := mapping.typeName } : TypeMapping).importPath :=
  ⟨fun tables => importsExactly_resolveImports tables mapping,
    fun tables tables' => resolveImports_append tables tables' mapping,
    fun _ _ h => h.resolveImports_eq mapping, tellsQualifier_default mapping.typeName⟩

/-- Only the first point of a name counts, and a name may have nothing before it. -/
theorem resolveImports_collects_of_repeated_tables :
    let mapping : TypeMapping := { typeName := (·.sqlType.name) }
    let column (name : String) : Column := { name := "c", sqlType := { name } }
    let first : Table := { name := "a", columns :=
      [column "time.Time", column ".Time", column "[]*sql.Null.String"] }
    let second : Table := { name := "b", columns := [column "[]uint8", column "*[]time.Time"] }
    let relisted : List Table := [second, second,
      { name := "c", columns := first.columns.reverse ++ [column "[]uint8"] }]
    SameColumns [first, second] relisted ∧
      resolveImports [first, second] mapping = resolveImports relisted mapping ∧
      (resolveImports relisted mapping).entries = [("sql", "sql"), ("time", "time")] ∧
      "[]*".toList.all isWrapper = true ∧
      mapping.importPath "[]*sql.Null.String" = mapping.importPath "sql.Null.String" := by
  intro mapping column first second relisted
  have hsame : SameColumns [first, second] relisted := by
    intro c
    simp [first, second, relisted, or_comm, or_left_comm, or_assoc]
  obtain ⟨_, _, hlisting, htells⟩ := resolveImports_collects mapping
  have hwrappers : "[]*".toList.all isWrapper = true := by decide +kernel
  exact ⟨hsame, hlisting _ _ hsame, by decide +kernel, hwrappers,
    htells.wrapped "[]*" "sql.Null.String" hwrappers⟩

end StructGen
