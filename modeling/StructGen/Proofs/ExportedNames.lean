import StructGen.Config
import StructGen.Proofs.LetterCase
import StructGen.Proofs.StructBlocks

namespace StructGen

/-- Whether a text is a name that Go exports: a letter in upper case, and letters and digits after
it, all of them ASCII. -/
def isExportedName (name : String) : Bool :=
  match name.toList with
  | [] => false
  | c :: cs => c.isUpper && cs.all Char.isAlphanum

/-- Whether the first character of a name that is no underscore is an ASCII letter. -/
def leadsWithLetter (name : String) : Bool :=
  (name.toList.find? (· ≠ '_')).any Char.isAlpha

/-- Whether a name has only ASCII letters, digits and underscores. -/
def isPlainName (name : String) : Bool :=
  name.toList.all isWordChar

theorem isExportedName_eq (name : String) :
    isExportedName name =
      (name.toList.head?.any Char.isUpper && name.toList.all Char.isAlphanum) := by
  unfold isExportedName
  cases name.toList with
  | nil => rfl
  | cons c cs =>
    show (c.isUpper && cs.all Char.isAlphanum) =
      (c.isUpper && (c.isAlphanum && cs.all Char.isAlphanum))
    cases hupper : c.isUpper with
    | false => rfl
    | true =>
      have halnum : c.isAlphanum = true :=
        Bool.or_eq_true_iff.mpr (Or.inl (Bool.or_eq_true_iff.mpr (Or.inl hupper)))
      rw [halnum]
      rfl

theorem all_isAlphanum_of_isPlainName {name : String} (h : isPlainName name = true) :
    (name.toList.filter (· ≠ '_')).all Char.isAlphanum = true := by
  rw [List.all_eq_true]
  intro c hc
  obtain ⟨hmem, hne⟩ := List.mem_filter.mp hc
  have hword : isWordChar c = true := List.all_eq_true.mp h c hmem
  simpa [isWordChar, of_decide_eq_true hne] using hword

/-- The words of a plain name make a name that Go exports if, and only if, a letter leads it. -/
theorem Capitalizes.isExportedName_respellWords {respell : List Char → List Char}
    (h : Capitalizes respell) {name : String} (hplain : isPlainName name = true) :
    isExportedName (respellWords respell name) = leadsWithLetter name := by
  -- Respelling changes the case of letters only, and both cases are of the same class.
  have hlower : ∀ cs : List Char,
      cs.all Char.isAlphanum = (cs.map Char.toLower).all Char.isAlphanum := by
    intro cs
    rw [List.all_map]
    exact List.all_congr rfl fun c => (isAlphanum_toLower c).symm
  have hchars : (respellWords respell name).toList.all Char.isAlphanum = true := by
    rw [hlower, h.map_toLower_respellWords, ← hlower]
    exact all_isAlphanum_of_isPlainName hplain
  rw [isExportedName_eq, hchars, Bool.and_true, h.head?_respellWords, Option.any_map]
  simp only [leadsWithLetter, isUpper_toUpper]

theorem exists_capitalizes {style : NameStyle} (h : style ≠ .same) :
    ∃ respell, Capitalizes respell ∧ style.identifier = respellWords respell := by
  cases style with
  | snake => exact ⟨capitalize, capitalizes_capitalize, snakeIdentifier_eq_respellWords⟩
  | same => exact absurd rfl h
  | gonic => exact ⟨gonicWord, capitalizes_gonicWord, gonicIdentifier_eq_respellWords⟩

theorem isExportedName_identifier {style : NameStyle} (hstyle : style ≠ .same) {name : String}
    (hplain : isPlainName name = true) :
    isExportedName (style.identifier name) = leadsWithLetter name := by
  obtain ⟨respell, hrespell, hidentifier⟩ := exists_capitalizes hstyle
  rw [hidentifier, hrespell.isExportedName_respellWords hplain]

/-! ### Names of structs -/

theorem dropStart_append (start rest : String) : dropStart start (start ++ rest) = rest := by
  have h : start.toList.isPrefixOf? (start ++ rest).toList = some rest.toList :=
    List.isPrefixOf?_eq_some_iff_append_eq.mpr String.toList_append.symm
  rw [dropStart, h]
  exact String.ofList_toList

theorem dropStart_eq_self {start name : String} (h : ∀ rest, name ≠ start ++ rest) :
    dropStart start name = name := by
  unfold dropStart
  split
  next rest hrest =>
    have happend := List.isPrefixOf?_eq_some_iff_append_eq.mp hrest
    exact absurd (String.toList_inj.mp (by simp [← happend])) (h (String.ofList rest))
  next => rfl

/-- The struct of a table is named as a column with the name of the table is, but for the start to
drop, which the name loses first if it begins so. -/
theorem tableName_cases (config : Config) (name : String) :
    (∃ start rest, config.tableStart = some start ∧ name = start ++ rest ∧
      config.tableName name = config.columnName rest) ∨
    (∀ start rest, config.tableStart = some start → name ≠ start ++ rest) ∧
      config.tableName name = config.columnName name := by
  unfold Config.tableName NameStyle.identifierWithout
  cases config.tableStart with
  | none => exact Or.inr ⟨nofun, rfl⟩
  | some start =>
    by_cases hbegins : ∃ rest, name = start ++ rest
    · obtain ⟨rest, rfl⟩ := hbegins
      exact Or.inl ⟨start, rest, rfl, rfl, congrArg _ (dropStart_append start rest)⟩
    · have hother : ∀ rest, name ≠ start ++ rest := fun rest h => hbegins ⟨rest, h⟩
      refine Or.inr ⟨fun start' rest h => ?_, congrArg _ (dropStart_eq_self hother)⟩
      cases h
      exact hother rest

theorem leadsWithLetter_of_head? {name : String} (h : name.toList.head?.any Char.isAlpha = true) :
    leadsWithLetter name = true := by
  unfold leadsWithLetter
  cases hchars : name.toList with
  | nil => simp [hchars] at h
  | cons c cs =>
    have hletter : c.isAlpha = true := by simpa [hchars] using h
    have hne : c ≠ '_' := by
      rintro rfl
      exact absurd hletter (by decide)
    simp [hne, hletter]

/-- The struct of a table whose name begins with a letter has a name that Go exports exactly when a
letter leads what the dropped start leaves of the name. -/
theorem isExportedName_tableName_iff {config : Config} (hstyle : config.nameStyle ≠ .same)
    {name : String} (hplain : isPlainName name = true)
    (hletter : name.toList.head?.any Char.isAlpha = true) :
    isExportedName (config.tableName name) = true ↔
      ∀ start rest, config.tableStart = some start → name = start ++ rest →
        leadsWithLetter rest = true := by
  obtain ⟨start, rest, hstart, rfl, hdropped⟩ | ⟨hother, hwhole⟩ := tableName_cases config name
  · have hrest : isPlainName rest = true := by
      rw [isPlainName, String.toList_append, List.all_append] at hplain
      exact (Bool.and_eq_true_iff.mp hplain).2
    rw [hdropped, Config.columnName, isExportedName_identifier hstyle hrest]
    constructor
    · intro h start' rest' hstart' happend
      cases hstart.symm.trans hstart'
      have hsame : rest = rest' := by simpa using happend
      exact hsame ▸ h
    · exact fun h => h start rest hstart rfl
  · rw [hwhole, Config.columnName, isExportedName_identifier hstyle hplain]
    refine iff_of_true (leadsWithLetter_of_head? hletter) fun start rest hstart happend => ?_
    exact absurd happend (hother start rest hstart)

/-- A start may end within a word and before underscores. -/
theorem isExportedName_tableName_iff_of_split_word :
    let config : Config :=
      { schema := ⟨"schema.json"⟩, nameStyle := .snake, tableStart := some "t_us" }
    config.nameStyle ≠ .same ∧ isPlainName "t_us__er_2" = true ∧
      "t_us__er_2".toList.head?.any Char.isAlpha = true ∧
      isExportedName (config.tableName "t_us__er_2") = true := by
  intro config
  have hplain : isPlainName "t_us__er_2" = true := by decide +kernel
  have hletter : "t_us__er_2".toList.head?.any Char.isAlpha = true := by decide +kernel
  have hleft : ∀ start rest, config.tableStart = some start → "t_us__er_2" = start ++ rest →
      leadsWithLetter rest = true := by
    intro start rest hstart happend
    cases hstart
    have hrest : rest = dropStart "t_us" "t_us__er_2" := by rw [happend, dropStart_append]
    rw [hrest]
    decide +kernel
  exact ⟨by decide, hplain, hletter,
    (isExportedName_tableName_iff (by decide) hplain hletter).mpr hleft⟩

/-- Nothing is left of the name of a table that is the start to drop. -/
theorem not_isExportedName_of_whole_start :
    let config : Config := { schema := ⟨"schema.json"⟩, tableStart := some "user" }
    config.nameStyle ≠ .same ∧ isPlainName "user" = true ∧
      "user".toList.head?.any Char.isAlpha = true ∧ config.tableName "user" = "" ∧
      isExportedName (config.tableName "user") = false := by
  decide +kernel

/-! ### Names of fields -/

/-- Whether a text is a name that Go exports, and none of its keywords. -/
structure IsFieldName (name : String) : Prop where
  exported : isExportedName name = true
  free : name ∉ goKeywords

/-- Whether a line begins, behind a tab, with the name of a field and a blank. -/
def OpensWithField (line : String) : Prop :=
  ∃ name rest, line = "\t" ++ name ++ " " ++ rest ∧ IsFieldName name

theorem isFieldName_of_isExportedName {name : String} (h : isExportedName name = true) :
    IsFieldName name where
  exported := h
  free := by
    have hlower : ∀ word ∈ goKeywords, isExportedName word = false := by decide +kernel
    intro hmem
    rw [hlower name hmem] at h
    cases h

theorem isFieldName_identifier {style : NameStyle} (hstyle : style ≠ .same) {name : String}
    (hplain : isPlainName name = true) (hleads : leadsWithLetter name = true) :
    IsFieldName (style.identifier name) := by
  apply isFieldName_of_isExportedName
  rw [isExportedName_identifier hstyle hplain]
  exact hleads

theorem WritesColumn.opensWithField {ctx : RenderContext} {table : Table} {column : Column}
    {line : String} (h : WritesColumn ctx table column line)
    (hname : IsFieldName (ctx.fieldName column.name)) : OpensWithField line := by
  obtain ⟨gap, gap', hline⟩ := h
  rw [spaces_succ gap] at hline
  refine ⟨ctx.fieldName column.name, spaces gap ++ TypeMapping.go.fieldType column ++
    spaces (gap' + 1) ++ formatTag table column ctx.tagOptions, ?_, hname⟩
  rw [hline]
  simp only [String.append_assoc]

/-- Snake and gonic style make of each plain name that a letter leads the name of a field that Go
exports, and so begins each line of a struct whose columns have such names. -/
theorem fieldNames_exported {style : NameStyle} (hstyle : style ≠ .same) :
    (∀ name, isPlainName name = true → leadsWithLetter name = true →
      IsFieldName (style.identifier name)) ∧
    ∀ (ctx : RenderContext) (table : Table), ctx.fieldName = style.identifier →
      (∀ column ∈ table.columns,
        isPlainName column.name = true ∧ leadsWithLetter column.name = true) →
      ∃ lines, "\n" ++ renderStruct ctx table =
          structHead ctx table ++ unlines lines ++ "\x7d\n" ∧
        List.Forall₂ (fun column line => WritesColumn ctx table column line ∧ OpensWithField line)
          table.columns lines := by
  refine ⟨fun name hplain hleads => isFieldName_identifier hstyle hplain hleads,
    fun ctx table hctx hnames => ?_⟩
  refine ⟨fieldLines (ctx.fields table), renderStruct_eq_structHead ctx table, ?_⟩
  rw [fieldLines, RenderContext.fields, List.map_map, List.forall₂_map_right_iff, List.forall₂_same]
  intro column hcolumn
  obtain ⟨hplain, hleads⟩ := hnames column hcolumn
  have hname : IsFieldName (ctx.fieldName column.name) :=
    hctx ▸ isFieldName_identifier hstyle hplain hleads
  have hline := writesColumn_line ctx table column (widest ((ctx.fields table).map (·.name)))
    (widest ((ctx.fields table).map (·.typeName)))
  exact ⟨hline, hline.opensWithField hname⟩

/-- Underscores and digits may stand anywhere behind the letter that leads a name. -/
theorem fieldNames_exported_of_scattered_underscores :
    let style : NameStyle := .gonic
    let ctx : RenderContext := ⟨"models", id, style.identifier, { json := true }⟩
    let column (name : String) : Column := { name, sqlType := { name := "INT" } }
    let table : Table :=
      { name := "t", columns := [column "__utf8__id_", column "type", column "x_2_b"] }
    style ≠ .same ∧ style.identifier "__utf8__id_" = "UTF8ID" ∧ IsFieldName "UTF8ID" ∧
      (∀ column ∈ table.columns,
        isPlainName column.name = true ∧ leadsWithLetter column.name = true) ∧
      ∃ lines, "\n" ++ renderStruct ctx table =
          structHead ctx table ++ unlines lines ++ "\x7d\n" ∧
        List.Forall₂ (fun column line => WritesColumn ctx table column line ∧ OpensWithField line)
          table.columns lines := by
  intro style ctx column table
  have hstyle : style ≠ .same := by decide
  have hplain : isPlainName "__utf8__id_" = true := by decide +kernel
  have hleads : leadsWithLetter "__utf8__id_" = true := by decide +kernel
  have hidentifier : style.identifier "__utf8__id_" = "UTF8ID" := by decide +kernel
  have hnames : ∀ column ∈ table.columns,
      isPlainName column.name = true ∧ leadsWithLetter column.name = true := by decide +kernel
  have hname := (fieldNames_exported hstyle).1 "__utf8__id_" hplain hleads
  exact ⟨hstyle, hidentifier, hidentifier ▸ hname, hnames,
    (fieldNames_exported hstyle).2 ctx table rfl hnames⟩

end StructGen
