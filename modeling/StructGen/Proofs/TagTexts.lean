import Mathlib.Logic.Basic
import StructGen.Tag

namespace StructGen

/-- The options that the type of a column shows: none beside a length, and those of an
enumeration before those of a set. -/
def shownOptions (column : Column) : List String :=
  if column.sqlType.length.isSome then []
  else if column.enumOptions.isEmpty then column.setOptions.toList
  else column.enumOptions.toList

/-- The default of a column as far as its tag shows it; a cast default is not shown. -/
def shownDefault (column : Column) : String :=
  if occursIn castMarker.toList column.defaultLiteral.toList then "" else column.defaultLiteral

/-- The indexes of a column that its table has, in the order of the names that the column
gives them. -/
def resolvedIndexes (table : Table) (column : Column) : List Index :=
  column.indexes.toList.filterMap table.indexes.get?

def compositeNames (table : Table) (column : Column) : List String :=
  ((resolvedIndexes table column).filter (·.isComposite)).map (·.name)

/-- The texts of the schema that are copied into the mapping of a column. -/
def mappingTexts (table : Table) (column : Column) (options : TagOptions) : List String :=
  column.sqlType.name :: shownOptions column ++ [shownDefault column] ++
  compositeNames table column ++ (if options.inlineComment then [column.comment] else [])

/-- The texts of the schema that are copied into the tag of a column. -/
def tagTexts (table : Table) (column : Column) (options : TagOptions) : List String :=
  (if options.json then [column.name] else []) ++ mappingTexts table column options ++
  (if options.comment then [column.comment] else [])

/-- The characters other than the space that a segment has of its own. -/
def isSegmentChar (c : Char) : Bool :=
  c.isAlphanum || c == '(' || c == ')' || c == ',' || c == '\''

section Membership

variable {c : Char}

theorem not_mem_word {word : String} (hw : word.toList.all isSegmentChar = true)
    (hc : isSegmentChar c = false) : c ∉ word.toList := by
  intro hm
  have hd := List.all_eq_true.mp hw c hm
  simp [hc] at hd

theorem not_mem_words {words : String}
    (hw : (words.toList.all fun d => d == ' ' || isSegmentChar d) = true)
    (hc : isSegmentChar c = false) (hs : c ≠ ' ') : c ∉ words.toList := by
  intro hm
  have hd := List.all_eq_true.mp hw c hm
  simp [hc, hs] at hd

theorem not_mem_spaces (hs : c ≠ ' ') (n : Nat) : c ∉ (spaces n).toList := by
  simp [spaces, List.mem_replicate, hs]

theorem mem_padRight (hs : c ≠ ' ') {width : Nat} {s : String} :
    c ∈ (padRight width s).toList ↔ c ∈ s.toList := by
  simp [padRight, not_mem_spaces hs]

theorem mem_padLeft (hs : c ≠ ' ') {width : Nat} {s : String} :
    c ∈ (padLeft width s).toList ↔ c ∈ s.toList := by
  simp [padLeft, not_mem_spaces hs]

theorem mem_intercalate {between : String} (hb : c ∉ between.toList) {texts : List String} :
    c ∈ (between.intercalate texts).toList ↔ ∃ s ∈ texts, c ∈ s.toList := by
  induction texts with
  | nil => simp
  | cons s ss ih =>
    cases ss with
    | nil => simp
    | cons t ts =>
      rw [String.intercalate_cons_cons, String.toList_append, String.toList_append]
      simp only [List.mem_append, hb, or_false, ih, List.mem_cons, exists_eq_or_imp]

theorem exists_mem_ite {b : Bool} {s : String} {p : String → Prop} :
    (∃ t ∈ (if b then [s] else []), p t) ↔ b = true ∧ p s := by
  cases b <;> simp

theorem isDigit_of_mem_toString {n : Nat} (hm : c ∈ (toString n).toList) : c.isDigit = true := by
  rw [Nat.toString_eq_ofList_toDigits, String.toList_ofList] at hm
  exact Nat.isDigit_of_mem_toDigits (by decide) (by decide) hm

theorem not_mem_toString (hc : isSegmentChar c = false) (n : Nat) : c ∉ (toString n).toList := by
  intro hm
  have hd := isDigit_of_mem_toString hm
  simp [isSegmentChar, Char.isAlphanum, hd] at hc

theorem mem_quotedOptions (hc : isSegmentChar c = false) {options : StringSet} :
    c ∈ (quotedOptions options).toList ↔ ∃ o ∈ options.toList, c ∈ o.toList := by
  have hcomma : c ∉ ",".toList := not_mem_word rfl hc
  have hquote : c ∉ "'".toList := not_mem_word rfl hc
  have hopen : c ∉ "(".toList := not_mem_word rfl hc
  have hclose : c ∉ ")".toList := not_mem_word rfl hc
  simp only [quotedOptions, String.toList_append, List.mem_append, hopen, hclose, hquote, false_or,
    or_false, mem_intercalate hcomma, List.mem_map, exists_exists_and_eq_and]

theorem mem_typeSegment (hc : isSegmentChar c = false) {column : Column} :
    c ∈ (typeSegment column).toList ↔
      c ∈ column.sqlType.name.toList ∨ ∃ o ∈ shownOptions column, c ∈ o.toList := by
  have hcomma : c ∉ ",".toList := not_mem_word rfl hc
  have hopen : c ∉ "(".toList := not_mem_word rfl hc
  have hclose : c ∉ ")".toList := not_mem_word rfl hc
  rw [typeSegment, String.toList_append, List.mem_append]
  refine or_congr_right ?_
  unfold typeArguments shownOptions
  split
  next hl _ =>
    simp only [String.toList_append, List.mem_append, hopen, hclose, hcomma, not_mem_toString hc]
    simp [hl]
  next hl _ =>
    simp only [String.toList_append, List.mem_append, hopen, hclose, not_mem_toString hc]
    simp [hl]
  next hl =>
    cases he : column.enumOptions.isEmpty with
    | false => simp [hl, mem_quotedOptions hc]
    | true =>
      cases hs : column.setOptions.isEmpty with
      | false => simp [hl, mem_quotedOptions hc]
      | true =>
        have hempty : column.setOptions.toList = [] := List.isEmpty_iff.mp hs
        simp [hl, hempty]

theorem mem_defaultSegment (hc : isSegmentChar c = false) (hs : c ≠ ' ') {column : Column} :
    c ∈ (defaultSegment column).toList ↔ c ∈ (shownDefault column).toList := by
  have hblank : c ∉ " ".toList := not_mem_words rfl hc hs
  have hcast : c ∉ "default ''".toList := not_mem_words rfl hc hs
  have hword : c ∉ "default ".toList := not_mem_words rfl hc hs
  unfold defaultSegment shownDefault
  cases hd : column.defaultLiteral.isEmpty with
  | true =>
    have hempty : column.defaultLiteral = "" := String.isEmpty_iff.mp hd
    simp only [↓reduceIte, hblank, hempty, ite_self, String.toList_empty, List.not_mem_nil]
  | false =>
    split
    next => simp at *
    next =>
      split
      next => simp only [hcast, String.toList_empty, List.not_mem_nil]
      next => simp only [String.toList_append, List.mem_append, hword, false_or]

theorem not_mem_marker (hc : isSegmentChar c = false) (hs : c ≠ ' ') (word : String)
    (hw : (word.toList.all fun d => d == ' ' || isSegmentChar d) = true) (set : Bool) :
    c ∉ (marker set word).toList := by
  cases set with
  | true => exact not_mem_words hw hc hs
  | false =>
    show c ∉ " ".toList
    exact not_mem_words rfl hc hs

theorem mem_indexEntry (hc : isSegmentChar c = false) {index : Index} :
    c ∈ (indexEntry index).toList ↔ index.isComposite = true ∧ c ∈ index.name.toList := by
  have hopen : c ∉ "(".toList := not_mem_word rfl hc
  have hclose : c ∉ ")".toList := not_mem_word rfl hc
  have hkind : c ∉ index.kind.keyword.toList := by
    cases index.kind with
    | unique => exact not_mem_word rfl hc
    | plain => exact not_mem_word rfl hc
  unfold indexEntry
  split
  next h =>
    simp only [String.toList_append, List.mem_append, hkind, hopen, hclose, h, false_or, or_false,
      true_and]
  next h => simp only [hkind, h, Bool.false_eq_true, false_and]

theorem indexSegments_eq_map (table : Table) (column : Column) :
    indexSegments table column = (resolvedIndexes table column).map indexEntry := rfl

theorem mem_paddedIndexSegments (hc : isSegmentChar c = false) (hs : c ≠ ' ') {table : Table}
    {column : Column} :
    (∃ s ∈ (if (indexSegments table column).isEmpty then [" "]
        else indexSegments table column).map (padRight 20), c ∈ s.toList) ↔
      ∃ s ∈ compositeNames table column, c ∈ s.toList := by
  simp only [List.mem_map, exists_exists_and_eq_and, mem_padRight hs, indexSegments_eq_map,
    compositeNames, List.mem_filter]
  by_cases h : resolvedIndexes table column = []
  · simp [h, hs]
  · simp [h, mem_indexEntry hc, and_assoc]

theorem mem_inlineComment (hc : isSegmentChar c = false) (hs : c ≠ ' ') {column : Column}
    {options : TagOptions} :
    (∃ s ∈ (if options.inlineComment && !column.comment.isEmpty then
        [padLeft 20 ("      comment('" ++ column.comment ++ "')")] else []), c ∈ s.toList) ↔
      ∃ s ∈ (if options.inlineComment then [column.comment] else []), c ∈ s.toList := by
  have hopen : c ∉ "      comment('".toList := not_mem_words rfl hc hs
  have hclose : c ∉ "')".toList := not_mem_word rfl hc
  rw [exists_mem_ite, exists_mem_ite, Bool.and_eq_true]
  simp only [mem_padLeft hs, String.toList_append, List.mem_append, hopen, hclose, false_or,
    or_false]
  refine ⟨fun ⟨⟨hi, _⟩, hm⟩ => ⟨hi, hm⟩, fun ⟨hi, hm⟩ => ⟨⟨hi, ?_⟩, hm⟩⟩
  cases he : column.comment.isEmpty with
  | false => rfl
  | true => simp [String.isEmpty_iff.mp he] at hm

/-- A character that the mapping has not of its own comes from one of the texts copied into it. -/
theorem mem_mappingText (hc : isSegmentChar c = false) (hs : c ≠ ' ') {table : Table}
    {column : Column} {options : TagOptions} :
    c ∈ (mappingText table column options).toList ↔
      ∃ s ∈ mappingTexts table column options, c ∈ s.toList := by
  have hblank : c ∉ " ".toList := not_mem_words rfl hc hs
  have hpk := not_mem_marker hc hs "pk" rfl
  have hauto := not_mem_marker hc hs "autoincr" rfl
  have hversion := not_mem_marker hc hs "version" rfl
  have hnull := not_mem_marker hc hs "not null" rfl
  have hcreated := not_mem_marker hc hs "created" rfl
  have hupdated := not_mem_marker hc hs "updated" rfl
  rw [mappingText, mem_intercalate hblank]
  simp only [mappingSegments, mappingTexts, List.mem_append, List.mem_cons, List.not_mem_nil,
    or_and_right, exists_or, exists_eq_left, mem_padRight hs, mem_typeSegment hc,
    mem_defaultSegment hc hs, hpk, hauto, hversion, hnull, hcreated, hupdated,
    mem_paddedIndexSegments hc hs, mem_inlineComment hc hs, or_assoc, false_or]

def tagInside (table : Table) (column : Column) (options : TagOptions) : String :=
  " ".intercalate (tagParts table column options)

theorem formatTag_eq (table : Table) (column : Column) (options : TagOptions) :
    formatTag table column options = "`" ++ tagInside table column options ++ "`" :=
  formatTag_of_parts table column options

theorem formatTag_ne_empty (table : Table) (column : Column) (options : TagOptions) :
    formatTag table column options ≠ "" := by
  rw [formatTag_eq]
  intro h
  have hchars := congrArg String.toList h
  simp at hchars

/-- A character that is no part of the layout of tags comes from one of the texts copied into
the tag, and each of them is copied whole. -/
theorem mem_tagInside (hc : isSegmentChar c = false) (hs : c ≠ ' ') (hcolon : c ≠ ':')
    (hquote : c ≠ '"') {table : Table} {column : Column} {options : TagOptions} :
    c ∈ (tagInside table column options).toList ↔
      ∃ s ∈ tagTexts table column options, c ∈ s.toList := by
  have hblank : c ∉ " ".toList := not_mem_words rfl hc hs
  have hkey : ∀ {key : String}, (key.toList.all fun d => d == ' ' || d == ':' || d == '"' ||
      isSegmentChar d) = true → c ∉ key.toList := by
    intro key hw hm
    have hd := List.all_eq_true.mp hw c hm
    simp [hc, hs, hcolon, hquote] at hd
  have hjson : c ∉ "json:\"".toList := hkey rfl
  have hjsonEnd : c ∉ "\"  ".toList := hkey rfl
  have hxorm : c ∉ "xorm:\"".toList := hkey rfl
  have hend : c ∉ "\"".toList := hkey rfl
  have hcomment : c ∉ "  comment:\"".toList := hkey rfl
  rw [tagInside, mem_intercalate hblank, tagParts_eq]
  simp only [tagTexts, List.mem_append, List.mem_cons, List.not_mem_nil, or_false,
    or_and_right, exists_or, exists_eq_left, exists_mem_ite, String.toList_append, hjson, hjsonEnd,
    hxorm, hend, hcomment, false_or, mem_mappingText hc hs]

end Membership

end StructGen
