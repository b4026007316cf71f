import StructGen.Proofs.MappingWords

namespace StructGen

/-- Whether each text of the schema in the mapping of a column is part of one word. -/
structure IsSpaceless (table : Table) (column : Column) (options : TagOptions) : Prop where
  name_ne_empty : column.sqlType.name ≠ ""
  default_spaceless : ' ' ∉ column.defaultLiteral.toList
  texts_spaceless : ∀ s ∈ mappingTexts table column options, ' ' ∉ s.toList

theorem mem_of_occursIn {part text : List Char} (h : occursIn part text = true) :
    ∀ c ∈ part, c ∈ text := by
  induction text with
  | nil =>
    have hempty : part = [] := List.isEmpty_iff.mp h
    simp [hempty]
  | cons d ds ih =>
    intro c hc
    rcases Bool.or_eq_true_iff.mp h with hp | ho
    · exact (List.isPrefixOf_iff_prefix.mp hp).subset hc
    · exact List.mem_cons_of_mem d (ih ho c hc)

theorem words_blank : words " " = [] :=
  words_spaces 1

theorem words_marker {word keyword : String} {arguments : List String}
    (h : words word = keyword :: arguments) (set : Bool) :
    words (marker set word) = (Mapping.flagSlot keyword arguments set).words := by
  cases set with
  | true => exact h
  | false => exact words_blank

theorem words_typeSegment {table : Table} {column : Column} {options : TagOptions}
    (h : IsSpaceless table column options) : words (typeSegment column) = [typeSegment column] := by
  apply words_eq_singleton
  · rw [mem_typeSegment rfl]
    rintro (hm | ⟨o, ho, hm⟩)
    · exact h.texts_spaceless column.sqlType.name (by simp [mappingTexts]) hm
    · exact h.texts_spaceless o (by simp [mappingTexts, ho]) hm
  · intro he
    exact h.name_ne_empty (String.append_eq_empty_iff.mp he).1

theorem words_defaultSegment {table : Table} {column : Column} {options : TagOptions}
    (h : IsSpaceless table column options) :
    words (defaultSegment column) = (Mapping.defaultSlot column.defaultLiteral).words := by
  have hcast : ¬ occursIn castMarker.toList column.defaultLiteral.toList = true := fun ho =>
    h.default_spaceless (mem_of_occursIn ho ' ' (by decide))
  unfold defaultSegment Mapping.defaultSlot
  rw [if_neg hcast]
  split
  next => rfl
  next hne =>
    have hword : words column.defaultLiteral = [column.defaultLiteral] :=
      words_eq_singleton h.default_spaceless fun he => hne (String.isEmpty_iff.mpr he)
    have hsplit : "default " ++ column.defaultLiteral = "default" ++ " " ++ column.defaultLiteral :=
      rfl
    rw [hsplit, words_append_space, hword]
    rfl

theorem indexEntry_eq (index : Index) : indexEntry index = Mapping.indexWord index.mark := by
  unfold indexEntry Index.mark
  cases index.isComposite <;> rfl

theorem words_indexEntry {table : Table} {column : Column} {options : TagOptions}
    (h : IsSpaceless table column options) {index : Index}
    (hi : index ∈ resolvedIndexes table column) : words (indexEntry index) = [indexEntry index] := by
  apply words_eq_singleton
  · rw [mem_indexEntry rfl]
    rintro ⟨hc, hm⟩
    have hname : index.name ∈ compositeNames table column :=
      List.mem_map.mpr ⟨index, List.mem_filter.mpr ⟨hi, hc⟩, rfl⟩
    exact h.texts_spaceless index.name (by simp [mappingTexts, hname]) hm
  · rw [indexEntry_eq]
    obtain ⟨kind, name⟩ := index.mark
    cases kind <;> cases name <;> simp [Mapping.indexWord, IndexKind.keyword]

theorem words_indexSegments {table : Table} {column : Column} {options : TagOptions}
    (h : IsSpaceless table column options) :
    ((if (indexSegments table column).isEmpty then [" "]
      else indexSegments table column).map (padRight 20)).flatMap words =
      (Mapping.ofColumn table column).indexes.map Mapping.indexWord := by
  have hmarks : indexSegments table column =
      (Mapping.ofColumn table column).indexes.map Mapping.indexWord := by
    rw [indexSegments_eq_map, Mapping.ofColumn, List.map_map]
    exact List.map_congr_left fun index _ => indexEntry_eq index
  have hwords : (indexSegments table column).flatMap words = indexSegments table column := by
    apply flatMap_words_eq_self
    rw [indexSegments_eq_map, List.forall_mem_map]
    exact fun index hm => words_indexEntry h hm
  rw [← hmarks, List.flatMap_map]
  simp only [words_padRight]
  split
  next he => simp [List.isEmpty_iff.mp he, words_blank]
  next => exact hwords

theorem words_mappingText {table : Table} {column : Column} {options : TagOptions}
    (hi : options.inlineComment = false) (h : IsSpaceless table column options) :
    words (mappingText table column options) = (Mapping.ofColumn table column).words := by
  have hpk : words "pk" = ["pk"] := rfl
  have hauto : words "autoincr" = ["autoincr"] := rfl
  have hversion : words "version" = ["version"] := rfl
  have hnull : words "not null" = ["not", "null"] := rfl
  have hcreated : words "created" = ["created"] := rfl
  have hupdated : words "updated" = ["updated"] := rfl
  rw [mappingText, words_intercalate, mappingSegments]
  simp only [List.flatMap_append, words_indexSegments h, List.flatMap_cons, List.flatMap_nil,
    words_padRight, words_typeSegment h, words_defaultSegment h, words_marker hpk,
    words_marker hauto, words_marker hversion, words_marker hnull, words_marker hcreated,
    words_marker hupdated, hi, Bool.false_and, Bool.false_eq_true, if_false, List.append_nil,
    Mapping.words, Mapping.slots]
  rfl

/-- A mapping of single words can be read back from its text: another column with the same text
has the same type, keys, default, markers and indexes. -/
theorem mapping_eq_of_mappingText_eq {table table' : Table} {column column' : Column}
    {options options' : TagOptions} (hi : options.inlineComment = false)
    (hi' : options'.inlineComment = false) (h : IsSpaceless table column options)
    (h' : IsSpaceless table' column' options')
    (heq : mappingText table column options = mappingText table' column' options') :
    Mapping.ofColumn table column = Mapping.ofColumn table' column' := by
  apply Mapping.words_injective
  rw [← words_mappingText hi h, ← words_mappingText hi' h', heq]

/-- Texts that look like the words of a mapping do not confuse its reading. -/
theorem mapping_eq_of_keyword_texts :
    let column : Column :=
      { name := "a", sqlType := { name := "pk" }, defaultLiteral := "created", created := true,
        indexes := .ofList ["i"] }
    let column' : Column := { column with name := "b", comment := "copied" }
    let table : Table :=
      { name := "t", indexes := Dict.empty.insert "i" { name := "updated", columns := ["a", "b"] } }
    let options : TagOptions := { json := true }
    options.inlineComment = false ∧ IsSpaceless table column options ∧
      IsSpaceless table column' {} ∧ mappingText table column options = mappingText table column' {} ∧
      Mapping.ofColumn table column = Mapping.ofColumn table column' := by
  intro column column' table options
  have h : IsSpaceless table column options := ⟨by decide, by decide, by decide⟩
  have h' : IsSpaceless table column' {} := ⟨by decide, by decide, by decide⟩
  have heq : mappingText table column options = mappingText table column' {} := by
    decide +kernel
  exact ⟨rfl, h, h', heq, mapping_eq_of_mappingText_eq rfl rfl h h' heq⟩

end StructGen
