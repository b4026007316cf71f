import StructGen.Proofs.ExportedNames

namespace StructGen

/-- Whether a start of names is empty or ends in an underscore, so that no word goes on behind
it. -/
def endsAtWord (start : String) : Bool :=
  start.toList.getLast?.all (· == '_')

theorem endsAtWord_iff {start : String} :
    endsAtWord start = true ↔ start = "" ∨ ∃ front, start = front ++ "_" := by
  constructor
  · intro h
    cases hlast : start.toList.getLast? with
    | none => exact Or.inl (String.toList_eq_nil_iff.mp (List.getLast?_eq_none_iff.mp hlast))
    | some c =>
      obtain rfl : c = '_' := by simpa [endsAtWord, hlast] using h
      obtain ⟨front, hfront⟩ := List.getLast?_eq_some_iff.mp hlast
      refine Or.inr ⟨String.ofList front, String.toList_inj.mp ?_⟩
      rw [hfront, String.toList_append, String.toList_ofList]
      rfl
  · rintro (rfl | ⟨front, rfl⟩)
    · rfl
    · simp [endsAtWord]

theorem respellWords_empty (respell : List Char → List Char) : respellWords respell "" = "" :=
  rfl

/-- An identifier has the words of the name's start first and then those of the rest, if no word
goes across. -/
theorem identifier_append (style : NameStyle) {start : String} (hword : endsAtWord start = true)
    (rest : String) :
    style.identifier (start ++ rest) = style.identifier start ++ style.identifier rest := by
  by_cases hstyle : style = .same
  · rw [hstyle]
    rfl
  · obtain ⟨respell, _, hidentifier⟩ := exists_capitalizes hstyle
    rw [hidentifier]
    rcases endsAtWord_iff.mp hword with rfl | ⟨front, rfl⟩
    · rw [respellWords_empty, String.empty_append, String.empty_append]
    · have hfront : respellWords respell (front ++ "_") = respellWords respell front := by
        have hempty := respellWords_append_underscore respell front ""
        rwa [respellWords_empty, String.append_empty, String.append_empty] at hempty
      rw [hfront, respellWords_append_underscore]

theorem tableName_append {config : Config} {start : String}
    (hstart : config.tableStart = some start) (rest : String) :
    config.tableName (start ++ rest) = config.columnName rest := by
  unfold Config.tableName NameStyle.identifierWithout
  rw [hstart]
  exact congrArg config.nameStyle.identifier (dropStart_append start rest)

theorem tableName_eq_columnName {config : Config} {name : String}
    (h : ∀ start rest, config.tableStart = some start → name ≠ start ++ rest) :
    config.tableName name = config.columnName name := by
  obtain ⟨start, rest, hstart, hname, _⟩ | ⟨_, hwhole⟩ := tableName_cases config name
  · exact absurd hname (h start rest hstart)
  · exact hwhole

/-- Whether the structs of tables are named as columns are, but for a start that the names of the
tables lose once. -/
structure DropsStart (config : Config) (start : String) : Prop where
  once : ∀ rest, config.tableName (start ++ rest) = config.columnName rest
  others : ∀ name, (∀ rest, name ≠ start ++ rest) →
    config.tableName name = config.columnName name

theorem dropsStart {config : Config} {start : String} (hstart : config.tableStart = some start) :
    DropsStart config start where
  once := tableName_append hstart
  others name hother := by
    apply tableName_eq_columnName
    intro start' rest hstart'
    cases hstart.symm.trans hstart'
    exact hother rest

/-- The start to drop takes its own words from the names of structs and no others, in every naming
style: put before the identifier of a table, its identifier gives that of a column with the name of
the table. -/
theorem tableName_loses_words_of_start (config : Config) :
    (∀ start, config.tableStart = some start →
      DropsStart config start ∧
        (endsAtWord start = true → ∀ rest, config.columnName (start ++ rest) =
          config.columnName start ++ config.tableName (start ++ rest))) ∧
    (config.tableStart = none ∨ config.tableStart = some "" →
      ∀ name, config.tableName name = config.columnName name) := by
  refine ⟨fun start hstart => ⟨dropsStart hstart, fun hword rest => ?_⟩, ?_⟩
  · rw [tableName_append hstart]
    exact identifier_append config.nameStyle hword rest
  · rintro (hnone | hempty) name
    · apply tableName_eq_columnName
      intro start rest hstart
      rw [hnone] at hstart
      cases hstart
    · simpa using tableName_append hempty name

/-- A start is dropped once only, and not where letters differ in case. -/
theorem tableName_loses_words_of_start_of_repeated_start :
    let config : Config := { schema := ⟨"schema.json"⟩, tableStart := some "api_tb_" }
    config.tableStart = some "api_tb_" ∧ endsAtWord "api_tb_" = true ∧
      config.tableName "api_tb_api_tb_user_id" = "APITbUserID" ∧
      config.columnName "api_tb_api_tb_user_id" =
        "APITb" ++ config.tableName "api_tb_api_tb_user_id" ∧
      config.tableName "API_tb_user" = config.columnName "API_tb_user" ∧
      { config with tableStart := none }.tableName "api_tb_user" = "APITbUser" := by
  intro config
  have hstart : config.tableStart = some "api_tb_" := rfl
  have hword : endsAtWord "api_tb_" = true := by decide +kernel
  have hdrops := (tableName_loses_words_of_start config).1 "api_tb_" hstart
  have hrest : config.columnName "api_tb_user_id" = "APITbUserID" := by decide +kernel
  have hown : config.columnName "api_tb_" = "APITb" := by decide +kernel
  have hother : ∀ rest, "API_tb_user" ≠ "api_tb_" ++ rest := by
    intro rest happend
    have hfirst := congrArg (fun name : String => name.toList.head?) happend
    simp at hfirst
  have hwhole := (tableName_loses_words_of_start { config with tableStart := none }).2 (.inl rfl)
  exact ⟨hstart, hword, (hdrops.1.once "api_tb_user_id").trans hrest,
    hown ▸ hdrops.2 hword "api_tb_user_id", hdrops.1.others _ hother,
    (hwhole "api_tb_user").trans (by decide +kernel)⟩

end StructGen
