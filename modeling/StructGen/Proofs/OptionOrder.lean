import StructGen.CommandLine
import StructGen.Proofs.OptionSpelling

namespace StructGen

theorem Dialect.ofName?_name (d : Dialect) : Dialect.ofName? d.name = some d := by
  cases d <;> decide

theorem NameStyle.ofName?_name (style : NameStyle) : NameStyle.ofName? style.name = some style := by
  cases style <;> decide

theorem Dialect.name_injective : Function.Injective Dialect.name := by
  intro d d' h
  have hread : Dialect.ofName? d.name = some d' := by rw [h, Dialect.ofName?_name]
  rw [Dialect.ofName?_name] at hread
  exact Option.some.inj hread

theorem NameStyle.name_injective : Function.Injective NameStyle.name := by
  intro style style' h
  have hread : NameStyle.ofName? style.name = some style' := by rw [h, NameStyle.ofName?_name]
  rw [NameStyle.ofName?_name] at hread
  exact Option.some.inj hread

theorem Path.text_injective : Function.Injective Path.text := by
  rintro ⟨text⟩ ⟨text'⟩ rfl
  rfl

namespace GivenOption

def option : GivenOption → CliOption
  | switch s => .switch s
  | setting s _ => .setting s

/-- Whether the value of an option, if it has one, can stand on its own and behind a letter. -/
def IsPlain : GivenOption → Prop
  | switch _ => True
  | setting _ value => IsPlainValue value

end GivenOption

namespace Arguments

/-- The value of a setting as it is written. -/
def value? (args : Arguments) : Setting → Option String
  | .schema => args.schema.map Path.text
  | .outputDir => args.outputDir.map Path.text
  | .package => args.package
  | .dialect => args.dialect.map Dialect.name
  | .nameStyle => args.nameStyle.map NameStyle.name
  | .tableStart => args.tableStart
  | .singleFile => args.singleFile

def isOn (args : Arguments) : Switch → Bool
  | .json => args.json
  | .comment => args.comment
  | .verbose => args.verbose
  | .version | .help => false

/-- Whether an option is among those that make up some arguments. -/
def Holds (args : Arguments) : GivenOption → Prop
  | .switch s => args.isOn s = true
  | .setting s value => args.value? s = some value

/-- Whether some options are those that make up some arguments, each once, in any order. -/
structure ListedAs (args : Arguments) (given : List GivenOption) : Prop where
  nodup : given.Nodup
  mem_iff : ∀ o, o ∈ given ↔ args.Holds o

/-- Arguments are determined by their options. -/
theorem ext_holds {args args' : Arguments} (h : ∀ o, args.Holds o ↔ args'.Holds o) :
    args = args' := by
  have hvalue : ∀ s, args.value? s = args'.value? s :=
    fun s => Option.ext fun value => h (.setting s value)
  have hon : ∀ s, args.isOn s = args'.isOn s := fun s => Bool.eq_iff_iff.mpr (h (.switch s))
  obtain ⟨schema, outputDir, package, dialect, style, tableStart, singleFile, json, comment,
    verbose⟩ := args
  obtain ⟨schema', outputDir', package', dialect', style', tableStart', singleFile', json',
    comment', verbose'⟩ := args'
  obtain rfl : schema = schema' := Option.map_injective Path.text_injective (hvalue .schema)
  obtain rfl : outputDir = outputDir' :=
    Option.map_injective Path.text_injective (hvalue .outputDir)
  obtain rfl : package = package' := hvalue .package
  obtain rfl : dialect = dialect' := Option.map_injective Dialect.name_injective (hvalue .dialect)
  obtain rfl : style = style' := Option.map_injective NameStyle.name_injective (hvalue .nameStyle)
  obtain rfl : tableStart = tableStart' := hvalue .tableStart
  obtain rfl : singleFile = singleFile' := hvalue .singleFile
  obtain rfl : json = json' := hon .json
  obtain rfl : comment = comment' := hon .comment
  obtain rfl : verbose = verbose' := hon .verbose
  rfl

theorem Holds.eq_of_option_eq {args : Arguments} {o o' : GivenOption} (h : args.Holds o)
    (h' : args.Holds o') (hoption : o.option = o'.option) : o = o' := by
  cases o with
  | switch s =>
    cases o' with
    | switch s' => rw [CliOption.switch.inj hoption]
    | setting s' value' => contradiction
  | setting s value =>
    cases o' with
    | switch s' => contradiction
    | setting s' value' =>
      obtain rfl : s = s' := CliOption.setting.inj hoption
      have hvalue : some value = some value' := h.symm.trans h'
      rw [Option.some.inj hvalue]

theorem exists_turnOn {choice args : Arguments} {s : Switch} (hchoice : choice.isOn s = true)
    (hnew : args.isOn s = false) :
    ∃ next, args.turnOn s = .ok next ∧
      (∀ s', next.isOn s' = if s' = s then true else args.isOn s') ∧
      ∀ s', next.value? s' = args.value? s' := by
  cases s with
  | json =>
    have hoff : args.json = false := hnew
    refine ⟨{ args with json := true }, by rw [turnOn, hoff]; rfl, ?_, ?_⟩ <;>
      intro s' <;> cases s' <;> rfl
  | comment =>
    have hoff : args.comment = false := hnew
    refine ⟨{ args with comment := true }, by rw [turnOn, hoff]; rfl, ?_, ?_⟩ <;>
      intro s' <;> cases s' <;> rfl
  | verbose =>
    have hoff : args.verbose = false := hnew
    refine ⟨{ args with verbose := true }, by rw [turnOn, hoff]; rfl, ?_, ?_⟩ <;>
      intro s' <;> cases s' <;> rfl
  | version => contradiction
  | help => contradiction

theorem pathValue_of_isPlainValue {value : String} (h : IsPlainValue value) :
    pathValue value = .ok ⟨value⟩ := by
  obtain ⟨c, cs, htext, _⟩ := h
  have hempty : value.isEmpty = false := by
    rw [Bool.eq_false_iff, ne_eq, String.isEmpty_iff]
    rintro rfl
    contradiction
  rw [pathValue, hempty]
  rfl

theorem exists_give {choice args : Arguments} {s : Setting} {value : String}
    (hchoice : choice.value? s = some value) (hvalue : IsPlainValue value)
    (hnew : args.value? s = none) :
    ∃ next, args.give value s = .ok next ∧
      (∀ s', next.value? s' = if s' = s then some value else args.value? s') ∧
      ∀ s', next.isOn s' = args.isOn s' := by
  have hpath := pathValue_of_isPlainValue hvalue
  cases s with
  | schema =>
    have hnone : args.schema = none := Option.map_eq_none_iff.mp hnew
    refine ⟨{ args with schema := some ⟨value⟩ }, by rw [give, hnone, hpath]; rfl, ?_, ?_⟩ <;>
      intro s' <;> cases s' <;> rfl
  | outputDir =>
    have hnone : args.outputDir = none := Option.map_eq_none_iff.mp hnew
    refine ⟨{ args with outputDir := some ⟨value⟩ }, by rw [give, hnone, hpath]; rfl, ?_, ?_⟩ <;>
      intro s' <;> cases s' <;> rfl
  | package =>
    have hnone : args.package = none := hnew
    refine ⟨{ args with package := some value }, by rw [give, hnone]; rfl, ?_, ?_⟩ <;>
      intro s' <;> cases s' <;> rfl
  | dialect =>
    have hnone : args.dialect = none := Option.map_eq_none_iff.mp hnew
    obtain ⟨d, _, rfl⟩ := Option.map_eq_some_iff.mp hchoice
    have hword : wordValue Dialect.ofName? d.name = .ok d := by
      rw [wordValue, Dialect.ofName?_name]
    refine ⟨{ args with dialect := some d }, by rw [give, hnone, hword]; rfl, ?_, ?_⟩ <;>
      intro s' <;> cases s' <;> rfl
  | nameStyle =>
    have hnone : args.nameStyle = none := Option.map_eq_none_iff.mp hnew
    obtain ⟨style, _, rfl⟩ := Option.map_eq_some_iff.mp hchoice
    have hword : wordValue NameStyle.ofName? style.name = .ok style := by
      rw [wordValue, NameStyle.ofName?_name]
    refine ⟨{ args with nameStyle := some style }, by rw [give, hnone, hword]; rfl, ?_, ?_⟩ <;>
      intro s' <;> cases s' <;> rfl
  | tableStart =>
    have hnone : args.tableStart = none := hnew
    refine ⟨{ args with tableStart := some value }, by rw [give, hnone]; rfl, ?_, ?_⟩ <;>
      intro s' <;> cases s' <;> rfl
  | singleFile =>
    have hnone : args.singleFile = none := hnew
    refine ⟨{ args with singleFile := some value }, by rw [give, hnone]; rfl, ?_, ?_⟩ <;>
      intro s' <;> cases s' <;> rfl

/-- An option of some arguments is accepted by others that have nothing for it, and is then one of
their options. -/
theorem exists_accept {choice args : Arguments} {o : GivenOption} (hchoice : choice.Holds o)
    (hplain : o.IsPlain) (hnew : ∀ o', args.Holds o' → o'.option ≠ o.option) :
    ∃ next, args.accept o = .ok next ∧ ∀ o', next.Holds o' ↔ o' = o ∨ args.Holds o' := by
  cases o with
  | switch s =>
    have hoff : args.isOn s = false := by
      rw [Bool.eq_false_iff]
      exact fun hon => hnew (.switch s) hon rfl
    obtain ⟨next, hnext, hon, hvalue⟩ := exists_turnOn hchoice hoff
    refine ⟨next, hnext, fun o' => ?_⟩
    cases o' with
    | switch s' => by_cases h : s' = s <;> simp [Holds, hon, h]
    | setting s' value => simp [Holds, hvalue]
  | setting s value =>
    have hnone : args.value? s = none := by
      rw [Option.eq_none_iff_forall_ne_some]
      exact fun value' hvalue' => hnew (.setting s value') hvalue' rfl
    obtain ⟨next, hnext, hvalue, hon⟩ := exists_give hchoice hplain hnone
    refine ⟨next, hnext, fun o' => ?_⟩
    cases o' with
    | switch s' => simp [Holds, hon]
    | setting s' value' =>
      by_cases h : s' = s
      · subst h
        simp [Holds, hvalue, hnone, eq_comm]
      · simp [Holds, hvalue, h]

/-- Accepting options of some arguments, each once, adds them to those there were before. -/
theorem exists_foldlM_accept {choice args : Arguments} {given : List GivenOption}
    (hnodup : given.Nodup) (hgiven : ∀ o ∈ given, choice.Holds o) (hplain : ∀ o ∈ given, o.IsPlain)
    (hargs : ∀ o, args.Holds o → choice.Holds o ∧ o ∉ given) :
    ∃ last, given.foldlM accept args = .ok last ∧
      ∀ o, last.Holds o ↔ o ∈ given ∨ args.Holds o := by
  induction given generalizing args with
  | nil => exact ⟨args, rfl, by simp⟩
  | cons o given ih =>
    have hnew : ∀ o', args.Holds o' → o'.option ≠ o.option := by
      intro o' ho' hoption
      obtain ⟨hchoice, hnot⟩ := hargs o' ho'
      have heq := hchoice.eq_of_option_eq (hgiven o List.mem_cons_self) hoption
      exact hnot (heq ▸ List.mem_cons_self)
    obtain ⟨next, hnext, hholds⟩ :=
      exists_accept (hgiven o List.mem_cons_self) (hplain o List.mem_cons_self) hnew
    obtain ⟨hfresh, hrest⟩ := List.nodup_cons.mp hnodup
    have hlater : ∀ o', next.Holds o' → choice.Holds o' ∧ o' ∉ given := by
      intro o' ho'
      rcases (hholds o').mp ho' with rfl | ho'
      · exact ⟨hgiven o' List.mem_cons_self, hfresh⟩
      · exact ⟨(hargs o' ho').1, fun hmem => (hargs o' ho').2 (List.mem_cons_of_mem o hmem)⟩
    obtain ⟨last, hlast, hmembers⟩ := ih hrest (fun o' h => hgiven o' (List.mem_cons_of_mem o h))
      (fun o' h => hplain o' (List.mem_cons_of_mem o h)) hlater
    refine ⟨last, ?_, fun o' => ?_⟩
    · rw [List.foldlM_cons, hnext]
      exact hlast
    · rw [hmembers, hholds, List.mem_cons, or_left_comm, or_assoc]

theorem not_holds_empty (o : GivenOption) : ¬ ({} : Arguments).Holds o := by
  cases o with
  | switch s => cases s <;> exact nofun
  | setting s value => cases s <;> exact nofun

/-- Options are accepted in any order, with the arguments that they make up as the result. -/
theorem foldlM_accept_of_listedAs {choice : Arguments} {given : List GivenOption}
    (h : choice.ListedAs given) (hplain : ∀ o ∈ given, o.IsPlain) :
    given.foldlM accept {} = .ok choice := by
  obtain ⟨last, hlast, hholds⟩ := exists_foldlM_accept h.nodup (fun o ho => (h.mem_iff o).mp ho)
    hplain fun o ho => absurd ho (not_holds_empty o)
  have hsame : last = choice := by
    apply ext_holds
    intro o
    rw [hholds, h.mem_iff]
    simp [not_holds_empty]
  rw [hlast, hsame]

/-- Whether the values that are free to choose can stand on their own and behind a letter. -/
def FreeValuesPlain (args : Arguments) : Prop :=
  ∀ s value, s ≠ .dialect → s ≠ .nameStyle → args.value? s = some value → IsPlainValue value

theorem isPlainValue_of_value? {args : Arguments} (h : args.FreeValuesPlain) {s : Setting}
    {value : String} (hvalue : args.value? s = some value) : IsPlainValue value := by
  by_cases hdialect : s = .dialect
  · subst hdialect
    obtain ⟨d, _, rfl⟩ := Option.map_eq_some_iff.mp hvalue
    cases d <;> exact ⟨_, _, rfl, by decide, by decide⟩
  · by_cases hstyle : s = .nameStyle
    · subst hstyle
      obtain ⟨style, _, rfl⟩ := Option.map_eq_some_iff.mp hvalue
      cases style <;> exact ⟨_, _, rfl, by decide, by decide⟩
    · exact h s value hdialect hstyle hvalue

theorem readWords_of_listedAs {choice : Arguments} {given : List GivenOption} {words : List String}
    (hplain : choice.FreeValuesPlain) (hgiven : choice.ListedAs given)
    (hwords : Spelled given words) : ({} : Arguments).readWords words = .ok choice := by
  have hvalues : ∀ s value, .setting s value ∈ given → IsPlainValue value :=
    fun s value hs => isPlainValue_of_value? hplain ((hgiven.mem_iff _).mp hs)
  have hoptions : ∀ o ∈ given, o.IsPlain := by
    intro o ho
    cases o with
    | switch s => trivial
    | setting s value => exact hvalues s value ho
  rw [readWords_of_spelled hwords hvalues, foldlM_accept_of_listedAs hgiven hoptions]

/-- What is asked for by some arguments and a path of the schema: what is not given has its
default. -/
def invocation (args : Arguments) (schema : Path) : Invocation where
  config :=
    { schema
      outputDir := args.outputDir.getD ⟨"models"⟩
      package := args.package.getD "models"
      dialect := args.dialect.getD .mysql
      nameStyle := args.nameStyle.getD .gonic
      tableStart := args.tableStart
      json := args.json
      comment := args.comment
      singleFile := args.singleFile }
  verbose := args.verbose

theorem config_of_schema {args : Arguments} {schema : Path} (h : args.schema = some schema)
    (fromEnv : Option String) :
    args.config fromEnv = .ok (args.invocation schema).config := by
  simp only [config, h]
  rfl

theorem config_of_variable {args : Arguments} (h : args.schema = none) {text : String}
    (htext : text ≠ "") : args.config (some text) = .ok (args.invocation ⟨text⟩).config := by
  have hpath : pathValue text = .ok ⟨text⟩ := by simp [pathValue, htext]
  simp only [config, h, hpath]
  rfl

theorem config_of_missing {args : Arguments} (h : args.schema = none) {fromEnv : Option String}
    (hmissing : fromEnv = none ∨ fromEnv = some "") : args.config fromEnv = .error .usage := by
  rcases hmissing with rfl | rfl <;> simp only [config, h] <;> rfl

end Arguments

/-- Whether words are read as some arguments, with a variable that names the schema if they do
not; if it is not named at all, the command ends as used wrongly and leaves the disk alone. -/
structure ReadAs (choice : Arguments) (words : List String) (fromEnv : Option String) : Prop where
  named : ∀ schema, choice.schema = some schema →
    Invocation.read words fromEnv = .ok (choice.invocation schema)
  fallback : choice.schema = none → ∀ text, fromEnv = some text → text ≠ "" →
    Invocation.read words fromEnv = .ok (choice.invocation ⟨text⟩)
  missing : choice.schema = none → fromEnv = none ∨ fromEnv = some "" →
    Invocation.read words fromEnv = .error .usage ∧
      ∀ d, (runCommand words fromEnv d).exitCode = 2 ∧ (runCommand words fromEnv d).disk = d

/-- Options are read alike in every order and every spelling. -/
theorem readAs_of_spelled {choice : Arguments} {given : List GivenOption} {words : List String}
    (hplain : choice.FreeValuesPlain) (hgiven : choice.ListedAs given)
    (hwords : Spelled given words) (fromEnv : Option String) : ReadAs choice words fromEnv := by
  have hread := Invocation.read_of_readWords
    (Arguments.readWords_of_listedAs hplain hgiven hwords) fromEnv
  constructor
  case named =>
    intro schema hschema
    rw [hread, Arguments.config_of_schema hschema]
    rfl
  case fallback =>
    rintro hnone text rfl htext
    rw [hread, Arguments.config_of_variable hnone htext]
    rfl
  case missing =>
    intro hnone hmissing
    have hstop : Invocation.read words fromEnv = .error .usage := by
      rw [hread, Arguments.config_of_missing hnone hmissing]
      rfl
    refine ⟨hstop, fun d => ?_⟩
    rw [runCommand, hstop]
    exact ⟨rfl, rfl⟩

/-- All options at once, with values that look like options and with an empty variable. -/
theorem readAs_of_spelled_of_misleading_values :
    let choice : Arguments :=
      { schema := some ⟨"verbose"⟩, outputDir := some ⟨"a=b"⟩, package := some "json",
        dialect := some .postgres, nameStyle := some .snake, tableStart := some "schema=x",
        singleFile := some "s", json := true, comment := true, verbose := true }
    let given : List GivenOption :=
      [.setting .singleFile "s", .switch .verbose, .setting .schema "verbose", .switch .json,
        .setting .outputDir "a=b", .setting .tableStart "schema=x", .setting .package "json",
        .setting .nameStyle "snake", .setting .dialect "postgres", .switch .comment]
    let words : List String :=
      ["--single-file", "s", "-vs=verbose", "--json", "-oa=b", "--prefix=schema=x", "-p", "json",
        "--mapper", "snake", "-dpostgres", "--comment"]
    choice.FreeValuesPlain ∧ choice.ListedAs given ∧ Spelled given words ∧
      ReadAs choice words (some "") := by
  intro choice given words
  have hplain : choice.FreeValuesPlain := by
    intro s value _ _ hvalue
    cases s <;> cases hvalue <;> exact ⟨_, _, rfl, by decide, by decide⟩
  have hgiven : choice.ListedAs given := by
    refine ⟨by decide, fun o => ?_⟩
    cases o with
    | switch s => cases s <;> simp [given, choice, Arguments.Holds, Arguments.isOn]
    | setting s value =>
      cases s <;> simp [given, choice, Arguments.Holds, Arguments.value?, Dialect.name,
        NameStyle.name, eq_comm]
  have hs : Setting.schema.letter? = some 's' := rfl
  have ho : Setting.outputDir.letter? = some 'o' := rfl
  have hp : Setting.package.letter? = some 'p' := rfl
  have hd : Setting.dialect.letter? = some 'd' := rfl
  have hwords : Spelled given words :=
    .append (.long .singleFile "s") <| .append (.shortEquals .behindVerbose hs "verbose") <|
    .append (.longSwitch .json) <| .append (.shortAttached .alone ho "a=b") <|
    .append (.longEquals .tableStart "schema=x") <| .append (.short .alone hp "json") <|
    .append (.long .nameStyle "snake") <| .append (.shortAttached .alone hd "postgres") <|
    .append (.longSwitch .comment) .nil
  exact ⟨hplain, hgiven, hwords, readAs_of_spelled hplain hgiven hwords (some "")⟩

end StructGen
