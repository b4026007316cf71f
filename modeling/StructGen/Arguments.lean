import StructGen.Config

namespace StructGen

inductive Switch where
  | json
  | comment
  | verbose
  | version
  | help
  deriving DecidableEq, Inhabited

inductive Setting where
  | schema
  | outputDir
  | package
  | dialect
  | nameStyle
  | tableStart
  | singleFile
  deriving DecidableEq, Inhabited

inductive CliOption where
  | switch (s : Switch)
  | setting (s : Setting)
  deriving DecidableEq, Inhabited

namespace CliOption

def ofLongName? : String → Option CliOption
  | "schema" => some (setting .schema)
  | "output-dir" => some (setting .outputDir)
  | "package" => some (setting .package)
  | "dialect" => some (setting .dialect)
  | "mapper" => some (setting .nameStyle)
  | "prefix" => some (setting .tableStart)
  | "single-file" => some (setting .singleFile)
  | "json" => some (switch .json)
  | "comment" => some (switch .comment)
  | "verbose" => some (switch .verbose)
  | "version" => some (switch .version)
  | "help" => some (switch .help)
  | _ => none

def ofLetter? : Char → Option CliOption
  | 's' => some (setting .schema)
  | 'o' => some (setting .outputDir)
  | 'p' => some (setting .package)
  | 'd' => some (setting .dialect)
  | 'm' => some (setting .nameStyle)
  | 'v' => some (switch .verbose)
  | 'V' => some (switch .version)
  | 'h' => some (switch .help)
  | _ => none

end CliOption

structure Arguments where
  schema : Option Path := none
  outputDir : Option Path := none
  package : Option String := none
  dialect : Option Dialect := none
  nameStyle : Option NameStyle := none
  tableStart : Option String := none
  singleFile : Option String := none
  json : Bool := false
  comment : Bool := false
  verbose : Bool := false
  deriving DecidableEq, Inhabited

inductive Stop where
  | usage
  | version
  | help
  deriving DecidableEq, Inhabited

def pathValue (value : String) : Except Stop Path :=
  if value.isEmpty then .error .usage else .ok ⟨value⟩

def wordValue {α : Type} (ofName? : String → Option α) (value : String) : Except Stop α :=
  match ofName? value with
  | some x => .ok x
  | none => .error .usage

def giveOnce {α : Type} (old : Option α) (value : Except Stop α) : Except Stop (Option α) :=
  match old with
  | none => some <$> value
  | some _ => .error .usage

def raiseOnce (old : Bool) : Except Stop Bool :=
  if old then .error .usage else .ok true

namespace Arguments

def turnOn (args : Arguments) : Switch → Except Stop Arguments
  | .json => do pure { args with json := ← raiseOnce args.json }
  | .comment => do pure { args with comment := ← raiseOnce args.comment }
  | .verbose => do pure { args with verbose := ← raiseOnce args.verbose }
  | .version => .error .version
  | .help => .error .help

def give (args : Arguments) (value : String) : Setting → Except Stop Arguments
  | .schema => do
    pure { args with schema := ← giveOnce args.schema (pathValue value) }
  | .outputDir => do
    pure { args with outputDir := ← giveOnce args.outputDir (pathValue value) }
  | .package => do
    pure { args with package := ← giveOnce args.package (.ok value) }
  | .dialect => do
    pure { args with dialect := ← giveOnce args.dialect (wordValue Dialect.ofName? value) }
  | .nameStyle => do
    pure { args with nameStyle := ← giveOnce args.nameStyle (wordValue NameStyle.ofName? value) }
  | .tableStart => do
    pure { args with tableStart := ← giveOnce args.tableStart (.ok value) }
  | .singleFile => do
    pure { args with singleFile := ← giveOnce args.singleFile (.ok value) }

/-- What a word leaves to be done: nothing, or to take the next word as the value of an option. -/
inductive Progress where
  | done (args : Arguments)
  | wants (args : Arguments) (s : Setting)

/-- Reads the text behind `--`: a name, and a value behind an equals sign if there is one. -/
def readLong (args : Arguments) (text : List Char) : Except Stop Progress :=
  let name := String.ofList (text.takeWhile (· != '='))
  let value := match text.dropWhile (· != '=') with
    | [] => none
    | _ :: cs => some (String.ofList cs)
  match CliOption.ofLongName? name, value with
  | some (.switch s), none => .done <$> args.turnOn s
  | some (.setting s), none => .ok (.wants args s)
  | some (.setting s), some v => .done <$> args.give v s
  | _, _ => .error .usage

/-- Reads the letters behind `-`. What follows the letter of an option with a value is its value,
with or without an equals sign. -/
def readLetters : Arguments → List Char → Except Stop Progress
  | args, [] => .ok (.done args)
  | args, c :: cs =>
    match CliOption.ofLetter? c with
    | some (.switch s) => do
      let next ← args.turnOn s
      readLetters next cs
    | some (.setting s) =>
      match cs with
      | [] => .ok (.wants args s)
      | '=' :: value => .done <$> args.give (String.ofList value) s
      | value => .done <$> args.give (String.ofList value) s
    | none => .error .usage

/-- Whether a word is read as options and so is no value on its own. -/
def isOptionWord (word : String) : Bool :=
  match word.toList with
  | '-' :: _ :: _ => true
  | _ => false

def readWord (args : Arguments) (word : String) : Except Stop Progress :=
  match word.toList with
  | '-' :: '-' :: text => args.readLong text
  | '-' :: c :: cs => args.readLetters (c :: cs)
  | _ => .error .usage

/-- Reads the words of a command line from left to right; nothing may follow a `--`. -/
def readWords : Arguments → List String → Except Stop Arguments
  | args, [] => .ok args
  | args, word :: words =>
    if word = "--" then
      if words.isEmpty then .ok args else .error .usage
    else
      match args.readWord word with
      | .error stop => .error stop
      | .ok (.done next) => readWords next words
      | .ok (.wants next s) =>
        match words with
        | [] => .error .usage
        | value :: words =>
          if isOptionWord value then .error .usage
          else
            match next.give value s with
            | .error stop => .error stop
            | .ok last => readWords last words

/-- The settings that the arguments give. The schema may also be named by a variable of the
environment, which counts only if no option names it. -/
def config (args : Arguments) (fromEnv : Option String) : Except Stop Config := do
  let schema ← match args.schema, fromEnv with
    | some path, _ => pure path
    | none, some value => pathValue value
    | none, none => throw .usage
  let default : Config := { schema }
  pure
    { schema
      outputDir := args.outputDir.getD default.outputDir
      package := args.package.getD default.package
      dialect := args.dialect.getD default.dialect
      nameStyle := args.nameStyle.getD default.nameStyle
      tableStart := args.tableStart
      json := args.json
      comment := args.comment
      singleFile := args.singleFile }

end Arguments

structure Invocation where
  config : Config
  verbose : Bool
  deriving DecidableEq, Inhabited

namespace Invocation

def read (words : List String) (fromEnv : Option String) : Except Stop Invocation := do
  let args ← ({} : Arguments).readWords words
  let config ← args.config fromEnv
  pure ⟨config, args.verbose⟩

end Invocation

end StructGen
