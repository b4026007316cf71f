import StructGen.Arguments
import StructGen.Generate

namespace StructGen

structure Report where
  exitCode : Nat
  output : String
  errors : String
  disk : Disk

def versionText : String :=
  "oxide-reverse 0.1.0\n"

/-- The options in short. Only that it is shown is fixed, not the words. -/
def helpText : String :=
  "Generate xorm-tagged Go models from an existing database schema\n\n" ++
  "Usage: oxide-reverse [OPTIONS] --schema <SCHEMA>\n\n" ++
  "Options:\n" ++
  "  -s, --schema <SCHEMA>            the JSON schema document [env: OXIDE_REVERSE_SCHEMA]\n" ++
  "  -o, --output-dir <OUTPUT_DIR>    the directory for the files [default: models]\n" ++
  "  -p, --package <PACKAGE>          the package of the files [default: models]\n" ++
  "  -d, --dialect <DIALECT>          mysql, postgres, sqlite or mssql [default: mysql]\n" ++
  "  -m, --mapper <MAPPER>            snake, same or gonic [default: gonic]\n" ++
  "      --prefix <PREFIX>            the start of table names to leave out\n" ++
  "      --json                       add json tags\n" ++
  "      --comment                    add comment tags\n" ++
  "      --single-file <SINGLE_FILE>  write all structs into this file\n" ++
  "  -v, --verbose                    show more of what is done\n" ++
  "  -h, --help                       show this text\n" ++
  "  -V, --version                    show the version\n"

/-- What is shown for words that cannot be read, without saying which of them and why. -/
def usageText : String :=
  "error: the arguments cannot be used\n\nFor more information, try '--help'.\n"

namespace Event

def line (e : Event) : String :=
  padLeft 5 e.level.name ++ " " ++ e.message ++
    String.join (e.fields.map fun (name, value) => " " ++ name ++ "=" ++ value.toText)

def isShown (verbose : Bool) (e : Event) : Bool :=
  verbose || e.level != .debug

end Event

def logText (verbose : Bool) (log : List Event) : String :=
  unlines ((log.filter (·.isShown verbose)).map Event.line)

def indent (text : List Char) : List Char :=
  "    ".toList ++ text.flatMap fun c => if c = '\n' then '\n' :: "    ".toList else [c]

namespace GenerateError

/-- What is shown of an error, with the error behind it if there is one. -/
def report (e : GenerateError) : String :=
  "Error: " ++ e.message ++ "\n" ++
  match e.cause? with
  | some cause => "\nCaused by:\n" ++ String.ofList (indent cause.toList) ++ "\n"
  | none => ""

end GenerateError

namespace Stop

def report (d : Disk) : Stop → Report
  | version => ⟨0, versionText, "", d⟩
  | help => ⟨0, helpText, "", d⟩
  | usage => ⟨2, "", usageText, d⟩

end Stop

/-- All events of a run: those of the generation, and one for each path when it succeeds. -/
def runLog (o : Outcome) : List Event :=
  match o.result with
  | .ok paths => o.log ++ paths.map .created
  | .error _ => o.log

def exitCode : Except GenerateError (List Path) → Nat
  | .ok _ => 0
  | .error _ => 1

def errorText : Except GenerateError (List Path) → String
  | .ok _ => ""
  | .error e => e.report

namespace Invocation

/-- Generates the models and tells of each path once all are written. -/
def procedure (i : Invocation) : Procedure (Except GenerateError (List Path)) :=
  (Procedure.generate i.config).bind fun
    | .ok paths => .tell (paths.map .created) (.done (.ok paths))
    | .error e => .done (.error e)

def run (i : Invocation) (d : Disk) : Report :=
  let o := i.procedure.outcome d
  ⟨exitCode o.result, logText i.verbose o.log, errorText o.result, o.disk⟩

/-- The command leaves behind what the generation does, with the events of the paths besides. -/
theorem outcome_procedure (i : Invocation) (d : Disk) :
    i.procedure.outcome d =
      ⟨(generate i.config d).result, runLog (generate i.config d), (generate i.config d).disk⟩ := by
  rw [procedure, Procedure.outcome, Procedure.on_bind, generate, Procedure.outcome]
  obtain ⟨result, log, last⟩ := (Procedure.generate i.config).on d
  cases result with
  | ok paths => simp [Procedure.on, runLog]
  | error e => simp [Procedure.on, runLog]

end Invocation

/-- The program: its arguments, the variable that may name the schema, and the disk it works on. -/
def runCommand (words : List String) (fromEnv : Option String) (d : Disk) : Report :=
  match Invocation.read words fromEnv with
  | .ok i => i.run d
  | .error stop => stop.report d

end StructGen
