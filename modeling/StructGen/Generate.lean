import StructGen.Config
import StructGen.Procedure

namespace StructGen

inductive GenerateError where
  | io (e : IoError)
  | schema (path : Path) (e : Json.ReadError)
  | invalidPackage (name : String)
  | noTables (path : Path)
  deriving DecidableEq, Inhabited

namespace GenerateError

def message : GenerateError → String
  | io e => "IO error: " ++ e.message
  | schema path e => "Failed to parse schema file '" ++ path.text ++ "': " ++ e.message
  | invalidPackage name => "Invalid package name: '" ++ name ++ "'"
  | noTables path => "No tables found in schema file '" ++ path.text ++ "'"

def cause? : GenerateError → Option String
  | io e => some e.message
  | schema _ e => some e.message
  | invalidPackage _ | noTables _ => none

end GenerateError

/-- The tables in the text of a schema document, of which there must be one. -/
def tablesOfText (path : Path) (text : String) : Except GenerateError (List Table) :=
  match (Json.Document.ofText text).readWith Schema.format.read with
  | .error e => .error (.schema path e)
  | .ok schema => if schema.tables.isEmpty then .error (.noTables path) else .ok schema.tables

/-- The tables in what reading the schema document comes to. -/
def tablesOf (path : Path) : Except IoError String → Except GenerateError (List Table)
  | .error e => .error (.io e)
  | .ok text => tablesOfText path text

def loadTables (d : Disk) (path : Path) : Except GenerateError (List Table) :=
  tablesOf path (d.readFile path)

/-- The name of a source file; the ending is added unless it is there. -/
def goFileName (name : String) : String :=
  if ".go".toList.isSuffixOf name.toList then name else name ++ ".go"

/-- A file to write, with the warnings that come before and the event that comes after. -/
structure FileTask where
  path : Path
  content : String
  warnings : List Event
  written : Event
  deriving DecidableEq, Inhabited

namespace Config

def tableTask (config : Config) (table : Table) : FileTask :=
  let path := config.outputDir.join (goFileName table.name)
  ⟨path, renderFile config.renderContext [table], tagWarnings [table],
    .wroteModel path table.name⟩

def singleTask (config : Config) (name : String) (tables : List Table) : FileTask :=
  let path := config.outputDir.join (goFileName name)
  ⟨path, renderFile config.renderContext tables, tagWarnings tables,
    .wroteModels path tables.length⟩

def tasks (config : Config) (tables : List Table) : List FileTask :=
  match config.singleFile with
  | some name => [config.singleTask name tables]
  | none => tables.map config.tableTask

end Config

namespace Procedure

/-- Writes files one after the other until one cannot be written. -/
def carryOut : List FileTask → Procedure (Except IoError Unit)
  | [] => done (.ok ())
  | t :: ts => tell t.warnings <| writeFile t.path t.content fun
    | .error e => done (.error e)
    | .ok () => tell [t.written] (carryOut ts)

def writeModels (config : Config) (tables : List Table) :
    Procedure (Except GenerateError (List Path)) :=
  if !isValidPackage config.package then done (.error (.invalidPackage config.package))
  else (makeDirs config.outputDir).bind fun
    | .error e => done (.error (.io e))
    | .ok () =>
      let tasks := config.tasks tables
      (carryOut tasks).bind fun
        | .error e => done (.error (.io e))
        | .ok () => tell [.generated tasks.length config.outputDir] <|
          done (.ok (tasks.map (·.path)))

def generate (config : Config) : Procedure (Except GenerateError (List Path)) :=
  tell [.readingSchema config.schema] <| readFile config.schema fun content =>
    match tablesOf config.schema content with
    | .error e => done (.error e)
    | .ok tables => tell [.loadedSchema config.schema tables.length] (writeModels config tables)

end Procedure

/-- What a run leaves behind: the paths written or an error, the events and the disk. -/
structure Outcome where
  result : Except GenerateError (List Path)
  log : List Event
  disk : Disk

def Procedure.outcome (procedure : Procedure (Except GenerateError (List Path))) (d : Disk) :
    Outcome :=
  let (result, log, last) := procedure.on d
  ⟨result, log, last⟩

def carryOut (tasks : List FileTask) (d : Disk) : Except IoError Unit × List Event × Disk :=
  (Procedure.carryOut tasks).on d

def writeModels (config : Config) (tables : List Table) (d : Disk) : Outcome :=
  (Procedure.writeModels config tables).outcome d

def generate (config : Config) (d : Disk) : Outcome :=
  (Procedure.generate config).outcome d

theorem writeModels_eq (config : Config) (tables : List Table) (d : Disk) :
    writeModels config tables d =
      if !isValidPackage config.package then ⟨.error (.invalidPackage config.package), [], d⟩
      else
        match d.makeDirs config.outputDir with
        | (.error e, d') => ⟨.error (.io e), [], d'⟩
        | (.ok (), d') =>
          let tasks := config.tasks tables
          match carryOut tasks d' with
          | (.error e, log, last) => ⟨.error (.io e), log, last⟩
          | (.ok (), log, last) =>
            ⟨.ok (tasks.map (·.path)), log ++ [.generated tasks.length config.outputDir], last⟩ := by
  rw [writeModels, Procedure.outcome, Procedure.writeModels]
  by_cases hpackage : !isValidPackage config.package
  · rw [if_pos hpackage, if_pos hpackage]
    rfl
  · rw [if_neg hpackage, if_neg hpackage,
      Procedure.on_bind_of_silent (Disk.on_makeDirs d config.outputDir)]
    obtain ⟨result, mid⟩ := d.makeDirs config.outputDir
    cases result with
    | error e => rfl
    | ok =>
      dsimp only
      rw [Procedure.on_bind, ← carryOut]
      obtain ⟨result, log, last⟩ := carryOut (config.tasks tables) mid
      cases result with
      | error e => simp [Procedure.on]
      | ok => rfl

theorem generate_eq (config : Config) (d : Disk) :
    generate config d = match loadTables d config.schema with
      | .error e => ⟨.error e, [.readingSchema config.schema], d⟩
      | .ok tables =>
        let o := writeModels config tables d
        ⟨o.result, .readingSchema config.schema ::
          .loadedSchema config.schema tables.length :: o.log, o.disk⟩ := by
  rw [generate, Procedure.outcome, Procedure.generate, Procedure.on, Procedure.on, loadTables]
  cases tablesOf config.schema (d.readFile config.schema) with
  | error e => rfl
  | ok tables => rfl

end StructGen
