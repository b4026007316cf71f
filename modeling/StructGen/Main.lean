import StructGen.CommandLine

namespace StructGen

def ioErrorOf? : IO.Error → Option IoError
  | .noFileOrDirectory .. => some .notFound
  | .alreadyExists .. => some .alreadyExists
  | .inappropriateType _ code _ => some (if code = 21 then .isADirectory else .notADirectory)
  | .invalidArgument _ 36 _ => some .nameTooLong
  | _ => none

def attempt {α : Type} (p : Path) (action : IO α) : IO (Except IoError α) :=
  match Disk.checkPath p with
  | .error e => pure (.error e)
  | .ok () => do
    try
      return .ok (← action)
    catch e =>
      match ioErrorOf? e with
      | some known => return .error known
      | none => throw e

def readText (p : Path) : IO (Except IoError String) := do
  match ← attempt p (IO.FS.readBinFile p.text) with
  | .error e => return .error e
  | .ok content =>
    match String.fromUTF8? content with
    | some text => return .ok text
    | none => return .error .invalidUtf8

def leadsToDirectory (p : Path) : IO Bool := do
  match ← attempt p (do (← IO.FS.realPath p.text).isDir) with
  | .ok there => return there
  | .error _ => return false

/-- Follows a procedure on the disk of the machine; the events are shown as they are told. -/
def Procedure.perform {α : Type} (showEvents : List Event → IO Unit) : Procedure α → IO α
  | done a => return a
  | tell events next => do
    showEvents events
    next.perform showEvents
  | readFile p next => do
    (next (← readText p)).perform showEvents
  | isDirectory p next => do
    (next (← leadsToDirectory p)).perform showEvents
  | makeDir p next => do
    (next (← attempt p (IO.FS.createDir p.text))).perform showEvents
  | writeFile p text next => do
    (next (← attempt p (IO.FS.writeFile p.text text))).perform showEvents

end StructGen

open StructGen in
def main (args : List String) : IO UInt32 := do
  match Invocation.read args (← IO.getEnv "OXIDE_REVERSE_SCHEMA") with
  | .error stop =>
    let report := stop.report {}
    IO.print report.output
    IO.eprint report.errors
    return UInt32.ofNat report.exitCode
  | .ok i =>
    let result ← i.procedure.perform fun events => IO.print (logText i.verbose events)
    IO.eprint (errorText result)
    return UInt32.ofNat (exitCode result)
