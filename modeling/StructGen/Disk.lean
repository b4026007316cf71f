import StructGen.Path

namespace StructGen

/-- A place on a disk: the names on the way to it from the root. -/
abbrev Location := List String

inductive Entry where
  | directory
  | file (content : ByteArray)
  deriving Inhabited

instance : DecidableEq Entry
  | .directory, .directory => isTrue rfl
  | .directory, .file _ => isFalse nofun
  | .file _, .directory => isFalse nofun
  | .file a, .file b =>
    if h : a.data = b.data then isTrue (congrArg Entry.file (ByteArray.ext h))
    else isFalse fun heq => h (congrArg ByteArray.data (Entry.file.inj heq))

inductive IoError where
  | notFound
  | alreadyExists
  | notADirectory
  | isADirectory
  | nameTooLong
  | invalidUtf8
  | nulInName
  deriving DecidableEq, Inhabited

namespace IoError

def message : IoError → String
  | notFound => "No such file or directory (os error 2)"
  | alreadyExists => "File exists (os error 17)"
  | notADirectory => "Not a directory (os error 20)"
  | isADirectory => "Is a directory (os error 21)"
  | nameTooLong => "File name too long (os error 36)"
  | invalidUtf8 => "stream did not contain valid UTF-8"
  | nulInName => "file name contained an unexpected NUL byte"

end IoError

/-- Files and directories without links. The root is a directory that is not listed; relative
paths start from the working directory. -/
structure Disk where
  entries : List (Location × Entry) := []
  workingDir : Location := []
  deriving DecidableEq, Inhabited

namespace Disk

def entryAt? (d : Disk) (loc : Location) : Option Entry :=
  if loc = [] then some .directory else d.entries.lookup loc

def setEntryAt (loc : Location) (e : Entry) : List (Location × Entry) → List (Location × Entry)
  | [] => [(loc, e)]
  | (l, x) :: rest => if l = loc then (loc, e) :: rest else (l, x) :: setEntryAt loc e rest

def put (d : Disk) (loc : Location) (e : Entry) : Disk :=
  { d with entries := setEntryAt loc e d.entries }

theorem lookup_setEntryAt (loc other : Location) (e : Entry) (es : List (Location × Entry)) :
    (setEntryAt loc e es).lookup other = if other = loc then some e else es.lookup other := by
  induction es with
  | nil =>
    by_cases h : other = loc
    · simp [setEntryAt, h]
    · simp [setEntryAt, List.lookup_cons, h, beq_eq_false_iff_ne.mpr h]
  | cons x es ih =>
    obtain ⟨l, x⟩ := x
    rw [setEntryAt]
    by_cases hl : l = loc
    · subst hl
      by_cases h : other = l
      · simp [h]
      · simp [List.lookup_cons, h, beq_eq_false_iff_ne.mpr h]
    · by_cases h : other = l
      · subst h
        simp [hl]
      · simp [hl, List.lookup_cons, beq_eq_false_iff_ne.mpr h, ih]

/-- A new entry is seen at its own place and nowhere else. -/
theorem entryAt?_put (d : Disk) {loc : Location} (hne : loc ≠ []) (e : Entry) (other : Location) :
    (d.put loc e).entryAt? other = if other = loc then some e else d.entryAt? other := by
  by_cases ho : other = []
  · subst ho
    simp [entryAt?, Ne.symm hne]
  · simp [entryAt?, put, ho, lookup_setEntryAt]

@[simp] theorem workingDir_put (d : Disk) (loc : Location) (e : Entry) :
    (d.put loc e).workingDir = d.workingDir := rfl

def isDirectoryAt (d : Disk) (loc : Location) : Bool :=
  d.entryAt? loc == some .directory

def longestName : Nat :=
  255

def longestPath : Nat :=
  4095

def enter (d : Disk) (loc : Location) (name : String) : Except IoError Location :=
  if !d.isDirectoryAt loc then .error .notADirectory
  else if name = "" ∨ name = "." then .ok loc
  else if name = ".." then .ok loc.dropLast
  else if longestName < name.utf8ByteSize then .error .nameTooLong
  else if (d.entryAt? (loc ++ [name])).isSome then .ok (loc ++ [name])
  else .error .notFound

def walk (d : Disk) : Location → List String → Except IoError Location
  | loc, [] => .ok loc
  | loc, name :: names => do
    let next ← d.enter loc name
    d.walk next names

def checkPath (p : Path) : Except IoError Unit :=
  if '\x00' ∈ p.text.toList then .error .nulInName
  else if longestPath < p.text.utf8ByteSize then .error .nameTooLong
  else if p.text.isEmpty then .error .notFound
  else .ok ()

def start (d : Disk) (p : Path) : Location :=
  if p.isAbsolute then [] else d.workingDir

def locate (d : Disk) (p : Path) : Except IoError Location := do
  checkPath p
  d.walk (d.start p) p.names

def isDirectory (d : Disk) (p : Path) : Bool :=
  match d.locate p with
  | .ok loc => d.isDirectoryAt loc
  | .error _ => false

def readFile (d : Disk) (p : Path) : Except IoError String := do
  let loc ← d.locate p
  match d.entryAt? loc with
  | some (.file content) =>
    match String.fromUTF8? content with
    | some text => pure text
    | none => throw .invalidUtf8
  | _ => throw .isADirectory

/-- The place for a new name in the directory that some names lead to, with what is there. -/
def place (d : Disk) (p : Path) (names : List String) (name : String) :
    Except IoError (Location × Option Entry) := do
  let loc ← d.walk (d.start p) names
  if !d.isDirectoryAt loc then
    throw .notADirectory
  if longestName < name.utf8ByteSize then
    throw .nameTooLong
  pure (loc ++ [name], d.entryAt? (loc ++ [name]))

def writeFile (d : Disk) (p : Path) (text : String) : Except IoError Disk := do
  checkPath p
  let name := p.names.getLast?.getD ""
  let (loc, old) ← d.place p p.names.dropLast name
  if name = "" ∨ name = "." ∨ name = ".." ∨ old = some .directory then
    throw .isADirectory
  pure (d.put loc (.file text.toByteArray))

def dropTrailingEmpty (names : List String) : List String :=
  (names.reverse.dropWhile (·.isEmpty)).reverse

def makeDir (d : Disk) (p : Path) : Except IoError Disk := do
  checkPath p
  let names := dropTrailingEmpty p.names
  let name := names.getLast?.getD "."
  let (loc, old) ← d.place p names.dropLast name
  if name = "." ∨ name = ".." ∨ old.isSome then
    throw .alreadyExists
  pure (d.put loc .directory)

end Disk

end StructGen
