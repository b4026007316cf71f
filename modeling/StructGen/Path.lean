namespace StructGen

structure Path where
  text : String
  deriving DecidableEq, Inhabited

def slashPieces : List Char → List (List Char)
  | [] => [[]]
  | c :: cs =>
    if c = '/' then [] :: slashPieces cs
    else
      match slashPieces cs with
      | [] => [[c]]
      | w :: ws => (c :: w) :: ws

namespace Path

def isAbsolute (p : Path) : Bool :=
  p.text.toList.head? == some '/'

/-- The names between the slashes; a slash at the end leaves an empty last name. -/
def names (p : Path) : List String :=
  (slashPieces p.text.toList).map String.ofList

/-- The path of a file seen from a directory; an absolute path stays as it is. -/
def join (directory : Path) (file : String) : Path :=
  if (Path.mk file).isAbsolute then ⟨file⟩
  else if directory.text.isEmpty then ⟨file⟩
  else if directory.text.toList.getLast? = some '/' then ⟨directory.text ++ file⟩
  else ⟨directory.text ++ "/" ++ file⟩

/-- The steps of a path: its names without empty ones and without dots, except for a dot that
a relative path starts with. -/
def steps (p : Path) : List String :=
  let kept := p.names.filter fun name => !name.isEmpty && name != "."
  if p.names.head? = some "." then "." :: kept else kept

/-- The path without its last step; a path that is empty or the root has none. -/
def parent? (p : Path) : Option Path :=
  let start := if p.isAbsolute then "/" else ""
  if p.steps.isEmpty then none
  else some ⟨start ++ "/".intercalate p.steps.dropLast⟩

end Path

end StructGen
