import StructGen.Disk
import StructGen.Event

namespace StructGen

/-- What is done on a disk and told meanwhile, step by step. What a step comes to decides how it
goes on, so one procedure can be followed on a `Disk` and on the disk of a machine. -/
inductive Procedure (α : Type) where
  | done (a : α)
  | tell (events : List Event) (next : Procedure α)
  | readFile (p : Path) (next : Except IoError String → Procedure α)
  | isDirectory (p : Path) (next : Bool → Procedure α)
  | makeDir (p : Path) (next : Except IoError Unit → Procedure α)
  | writeFile (p : Path) (text : String) (next : Except IoError Unit → Procedure α)

namespace Procedure

variable {α β : Type}

/-- One procedure and then another one, which depends on the value of the first. -/
def bind : Procedure α → (α → Procedure β) → Procedure β
  | done a, f => f a
  | tell events next, f => tell events (next.bind f)
  | readFile p next, f => readFile p fun content => (next content).bind f
  | isDirectory p next, f => isDirectory p fun there => (next there).bind f
  | makeDir p next, f => makeDir p fun made => (next made).bind f
  | writeFile p text next, f => writeFile p text fun written => (next written).bind f

/-- The value of a procedure that is followed on a disk, the events that it tells, and the disk as
it leaves it. -/
def on : Procedure α → Disk → α × List Event × Disk
  | done a, d => (a, [], d)
  | tell events next, d =>
    let (a, log, last) := next.on d
    (a, events ++ log, last)
  | readFile p next, d => (next (d.readFile p)).on d
  | isDirectory p next, d => (next (d.isDirectory p)).on d
  | makeDir p next, d =>
    match d.makeDir p with
    | .ok d' => (next (.ok ())).on d'
    | .error e => (next (.error e)).on d
  | writeFile p text next, d =>
    match d.writeFile p text with
    | .ok d' => (next (.ok ())).on d'
    | .error e => (next (.error e)).on d

theorem on_bind (procedure : Procedure α) (f : α → Procedure β) (d : Disk) :
    (procedure.bind f).on d =
      let (a, log, mid) := procedure.on d
      let (b, log', last) := (f a).on mid
      (b, log ++ log', last) := by
  induction procedure generalizing d with
  | done a => rfl
  | tell events next ih =>
    rw [bind, on, on, ih]
    simp only [List.append_assoc]
  | readFile p next ih => exact ih _ d
  | isDirectory p next ih => exact ih _ d
  | makeDir p next ih =>
    rw [bind, on, on]
    cases d.makeDir p with
    | ok d' => exact ih _ d'
    | error e => exact ih _ d
  | writeFile p text next ih =>
    rw [bind, on, on]
    cases d.writeFile p text with
    | ok d' => exact ih _ d'
    | error e => exact ih _ d

theorem on_bind_of_silent {procedure : Procedure α} {d mid : Disk} {a : α}
    (h : procedure.on d = (a, [], mid)) (f : α → Procedure β) :
    (procedure.bind f).on d = (f a).on mid := by
  rw [on_bind, h]
  rfl

/-- Takes a directory that is there for one that has been made. -/
def orThere (p : Path) : Except IoError Unit → Procedure (Except IoError Unit)
  | .ok () => done (.ok ())
  | .error e => isDirectory p fun there => done (if there then .ok () else .error e)

/-- Makes a directory or leaves the one that is there. -/
def ensureDir (p : Path) : Procedure (Except IoError Unit) :=
  makeDir p (orThere p)

/-- Makes a directory and those above it, of which there are at most `n`. A parent is made only
when the directory cannot be made without it, and stays when the directory cannot be made. -/
def makeDirsUpTo : Nat → Path → Procedure (Except IoError Unit)
  | 0, _ => done (.ok ())
  | n + 1, p => makeDir p fun made =>
    match made, p.parent? with
    | .error .notFound, some parent => (makeDirsUpTo n parent).bind fun
      | .ok () => ensureDir p
      | .error e => done (.error e)
    | _, _ => orThere p made

def makeDirs (p : Path) : Procedure (Except IoError Unit) :=
  makeDirsUpTo p.steps.length p

end Procedure

namespace Disk

def ensureDir (d : Disk) (p : Path) : Except IoError Unit × Disk :=
  let (result, _, last) := (Procedure.ensureDir p).on d
  (result, last)

def makeDirsUpTo (n : Nat) (d : Disk) (p : Path) : Except IoError Unit × Disk :=
  let (result, _, last) := (Procedure.makeDirsUpTo n p).on d
  (result, last)

def makeDirs (d : Disk) (p : Path) : Except IoError Unit × Disk :=
  makeDirsUpTo p.steps.length d p

theorem ensureDir_eq (d : Disk) (p : Path) :
    d.ensureDir p = match d.makeDir p with
      | .ok d' => (.ok (), d')
      | .error e => (if d.isDirectory p then .ok () else .error e, d) := by
  rw [ensureDir, Procedure.ensureDir, Procedure.on]
  cases d.makeDir p <;> rfl

theorem on_ensureDir (d : Disk) (p : Path) :
    (Procedure.ensureDir p).on d = ((d.ensureDir p).1, [], (d.ensureDir p).2) := by
  rw [ensureDir, Procedure.ensureDir, Procedure.on]
  cases d.makeDir p <;> rfl

/-- Making directories tells nothing. -/
theorem on_makeDirsUpTo (n : Nat) (d : Disk) (p : Path) :
    (Procedure.makeDirsUpTo n p).on d =
      ((makeDirsUpTo n d p).1, [], (makeDirsUpTo n d p).2) := by
  induction n generalizing p with
  | zero => rfl
  | succ n ih =>
    rw [makeDirsUpTo, Procedure.makeDirsUpTo, Procedure.on]
    cases d.makeDir p with
    | ok d' => rfl
    | error e =>
      dsimp only
      split
      next parent _ _ =>
        rw [Procedure.on_bind_of_silent (ih parent)]
        split
        next => rw [on_ensureDir]
        next => rfl
      next => rfl

theorem on_makeDirs (d : Disk) (p : Path) :
    (Procedure.makeDirs p).on d = ((d.makeDirs p).1, [], (d.makeDirs p).2) :=
  on_makeDirsUpTo p.steps.length d p

theorem makeDirsUpTo_succ (n : Nat) (d : Disk) (p : Path) :
    makeDirsUpTo (n + 1) d p = match d.makeDir p, p.parent? with
      | .error .notFound, some parent => match makeDirsUpTo n d parent with
        | (.ok (), d') => d'.ensureDir p
        | (.error e, d') => (.error e, d')
      | _, _ => d.ensureDir p := by
  rw [makeDirsUpTo, Procedure.makeDirsUpTo, Procedure.on, ensureDir_eq]
  cases d.makeDir p with
  | ok d' => rfl
  | error e =>
    dsimp only
    split
    next parent he hparent =>
      cases he
      rw [hparent, Procedure.on_bind_of_silent (on_makeDirsUpTo n d parent)]
      dsimp only
      obtain ⟨result, mid⟩ := makeDirsUpTo n d parent
      cases result with
      | ok => rfl
      | error e => rfl
    next hother =>
      split
      next parent he hparent =>
        cases he
        exact (hother parent rfl hparent).elim
      next => rfl

end Disk

end StructGen
