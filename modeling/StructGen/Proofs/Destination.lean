import Mathlib.Data.List.Infix
import StructGen.Disk
import StructGen.Proofs.Words

namespace StructGen

theorem slashPieces_eq_splitOn (cs : List Char) : slashPieces cs = cs.splitOn '/' := by
  induction cs with
  | nil => rfl
  | cons c cs ih =>
    obtain ⟨w, ws, hs⟩ := List.exists_cons_of_ne_nil (List.splitOn_ne_nil '/' cs)
    rw [slashPieces, ih]
    by_cases hc : c = '/'
    · rw [if_pos hc, hc, splitOn_cons_self]
    · rw [if_neg hc, splitOn_cons_of_ne hc hs, hs]

theorem slash_not_mem_of_mem_slashPieces {cs piece : List Char} (h : piece ∈ slashPieces cs) :
    '/' ∉ piece := by
  induction cs generalizing piece with
  | nil => simp_all [slashPieces]
  | cons c cs ih =>
    rw [slashPieces] at h
    split at h
    · rcases List.mem_cons.mp h with rfl | h
      · exact List.not_mem_nil
      · exact ih h
    next hc =>
      cases hs : slashPieces cs with
      | nil =>
        rw [slashPieces_eq_splitOn] at hs
        exact absurd hs (List.splitOn_ne_nil _ _)
      | cons w ws =>
        rw [hs] at h ih
        rcases List.mem_cons.mp h with rfl | h
        · have hw := ih List.mem_cons_self
          simp [hw, Ne.symm hc]
        · exact ih (List.mem_cons_of_mem w h)

namespace Path

theorem names_ne_nil (p : Path) : p.names ≠ [] := by
  rw [names, slashPieces_eq_splitOn]
  simp [List.splitOn_ne_nil]

theorem names_append_slash (s t : String) :
    (mk (s ++ "/" ++ t)).names = (mk s).names ++ (mk t).names := by
  have hchars : (s ++ "/" ++ t).toList = s.toList ++ '/' :: t.toList := by simp
  rw [names, names, names, hchars, slashPieces_eq_splitOn, slashPieces_eq_splitOn,
    slashPieces_eq_splitOn, List.splitOn_append_cons_self, List.map_append]

theorem names_eq_singleton {s : String} (h : '/' ∉ s.toList) : (mk s).names = [s] := by
  rw [names, slashPieces_eq_splitOn, List.splitOn_eq_singleton h]
  simp

theorem slash_not_mem_of_mem_names {p : Path} {name : String} (h : name ∈ p.names) :
    '/' ∉ name.toList := by
  obtain ⟨piece, hp, rfl⟩ := List.mem_map.mp h
  rw [String.toList_ofList]
  exact slash_not_mem_of_mem_slashPieces hp

theorem names_intercalate {names : List String} (hne : names ≠ [])
    (h : ∀ name ∈ names, '/' ∉ name.toList) : (mk ("/".intercalate names)).names = names := by
  have hchars : "/".toList = ['/'] := rfl
  rw [Path.names, slashPieces_eq_splitOn, String.toList_intercalate, hchars,
    List.splitOn_intercalate]
  · simp
  · simpa using h
  · simpa using hne

theorem isAbsolute_append {s : String} (hs : s ≠ "") (t : String) :
    (mk (s ++ t)).isAbsolute = (mk s).isAbsolute := by
  have hne : s.toList ≠ [] := fun h => hs (String.toList_eq_nil_iff.mp h)
  simp [isAbsolute, hne]

end Path

/-- The place that a name leads to from another, whether anything is there or not. -/
def stepFrom (loc : Location) (name : String) : Location :=
  if name = "" ∨ name = "." then loc
  else if name = ".." then loc.dropLast
  else loc ++ [name]

def resolve (loc : Location) (names : List String) : Location :=
  names.foldl stepFrom loc

@[simp] theorem stepFrom_empty (loc : Location) : stepFrom loc "" = loc := rfl

@[simp] theorem stepFrom_dot (loc : Location) : stepFrom loc "." = loc := rfl

/-- Whether a name can be that of an entry. -/
def IsProperName (name : String) : Prop :=
  name ≠ "" ∧ name ≠ "." ∧ name ≠ ".."

theorem stepFrom_of_isProperName {name : String} (h : IsProperName name) (loc : Location) :
    stepFrom loc name = loc ++ [name] := by
  obtain ⟨hempty, hdot, hdots⟩ := h
  simp [stepFrom, hempty, hdot, hdots]

@[simp] theorem resolve_nil (loc : Location) : resolve loc [] = loc := rfl

@[simp] theorem resolve_cons (loc : Location) (name : String) (names : List String) :
    resolve loc (name :: names) = resolve (stepFrom loc name) names := rfl

@[simp] theorem resolve_append (loc : Location) (names names' : List String) :
    resolve loc (names ++ names') = resolve (resolve loc names) names' :=
  List.foldl_append

theorem resolve_filter (loc : Location) (names : List String) :
    resolve loc (names.filter fun name => !name.isEmpty && name != ".") = resolve loc names := by
  induction names generalizing loc with
  | nil => rfl
  | cons name names ih =>
    by_cases hn : name = "" ∨ name = "."
    · rcases hn with rfl | rfl <;> simp [ih]
    · have hkept : (!name.isEmpty && name != ".") = true := by
        simpa [String.isEmpty_iff] using hn
      rw [List.filter_cons, if_pos hkept, resolve_cons, resolve_cons, ih]

namespace Path

theorem resolve_steps (p : Path) (loc : Location) : resolve loc p.steps = resolve loc p.names := by
  rw [← resolve_filter loc p.names, steps]
  split <;> rfl

/-- The first steps of a path lead to where some of its first names lead. -/
theorem resolve_prefix_steps {p : Path} {steps : List String} (h : steps <+: p.steps)
    (loc : Location) : ∃ names rest, p.names = names ++ rest ∧
      resolve loc names = resolve loc steps := by
  have hkept : ∀ {steps : List String},
      steps <+: (p.names.filter fun name => !name.isEmpty && name != ".") →
        ∃ names rest, p.names = names ++ rest ∧ resolve loc names = resolve loc steps := by
    rintro steps ⟨last, hlast⟩
    obtain ⟨names, rest, hnames, rfl, _⟩ := List.filter_eq_append_iff.mp hlast.symm
    exact ⟨names, rest, hnames, (resolve_filter loc names).symm⟩
  rw [Path.steps] at h
  split at h
  · cases steps with
    | nil => exact ⟨[], p.names, rfl, rfl⟩
    | cons first steps =>
      obtain ⟨rfl, hrest⟩ := List.cons_prefix_cons.mp h
      obtain ⟨names, rest, hnames, heq⟩ := hkept hrest
      exact ⟨names, rest, hnames, heq⟩
  · exact hkept h

theorem ne_empty_of_mem_steps {p : Path} {name : String} (h : name ∈ p.steps) : name ≠ "" := by
  rw [steps] at h
  split at h
  · rcases List.mem_cons.mp h with rfl | h
    · decide
    · simp_all
  · simp_all

theorem mem_names_of_mem_steps {p : Path} {name : String} (h : name ∈ p.steps) :
    name ∈ p.names := by
  rw [steps] at h
  split at h
  next hhead =>
    rcases List.mem_cons.mp h with rfl | h
    · exact List.mem_of_head? hhead
    · exact List.mem_of_mem_filter h
  next => exact List.mem_of_mem_filter h

theorem steps_ne_nil_of_isProperName (p : Path) {name : String} (hm : name ∈ p.names)
    (h : IsProperName name) : p.steps ≠ [] := by
  have hkept : name ∈ p.names.filter fun name => !name.isEmpty && name != "." :=
    List.mem_filter.mpr ⟨hm, by simp [h.1, h.2.1]⟩
  rw [steps]
  split
  · simp
  · exact List.ne_nil_of_mem hkept

theorem dot_not_mem_tail_steps (p : Path) : "." ∉ p.steps.tail := by
  have hkept : "." ∉ p.names.filter fun name => !name.isEmpty && name != "." := by simp
  rw [steps]
  split
  · exact hkept
  · exact fun h => hkept (List.mem_of_mem_tail h)

theorem filter_eq_self_of_proper {names : List String} (hne : ∀ name ∈ names, name ≠ "")
    (hdot : "." ∉ names) :
    (names.filter fun name => !name.isEmpty && name != ".") = names := by
  refine List.filter_eq_self.mpr fun name hm => ?_
  have hname : name ≠ "." := fun h => hdot (h ▸ hm)
  simp [hne name hm, hname]

theorem steps_eq_names {p : Path} (hne : ∀ name ∈ p.names, name ≠ "")
    (hdot : "." ∉ p.names.tail) : p.steps = p.names := by
  rw [Path.steps]
  cases hnames : p.names with
  | nil => rfl
  | cons first rest =>
    rw [hnames] at hne hdot
    by_cases hfirst : first = "."
    · subst hfirst
      have hrest := filter_eq_self_of_proper (fun name hm => hne name (List.mem_cons_of_mem _ hm)) hdot
      simp [hrest]
    · have hall := filter_eq_self_of_proper hne (by simpa [Ne.symm hfirst] using hdot)
      simp only [List.head?_cons, Option.some.injEq, hfirst, if_false, hall]

theorem head?_names_of_isAbsolute {p : Path} (h : p.isAbsolute) : p.names.head? = some "" := by
  obtain ⟨cs, hcs⟩ := List.head?_eq_some_iff.mp (beq_iff_eq.mp h)
  rw [names, hcs]
  rfl

theorem dot_not_mem_steps_of_isAbsolute {p : Path} (h : p.isAbsolute) : "." ∉ p.steps := by
  rw [steps, head?_names_of_isAbsolute h]
  simp

/-- A parent has all steps of a path but the last. -/
theorem steps_of_parent? {p q : Path} (h : p.parent? = some q) :
    q.steps = p.steps.dropLast ∧ q.isAbsolute = p.isAbsolute := by
  have hne : ∀ name ∈ p.steps.dropLast, name ≠ "" := fun name hm =>
    ne_empty_of_mem_steps (List.mem_of_mem_dropLast hm)
  have hslash : ∀ name ∈ p.steps.dropLast, '/' ∉ name.toList := fun name hm =>
    slash_not_mem_of_mem_names (mem_names_of_mem_steps (List.mem_of_mem_dropLast hm))
  rw [parent?] at h
  split at h
  next => contradiction
  next =>
    obtain rfl := Option.some.inj h
    by_cases habs : p.isAbsolute
    · have hdot : "." ∉ p.steps.dropLast := fun hm =>
        dot_not_mem_steps_of_isAbsolute habs (List.mem_of_mem_dropLast hm)
      have hnames : (mk ("/" ++ "/".intercalate p.steps.dropLast)).names =
          "" :: (mk ("/".intercalate p.steps.dropLast)).names :=
        names_append_slash "" ("/".intercalate p.steps.dropLast)
      rw [if_pos habs, steps, hnames, habs]
      constructor
      · cases hsteps : p.steps.dropLast with
        | nil => rfl
        | cons first rest =>
          rw [← hsteps, names_intercalate (by simp [hsteps]) hslash]
          simpa using filter_eq_self_of_proper hne hdot
      · simp [isAbsolute]
    · rw [if_neg habs, String.empty_append, Bool.eq_false_iff.mpr habs]
      cases hsteps : p.steps.dropLast with
      | nil => exact ⟨rfl, rfl⟩
      | cons first rest =>
        rw [← hsteps]
        have hnames := names_intercalate (by simp [hsteps]) hslash
        have hdot : "." ∉ p.steps.dropLast.tail := by
          rw [List.tail_dropLast]
          exact fun hm => dot_not_mem_tail_steps p (List.mem_of_mem_dropLast hm)
        have hq : (mk ("/".intercalate p.steps.dropLast)).steps = p.steps.dropLast := by
          rw [steps_eq_names, hnames]
          · rwa [hnames]
          · rwa [hnames]
        refine ⟨hq, Bool.eq_false_iff.mpr fun hq => ?_⟩
        have hhead := head?_names_of_isAbsolute hq
        rw [hnames] at hhead
        exact hne "" (List.mem_of_head? hhead) rfl

end Path

namespace Disk

/-- The place that a path denotes on a disk without links: each name leads one step on. -/
def destination (d : Disk) (p : Path) : Location :=
  resolve (d.start p) p.names

theorem start_eq_of_workingDir_eq {d d' : Disk} (h : d'.workingDir = d.workingDir) (p : Path) :
    d'.start p = d.start p := by
  rw [start, start, h]

theorem destination_eq_of_workingDir_eq {d d' : Disk} (h : d'.workingDir = d.workingDir)
    (p : Path) : d'.destination p = d.destination p := by
  rw [destination, destination, start_eq_of_workingDir_eq h]

/-- A file seen from a directory is at the place that its names lead to from there, unless it is
given by an absolute path. -/
theorem destination_join (d : Disk) (directory : Path) (file : String) :
    d.destination (directory.join file) =
      resolve (if (Path.mk file).isAbsolute then [] else d.destination directory)
        (Path.mk file).names := by
  obtain ⟨text⟩ := directory
  rw [Path.join]
  split
  next habs => rw [destination, start, if_pos habs]
  next hrel =>
    split
    next hempty =>
      obtain rfl : text = "" := String.isEmpty_iff.mp hempty
      rw [destination, start, if_neg hrel]
      rfl
    next hne =>
      have hne : text ≠ "" := fun h => hne (String.isEmpty_iff.mpr h)
      split
      next hlast =>
        obtain ⟨cs, hcs⟩ := List.getLast?_eq_some_iff.mp hlast
        obtain rfl : text = String.ofList cs ++ "/" := String.toList_inj.mp (by simp [hcs])
        have hnames : (Path.mk (String.ofList cs ++ "/")).names =
            (Path.mk (String.ofList cs)).names ++ [""] := by
          have h := Path.names_append_slash (String.ofList cs) ""
          rwa [String.append_empty] at h
        rw [destination, destination, start, start, Path.isAbsolute_append hne,
          Path.names_append_slash, hnames, resolve_append, resolve_append]
        rfl
      next =>
        rw [destination, destination, start, start, String.append_assoc,
          Path.isAbsolute_append hne, ← String.append_assoc, Path.names_append_slash,
          resolve_append]

/-- The places that a path leads through, one for each of its steps. -/
def placesTo (d : Disk) (p : Path) : List Location :=
  p.steps.inits.tail.map (resolve (d.start p))

theorem mem_placesTo {d : Disk} {p : Path} {loc : Location} :
    loc ∈ d.placesTo p ↔
      ∃ steps, steps ≠ [] ∧ steps <+: p.steps ∧ resolve (d.start p) steps = loc := by
  have htail : ∀ {xs ys : List String}, ys ∈ xs.inits.tail ↔ ys ≠ [] ∧ ys <+: xs := by
    intro xs ys
    cases xs with
    | nil => simp +contextual
    | cons x xs =>
      cases ys with
      | nil => simp
      | cons y ys => simp [List.cons_prefix_cons, eq_comm, and_comm]
  simp only [placesTo, List.mem_map, htail, and_assoc]

theorem placesTo_eq_of_workingDir_eq {d d' : Disk} (h : d'.workingDir = d.workingDir) (p : Path) :
    d'.placesTo p = d.placesTo p := by
  rw [placesTo, placesTo, start_eq_of_workingDir_eq h]

theorem destination_mem_placesTo {d : Disk} {p : Path} (h : p.steps ≠ []) :
    d.destination p ∈ d.placesTo p :=
  mem_placesTo.mpr ⟨p.steps, h, List.prefix_rfl, p.resolve_steps _⟩

/-- A path leads through the places that its parent leads through. -/
theorem mem_placesTo_of_parent? {d : Disk} {p q : Path} (h : p.parent? = some q) {loc : Location}
    (hm : loc ∈ d.placesTo q) : loc ∈ d.placesTo p := by
  obtain ⟨hsteps, habs⟩ := Path.steps_of_parent? h
  obtain ⟨steps, hne, hlead, hloc⟩ := mem_placesTo.mp hm
  rw [start, habs] at hloc
  rw [hsteps] at hlead
  exact mem_placesTo.mpr ⟨steps, hne, hlead.trans (List.dropLast_prefix _), hloc⟩

end Disk

end StructGen
