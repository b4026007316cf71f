import StructGen.Identifier
import StructGen.Proofs.Registration
import StructGen.Render

namespace StructGen

/-- The lines of a text: what stands between its newlines. -/
def lines (s : String) : List String :=
  (s.toList.splitOn '\n').map String.ofList

def isCommentLine (line : String) : Bool :=
  "//".toList.isPrefixOf line.toList

/-- What is left of the lines of a source text when the comment lines are taken out. -/
def codeLines (s : String) : List String :=
  (lines s).filter (!isCommentLine ·)

/-- Whether a text that is written behind slashes is a comment to its end: each of its lines
after the first begins with slashes of its own. -/
def StaysComment (comment : String) : Prop :=
  ∀ line ∈ (lines comment).tail, isCommentLine line

instance (comment : String) : Decidable (StaysComment comment) :=
  inferInstanceAs (Decidable (∀ line ∈ (lines comment).tail, isCommentLine line = true))

/-- The lines of a comment that are code where the comment is written behind slashes. -/
def spilledLines (comment : String) : List String :=
  (lines comment).tail.filter (!isCommentLine ·)

theorem spilledLines_eq_nil_iff {comment : String} :
    spilledLines comment = [] ↔ StaysComment comment := by
  simp [spilledLines, StaysComment, List.filter_eq_nil_iff]

theorem lines_append_newline (s t : String) : lines (s ++ "\n" ++ t) = lines s ++ lines t := by
  have hchars : (s ++ "\n" ++ t).toList = s.toList ++ '\n' :: t.toList := by simp
  rw [lines, hchars, List.splitOn_append_cons_self, List.map_append]
  rfl

theorem codeLines_append_newline (s t : String) :
    codeLines (s ++ "\n" ++ t) = codeLines s ++ codeLines t := by
  rw [codeLines, lines_append_newline, List.filter_append]
  rfl

/-- Slashes before a text turn its first line into a comment and leave the others. -/
theorem codeLines_behind_slashes (comment : String) :
    codeLines ("// " ++ comment) = spilledLines comment := by
  have hchars : ("// " ++ comment).toList = '/' :: '/' :: ' ' :: comment.toList := by simp
  rw [codeLines, spilledLines, lines, lines, hchars]
  cases hs : comment.toList.splitOn '\n' with
  | nil => exact absurd hs (List.splitOn_ne_nil _ _)
  | cons first rest =>
    simp [List.splitOn_cons_eq_if_modifyHead, hs, isCommentLine]

/-- Texts that each begin a new line have their own code lines. -/
theorem codeLines_join (start : String) (blocks : List String) :
    codeLines (start ++ String.join (blocks.map ("\n" ++ ·))) =
      codeLines start ++ blocks.flatMap codeLines := by
  induction blocks generalizing start with
  | nil => simp
  | cons block blocks ih =>
    have hsplit : start ++ String.join ((block :: blocks).map ("\n" ++ ·)) =
        (start ++ "\n" ++ block) ++ String.join (blocks.map ("\n" ++ ·)) := by
      simp [String.append_assoc]
    rw [hsplit, ih, codeLines_append_newline, List.flatMap_cons, List.append_assoc]

def Table.uncommented (table : Table) : Table :=
  { table with comment := "" }

def SameButComment (table table' : Table) : Prop :=
  table.uncommented = table'.uncommented

theorem SameButComment.columns {table table' : Table} (h : SameButComment table table') :
    table.columns = table'.columns := by
  change table.uncommented.columns = table'.uncommented.columns
  rw [h]

theorem renderStruct_eq (ctx : RenderContext) (table : Table) :
    renderStruct ctx table =
      (if table.comment.isEmpty then "" else "// " ++ table.comment ++ "\n") ++
        renderStruct ctx table.uncommented := by
  simp only [renderStruct, String.append_assoc]
  rfl

/-- The code of a struct, apart from what spills from the comment above it. -/
def structLines (ctx : RenderContext) (table : Table) : List String :=
  codeLines (renderStruct ctx table.uncommented)

theorem SameButComment.structLines {table table' : Table} (h : SameButComment table table')
    (ctx : RenderContext) : structLines ctx table = structLines ctx table' :=
  congrArg (fun t => codeLines (renderStruct ctx t)) h

theorem codeLines_renderStruct (ctx : RenderContext) (table : Table) :
    codeLines (renderStruct ctx table) =
      spilledLines table.comment ++ structLines ctx table := by
  rw [renderStruct_eq, structLines]
  split
  next h =>
    have hnone : spilledLines "" = [] := by decide
    rw [String.isEmpty_iff.mp h, String.empty_append, hnone, List.nil_append]
  next => rw [codeLines_append_newline, codeLines_behind_slashes]

def fileStart (ctx : RenderContext) (tables : List Table) : String :=
  "package " ++ ctx.package ++ "\n" ++ renderImports (resolveImports tables .go)

theorem renderFile_eq_join (ctx : RenderContext) (tables : List Table) :
    renderFile ctx tables =
      fileStart ctx tables ++ String.join ((tables.map (renderStruct ctx)).map ("\n" ++ ·)) := by
  rw [renderFile, fileStart, List.map_map]
  rfl

/-- The code of a file: its start, and for each table what spills from its comment and then its
struct. -/
theorem codeLines_renderFile (ctx : RenderContext) (tables : List Table) :
    codeLines (renderFile ctx tables) = codeLines (fileStart ctx tables) ++
      tables.flatMap fun t => spilledLines t.comment ++ structLines ctx t := by
  rw [renderFile_eq_join, codeLines_join, List.flatMap_map]
  simp only [codeLines_renderStruct]

theorem length_flatMap_le {α β : Type} (f g : α → List β) (xs : List α) :
    (xs.flatMap f).length ≤ (xs.flatMap fun x => g x ++ f x).length := by
  induction xs with
  | nil => simp
  | cons x xs ih =>
    simp only [List.flatMap_cons, List.length_append]
    omega

/-- Parts put before the parts of a list change the whole unless they are all empty. -/
theorem flatMap_eq_flatMap_append_iff {α β : Type} (f g : α → List β) (xs : List α) :
    xs.flatMap f = (xs.flatMap fun x => g x ++ f x) ↔ ∀ x ∈ xs, g x = [] := by
  induction xs with
  | nil => simp
  | cons x xs ih =>
    rw [List.forall_mem_cons, ← ih, List.flatMap_cons, List.flatMap_cons]
    constructor
    · intro h
      -- What follows is no shorter with its own parts put in, so the first part has no room.
      have hlen := congrArg List.length h
      have hle := length_flatMap_le f g xs
      simp only [List.length_append] at hlen
      have hnil : g x = [] := List.length_eq_zero_iff.mp (by omega)
      rw [hnil, List.nil_append] at h
      exact ⟨hnil, List.append_cancel_left h⟩
    · rintro ⟨hnil, h⟩
      rw [hnil, List.nil_append, h]

theorem fileStart_eq_of_sameButComment (ctx : RenderContext) {tables tables' : List Table}
    (h : List.Forall₂ SameButComment tables tables') :
    fileStart ctx tables = fileStart ctx tables' := by
  have hcolumns : tables.flatMap (·.columns) = tables'.flatMap (·.columns) := by
    rw [List.flatMap_def, List.flatMap_def, map_eq_of_forall₂ (fun _ _ ht => ht.columns) h]
  rw [fileStart, fileStart, resolveImports, resolveImports, hcolumns]

/-- Beside tables whose comments stay comments, other comments leave the code of the file as it is
exactly when they stay comments too. -/
theorem codeLines_renderFile_eq_iff (ctx : RenderContext) {tables tables' : List Table}
    (hsame : List.Forall₂ SameButComment tables tables')
    (h : ∀ t ∈ tables, StaysComment t.comment) :
    codeLines (renderFile ctx tables) = codeLines (renderFile ctx tables') ↔
      ∀ t ∈ tables', StaysComment t.comment := by
  have hstructs : tables.flatMap (structLines ctx) = tables'.flatMap (structLines ctx) := by
    rw [List.flatMap_def, List.flatMap_def, map_eq_of_forall₂ (fun _ _ ht => ht.structLines ctx) hsame]
  have hclean : (tables.flatMap fun t => spilledLines t.comment ++ structLines ctx t) =
      tables.flatMap (structLines ctx) := by
    refine ((flatMap_eq_flatMap_append_iff _ _ tables).mpr fun t ht => ?_).symm
    exact spilledLines_eq_nil_iff.mpr (h t ht)
  rw [codeLines_renderFile, codeLines_renderFile, fileStart_eq_of_sameButComment ctx hsame, hclean,
    hstructs, List.append_cancel_left_eq, flatMap_eq_flatMap_append_iff]
  simp only [spilledLines_eq_nil_iff]

/-- Comments of several lines are no code where each line has its slashes. -/
theorem codeLines_renderFile_eq_iff_of_slashed_lines :
    let ctx : RenderContext := ⟨"models", NameStyle.gonic.identifier, NameStyle.gonic.identifier, {}⟩
    let users (comment : String) : Table :=
      { name := "users", comment, columns := [{ name := "id", sqlType := { name := "BIGINT" } }] }
    let events (comment : String) : Table :=
      { name := "events", comment, columns := [{ name := "at", sqlType := { name := "DATETIME" } }] }
    let tables := [users "all users", events ""]
    let tables' := [users "", events "what happened\n// and when\n//"]
    List.Forall₂ SameButComment tables tables' ∧ (∀ t ∈ tables, StaysComment t.comment) ∧
      (codeLines (renderFile ctx tables) = codeLines (renderFile ctx tables') ↔
        ∀ t ∈ tables', StaysComment t.comment) := by
  intro ctx users events tables tables'
  have hsame : List.Forall₂ SameButComment tables tables' := .cons rfl (.cons rfl .nil)
  have h : ∀ t ∈ tables, StaysComment t.comment := by decide
  exact ⟨hsame, h, codeLines_renderFile_eq_iff ctx hsame h⟩

/-- The second line of a comment is code. -/
theorem codeLines_renderFile_ne_of_second_line :
    let ctx : RenderContext := ⟨"models", NameStyle.gonic.identifier, NameStyle.gonic.identifier, {}⟩
    let table (comment : String) : Table :=
      { name := "t", comment, columns := [{ name := "a", sqlType := { name := "INT" } }] }
    SameButComment (table "") (table "first\nvar leaked int") ∧
      codeLines (renderFile ctx [table ""]) ≠
        codeLines (renderFile ctx [table "first\nvar leaked int"]) := by
  intro ctx table
  have hsame : SameButComment (table "") (table "first\nvar leaked int") := rfl
  refine ⟨hsame, fun heq => ?_⟩
  have hclean : spilledLines (table "").comment = [] := by decide
  have hspilled : spilledLines (table "first\nvar leaked int").comment = ["var leaked int"] := by
    decide
  rw [codeLines_renderFile, codeLines_renderFile,
    fileStart_eq_of_sameButComment ctx (.cons hsame .nil)] at heq
  have hstructs := congrArg List.length (List.append_cancel_left heq)
  simp only [List.flatMap_cons, List.flatMap_nil, List.length_append, List.length_cons,
    List.length_nil, hspilled, hclean, hsame.structLines ctx] at hstructs
  omega

end StructGen
