import StructGen.Proofs.StructBlocks

namespace StructGen

/-- Whether a line has, behind a tab, the name of the field for a column, its type and its tag, each
whole and with blanks between them, and the type and the tag begin at the given characters. -/
def AlignedAt (ctx : RenderContext) (table : Table) (typeStart tagStart : Nat) (column : Column)
    (line : String) : Prop :=
  ∃ before between : String, ∃ gap gap' : Nat,
    before = "\t" ++ ctx.fieldName column.name ++ spaces (gap + 1) ∧
    between = TypeMapping.go.fieldType column ++ spaces (gap' + 1) ∧
    line = before ++ between ++ formatTag table column ctx.tagOptions ∧
    before.length = typeStart ∧ (before ++ between).length = tagStart

/-- Whether the struct of a table has one line for each column, all of them with the type and the
tag at the same characters, and no line is any shorter for being trimmed. -/
structure FieldsAligned (ctx : RenderContext) (table : Table) (typeStart tagStart : Nat) :
    Prop where
  layout : "\n" ++ renderStruct ctx table =
    structHead ctx table ++ unlines (fieldLines (ctx.fields table)) ++ "\x7d\n"
  lines : List.Forall₂ (AlignedAt ctx table typeStart tagStart) table.columns
    (fieldLines (ctx.fields table))
  untrimmed : ∀ column ∈ table.columns, ∀ nameWidth typeWidth,
    (ctx.field table column).line nameWidth typeWidth =
      "\t" ++ padRight nameWidth (ctx.fieldName column.name) ++ " " ++
        padRight typeWidth (TypeMapping.go.fieldType column) ++ " " ++
        formatTag table column ctx.tagOptions
  tags : ∀ column ∈ table.columns,
    (formatTag table column ctx.tagOptions).toList.getLast? = some '`'

theorem utf8ByteSize_ofList_cons (c : Char) (cs : List Char) :
    (String.ofList (c :: cs)).utf8ByteSize = c.utf8Size + (String.ofList cs).utf8ByteSize := by
  have hsplit : String.ofList (c :: cs) = String.singleton c ++ String.ofList cs :=
    String.toList_inj.mp (by simp)
  rw [hsplit, String.utf8ByteSize_append, String.utf8ByteSize_singleton]

theorem length_le_utf8ByteSize_ofList (cs : List Char) :
    cs.length ≤ (String.ofList cs).utf8ByteSize := by
  induction cs with
  | nil => exact Nat.zero_le _
  | cons c cs ih =>
    have hpos := c.utf8Size_pos
    rw [utf8ByteSize_ofList_cons, List.length_cons]
    omega

/-- No text has fewer bytes than characters. -/
theorem length_le_utf8ByteSize (s : String) : s.length ≤ s.utf8ByteSize := by
  have h := length_le_utf8ByteSize_ofList s.toList
  rwa [String.ofList_toList, String.length_toList] at h

theorem foldl_max_le_iff {ns : List Nat} {first bound : Nat} :
    ns.foldl max first ≤ bound ↔ first ≤ bound ∧ ∀ n ∈ ns, n ≤ bound := by
  induction ns generalizing first with
  | nil => simp
  | cons n ns ih => simp only [List.foldl_cons, ih, Nat.max_le, List.forall_mem_cons, and_assoc]

theorem widest_le_iff {texts : List String} {bound : Nat} :
    widest texts ≤ bound ↔ ∀ s ∈ texts, s.utf8ByteSize ≤ bound := by
  simp [widest, foldl_max_le_iff]

/-- The bytes of the widest text leave room for the characters of each. -/
theorem length_le_widest {s : String} {texts : List String} (h : s ∈ texts) :
    s.length ≤ widest texts :=
  (length_le_utf8ByteSize s).trans (widest_le_iff.mp (Nat.le_refl _) s h)

/-- Where a name and a type have room, the place of what follows them does not depend on them. -/
theorem alignedAt_line (ctx : RenderContext) (table : Table) {column : Column}
    {nameWidth typeWidth : Nat} (hname : (ctx.fieldName column.name).length ≤ nameWidth)
    (htype : (TypeMapping.go.fieldType column).length ≤ typeWidth) :
    AlignedAt ctx table (nameWidth + 2) (nameWidth + typeWidth + 3) column
      ((ctx.field table column).line nameWidth typeWidth) := by
  have htab : "\t".length = 1 := rfl
  refine ⟨_, _, nameWidth - (ctx.fieldName column.name).length,
    typeWidth - (TypeMapping.go.fieldType column).length, rfl, rfl, ?_, ?_, ?_⟩
  · rw [line_field]
    simp only [String.append_assoc, padRight_append_space]
  · simp only [String.length_append, length_spaces, htab]
    omega
  · simp only [String.length_append, length_spaces, htab]
    omega

theorem forall₂_alignedAt (ctx : RenderContext) (table : Table) :
    List.Forall₂ (AlignedAt ctx table (widest ((ctx.fields table).map (·.name)) + 2)
      (widest ((ctx.fields table).map (·.name)) +
        widest ((ctx.fields table).map (·.typeName)) + 3))
      table.columns (fieldLines (ctx.fields table)) := by
  have hlines : fieldLines (ctx.fields table) = table.columns.map fun column =>
      (ctx.field table column).line (widest ((ctx.fields table).map (·.name)))
        (widest ((ctx.fields table).map (·.typeName))) := List.map_map
  rw [hlines, List.forall₂_map_right_iff, List.forall₂_same]
  intro column hcolumn
  have hfield : ctx.field table column ∈ ctx.fields table := List.mem_map_of_mem hcolumn
  exact alignedAt_line ctx table (length_le_widest (List.mem_map_of_mem (f := (·.name)) hfield))
    (length_le_widest (List.mem_map_of_mem (f := (·.typeName)) hfield))

/-- The fields of a struct are written whole and in order, their types below each other and their
tags too, whatever characters their names have. -/
theorem exists_fieldsAligned (ctx : RenderContext) (table : Table) :
    ∃ typeStart tagStart, FieldsAligned ctx table typeStart tagStart :=
  ⟨_, _,
    { layout := renderStruct_eq_structHead ctx table
      lines := forall₂_alignedAt ctx table
      untrimmed := fun column _ => line_field ctx table column
      tags := fun column _ => getLast?_formatTag table column ctx.tagOptions }⟩

/-- The seven bytes of the longer name leave room for seven characters in both lines. -/
example : fieldLines [⟨"Größe", "int", "`a`"⟩, ⟨"ÄÖ1", "float64", "`b`"⟩] =
    ["\tGröße   int     `a`", "\tÄÖ1     float64 `b`"] := by decide +kernel

end StructGen
