import StructGen.Proofs.FieldAlignment

namespace StructGen

/-- How many blanks stand behind the name of a field, and how many behind its type. -/
structure FieldGaps where
  behindName : Nat
  behindType : Nat
  deriving DecidableEq

/-- The line of the field for a column, with the given blanks. -/
def spacedLine (ctx : RenderContext) (table : Table) (column : Column) (gaps : FieldGaps) :
    String :=
  "\t" ++ ctx.fieldName column.name ++ spaces gaps.behindName ++
    TypeMapping.go.fieldType column ++ spaces gaps.behindType ++
    formatTag table column ctx.tagOptions

/-- Whether the struct of a table is written with the given blanks, a line for each column. -/
def SpacedBy (ctx : RenderContext) (table : Table) (gaps : List FieldGaps) : Prop :=
  gaps.length = table.columns.length ∧
    "\n" ++ renderStruct ctx table = structHead ctx table ++
      unlines (List.zipWith (spacedLine ctx table) table.columns gaps) ++ "\x7d\n"

/-! ### Blanks are read off the text -/

/-- Blanks can be counted where no blank follows them. -/
theorem spaces_append_inj {n m : Nat} {s t : String} (hs : s.toList.head? ≠ some ' ')
    (ht : t.toList.head? ≠ some ' ') (h : spaces n ++ s = spaces m ++ t) : n = m ∧ s = t := by
  induction n generalizing m with
  | zero =>
    cases m with
    | zero => exact ⟨rfl, by simpa [spaces] using h⟩
    | succ m =>
      have hblank : s = spaces (m + 1) ++ t := by simpa [spaces] using h
      rw [hblank, spaces_succ] at hs
      simp at hs
  | succ n ih =>
    cases m with
    | zero =>
      have hblank : spaces (n + 1) ++ s = t := by simpa [spaces] using h
      rw [← hblank, spaces_succ] at ht
      simp at ht
    | succ m =>
      rw [spaces_succ, spaces_succ, String.append_assoc, String.append_assoc,
        String.append_right_inj] at h
      obtain ⟨rfl, hst⟩ := ih h
      exact ⟨rfl, hst⟩

theorem goType_mem (sqlType : String) : goType sqlType ∈ "string" :: goTypes.map (·.1) := by
  unfold goType
  split
  next name _ hfind =>
    exact List.mem_cons_of_mem _ (List.mem_map_of_mem (List.mem_of_find?_eq_some hfind))
  next => exact List.mem_cons_self

/-- No field type is empty or begins with a blank. -/
theorem head?_fieldType (column : Column) :
    (TypeMapping.go.fieldType column).toList.head?.any (· ≠ ' ') = true := by
  have hnames : ∀ name ∈ "[]byte" :: "string" :: goTypes.map (·.1),
      name.toList.head?.any (· ≠ ' ') = true := by decide +kernel
  apply hnames
  unfold TypeMapping.fieldType
  dsimp only
  split
  · exact List.mem_cons_self
  · exact List.mem_cons_of_mem _ (goType_mem column.sqlType.name)

theorem head?_fieldType_append (column : Column) (rest : String) :
    (TypeMapping.go.fieldType column ++ rest).toList.head? ≠ some ' ' := by
  have htype := head?_fieldType column
  rw [String.toList_append, List.head?_append]
  cases hfirst : (TypeMapping.go.fieldType column).toList.head? with
  | none => simp [hfirst] at htype
  | some c => simpa [hfirst] using htype

theorem head?_formatTag_append (table : Table) (column : Column) (options : TagOptions)
    (rest : String) : (formatTag table column options ++ rest).toList.head? ≠ some ' ' := by
  rw [formatTag_eq]
  simp

/-- The blanks of a line are determined by the text that begins with it. -/
theorem spacedLine_append_inj {ctx : RenderContext} {table : Table} {column : Column}
    {gaps gaps' : FieldGaps} {rest rest' : String}
    (h : spacedLine ctx table column gaps ++ rest = spacedLine ctx table column gaps' ++ rest') :
    gaps = gaps' ∧ rest = rest' := by
  obtain ⟨name, type⟩ := gaps
  obtain ⟨name', type'⟩ := gaps'
  simp only [spacedLine, String.append_assoc, String.append_right_inj] at h
  obtain ⟨rfl, htype⟩ :=
    spaces_append_inj (head?_fieldType_append column _) (head?_fieldType_append column _) h
  rw [String.append_right_inj] at htype
  obtain ⟨rfl, htag⟩ := spaces_append_inj (head?_formatTag_append table column _ _)
    (head?_formatTag_append table column _ _) htype
  exact ⟨rfl, by rwa [String.append_right_inj] at htag⟩

theorem unlines_cons (line : String) (lines : List String) :
    unlines (line :: lines) = line ++ ("\n" ++ unlines lines) := by
  simp only [unlines, List.map_cons, String.join_cons, String.append_assoc]

theorem unlines_spacedLine_inj {ctx : RenderContext} {table : Table} {columns : List Column}
    {gaps gaps' : List FieldGaps} (hlength : gaps.length = columns.length)
    (hlength' : gaps'.length = columns.length)
    (h : unlines (List.zipWith (spacedLine ctx table) columns gaps) =
      unlines (List.zipWith (spacedLine ctx table) columns gaps')) : gaps = gaps' := by
  -- Over the columns: a name may have newlines, so lines are not found by them but cut off whole.
  induction columns generalizing gaps gaps' with
  | nil => rw [List.length_eq_zero_iff.mp hlength, List.length_eq_zero_iff.mp hlength']
  | cons column columns ih =>
    obtain ⟨first, rest, rfl⟩ := List.exists_cons_of_length_eq_add_one hlength
    obtain ⟨first', rest', rfl⟩ := List.exists_cons_of_length_eq_add_one hlength'
    rw [List.zipWith_cons_cons, List.zipWith_cons_cons, unlines_cons, unlines_cons] at h
    obtain ⟨rfl, hrest⟩ := spacedLine_append_inj h
    rw [String.append_right_inj] at hrest
    rw [ih (Nat.succ.inj hlength) (Nat.succ.inj hlength') hrest]

/-! ### The blanks of a struct -/

/-- The names of the fields of a struct. -/
def fieldNames (ctx : RenderContext) (table : Table) : List String :=
  table.columns.map fun column => ctx.fieldName column.name

/-- The blanks that fill up a name and a type to the bytes of the widest. -/
def fieldGaps (ctx : RenderContext) (table : Table) (column : Column) : FieldGaps where
  behindName := widest (fieldNames ctx table) - (ctx.fieldName column.name).length + 1
  behindType := widest (table.columns.map TypeMapping.go.fieldType) -
    (TypeMapping.go.fieldType column).length + 1

theorem fieldLines_eq_zipWith (ctx : RenderContext) (table : Table) :
    fieldLines (ctx.fields table) =
      List.zipWith (spacedLine ctx table) table.columns
        (table.columns.map (fieldGaps ctx table)) := by
  rw [List.zipWith_map_right, List.zipWith_self]
  simp only [fieldLines, RenderContext.fields, List.map_map]
  refine List.map_congr_left fun column _ => ?_
  simp only [Function.comp_apply, line_field, spacedLine, String.append_assoc,
    padRight_append_space]
  rfl

/-- The text of a struct has one reading, in which its names are filled up to the bytes of the
widest. -/
theorem spacedBy_iff {ctx : RenderContext} {table : Table} {gaps : List FieldGaps} :
    SpacedBy ctx table gaps ↔ gaps = table.columns.map (fieldGaps ctx table) := by
  rw [SpacedBy, renderStruct_eq_structHead, fieldLines_eq_zipWith]
  constructor
  · rintro ⟨hlength, htext⟩
    rw [String.append_left_inj, String.append_right_inj] at htext
    exact (unlines_spacedLine_inj (List.length_map _) hlength htext).symm
  · rintro rfl
    exact ⟨List.length_map _, rfl⟩

/-! ### Widths in bytes and in characters -/

/-- The number of characters of the text with the most. -/
def longest (texts : List String) : Nat :=
  (texts.map (·.length)).foldl max 0

theorem longest_le_iff {texts : List String} {bound : Nat} :
    longest texts ≤ bound ↔ ∀ s ∈ texts, s.length ≤ bound := by
  simp [longest, foldl_max_le_iff]

def isAscii (s : String) : Bool :=
  s.toList.all (·.val ≤ 127)

theorem length_eq_utf8ByteSize_ofList_iff {cs : List Char} :
    cs.length = (String.ofList cs).utf8ByteSize ↔ ∀ c ∈ cs, c.val ≤ 127 := by
  induction cs with
  | nil => simp
  | cons c cs ih =>
    have hpos := c.utf8Size_pos
    have hrest := length_le_utf8ByteSize_ofList cs
    rw [utf8ByteSize_ofList_cons, List.length_cons, List.forall_mem_cons, ← ih,
      ← Char.utf8Size_eq_one_iff]
    omega

/-- A text has as many bytes as characters exactly if it is ASCII. -/
theorem length_eq_utf8ByteSize_iff {s : String} :
    s.length = s.utf8ByteSize ↔ isAscii s = true := by
  have h := @length_eq_utf8ByteSize_ofList_iff s.toList
  rw [String.ofList_toList, String.length_toList] at h
  simpa [isAscii] using h

/-! ### Tight padding -/

/-- Whether one of the fields of a struct has a single blank between its name and its type. -/
def PaddedTightly (ctx : RenderContext) (table : Table) : Prop :=
  ∃ gaps, SpacedBy ctx table gaps ∧ ∃ g ∈ gaps, g.behindName = 1

/-- Whether the names of the fields of a struct are filled up to the characters of the one that has
most, and no further than by the blank that separates the type. -/
def PaddedToLongest (ctx : RenderContext) (table : Table) : Prop :=
  ∃ gaps, SpacedBy ctx table gaps ∧
    gaps.map (·.behindName) = table.columns.map fun column =>
      longest (fieldNames ctx table) - (ctx.fieldName column.name).length + 1

theorem paddedTightly_iff_exists_long {ctx : RenderContext} {table : Table} :
    PaddedTightly ctx table ↔ ∃ column ∈ table.columns,
      widest (fieldNames ctx table) ≤ (ctx.fieldName column.name).length := by
  simp only [PaddedTightly, spacedBy_iff, exists_eq_left]
  constructor
  · rintro ⟨_, hgaps, hone⟩
    obtain ⟨column, hcolumn, rfl⟩ := List.mem_map.mp hgaps
    exact ⟨column, hcolumn, Nat.sub_eq_zero_iff_le.mp (Nat.succ.inj hone)⟩
  · rintro ⟨column, hcolumn, hlong⟩
    exact ⟨_, List.mem_map_of_mem hcolumn, congrArg (· + 1) (Nat.sub_eq_zero_of_le hlong)⟩

theorem mem_fieldNames {ctx : RenderContext} {table : Table} {column : Column}
    (h : column ∈ table.columns) : ctx.fieldName column.name ∈ fieldNames ctx table :=
  List.mem_map_of_mem h

/-- A name has as many characters as any has bytes if it is ASCII and none has more bytes. -/
theorem widest_fieldNames_le_iff {ctx : RenderContext} {table : Table} {column : Column}
    (h : column ∈ table.columns) :
    widest (fieldNames ctx table) ≤ (ctx.fieldName column.name).length ↔
      isAscii (ctx.fieldName column.name) = true ∧ ∀ other ∈ table.columns,
        (ctx.fieldName other.name).utf8ByteSize ≤ (ctx.fieldName column.name).utf8ByteSize := by
  have hchars := length_le_utf8ByteSize (ctx.fieldName column.name)
  rw [← length_eq_utf8ByteSize_iff, widest_le_iff, fieldNames, List.forall_mem_map]
  constructor
  · intro hall
    have hown := hall column h
    exact ⟨by omega, fun other hother => (hall other hother).trans hchars⟩
  · rintro ⟨hsame, hall⟩ other hother
    exact (hall other hother).trans hsame.ge

theorem paddedTightly_iff_exists_ascii {ctx : RenderContext} {table : Table} :
    PaddedTightly ctx table ↔ ∃ column ∈ table.columns,
      isAscii (ctx.fieldName column.name) = true ∧ ∀ other ∈ table.columns,
        (ctx.fieldName other.name).utf8ByteSize ≤ (ctx.fieldName column.name).utf8ByteSize := by
  rw [paddedTightly_iff_exists_long]
  exact exists_congr fun _ => and_congr_right fun h => widest_fieldNames_le_iff h

theorem paddedToLongest_iff_forall {ctx : RenderContext} {table : Table} :
    PaddedToLongest ctx table ↔ ∀ column ∈ table.columns,
      widest (fieldNames ctx table) - (ctx.fieldName column.name).length =
        longest (fieldNames ctx table) - (ctx.fieldName column.name).length := by
  simp only [PaddedToLongest, spacedBy_iff, exists_eq_left, List.map_map, List.map_inj_left,
    Function.comp_apply, fieldGaps, Nat.add_right_cancel_iff]

/-- Names are filled up to the characters of the longest exactly where one of them is not filled up
at all. -/
theorem paddedToLongest_iff {ctx : RenderContext} {table : Table} :
    PaddedToLongest ctx table ↔ table.columns = [] ∨ PaddedTightly ctx table := by
  have hlongest : longest (fieldNames ctx table) ≤ widest (fieldNames ctx table) :=
    longest_le_iff.mpr fun _ => length_le_widest
  have hchars : ∀ column ∈ table.columns,
      (ctx.fieldName column.name).length ≤ longest (fieldNames ctx table) :=
    fun column h => longest_le_iff.mp le_rfl _ (mem_fieldNames h)
  rw [paddedToLongest_iff_forall, paddedTightly_iff_exists_long]
  constructor
  · intro hall
    -- If each name had room, the longest would have it in characters too.
    by_contra hnone
    obtain ⟨hne, hroom⟩ := not_or.mp hnone
    obtain ⟨column, hcolumn⟩ := List.exists_mem_of_ne_nil _ hne
    have hshort : ∀ other ∈ table.columns,
        (ctx.fieldName other.name).length < widest (fieldNames ctx table) :=
      fun other h => Nat.lt_of_not_le fun hle => hroom ⟨other, h, hle⟩
    have hbelow : longest (fieldNames ctx table) ≤ widest (fieldNames ctx table) - 1 := by
      rw [longest_le_iff, fieldNames, List.forall_mem_map]
      exact fun other h => Nat.le_sub_one_of_lt (hshort other h)
    have hsame := hall column hcolumn
    have hown := hshort column hcolumn
    have hlong := hchars column hcolumn
    omega
  · rintro (hnone | ⟨column, hcolumn, hlong⟩) other hother
    · rw [hnone] at hother
      cases hother
    · have hreached := hlong.trans (hchars column hcolumn)
      rw [le_antisymm hreached hlongest]

/-- In a struct with fields, one blank stands between some name and its type, and the names are
filled up to the characters of the longest, exactly if a name with the most bytes is ASCII. -/
theorem paddedTightly_iff (ctx : RenderContext) (table : Table) :
    (PaddedTightly ctx table ↔ ∃ column ∈ table.columns,
      isAscii (ctx.fieldName column.name) = true ∧ ∀ other ∈ table.columns,
        (ctx.fieldName other.name).utf8ByteSize ≤ (ctx.fieldName column.name).utf8ByteSize) ∧
    (PaddedToLongest ctx table ↔ table.columns = [] ∨ PaddedTightly ctx table) :=
  ⟨paddedTightly_iff_exists_ascii, paddedToLongest_iff⟩

/-- The only name has five characters and is filled up to its seven bytes. -/
theorem not_paddedTightly_of_accented_name :
    let ctx : RenderContext := ⟨"models", gonicIdentifier, gonicIdentifier, {}⟩
    let table : Table :=
      { name := "t", columns := [{ name := "größe", sqlType := { name := "INT" } }] }
    table.columns ≠ [] ∧ ctx.fieldName "größe" = "Größe" ∧ ¬ PaddedTightly ctx table ∧
      ¬ PaddedToLongest ctx table := by
  intro ctx table
  have hne : table.columns ≠ [] := List.cons_ne_nil _ _
  have hloose : ¬ PaddedTightly ctx table := by
    rw [paddedTightly_iff_exists_ascii]
    decide +kernel
  refine ⟨hne, by decide +kernel, hloose, ?_⟩
  rw [paddedToLongest_iff]
  exact not_or.mpr ⟨hne, hloose⟩

end StructGen
