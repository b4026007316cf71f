import Mathlib.Data.List.Forall2
import StructGen.Proofs.IndexEntries
import StructGen.Proofs.Registration

namespace StructGen

/-- A text with the number of characters that it has in a line at least. -/
structure Cell where
  width : Nat
  text : String

namespace Cell

/-- The number of characters that a cell takes in a line; a long text is not cut. -/
def size (cell : Cell) : Nat :=
  max cell.width cell.text.length

/-- Whether a segment is the whole text of a cell, and spaces behind it up to the cell's size. -/
structure FilledBy (cell : Cell) (segment : String) : Prop where
  whole : ∃ n, segment = cell.text ++ spaces n
  length : segment.length = cell.size

theorem filledBy_padRight (cell : Cell) : cell.FilledBy (padRight cell.width cell.text) :=
  ⟨⟨_, rfl⟩, length_padRight cell.width cell.text⟩

theorem size_eq_width {cell : Cell} (h : cell.text.length ≤ cell.width) : cell.size = cell.width :=
  Nat.max_eq_left h

/-- Whether a cell begins at a character of a line and ends with the line or before a space. -/
def BeginsAt (cell : Cell) (line : String) (start : Nat) : Prop :=
  ∃ before segment after, line = before ++ segment ++ after ∧ before.length = start ∧
    cell.FilledBy segment ∧ (after = "" ∨ ∃ rest, after = " " ++ rest)

end Cell

/-- Where the cell with some number begins, if cells of the given sizes stand one after the other
with a space between them. -/
def startOf : List Nat → Nat → Nat
  | _, 0 => 0
  | [], _ + 1 => 0
  | size :: sizes, i + 1 => size + 1 + startOf sizes i
termination_by structural _ i => i

theorem startOf_append (sizes sizes' : List Nat) (i : Nat) :
    startOf (sizes ++ sizes') (sizes.length + i) =
      startOf sizes sizes.length + startOf sizes' i := by
  induction sizes with
  | nil =>
    rw [List.nil_append, List.length_nil, Nat.zero_add, startOf, Nat.zero_add]
  | cons size sizes ih =>
    rw [List.cons_append, List.length_cons, Nat.add_right_comm, startOf, startOf, ih]
    omega

theorem startOf_replicate {n i : Nat} (size : Nat) (h : i ≤ n) :
    startOf (List.replicate n size) i = (size + 1) * i := by
  induction i generalizing n with
  | zero => rw [startOf, Nat.mul_zero]
  | succ i ih =>
    obtain ⟨m, rfl⟩ : ∃ m, n = m + 1 := ⟨n - 1, by omega⟩
    rw [List.replicate_succ, startOf, ih (Nat.le_of_succ_le_succ h), Nat.mul_succ, Nat.add_comm]

theorem intercalate_cons_eq (segment : String) (segments : List String) :
    ∃ after, " ".intercalate (segment :: segments) = segment ++ after ∧
      (after = "" ∨ ∃ rest, after = " " ++ rest) := by
  cases segments with
  | nil => exact ⟨"", by simp, .inl rfl⟩
  | cons next segments =>
    refine ⟨" " ++ " ".intercalate (next :: segments), ?_, .inr ⟨_, rfl⟩⟩
    rw [String.intercalate_cons_cons, String.append_assoc]

/-- Segments that are joined by spaces begin where the sizes of the cells before them say, whatever
follows. -/
theorem beginsAt_intercalate {cells : List Cell} {segments : List String}
    (h : List.Forall₂ Cell.FilledBy cells segments) (front : String) (rest : List String) {i : Nat}
    {cell : Cell} (hi : cells[i]? = some cell) :
    cell.BeginsAt (front ++ " ".intercalate (segments ++ rest))
      (front.length + startOf (cells.map Cell.size) i) := by
  induction h generalizing front i with
  | nil => simp at hi
  | @cons first segment cells segments hfirst htail ih =>
    cases i with
    | zero =>
      obtain rfl : first = cell := by simpa using hi
      obtain ⟨after, hafter, hend⟩ := intercalate_cons_eq segment (segments ++ rest)
      refine ⟨front, segment, after, ?_, rfl, hfirst, hend⟩
      rw [List.cons_append, hafter, String.append_assoc]
    | succ i =>
      have hi : cells[i]? = some cell := by simpa using hi
      -- A cell that comes later is a reason for a space before what is left.
      cases htail with
      | nil => simp at hi
      | @cons next segment' cells segments hnext htail =>
        have hline : front ++ " ".intercalate (segment :: segment' :: segments ++ rest) =
            (front ++ segment ++ " ") ++ " ".intercalate (segment' :: segments ++ rest) := by
          simp only [List.cons_append, String.intercalate_cons_cons, String.append_assoc]
        have hspace : " ".length = 1 := rfl
        have hstart : front.length + startOf ((first :: next :: cells).map Cell.size) (i + 1) =
            (front ++ segment ++ " ").length + startOf ((next :: cells).map Cell.size) i := by
          rw [List.map_cons, startOf, String.length_append, String.length_append, hfirst.length,
            hspace]
          omega
        rw [hline, hstart]
        exact ih (front ++ segment ++ " ") hi

theorem length_intercalate_add_one {segments : List String} (h : segments ≠ []) :
    (" ".intercalate segments).length + 1 =
      startOf (segments.map String.length) segments.length := by
  induction segments with
  | nil => exact absurd rfl h
  | cons segment segments ih =>
    have hspace : " ".length = 1 := rfl
    cases segments with
    | nil => simp [startOf]
    | cons next segments =>
      have hnext := ih (List.cons_ne_nil _ _)
      have hstart : startOf ((segment :: next :: segments).map String.length)
          (segments.length + 2) = segment.length + 1 +
            startOf ((next :: segments).map String.length) (segments.length + 1) := rfl
      rw [String.intercalate_cons_cons, String.length_append, String.length_append, hspace,
        List.length_cons, List.length_cons, hstart, ← List.length_cons, ← hnext]
      omega

/-- The cells of a mapping that every column has. -/
def fixedCells (column : Column) : List Cell :=
  [⟨20, typeSegment column⟩, ⟨4, marker column.primaryKey "pk"⟩,
   ⟨10, marker column.autoIncrement "autoincr"⟩, ⟨10, marker column.isVersion "version"⟩,
   ⟨10, marker (!column.nullable && !column.primaryKey) "not null"⟩, ⟨20, defaultSegment column⟩,
   ⟨10, marker column.created "created"⟩, ⟨10, marker column.updated "updated"⟩]

/-- The cells for some entries for indexes; a blank one stands in place of none. -/
def indexCells : List String → List Cell
  | [] => [⟨20, " "⟩]
  | entry :: entries => (entry :: entries).map (⟨20, ·⟩)

def mappingCells (table : Table) (column : Column) : List Cell :=
  fixedCells column ++ indexCells (indexSegments table column)

/-- Whether each segment but the one for the comment is a whole text with its spaces, however long
the text is. -/
def SegmentsWhole (table : Table) (column : Column) (options : TagOptions) : Prop :=
  ∃ segments inline, mappingSegments table column options = segments ++ inline ∧
    List.Forall₂ Cell.FilledBy (mappingCells table column) segments ∧
    InlineFor column options inline

/-- Where the parts of a mapping begin, whatever its column is. -/
structure LinesUp (table : Table) (column : Column) (line : String) : Prop where
  type : Cell.BeginsAt ⟨20, typeSegment column⟩ line 0
  primaryKey : Cell.BeginsAt ⟨4, marker column.primaryKey "pk"⟩ line 21
  autoIncrement : Cell.BeginsAt ⟨10, marker column.autoIncrement "autoincr"⟩ line 26
  version : Cell.BeginsAt ⟨10, marker column.isVersion "version"⟩ line 37
  notNull : Cell.BeginsAt ⟨10, marker (!column.nullable && !column.primaryKey) "not null"⟩ line 48
  default : Cell.BeginsAt ⟨20, defaultSegment column⟩ line 59
  created : Cell.BeginsAt ⟨10, marker column.created "created"⟩ line 80
  updated : Cell.BeginsAt ⟨10, marker column.updated "updated"⟩ line 91
  firstIndex : Cell.BeginsAt ⟨20, (indexSegments table column).headD " "⟩ line 102

/-- Where the entries for indexes begin, and how long a mapping is that ends with them. -/
structure EntriesLineUp (table : Table) (column : Column) (options : TagOptions) : Prop where
  begins : ∀ i entry, (indexSegments table column)[i]? = some entry →
    Cell.BeginsAt ⟨20, entry⟩ (mappingText table column options) (102 + 21 * i)
  length : ¬ (options.inlineComment = true ∧ column.comment ≠ "") →
    (mappingText table column options).length =
      101 + 21 * max 1 (indexSegments table column).length

theorem forall₂_filledBy (cells : List Cell) :
    List.Forall₂ Cell.FilledBy cells (cells.map fun cell => padRight cell.width cell.text) := by
  rw [List.forall₂_map_right_iff, List.forall₂_same]
  exact fun cell _ => cell.filledBy_padRight

theorem padded_indexCells (entries : List String) :
    (if entries.isEmpty then [" "] else entries).map (padRight 20) =
      (indexCells entries).map fun cell => padRight cell.width cell.text := by
  cases entries with
  | nil => rfl
  | cons entry entries => simp [indexCells]

theorem segmentsWhole_mapping (table : Table) (column : Column) (options : TagOptions) :
    SegmentsWhole table column options := by
  refine ⟨_, _, ?_, forall₂_filledBy (mappingCells table column), inlineFor_column column options⟩
  rw [mappingCells, List.map_append, ← padded_indexCells]
  rfl

theorem beginsAt_mappingText (table : Table) (column : Column) (options : TagOptions) {i : Nat}
    {cell : Cell} (hi : (mappingCells table column)[i]? = some cell) :
    cell.BeginsAt (mappingText table column options)
      (startOf ((mappingCells table column).map Cell.size) i) := by
  obtain ⟨segments, inline, hsegments, hfilled, -⟩ := segmentsWhole_mapping table column options
  have hbegins := beginsAt_intercalate hfilled "" inline hi
  rwa [String.empty_append, String.length_empty, Nat.zero_add, ← hsegments] at hbegins

theorem size_marker {word : String} {width : Nat} (hword : word.length ≤ width)
    (hwidth : " ".length ≤ width) (set : Bool) : Cell.size ⟨width, marker set word⟩ = width := by
  apply Cell.size_eq_width
  cases set with
  | true => exact hword
  | false => exact hwidth

theorem sizes_fixedCells {column : Column} (htype : (typeSegment column).length ≤ 20)
    (hdefault : (defaultSegment column).length ≤ 20) :
    (fixedCells column).map Cell.size = [20, 4, 10, 10, 10, 20, 10, 10] := by
  have htype : Cell.size ⟨20, typeSegment column⟩ = 20 := Cell.size_eq_width htype
  have hdefault : Cell.size ⟨20, defaultSegment column⟩ = 20 := Cell.size_eq_width hdefault
  have hpk : " ".length ≤ 4 := by decide
  have hflag : " ".length ≤ 10 := by decide
  simp (disch := decide) only [fixedCells, List.map_cons, List.map_nil, htype, hdefault,
    size_marker _ hpk, size_marker _ hflag]

theorem length_indexCells (entries : List String) :
    (indexCells entries).length = max 1 entries.length := by
  cases entries with
  | nil => rfl
  | cons entry entries =>
    rw [indexCells, List.length_map, List.length_cons]
    omega

theorem sizes_indexCells {entries : List String} (h : ∀ entry ∈ entries, entry.length ≤ 20) :
    (indexCells entries).map Cell.size = List.replicate (max 1 entries.length) 20 := by
  rw [← length_indexCells, ← List.map_const', List.map_inj_left]
  intro cell hcell
  cases entries with
  | nil =>
    obtain rfl : cell = ⟨20, " "⟩ := List.mem_singleton.mp hcell
    rfl
  | cons entry entries =>
    obtain ⟨text, htext, rfl⟩ := List.mem_map.mp hcell
    exact Cell.size_eq_width (h text htext)

theorem getElem?_indexCells {entries : List String} {i : Nat} {entry : String}
    (h : entries[i]? = some entry) : (indexCells entries)[i]? = some ⟨20, entry⟩ := by
  cases entries with
  | nil => simp at h
  | cons first entries => rw [indexCells, List.getElem?_map, h, Option.map_some]

theorem getElem?_mappingCells (table : Table) (column : Column) (i : Nat) :
    (mappingCells table column)[8 + i]? = (indexCells (indexSegments table column))[i]? := by
  rw [Nat.add_comm]
  rfl

/-- Without a comment a mapping has its cells and nothing else. -/
theorem forall₂_filledBy_mappingSegments (table : Table) {column : Column} {options : TagOptions}
    (h : ¬ (options.inlineComment = true ∧ column.comment ≠ "")) :
    List.Forall₂ Cell.FilledBy (mappingCells table column)
      (mappingSegments table column options) := by
  obtain ⟨segments, inline, hsegments, hfilled, hinline⟩ :=
    segmentsWhole_mapping table column options
  cases hinline with
  | leftOut => rwa [hsegments, List.append_nil]
  | written asked any => exact absurd ⟨asked, any⟩ h

section ShortTexts

variable {table : Table} {column : Column} (htype : (typeSegment column).length ≤ 20)
  (hdefault : (defaultSegment column).length ≤ 20)

include htype hdefault

theorem sizes_mappingCells :
    (mappingCells table column).map Cell.size = [20, 4, 10, 10, 10, 20, 10, 10] ++
      (indexCells (indexSegments table column)).map Cell.size := by
  rw [mappingCells, List.map_append, sizes_fixedCells htype hdefault]

/-- The cells of a column with short texts begin where the widths say. -/
theorem linesUp_mappingText (options : TagOptions) :
    LinesUp table column (mappingText table column options) := by
  have hbegins : ∀ {i : Nat} {cell : Cell}, (mappingCells table column)[i]? = some cell →
      cell.BeginsAt (mappingText table column options) (startOf ([20, 4, 10, 10, 10, 20, 10, 10] ++
        (indexCells (indexSegments table column)).map Cell.size) i) := by
    intro i cell hi
    rw [← sizes_mappingCells htype hdefault]
    exact beginsAt_mappingText table column options hi
  have hfirst : (mappingCells table column)[8]? =
      some ⟨20, (indexSegments table column).headD " "⟩ := by
    show (indexCells (indexSegments table column))[0]? = _
    cases indexSegments table column <;> rfl
  exact
    { type := hbegins (i := 0) rfl
      primaryKey := hbegins (i := 1) rfl
      autoIncrement := hbegins (i := 2) rfl
      version := hbegins (i := 3) rfl
      notNull := hbegins (i := 4) rfl
      default := hbegins (i := 5) rfl
      created := hbegins (i := 6) rfl
      updated := hbegins (i := 7) rfl
      firstIndex := hbegins hfirst }

theorem startOf_indexCell (hentries : ∀ entry ∈ indexSegments table column, entry.length ≤ 20)
    {i : Nat} (hi : i ≤ (indexCells (indexSegments table column)).length) :
    startOf ((mappingCells table column).map Cell.size) (8 + i) = 102 + 21 * i := by
  rw [length_indexCells] at hi
  have hstart := startOf_append [20, 4, 10, 10, 10, 20, 10, 10]
    (List.replicate (max 1 (indexSegments table column).length) 20) i
  rw [startOf_replicate 20 hi] at hstart
  rw [sizes_mappingCells htype hdefault, sizes_indexCells hentries]
  exact hstart

theorem entriesLineUp_mapping
    (hentries : ∀ entry ∈ indexSegments table column, entry.length ≤ 20) (options : TagOptions) :
    EntriesLineUp table column options where
  begins := by
    intro i entry hi
    obtain ⟨hlt, -⟩ := List.getElem?_eq_some_iff.mp hi
    have hbound : i ≤ (indexCells (indexSegments table column)).length := by
      rw [length_indexCells]
      omega
    have hcell : (mappingCells table column)[8 + i]? = some ⟨20, entry⟩ := by
      rw [getElem?_mappingCells, getElem?_indexCells hi]
    rw [← startOf_indexCell htype hdefault hentries hbound]
    exact beginsAt_mappingText table column options hcell
  length := by
    intro hcomment
    have hfilled := forall₂_filledBy_mappingSegments table hcomment
    have hsizes := map_eq_of_forall₂ (fun _ _ h => h.length.symm) hfilled
    have hcount : (mappingSegments table column options).length =
        8 + (indexCells (indexSegments table column)).length := by
      rw [← hfilled.length_eq, mappingCells, List.length_append]
      rfl
    have hlength := length_intercalate_add_one (mappingSegments_ne_nil table column options)
    rw [← hsizes, hcount, startOf_indexCell htype hdefault hentries le_rfl,
      length_indexCells] at hlength
    rw [mappingText]
    omega

end ShortTexts

/-- The parts of a mapping begin at the same characters for every column whose type and default are
short, and the entries for indexes too if they are short, and no text is cut at any length. -/
theorem segments_line_up (table : Table) (column : Column) (options : TagOptions) :
    SegmentsWhole table column options ∧
      ((typeSegment column).length ≤ 20 → (defaultSegment column).length ≤ 20 →
        LinesUp table column (mappingText table column options) ∧
        ((∀ entry ∈ indexSegments table column, entry.length ≤ 20) →
          EntriesLineUp table column options)) :=
  ⟨segmentsWhole_mapping table column options, fun htype hdefault =>
    ⟨linesUp_mappingText htype hdefault options,
      fun hentries => entriesLineUp_mapping htype hdefault hentries options⟩⟩

/-- Widths are counted in characters, so letters of several bytes shift nothing. -/
theorem segments_line_up_of_accented_texts :
    let column : Column :=
      { name := "größe", sqlType := { name := "ENUM" }, enumOptions := .ofList ["groß", "kühl"],
        defaultLiteral := "'groß'", nullable := false, comment := "Maß",
        indexes := .ofList ["a", "b"] }
    let composite : Index := { name := "nach_größe", columns := ["größe", "id"] }
    let single : Index := { name := "b", kind := .unique, columns := ["größe"] }
    let table : Table :=
      { name := "t", indexes := (Dict.empty.insert "a" composite).insert "b" single }
    let options : TagOptions := { json := true }
    (typeSegment column).length ≤ 20 ∧ (defaultSegment column).length ≤ 20 ∧
      (∀ entry ∈ indexSegments table column, entry.length ≤ 20) ∧
      LinesUp table column (mappingText table column options) ∧
      EntriesLineUp table column options := by
  intro column composite single table options
  have htype : (typeSegment column).length ≤ 20 := by decide +kernel
  have hdefault : (defaultSegment column).length ≤ 20 := by decide +kernel
  have hentries : ∀ entry ∈ indexSegments table column, entry.length ≤ 20 := by decide +kernel
  obtain ⟨-, h⟩ := segments_line_up table column options
  exact ⟨htype, hdefault, hentries, (h htype hdefault).1, (h htype hdefault).2 hentries⟩

end StructGen
