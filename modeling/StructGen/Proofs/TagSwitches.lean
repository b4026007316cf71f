import StructGen.Proofs.TagTexts

namespace StructGen

/-- The parts of a tag that can be left out, each with a switch of its own. -/
inductive TagSwitch
  | json
  | comment
  | inlineComment
  deriving DecidableEq

namespace TagOptions

def isOn (options : TagOptions) : TagSwitch → Bool
  | .json => options.json
  | .comment => options.comment
  | .inlineComment => options.inlineComment

def turned (options : TagOptions) (on : Bool) : TagSwitch → TagOptions
  | .json => { options with json := on }
  | .comment => { options with comment := on }
  | .inlineComment => { options with inlineComment := on }

def switchesOn (options : TagOptions) : List TagSwitch :=
  [.json, .comment, .inlineComment].filter options.isOn

end TagOptions

/-- The pair for the name of a column, with the spaces up to what follows. -/
def jsonText (column : Column) : String :=
  "json:\"" ++ column.name ++ "\"" ++ spaces 3

/-- The pair for the comment of a column, with the spaces behind what comes before. -/
def commentText (column : Column) : String :=
  spaces 3 ++ "comment:\"" ++ column.comment ++ "\""

/-- Whether a text is what the inline comment of a column adds to a mapping: a space and a segment
that is filled up before the comment, or nothing if there is no comment. -/
inductive InlineAdds (column : Column) : String → Prop
  | nothing (h : column.comment = "") : InlineAdds column ""
  | segment (h : column.comment ≠ "") {n : Nat} {segment : String}
    (text : segment = spaces n ++ "comment('" ++ column.comment ++ "')")
    (wide : 20 ≤ segment.length) : InlineAdds column (" " ++ segment)

/-- A tag taken apart around its mapping. -/
structure TagView where
  front : String
  mapping : String
  back : String

namespace TagView

def text (view : TagView) : String :=
  "`" ++ view.front ++ "xorm:\"" ++ view.mapping ++ "\"" ++ view.back ++ "`"

/-- A tag after a switch has been turned on: each of the switches adds at a place of its own. -/
def switchOn (column : Column) (inline : String) (view : TagView) : TagSwitch → TagView
  | .json => { view with front := jsonText column ++ view.front }
  | .comment => { view with back := view.back ++ commentText column }
  | .inlineComment => { view with mapping := view.mapping ++ inline }

theorem switchOn_comm (column : Column) (inline : String) (view : TagView) (s t : TagSwitch) :
    (view.switchOn column inline s).switchOn column inline t =
      (view.switchOn column inline t).switchOn column inline s := by
  cases s <;> cases t <;> rfl

end TagView

/-- Whether each switch of a tag has its own effect, whatever the other two are. -/
structure SwitchesApart (table : Table) (column : Column) (inline : String) : Prop where
  json : ∀ options : TagOptions, ∃ inside,
    formatTag table column (options.turned false .json) = "`" ++ inside ++ "`" ∧
    formatTag table column (options.turned true .json) = "`" ++ (jsonText column ++ inside) ++ "`"
  comment : ∀ options : TagOptions, ∃ inside,
    formatTag table column (options.turned false .comment) = "`" ++ inside ++ "`" ∧
    formatTag table column (options.turned true .comment) =
      "`" ++ (inside ++ commentText column) ++ "`"
  sameMapping : ∀ (options : TagOptions) (on : Bool),
    mappingText table column (options.turned on .json) = mappingText table column options ∧
    mappingText table column (options.turned on .comment) = mappingText table column options
  inlineComment : ∀ options : TagOptions, ∃ front back, ∀ on,
    formatTag table column (options.turned on .inlineComment) = TagView.text
      ⟨front, mappingText table column (options.turned on .inlineComment), back⟩
  longerMapping : ∀ options : TagOptions,
    mappingText table column (options.turned true .inlineComment) =
      mappingText table column (options.turned false .inlineComment) ++ inline
  anyOrder : ∀ (options : TagOptions) (order : List TagSwitch), order.Perm options.switchesOn →
    formatTag table column options = (order.foldl (TagView.switchOn column inline)
      ⟨"", mappingText table column {}, ""⟩).text
  written : ∀ options, formatTag table column options ≠ ""

def tagView (table : Table) (column : Column) (options : TagOptions) : TagView where
  front := if options.json then jsonText column else ""
  mapping := mappingText table column options
  back := if options.comment then commentText column else ""

theorem formatTag_eq_text (table : Table) (column : Column) (options : TagOptions) :
    formatTag table column options = (tagView table column options).text := by
  apply String.toList_inj.mp
  rw [formatTag_of_parts, tagParts_eq]
  unfold tagView TagView.text jsonText commentText spaces
  cases options.json <;> cases options.comment <;>
    simp [String.intercalate_cons_cons, List.replicate_succ]

/-- What the inline comment of a column adds to its mapping. -/
def inlineText (column : Column) : String :=
  if column.comment.isEmpty then ""
  else " " ++ padLeft 20 ("      comment('" ++ column.comment ++ "')")

theorem inlineAdds_inlineText (column : Column) : InlineAdds column (inlineText column) := by
  unfold inlineText
  split
  next h => exact .nothing (String.isEmpty_iff.mp h)
  next h =>
    have htext : padLeft 20 ("      comment('" ++ column.comment ++ "')") =
        spaces (20 - ("      comment('" ++ column.comment ++ "')").length + 6) ++
          "comment('" ++ column.comment ++ "')" :=
      String.toList_inj.mp (by simp [padLeft, spaces, ← List.replicate_append_replicate])
    refine .segment (fun he => h (String.isEmpty_iff.mpr he)) htext ?_
    rw [length_padLeft]
    exact Nat.le_max_left _ _

/-- The mapping of a column depends on no option but the one for the inline comment. -/
theorem mappingText_eq (table : Table) (column : Column) (options : TagOptions) :
    mappingText table column options =
      mappingText table column {} ++ (if options.inlineComment then inlineText column else "") := by
  have hsegments : mappingSegments table column options = mappingSegments table column {} ++
      (if options.inlineComment && !column.comment.isEmpty then
        [padLeft 20 ("      comment('" ++ column.comment ++ "')")] else []) := by
    simp only [mappingSegments, Bool.false_and, Bool.false_eq_true, if_false, List.append_nil]
  rw [mappingText, mappingText, hsegments, inlineText]
  cases options.inlineComment with
  | false => simp
  | true =>
    cases column.comment.isEmpty with
    | true => simp
    | false =>
      have hne := mappingSegments_ne_nil table column {}
      simp only [Bool.not_false, Bool.and_self, if_true, Bool.false_eq_true, if_false]
      rw [String.intercalate_append_of_ne_nil hne (List.cons_ne_nil _ _),
        String.intercalate_singleton, String.append_assoc]

theorem mappingText_turned_json (table : Table) (column : Column) (options : TagOptions)
    (on : Bool) :
    mappingText table column (options.turned on .json) = mappingText table column options := by
  rw [mappingText_eq, mappingText_eq table column options]
  rfl

theorem mappingText_turned_comment (table : Table) (column : Column) (options : TagOptions)
    (on : Bool) :
    mappingText table column (options.turned on .comment) = mappingText table column options := by
  rw [mappingText_eq, mappingText_eq table column options]
  rfl

theorem formatTag_turned_json (table : Table) (column : Column) (options : TagOptions) (on : Bool) :
    formatTag table column (options.turned on .json) =
      "`" ++ ((if on then jsonText column else "") ++
        ("xorm:\"" ++ mappingText table column options ++ "\"" ++
          (tagView table column options).back)) ++ "`" := by
  rw [formatTag_eq_text, TagView.text, tagView, mappingText_turned_json]
  simp only [String.append_assoc]
  rfl

theorem formatTag_turned_comment (table : Table) (column : Column) (options : TagOptions)
    (on : Bool) :
    formatTag table column (options.turned on .comment) =
      "`" ++ ((tagView table column options).front ++ "xorm:\"" ++
        mappingText table column options ++ "\"" ++
          (if on then commentText column else "")) ++ "`" := by
  rw [formatTag_eq_text, TagView.text, tagView, mappingText_turned_comment]
  simp only [String.append_assoc]
  rfl

/-- The switches that are on, turned on one after the other, lead to the tag. -/
theorem foldl_switchesOn (table : Table) (column : Column) (options : TagOptions) :
    options.switchesOn.foldl (TagView.switchOn column (inlineText column))
      ⟨"", mappingText table column {}, ""⟩ = tagView table column options := by
  rw [tagView, mappingText_eq table column options]
  obtain ⟨json, comment, inlineComment⟩ := options
  cases json <;> cases comment <;> cases inlineComment <;>
    simp [TagOptions.switchesOn, TagOptions.isOn, TagView.switchOn, List.filter_cons]

theorem switchesApart_inlineText (table : Table) (column : Column) :
    SwitchesApart table column (inlineText column) where
  json := by
    intro options
    have hjson := formatTag_turned_json table column options
    exact ⟨_, hjson false, by rw [hjson]; simp⟩
  comment := by
    intro options
    have hcomment := formatTag_turned_comment table column options
    exact ⟨_, hcomment false, by rw [hcomment]; simp⟩
  sameMapping := fun options on => ⟨mappingText_turned_json table column options on,
    mappingText_turned_comment table column options on⟩
  inlineComment := fun options => ⟨(tagView table column options).front,
    (tagView table column options).back, fun on => formatTag_eq_text _ _ _⟩
  longerMapping := by
    intro options
    rw [mappingText_eq, mappingText_eq table column (options.turned false .inlineComment)]
    simp [TagOptions.turned]
  anyOrder := by
    intro options order h
    have hcomm : ∀ s ∈ order, ∀ t ∈ order, ∀ view : TagView, _ :=
      fun s _ t _ view => TagView.switchOn_comm column (inlineText column) view s t
    rw [h.foldl_eq' hcomm, foldl_switchesOn, formatTag_eq_text]
  written := formatTag_ne_empty table column

/-- The three switches of a tag have nothing to do with each other, and no tag is empty. -/
theorem switches_apart (table : Table) (column : Column) :
    ∃ inline, InlineAdds column inline ∧ SwitchesApart table column inline :=
  ⟨inlineText column, inlineAdds_inlineText column, switchesApart_inlineText table column⟩

end StructGen
