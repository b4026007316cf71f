import StructGen.Proofs.TagTexts

namespace StructGen

/-- Whether a text is one raw string literal: it begins and ends with a backquote and has no
other. Such a literal has no escapes, so a backquote inside would end it early. -/
def IsRawLiteral (s : String) : Prop :=
  ∃ inside : String, s = "`" ++ inside ++ "`" ∧ '`' ∉ inside.toList

theorem isRawLiteral_iff {inside : String} :
    IsRawLiteral ("`" ++ inside ++ "`") ↔ '`' ∉ inside.toList := by
  constructor
  · rintro ⟨other, heq, hn⟩
    have hchars := congrArg String.toList heq
    simp only [String.toList_append] at hchars
    have hsame : inside.toList = other.toList :=
      List.append_cancel_left (List.append_cancel_right hchars)
    rwa [hsame]
  · exact fun hn => ⟨inside, rfl, hn⟩

theorem backquote_mem_tagInside {table : Table} {column : Column} {options : TagOptions} :
    '`' ∈ (tagInside table column options).toList ↔
      ∃ s ∈ tagTexts table column options, '`' ∈ s.toList :=
  mem_tagInside (by decide) (by decide) (by decide) (by decide)

/-- A tag is one raw string literal exactly when no text copied into it has a backquote. -/
theorem isRawLiteral_formatTag_iff (table : Table) (column : Column) (options : TagOptions) :
    IsRawLiteral (formatTag table column options) ↔
      ∀ s ∈ tagTexts table column options, '`' ∉ s.toList := by
  rw [formatTag_eq, isRawLiteral_iff, backquote_mem_tagInside]
  constructor
  · exact fun h s hs hm => h ⟨s, hs, hm⟩
  · rintro h ⟨s, hs, hm⟩
    exact h s hs hm

/-- A comment that quotes the name of another column ends the literal of its tag. -/
theorem not_isRawLiteral_quoting_comment :
    let column : Column := { name := "a", sqlType := { name := "INT" }, comment := "see `id`" }
    ¬ IsRawLiteral (formatTag { name := "t", columns := [column] } column { comment := true }) := by
  intro column h
  rw [formatTag_eq, isRawLiteral_iff, backquote_mem_tagInside] at h
  exact h ⟨"see `id`", by decide, by decide⟩

end StructGen
