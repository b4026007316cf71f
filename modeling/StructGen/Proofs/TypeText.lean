import StructGen.Proofs.TagTexts

namespace StructGen

/-- The options of a column: those of an enumeration if there are any, otherwise those of a set. -/
def optionSet (column : Column) : StringSet :=
  if column.enumOptions.isEmpty then column.setOptions else column.enumOptions

/-- Whether a text is some options in single quotes, with a comma between any two. -/
inductive QuotesOptions : List String → String → Prop
  | last (option : String) : QuotesOptions [option] ("'" ++ option ++ "'")
  | more (option : String) {options : List String} {text : String}
    (later : QuotesOptions options text) :
    QuotesOptions (option :: options) ("'" ++ option ++ "'," ++ text)

/-- Whether a text is what stands behind the name of a type for some options. -/
inductive OptionsText : List String → String → Prop
  | none : OptionsText [] ""
  | quoted {options : List String} {text : String} (h : QuotesOptions options text) :
    OptionsText options ("(" ++ text ++ ")")

/-- What stands behind the name of a type with a length, and perhaps a second one. -/
def lengthsText (length : UInt32) : Option UInt32 → String
  | none => "(" ++ toString length.toNat ++ ")"
  | some length2 => "(" ++ toString length.toNat ++ "," ++ toString length2.toNat ++ ")"

/-- Whether a column without a length shows some options behind the name of its type, each of its
options once and in ascending order. -/
structure ShowsOptions (column : Column) (options : List String) : Prop where
  written : ∃ text, typeSegment column = column.sqlType.name ++ text ∧ OptionsText options text
  ascending : options.Pairwise (· < ·)
  members : ∀ option, option ∈ options ↔ option ∈ optionSet column

/-- Whether nothing in the name of a type or in the options that are shown with it looks like the
parentheses and quotes around them. -/
structure IsReadableType (column : Column) : Prop where
  name : '(' ∉ column.sqlType.name.toList
  options : ∀ option ∈ shownOptions column, '\'' ∉ option.toList

/-- Whether two columns have the same lengths, or no length and the same options. -/
inductive SameArguments (column column' : Column) : Prop
  | lengths {length : UInt32} (h : column.sqlType.length = some length)
    (h' : column'.sqlType.length = some length)
    (same : column.sqlType.length2 = column'.sqlType.length2)
  | options (h : column.sqlType.length = none) (h' : column'.sqlType.length = none)
    (same : optionSet column = optionSet column')

/-- A first part whose members have a property that the next one has not can be split off. -/
theorem append_inj_of_head? {α : Type} {p : α → Prop} {xs ys rest rest' : List α}
    (hxs : ∀ x ∈ xs, p x) (hys : ∀ y ∈ ys, p y) (hrest : ∀ x ∈ rest.head?, ¬ p x)
    (hrest' : ∀ y ∈ rest'.head?, ¬ p y) (h : xs ++ rest = ys ++ rest') :
    xs = ys ∧ rest = rest' := by
  induction xs generalizing ys with
  | nil =>
    cases ys with
    | nil => exact ⟨rfl, h⟩
    | cons y ys =>
      rw [List.nil_append] at h
      exact absurd (hys y List.mem_cons_self) (hrest y (by simp [h]))
  | cons x xs ih =>
    cases ys with
    | nil =>
      rw [List.nil_append] at h
      exact absurd (hxs x List.mem_cons_self) (hrest' x (by simp [← h]))
    | cons y ys =>
      obtain ⟨rfl, htail⟩ := List.cons.inj h
      obtain ⟨rfl, hsame⟩ := ih (fun y hy => hxs y (List.mem_cons_of_mem x hy))
        (fun y hy => hys y (List.mem_cons_of_mem x hy)) htail
      exact ⟨rfl, hsame⟩

theorem toString_injective {m n : Nat} (h : (toString m).toList = (toString n).toList) : m = n := by
  rw [Nat.toString_eq_ofList_toDigits, Nat.toString_eq_ofList_toDigits, String.toList_ofList,
    String.toList_ofList] at h
  calc
    m = Nat.ofDigitChars 10 (Nat.toDigits 10 m) 0 := Nat.ofDigitChars_ten_toDigits.symm
    _ = Nat.ofDigitChars 10 (Nat.toDigits 10 n) 0 := by rw [h]
    _ = n := Nat.ofDigitChars_ten_toDigits

/-- What stands behind the first length of a type. -/
def lengthsEnd : Option UInt32 → List Char
  | none => [')']
  | some length2 => ',' :: ((toString length2.toNat).toList ++ [')'])

theorem toList_lengthsText (length : UInt32) (length2 : Option UInt32) :
    (lengthsText length length2).toList =
      '(' :: ((toString length.toNat).toList ++ lengthsEnd length2) := by
  cases length2 <;> simp [lengthsText, lengthsEnd]

theorem head?_lengthsEnd {length2 : Option UInt32} {c : Char}
    (hc : c ∈ (lengthsEnd length2).head?) : ¬ c.isDigit = true := by
  cases length2 with
  | none =>
    cases Option.some.inj hc
    decide
  | some length2 =>
    cases Option.some.inj hc
    decide

theorem lengthsEnd_injective {length2 length2' : Option UInt32}
    (h : lengthsEnd length2 = lengthsEnd length2') : length2 = length2' := by
  cases length2 with
  | none =>
    cases length2' with
    | none => rfl
    | some m => simp [lengthsEnd] at h
  | some n =>
    cases length2' with
    | none => simp [lengthsEnd] at h
    | some m =>
      have hdigits := List.append_cancel_right (List.cons.inj h).2
      rw [UInt32.toNat_inj.mp (toString_injective hdigits)]

theorem lengthsText_injective {length length' : UInt32} {length2 length2' : Option UInt32}
    (h : lengthsText length length2 = lengthsText length' length2') :
    length = length' ∧ length2 = length2' := by
  have hchars := congrArg String.toList h
  rw [toList_lengthsText, toList_lengthsText] at hchars
  obtain ⟨hdigits, hend⟩ := append_inj_of_head? (fun _ => isDigit_of_mem_toString)
    (fun _ => isDigit_of_mem_toString) (fun _ => head?_lengthsEnd) (fun _ => head?_lengthsEnd)
    (List.cons.inj hchars).2
  exact ⟨UInt32.toNat_inj.mp (toString_injective hdigits), lengthsEnd_injective hend⟩

/-- An option without a quote ends at the quote behind it. -/
theorem option_eq_of_quoted {option option' : String} {rest rest' : List Char}
    (hquote : '\'' ∉ option.toList) (hquote' : '\'' ∉ option'.toList)
    (h : '\'' :: (option.toList ++ '\'' :: rest) = '\'' :: (option'.toList ++ '\'' :: rest')) :
    option = option' ∧ rest = rest' := by
  obtain ⟨hoption, hrest⟩ := append_inj_of_head? (p := (· ≠ '\''))
    (fun c hc he => hquote (he ▸ hc)) (fun c hc he => hquote' (he ▸ hc)) (by simp) (by simp)
    (List.cons.inj h).2
  exact ⟨String.toList_inj.mp hoption, (List.cons.inj hrest).2⟩

/-- Options in quotes begin with the first of them, and the others follow behind a comma. -/
theorem QuotesOptions.exists_cons {options : List String} {text : String}
    (h : QuotesOptions options text) :
    ∃ option later rest, options = option :: later ∧
      text.toList = '\'' :: (option.toList ++ '\'' :: rest) ∧
      ((later = [] ∧ rest = []) ∨
        ∃ text', QuotesOptions later text' ∧ rest = ',' :: text'.toList) := by
  cases h with
  | last option => exact ⟨option, [], [], rfl, by simp, .inl ⟨rfl, rfl⟩⟩
  | @more option later text later' =>
    exact ⟨option, later, ',' :: text.toList, rfl, by simp, .inr ⟨text, later', rfl⟩⟩

theorem QuotesOptions.eq_of_text_eq {options options' : List String} {text text' : String}
    (h : QuotesOptions options text) (h' : QuotesOptions options' text')
    (hquote : ∀ option ∈ options, '\'' ∉ option.toList)
    (hquote' : ∀ option ∈ options', '\'' ∉ option.toList) (htext : text.toList = text'.toList) :
    options = options' := by
  induction options generalizing options' text text' with
  | nil => cases h
  | cons first others ih =>
    obtain ⟨option, later, rest, hoptions, hchars, hrest⟩ := h.exists_cons
    obtain ⟨option', later', rest', rfl, hchars', hrest'⟩ := h'.exists_cons
    obtain ⟨rfl, rfl⟩ := List.cons.inj hoptions
    obtain ⟨hfirst, hothers⟩ := List.forall_mem_cons.mp hquote
    obtain ⟨hfirst', hothers'⟩ := List.forall_mem_cons.mp hquote'
    obtain ⟨rfl, hsame⟩ := option_eq_of_quoted hfirst hfirst'
      (hchars.symm.trans (htext.trans hchars'))
    rcases hrest with ⟨rfl, rfl⟩ | ⟨text, hlater, rfl⟩
    · rcases hrest' with ⟨rfl, -⟩ | ⟨text', -, rfl⟩
      · rfl
      · cases hsame
    · rcases hrest' with ⟨-, rfl⟩ | ⟨text', hlater', rfl⟩
      · cases hsame
      · rw [ih hlater hlater' hothers hothers' (List.cons.inj hsame).2]

theorem OptionsText.eq_of_text_eq {options options' : List String} {text text' : String}
    (h : OptionsText options text) (h' : OptionsText options' text')
    (hquote : ∀ option ∈ options, '\'' ∉ option.toList)
    (hquote' : ∀ option ∈ options', '\'' ∉ option.toList) (htext : text.toList = text'.toList) :
    options = options' := by
  cases h with
  | none =>
    cases h' with
    | none => rfl
    | quoted => simp at htext
  | quoted hquoted =>
    cases h' with
    | none => simp at htext
    | quoted hquoted' =>
      simp only [String.toList_append] at htext
      have hinside := List.append_cancel_left (List.append_cancel_right htext)
      exact hquoted.eq_of_text_eq hquoted' hquote hquote' hinside

/-- Quotes are no digits, so options are not taken for lengths. -/
theorem OptionsText.ne_lengthsText {options : List String} {text : String}
    (h : OptionsText options text) (length : UInt32) (length2 : Option UInt32) :
    text ≠ lengthsText length length2 := by
  intro htext
  have hchars := congrArg String.toList htext
  rw [toList_lengthsText] at hchars
  cases h with
  | none => simp at hchars
  | quoted hquoted =>
    obtain ⟨option, later, rest, -, hoption, -⟩ := hquoted.exists_cons
    simp only [String.toList_append, hoption] at hchars
    have hinside : [] ++ ('\'' :: (option.toList ++ '\'' :: rest) ++ [')']) =
        (toString length.toNat).toList ++ lengthsEnd length2 := (List.cons.inj hchars).2
    obtain ⟨-, hend⟩ := append_inj_of_head? (fun c hc => absurd hc List.not_mem_nil)
      (fun _ => isDigit_of_mem_toString) (by simp) (fun _ => head?_lengthsEnd) hinside
    cases length2 <;> simp [lengthsEnd] at hend

theorem quotesOptions_intercalate {options : List String} (h : options ≠ []) :
    QuotesOptions options (",".intercalate (options.map fun option => "'" ++ option ++ "'")) := by
  induction options with
  | nil => exact absurd rfl h
  | cons option options ih =>
    cases options with
    | nil => exact .last option
    | cons next options =>
      have hmore := QuotesOptions.more option (ih (List.cons_ne_nil next options))
      have hcomma : "'" ++ option ++ "'" ++ "," = "'" ++ option ++ "'," := String.append_assoc
      rw [List.map_cons, List.map_cons, String.intercalate_cons_cons, hcomma]
      exact hmore

theorem optionsText_quotedOptions {options : StringSet} (h : options.isEmpty = false) :
    OptionsText options.toList (quotedOptions options) :=
  .quoted (quotesOptions_intercalate (List.isEmpty_eq_false_iff.mp h))

theorem optionsText_typeArguments {column : Column} (h : column.sqlType.length = none) :
    OptionsText (optionSet column).toList (typeArguments column) := by
  unfold typeArguments optionSet
  rw [h]
  cases henum : column.enumOptions.isEmpty with
  | false => exact optionsText_quotedOptions henum
  | true =>
    cases hset : column.setOptions.isEmpty with
    | false => exact optionsText_quotedOptions hset
    | true =>
      have hempty : column.setOptions.toList = [] := List.isEmpty_iff.mp hset
      simp only [if_true, Bool.not_true, Bool.false_eq_true, if_false, hempty]
      exact .none

theorem typeArguments_of_length {column : Column} {length : UInt32}
    (h : column.sqlType.length = some length) :
    typeArguments column = lengthsText length column.sqlType.length2 := by
  unfold typeArguments lengthsText
  rw [h]
  cases column.sqlType.length2 <;> rfl

theorem shownOptions_eq {column : Column} (h : column.sqlType.length = none) :
    shownOptions column = (optionSet column).toList := by
  unfold shownOptions optionSet
  rw [h]
  cases column.enumOptions.isEmpty <;> rfl

theorem OptionsText.head? {options : List String} {text : String} (h : OptionsText options text)
    {c : Char} (hc : c ∈ text.toList.head?) : c = '(' := by
  cases h with
  | none => simp at hc
  | quoted => simpa [eq_comm] using hc

theorem showsOptions_optionSet {column : Column} (h : column.sqlType.length = none) :
    ShowsOptions column (optionSet column).toList where
  written := ⟨typeArguments column, rfl, optionsText_typeArguments h⟩
  ascending := (optionSet column).ascending
  members := fun _ => .rfl

/-- The arguments of a type begin with a parenthesis, if there are any. -/
theorem head?_typeArguments {column : Column} {c : Char}
    (hc : c ∈ (typeArguments column).toList.head?) : c = '(' := by
  cases hlength : column.sqlType.length with
  | some length =>
    rw [typeArguments_of_length hlength, toList_lengthsText] at hc
    exact (Option.some.inj hc).symm
  | none => exact (optionsText_typeArguments hlength).head? hc

/-- Whether the columns have lengths or options, the arguments of their types tell these. -/
theorem sameArguments_of_typeArguments_eq {column column' : Column}
    (hquote : ∀ option ∈ shownOptions column, '\'' ∉ option.toList)
    (hquote' : ∀ option ∈ shownOptions column', '\'' ∉ option.toList)
    (h : typeArguments column = typeArguments column') : SameArguments column column' := by
  cases hlength : column.sqlType.length with
  | some length =>
    rw [typeArguments_of_length hlength] at h
    cases hlength' : column'.sqlType.length with
    | some length' =>
      rw [typeArguments_of_length hlength'] at h
      obtain ⟨rfl, hsame⟩ := lengthsText_injective h
      exact .lengths hlength hlength' hsame
    | none => exact absurd h.symm ((optionsText_typeArguments hlength').ne_lengthsText _ _)
  | none =>
    have hoptions := optionsText_typeArguments hlength
    cases hlength' : column'.sqlType.length with
    | some length' =>
      rw [typeArguments_of_length hlength'] at h
      exact absurd h (hoptions.ne_lengthsText _ _)
    | none =>
      rw [shownOptions_eq hlength] at hquote
      rw [shownOptions_eq hlength'] at hquote'
      have hlist := hoptions.eq_of_text_eq (optionsText_typeArguments hlength') hquote hquote'
        (congrArg String.toList h)
      refine .options hlength hlength' (StringSet.ext_mem fun option => ?_)
      show option ∈ (optionSet column).toList ↔ option ∈ (optionSet column').toList
      rw [hlist]

/-- The text of a type tells its name and its lengths or options, where the name has no parenthesis
and the options no quotes, and it shows all options in order. -/
theorem typeSegment_unambiguous (column column' : Column) :
    (column.sqlType.length = none → ∃ options, ShowsOptions column options) ∧
      (IsReadableType column → IsReadableType column' →
        typeSegment column = typeSegment column' →
          column.sqlType.name = column'.sqlType.name ∧ SameArguments column column') := by
  refine ⟨fun h => ⟨_, showsOptions_optionSet h⟩, fun h h' htext => ?_⟩
  have hchars := congrArg String.toList htext
  rw [typeSegment, typeSegment, String.toList_append, String.toList_append] at hchars
  obtain ⟨hname, harguments⟩ := append_inj_of_head? (p := (· ≠ '('))
    (fun c hc he => h.name (he ▸ hc)) (fun c hc he => h'.name (he ▸ hc))
    (fun _ hc => not_not_intro (head?_typeArguments hc))
    (fun _ hc => not_not_intro (head?_typeArguments hc)) hchars
  exact ⟨String.toList_inj.mp hname,
    sameArguments_of_typeArguments_eq h.options h'.options (String.toList_inj.mp harguments)⟩

/-- Options that look like lengths, and options with commas in them, are not confused. -/
theorem typeSegment_unambiguous_of_misleading_options :
    let column : Column :=
      { name := "a", sqlType := { name := "SET", length2 := some 2 },
        setOptions := .ofList ["10", "a,b", "c)"] }
    let column' : Column :=
      { name := "b", sqlType := { name := "SET" }, enumOptions := .ofList ["c)", "10", "a,b", "10"],
        setOptions := .ofList ["x"] }
    IsReadableType column ∧ IsReadableType column' ∧ typeSegment column = typeSegment column' ∧
      column.sqlType.name = column'.sqlType.name ∧ SameArguments column column' ∧
      ∃ options, ShowsOptions column options := by
  intro column column'
  have h : IsReadableType column := ⟨by decide, by decide⟩
  have h' : IsReadableType column' := ⟨by decide, by decide⟩
  have htext : typeSegment column = typeSegment column' := by decide +kernel
  obtain ⟨hshows, hsame⟩ := typeSegment_unambiguous column column'
  obtain ⟨hname, harguments⟩ := hsame h h' htext
  exact ⟨h, h', htext, hname, harguments, hshows rfl⟩

end StructGen
