import StructGen.Arguments

namespace StructGen

namespace Switch

def longName : Switch → String
  | json => "json"
  | comment => "comment"
  | verbose => "verbose"
  | version => "version"
  | help => "help"

def letter? : Switch → Option Char
  | json | comment => none
  | verbose => some 'v'
  | version => some 'V'
  | help => some 'h'

end Switch

namespace Setting

def longName : Setting → String
  | schema => "schema"
  | outputDir => "output-dir"
  | package => "package"
  | dialect => "dialect"
  | nameStyle => "mapper"
  | tableStart => "prefix"
  | singleFile => "single-file"

def letter? : Setting → Option Char
  | schema => some 's'
  | outputDir => some 'o'
  | package => some 'p'
  | dialect => some 'd'
  | nameStyle => some 'm'
  | tableStart | singleFile => none

end Setting

/-- An option as it is given: a switch, or a setting with the text of its value. -/
inductive GivenOption where
  | switch (s : Switch)
  | setting (s : Setting) (value : String)
  deriving DecidableEq

/-- What a word with letters starts with, and the options given there: one that has no value may
stand before the letter of a setting. -/
inductive LettersStart : List GivenOption → String → Prop
  | alone : LettersStart [] "-"
  | behindVerbose : LettersStart [.switch .verbose] "-v"

/-- The words for one option, or for two of which the first is a letter in the word of the other. -/
inductive OptionSpelled : List GivenOption → List String → Prop
  | longSwitch (s : Switch) : OptionSpelled [.switch s] ["--" ++ s.longName]
  | shortSwitch {s : Switch} {c : Char} (hletter : s.letter? = some c) :
    OptionSpelled [.switch s] ["-".push c]
  | long (s : Setting) (value : String) :
    OptionSpelled [.setting s value] ["--" ++ s.longName, value]
  | longEquals (s : Setting) (value : String) :
    OptionSpelled [.setting s value] ["--" ++ s.longName ++ "=" ++ value]
  | short {before : List GivenOption} {start : String} {s : Setting} {c : Char}
    (hstart : LettersStart before start) (hletter : s.letter? = some c) (value : String) :
    OptionSpelled (before ++ [.setting s value]) [start.push c, value]
  | shortAttached {before : List GivenOption} {start : String} {s : Setting} {c : Char}
    (hstart : LettersStart before start) (hletter : s.letter? = some c) (value : String) :
    OptionSpelled (before ++ [.setting s value]) [start.push c ++ value]
  | shortEquals {before : List GivenOption} {start : String} {s : Setting} {c : Char}
    (hstart : LettersStart before start) (hletter : s.letter? = some c) (value : String) :
    OptionSpelled (before ++ [.setting s value]) [start.push c ++ "=" ++ value]

/-- The words for some options in their order. -/
inductive Spelled : List GivenOption → List String → Prop
  | nil : Spelled [] []
  | append {options given : List GivenOption} {words rest : List String}
    (hoption : OptionSpelled options words) (hrest : Spelled given rest) :
    Spelled (options ++ given) (words ++ rest)

/-- Whether a value can stand on its own and behind a letter: it has a first character, which is
neither a hyphen nor an equals sign. -/
def IsPlainValue (value : String) : Prop :=
  ∃ c cs, value.toList = c :: cs ∧ c ≠ '-' ∧ c ≠ '='

namespace Arguments

def accept (args : Arguments) : GivenOption → Except Stop Arguments
  | .switch s => args.turnOn s
  | .setting s value => args.give value s

end Arguments

theorem Switch.ofLongName?_longName (s : Switch) :
    CliOption.ofLongName? s.longName = some (.switch s) := by
  cases s <;> rfl

theorem Setting.ofLongName?_longName (s : Setting) :
    CliOption.ofLongName? s.longName = some (.setting s) := by
  cases s <;> rfl

theorem Switch.ofLetter?_of_letter? {s : Switch} {c : Char} (h : s.letter? = some c) :
    CliOption.ofLetter? c = some (.switch s) := by
  cases s <;> cases h <;> rfl

theorem Setting.ofLetter?_of_letter? {s : Setting} {c : Char} (h : s.letter? = some c) :
    CliOption.ofLetter? c = some (.setting s) := by
  cases s <;> cases h <;> rfl

theorem Switch.longName_toList (s : Switch) :
    s.longName.toList ≠ [] ∧ '=' ∉ s.longName.toList := by
  cases s <;> decide

theorem Setting.longName_toList (s : Setting) :
    s.longName.toList ≠ [] ∧ '=' ∉ s.longName.toList := by
  cases s <;> decide

theorem Setting.ne_hyphen_of_letter? {s : Setting} {c : Char} (h : s.letter? = some c) :
    c ≠ '-' := by
  cases s <;> cases h <;> decide

theorem Switch.ne_hyphen_of_letter? {s : Switch} {c : Char} (h : s.letter? = some c) :
    c ≠ '-' := by
  cases s <;> cases h <;> decide

namespace Arguments

variable {args : Arguments}

theorem foldlM_accept_singleton (o : GivenOption) : [o].foldlM accept args = args.accept o := by
  rw [List.foldlM_cons]
  exact bind_pure _

/-! ### Words -/

theorem isOptionWord_eq_false {value : String} (h : IsPlainValue value) :
    isOptionWord value = false := by
  obtain ⟨c, cs, hvalue, hhyphen, _⟩ := h
  unfold isOptionWord
  rw [hvalue]
  split
  next heq => exact absurd (List.cons.inj heq).1 hhyphen
  next => rfl

theorem readWord_of_hyphens {word : String} {text : List Char}
    (h : word.toList = '-' :: '-' :: text) : args.readWord word = args.readLong text := by
  unfold readWord
  rw [h]
  rfl

theorem readWord_of_letters {word : String} {c : Char} {cs : List Char}
    (h : word.toList = '-' :: c :: cs) (hc : c ≠ '-') :
    args.readWord word = args.readLetters (c :: cs) := by
  unfold readWord
  rw [h]
  split
  next heq => simp [hc] at heq
  next heq =>
    cases heq
    rfl
  next hother => exact absurd rfl (hother c cs)

theorem ne_hyphens {word : String} {cs : List Char} (h : word.toList = '-' :: cs)
    (hcs : cs ≠ ['-']) : word ≠ "--" := by
  rintro rfl
  exact hcs (List.cons.inj h).2.symm

theorem readWords_of_done {word : String} {options : List GivenOption} (hne : word ≠ "--")
    (hword : args.readWord word = .done <$> options.foldlM accept args) (rest : List String) :
    args.readWords (word :: rest) =
      options.foldlM accept args >>= fun next => next.readWords rest := by
  rw [readWords, if_neg hne, hword]
  cases options.foldlM accept args <;> rfl

theorem readWords_of_wants {word value : String} {s : Setting} {before : List GivenOption}
    (hne : word ≠ "--")
    (hword : args.readWord word = (fun next => .wants next s) <$> before.foldlM accept args)
    (hvalue : isOptionWord value = false) (rest : List String) :
    args.readWords (word :: value :: rest) =
      (before ++ [GivenOption.setting s value]).foldlM accept args >>=
        fun next => next.readWords rest := by
  rw [readWords, if_neg hne, hword, List.foldlM_append, bind_assoc]
  cases before.foldlM accept args with
  | error stop => rfl
  | ok next =>
    show (if isOptionWord value then _ else _) = _
    rw [hvalue]
    show _ = [GivenOption.setting s value].foldlM accept next >>= _
    rw [foldlM_accept_singleton, accept]
    cases next.give value s <;> rfl

/-! ### Long names -/

/-- A text without equals signs ends where one follows, or at the end. -/
theorem split_at_equals {name : List Char} (hname : '=' ∉ name) (rest : List Char)
    (hrest : ∀ c ∈ rest.head?, c = '=') :
    (name ++ rest).takeWhile (· != '=') = name ∧ (name ++ rest).dropWhile (· != '=') = rest := by
  have hall : ∀ c ∈ name, (c != '=') = true := by
    intro c hc
    rw [bne_iff_ne]
    rintro rfl
    exact hname hc
  rw [List.takeWhile_append_of_pos hall, List.dropWhile_append_of_pos hall]
  cases rest with
  | nil => simp
  | cons c cs =>
    have hc : c = '=' := hrest c rfl
    simp [hc]

theorem readLong_of_switch (s : Switch) :
    args.readLong s.longName.toList = .done <$> args.turnOn s := by
  obtain ⟨htake, hdrop⟩ := split_at_equals s.longName_toList.2 [] (by simp)
  rw [List.append_nil] at htake hdrop
  simp only [readLong, htake, hdrop, String.ofList_toList, s.ofLongName?_longName]

theorem readLong_of_setting (s : Setting) :
    args.readLong s.longName.toList = .ok (.wants args s) := by
  obtain ⟨htake, hdrop⟩ := split_at_equals s.longName_toList.2 [] (by simp)
  rw [List.append_nil] at htake hdrop
  simp only [readLong, htake, hdrop, String.ofList_toList, s.ofLongName?_longName]

theorem readLong_of_equals (s : Setting) (value : String) :
    args.readLong (s.longName.toList ++ '=' :: value.toList) = .done <$> args.give value s := by
  obtain ⟨htake, hdrop⟩ :=
    split_at_equals s.longName_toList.2 ('=' :: value.toList) (by simp)
  simp only [readLong, htake, hdrop, String.ofList_toList, s.ofLongName?_longName]

/-! ### Letters -/

theorem readLetters_of_switch {s : Switch} {c : Char} (h : s.letter? = some c) (cs : List Char) :
    args.readLetters (c :: cs) = args.turnOn s >>= fun next => next.readLetters cs := by
  rw [readLetters, Switch.ofLetter?_of_letter? h]

theorem readLetters_of_setting {s : Setting} {c : Char} (h : s.letter? = some c) :
    args.readLetters [c] = .ok (.wants args s) := by
  rw [readLetters, Setting.ofLetter?_of_letter? h]

theorem readLetters_of_equals {s : Setting} {c : Char} (h : s.letter? = some c) (value : String) :
    args.readLetters (c :: '=' :: value.toList) = .done <$> args.give value s := by
  rw [readLetters, Setting.ofLetter?_of_letter? h]
  simp only [String.ofList_toList]

theorem readLetters_of_attached {s : Setting} {c : Char} (h : s.letter? = some c) {value : String}
    (hvalue : IsPlainValue value) :
    args.readLetters (c :: value.toList) = .done <$> args.give value s := by
  obtain ⟨first, cs, htext, _, hequals⟩ := hvalue
  have hvalue : String.ofList (first :: cs) = value := by rw [← htext, String.ofList_toList]
  rw [readLetters, Setting.ofLetter?_of_letter? h, htext]
  dsimp only
  split
  next heq => contradiction
  next heq => exact absurd (List.cons.inj heq).1 hequals
  next => rw [hvalue]

theorem readWord_of_lettersStart {before : List GivenOption} {start word : String} {c : Char}
    {cs : List Char} (hstart : LettersStart before start) (hc : c ≠ '-')
    (hword : word.toList = start.toList ++ c :: cs) :
    args.readWord word =
      before.foldlM accept args >>= fun next => next.readLetters (c :: cs) := by
  cases hstart with
  | alone => exact readWord_of_letters hword hc
  | behindVerbose =>
    have hword : word.toList = '-' :: 'v' :: c :: cs := hword
    have hv : Switch.verbose.letter? = some 'v' := rfl
    rw [readWord_of_letters hword (by decide), readLetters_of_switch hv, List.foldlM_cons]
    simp [accept]

theorem ne_hyphens_of_lettersStart {before : List GivenOption} {start word : String} {c : Char}
    {cs : List Char} (hstart : LettersStart before start) (hc : c ≠ '-')
    (hword : word.toList = start.toList ++ c :: cs) : word ≠ "--" := by
  cases hstart with
  | alone => exact ne_hyphens hword (by simp [hc])
  | behindVerbose =>
    have hword : word.toList = '-' :: 'v' :: c :: cs := hword
    exact ne_hyphens hword (by simp)

/-- The words for an option are read as that option, and reading goes on behind them. -/
theorem readWords_of_optionSpelled {options : List GivenOption} {words : List String}
    (h : OptionSpelled options words)
    (hvalues : ∀ s value, .setting s value ∈ options → IsPlainValue value) (rest : List String) :
    args.readWords (words ++ rest) =
      options.foldlM accept args >>= fun next => next.readWords rest := by
  cases h with
  | longSwitch s =>
    have htext : ("--" ++ s.longName).toList = '-' :: '-' :: s.longName.toList := by simp
    refine readWords_of_done (ne_hyphens htext (by simp [s.longName_toList.1])) ?_ rest
    rw [readWord_of_hyphens htext, readLong_of_switch]
    simp [accept]
  | @shortSwitch s c hletter =>
    have hc := Switch.ne_hyphen_of_letter? hletter
    have htext : ("-".push c).toList = "-".toList ++ c :: [] := by simp
    refine readWords_of_done (ne_hyphens_of_lettersStart .alone hc htext) ?_ rest
    rw [readWord_of_lettersStart .alone hc htext, List.foldlM_nil, pure_bind,
      readLetters_of_switch hletter, map_eq_pure_bind]
    rw [foldlM_accept_singleton, accept]
    simp only [readLetters]
    rfl
  | long s value =>
    have htext : ("--" ++ s.longName).toList = '-' :: '-' :: s.longName.toList := by simp
    have hne := ne_hyphens htext (by simp [s.longName_toList.1])
    have hword : args.readWord ("--" ++ s.longName) =
        (fun next => .wants next s) <$> ([] : List GivenOption).foldlM accept args := by
      rw [readWord_of_hyphens htext, readLong_of_setting]
      rfl
    exact readWords_of_wants hne hword (isOptionWord_eq_false (hvalues s value (by simp))) rest
  | longEquals s value =>
    have htext : ("--" ++ s.longName ++ "=" ++ value).toList =
        '-' :: '-' :: (s.longName.toList ++ '=' :: value.toList) := by simp
    refine readWords_of_done (ne_hyphens htext (by simp)) ?_ rest
    rw [readWord_of_hyphens htext, readLong_of_equals]
    simp [accept]
  | @short before start s c hstart hletter value =>
    have hc := Setting.ne_hyphen_of_letter? hletter
    have htext : (start.push c).toList = start.toList ++ c :: [] := by simp
    have hne := ne_hyphens_of_lettersStart hstart hc htext
    have hplain := isOptionWord_eq_false (hvalues s value (by simp))
    refine readWords_of_wants hne ?_ hplain rest
    rw [readWord_of_lettersStart hstart hc htext, map_eq_pure_bind]
    simp only [readLetters_of_setting hletter]
    rfl
  | @shortAttached before start s c hstart hletter value =>
    have hc := Setting.ne_hyphen_of_letter? hletter
    have htext : (start.push c ++ value).toList = start.toList ++ c :: value.toList := by simp
    refine readWords_of_done (ne_hyphens_of_lettersStart hstart hc htext) ?_ rest
    rw [readWord_of_lettersStart hstart hc htext]
    simp [readLetters_of_attached hletter (hvalues s value (by simp)), accept]
  | @shortEquals before start s c hstart hletter value =>
    have hc := Setting.ne_hyphen_of_letter? hletter
    have htext : (start.push c ++ "=" ++ value).toList =
        start.toList ++ c :: '=' :: value.toList := by simp
    refine readWords_of_done (ne_hyphens_of_lettersStart hstart hc htext) ?_ rest
    rw [readWord_of_lettersStart hstart hc htext]
    simp [readLetters_of_equals hletter, accept]

/-- Words are read as the options that they spell, one after the other. -/
theorem readWords_of_spelled {given : List GivenOption} {words : List String}
    (h : Spelled given words)
    (hvalues : ∀ s value, .setting s value ∈ given → IsPlainValue value) :
    args.readWords words = given.foldlM accept args := by
  induction h generalizing args with
  | nil => rfl
  | @append options given words rest hoption _ ih =>
    have hfirst : ∀ s value, .setting s value ∈ options → IsPlainValue value :=
      fun s value hs => hvalues s value (List.mem_append_left _ hs)
    have hlater : ∀ s value, .setting s value ∈ given → IsPlainValue value :=
      fun s value hs => hvalues s value (List.mem_append_right _ hs)
    rw [readWords_of_optionSpelled hoption hfirst, List.foldlM_append]
    simp only [ih hlater]

end Arguments

theorem Invocation.read_of_readWords {words : List String} {args : Arguments}
    (h : ({} : Arguments).readWords words = .ok args) (fromEnv : Option String) :
    Invocation.read words fromEnv = (⟨·, args.verbose⟩) <$> args.config fromEnv := by
  rw [read, h, map_eq_pure_bind]
  rfl

end StructGen
