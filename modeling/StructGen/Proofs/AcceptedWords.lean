import StructGen.Proofs.OptionSpelling
import StructGen.Proofs.Walking

namespace StructGen

namespace Arguments

variable {args : Arguments}

/-! ### Words that are accepted -/

/-- Whether a word stands for the same options whatever was read before it, the last of which may
still want its value. -/
inductive StandsForOptions (read : Arguments → Except Stop Progress) : Prop
  | done (options : List GivenOption)
    (h : ∀ args, read args = .done <$> options.foldlM accept args)
  | wants (before : List GivenOption) (s : Setting)
    (h : ∀ args, read args = (fun next => .wants next s) <$> before.foldlM accept args)

theorem standsForOptions_readLong {text : List Char} {p : Progress}
    (h : args.readLong text = .ok p) : StandsForOptions (·.readLong text) := by
  cases hname : CliOption.ofLongName? (String.ofList (text.takeWhile (· != '='))) with
  | none => simp [readLong, hname] at h
  | some option =>
    cases hrest : text.dropWhile (· != '=') with
    | nil =>
      cases option with
      | switch s =>
        refine .done [.switch s] fun args => ?_
        simp only [readLong, hname, hrest, foldlM_accept_singleton, accept]
      | setting s =>
        refine .wants [] s fun args => ?_
        simp only [readLong, hname, hrest]
        rfl
    | cons c value =>
      cases option with
      | switch s => simp [readLong, hname, hrest] at h
      | setting s =>
        refine .done [.setting s (String.ofList value)] fun args => ?_
        simp only [readLong, hname, hrest, foldlM_accept_singleton, accept]

theorem standsForOptions_of_letter {c : Char} {s : Setting}
    (hc : CliOption.ofLetter? c = some (.setting s)) (cs : List Char) :
    StandsForOptions (·.readLetters (c :: cs)) := by
  cases cs with
  | nil =>
    refine .wants [] s fun args => ?_
    rw [readLetters, hc]
    rfl
  | cons c' cs =>
    by_cases hequals : c' = '='
    · subst hequals
      refine .done [.setting s (String.ofList cs)] fun args => ?_
      rw [readLetters, hc, foldlM_accept_singleton]
      rfl
    · refine .done [.setting s (String.ofList (c' :: cs))] fun args => ?_
      rw [readLetters, hc, foldlM_accept_singleton]
      simp [hequals, accept]

theorem standsForOptions_readLetters {cs : List Char} {p : Progress}
    (h : args.readLetters cs = .ok p) : StandsForOptions (·.readLetters cs) := by
  induction cs generalizing args with
  | nil => exact .done [] fun args => rfl
  | cons c cs ih =>
    cases hc : CliOption.ofLetter? c with
    | none => simp [readLetters, hc] at h
    | some option =>
      cases option with
      | setting s => exact standsForOptions_of_letter hc cs
      | switch s =>
        have hread : ∀ args : Arguments, args.readLetters (c :: cs) =
            args.turnOn s >>= fun next => next.readLetters cs := by
          intro args
          rw [readLetters, hc]
        rw [hread] at h
        obtain ⟨next, _, hnext⟩ := bind_eq_ok.mp h
        cases ih hnext with
        | done options hoptions =>
          refine .done (.switch s :: options) fun args => ?_
          simp only [hread, hoptions, List.foldlM_cons, accept, map_bind]
        | wants before setting hbefore =>
          refine .wants (.switch s :: before) setting fun args => ?_
          simp only [hread, hbefore, List.foldlM_cons, accept, map_bind]

theorem standsForOptions_readWord {word : String} {p : Progress} (h : args.readWord word = .ok p) :
    StandsForOptions (·.readWord word) := by
  unfold readWord at h ⊢
  split at h
  next => exact standsForOptions_readLong h
  next => exact standsForOptions_readLetters h
  next => contradiction

theorem exists_options_of_done {word : String} {next : Arguments}
    (h : args.readWord word = .ok (.done next)) :
    ∃ options : List GivenOption, ∀ args : Arguments,
      args.readWord word = .done <$> options.foldlM accept args := by
  cases standsForOptions_readWord h with
  | done options hoptions => exact ⟨options, hoptions⟩
  | wants before s hbefore =>
    obtain ⟨_, _, heq⟩ := map_eq_ok.mp ((hbefore args).symm.trans h)
    contradiction

theorem exists_before_of_wants {word : String} {next : Arguments} {s : Setting}
    (h : args.readWord word = .ok (.wants next s)) :
    ∃ before : List GivenOption, ∀ args : Arguments,
      args.readWord word = (fun next => .wants next s) <$> before.foldlM accept args := by
  cases standsForOptions_readWord h with
  | done options hoptions =>
    obtain ⟨_, _, heq⟩ := map_eq_ok.mp ((hoptions args).symm.trans h)
    contradiction
  | wants before s' hbefore =>
    obtain ⟨_, _, heq⟩ := map_eq_ok.mp ((hbefore args).symm.trans h)
    obtain rfl : s' = s := (Progress.wants.inj heq).2
    exact ⟨before, hbefore⟩

/-- Words that are accepted are read as the same options whatever was read before them. -/
theorem exists_given_of_readWords {words : List String} {last : Arguments}
    (h : args.readWords words = .ok last) :
    ∃ given : List GivenOption,
      ∀ args : Arguments, args.readWords words = given.foldlM accept args := by
  -- The named cases are those in which the words are not refused.
  fun_induction readWords args words with
  | case1 => exact ⟨[], fun args => rfl⟩
  | case2 args words hempty =>
    refine ⟨[], fun args => ?_⟩
    rw [readWords, if_pos rfl, if_pos hempty]
    rfl
  | case5 args word words hne next hword ih =>
    obtain ⟨given, hgiven⟩ := ih h
    obtain ⟨options, hoptions⟩ := exists_options_of_done hword
    refine ⟨options ++ given, fun args => ?_⟩
    rw [readWords_of_done hne (hoptions args)]
    simp only [hgiven]
    exact List.foldlM_append.symm
  | case9 args word hne next s hword value words hvalue mid hgive ih =>
    obtain ⟨given, hgiven⟩ := ih h
    obtain ⟨before, hbefore⟩ := exists_before_of_wants hword
    have hvalue : isOptionWord value = false := Bool.eq_false_iff.mpr hvalue
    refine ⟨before ++ [.setting s value] ++ given, fun args => ?_⟩
    rw [readWords_of_wants hne (hbefore args) hvalue]
    simp only [hgiven]
    exact List.foldlM_append.symm
  | _ => contradiction

/-! ### Reading with the switch for more events -/

def loud (args : Arguments) : Arguments :=
  { args with verbose := true }

theorem verbose_of_give {next : Arguments} {s : Setting} {value : String}
    (h : args.give value s = .ok next) : next.verbose = args.verbose := by
  cases s <;>
    obtain ⟨_, _, heq⟩ := bind_eq_ok.mp h <;>
    cases heq <;> rfl

theorem give_loud (args : Arguments) (s : Setting) (value : String) :
    args.loud.give value s = loud <$> args.give value s := by
  cases s <;> simp only [give, map_bind, map_pure] <;> rfl

theorem turnOn_loud (args : Arguments) {s : Switch} (hs : s ≠ .verbose) :
    args.loud.turnOn s = loud <$> args.turnOn s := by
  cases s with
  | verbose => contradiction
  | version => rfl
  | help => rfl
  | json =>
    simp only [turnOn, map_bind, map_pure]
    rfl
  | comment =>
    simp only [turnOn, map_bind, map_pure]
    rfl

theorem accept_loud (args : Arguments) {o : GivenOption} (ho : o ≠ .switch .verbose) :
    args.loud.accept o = loud <$> args.accept o := by
  cases o with
  | setting s value => exact give_loud args s value
  | switch s => exact turnOn_loud args fun hs => ho (congrArg _ hs)

theorem verbose_of_turnOn {next : Arguments} {s : Switch} (h : args.turnOn s = .ok next) :
    next.verbose = true ↔ args.verbose = true ∨ s = .verbose := by
  cases s with
  | version => contradiction
  | help => contradiction
  | json =>
    obtain ⟨_, _, heq⟩ := bind_eq_ok.mp h
    cases heq
    simp
  | comment =>
    obtain ⟨_, _, heq⟩ := bind_eq_ok.mp h
    cases heq
    simp
  | verbose =>
    obtain ⟨on, hon, heq⟩ := bind_eq_ok.mp h
    cases heq
    have hon : on = true := by
      unfold raiseOnce at hon
      split at hon
      next => contradiction
      next => exact (Except.ok.inj hon).symm
    simp [hon]

theorem verbose_of_accept {next : Arguments} {o : GivenOption} (h : args.accept o = .ok next) :
    next.verbose = true ↔ args.verbose = true ∨ o = .switch .verbose := by
  cases o with
  | setting s value => simp [verbose_of_give h]
  | switch s => simp [verbose_of_turnOn h]

theorem verbose_of_foldlM_accept {given : List GivenOption} {last : Arguments}
    (h : given.foldlM accept args = .ok last) :
    last.verbose = true ↔ args.verbose = true ∨ .switch .verbose ∈ given := by
  induction given generalizing args with
  | nil =>
    cases h
    simp
  | cons o given ih =>
    rw [List.foldlM_cons] at h
    obtain ⟨next, hnext, hlast⟩ := bind_eq_ok.mp h
    rw [ih hlast, verbose_of_accept hnext, List.mem_cons, or_assoc, @eq_comm _ o]

theorem foldlM_accept_loud {given : List GivenOption} (h : .switch .verbose ∉ given)
    (args : Arguments) :
    given.foldlM accept args.loud = loud <$> given.foldlM accept args := by
  induction given generalizing args with
  | nil => rfl
  | cons o given ih =>
    rw [List.mem_cons, not_or] at h
    rw [List.foldlM_cons, List.foldlM_cons, accept_loud args (Ne.symm h.1), map_bind,
      bind_map_left]
    simp only [ih h.2]

/-- Words that are accepted without the switch for more events are accepted behind it. -/
theorem readWords_cons_verbose {words : List String} {last : Arguments}
    (h : args.readWords words = .ok last) (hquiet : last.verbose = false) :
    args.readWords ("--verbose" :: words) = .ok last.loud := by
  obtain ⟨given, hgiven⟩ := exists_given_of_readWords h
  rw [hgiven] at h
  -- Each option leaves the switch on once it is on, so it is neither before nor among the words.
  have hboth : args.verbose = false ∧ .switch .verbose ∉ given := by
    have hiff := verbose_of_foldlM_accept h
    simpa [hquiet] using hiff
  obtain ⟨hoff, hnot⟩ := hboth
  have hfirst : args.turnOn .verbose = .ok args.loud := by
    rw [turnOn, hoff]
    rfl
  have hread : args.readWords ("--verbose" :: words) =
      [GivenOption.switch .verbose].foldlM accept args >>= fun next => next.readWords words :=
    readWords_of_optionSpelled (.longSwitch .verbose) (by simp) words
  rw [foldlM_accept_singleton, accept, hfirst] at hread
  calc args.readWords ("--verbose" :: words)
      = args.loud.readWords words := hread
    _ = loud <$> given.foldlM accept args := by rw [hgiven, foldlM_accept_loud hnot]
    _ = .ok last.loud := by rw [h]; rfl

end Arguments

end StructGen
