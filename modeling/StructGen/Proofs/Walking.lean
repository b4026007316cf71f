import Mathlib.Data.List.DropRight
import StructGen.Proofs.Destination

namespace StructGen

theorem bind_eq_ok {ε α β : Type} {x : Except ε α} {f : α → Except ε β} {b : β} :
    (x >>= f) = .ok b ↔ ∃ a, x = .ok a ∧ f a = .ok b := by
  cases x <;> simp [bind, Except.bind]

theorem map_eq_ok {ε α β : Type} {x : Except ε α} {f : α → β} {b : β} :
    f <$> x = .ok b ↔ ∃ a, x = .ok a ∧ f a = b := by
  cases x <;> simp [Functor.map, Except.map]

/-- A guarded computation goes well when its guard does not refuse and the rest goes well. -/
theorem guard_eq_ok {ε α : Type} {c : Prop} [Decidable c] {e : ε} {f : PUnit → Except ε α} {a : α} :
    (if c then (throw e : Except ε PUnit) >>= f else f ⟨⟩) = .ok a ↔ ¬c ∧ f ⟨⟩ = .ok a := by
  by_cases hc : c
  · simp [hc, throw, throwThe, MonadExceptOf.throw, bind, Except.bind]
  · simp [hc]

theorem fromUTF8?_eq_some_iff {content : ByteArray} {text : String} :
    String.fromUTF8? content = some text ↔ content = text.toByteArray := by
  rw [String.fromUTF8?]
  split
  next => rw [Option.some.injEq, ← String.toByteArray_inj, String.fromUTF8]
  next hinvalid => exact ⟨nofun, fun h => absurd (h ▸ text.isValidUTF8) hinvalid⟩

namespace Disk

theorem isDirectoryAt_iff {d : Disk} {loc : Location} :
    d.isDirectoryAt loc = true ↔ d.entryAt? loc = some .directory := by
  simp [isDirectoryAt]

/-- Whether what is on one disk is still there on another: no directory is lost, and a name that
is taken stays taken. -/
structure GrowsTo (d d' : Disk) : Prop where
  workingDir : d'.workingDir = d.workingDir
  directory : ∀ loc, d.isDirectoryAt loc → d'.isDirectoryAt loc
  present : ∀ loc, (d.entryAt? loc).isSome → (d'.entryAt? loc).isSome

theorem GrowsTo.refl (d : Disk) : d.GrowsTo d :=
  ⟨rfl, fun _ h => h, fun _ h => h⟩

theorem GrowsTo.trans {d d' d'' : Disk} (h : d.GrowsTo d') (h' : d'.GrowsTo d'') :
    d.GrowsTo d'' where
  workingDir := h'.workingDir.trans h.workingDir
  directory loc hd := h'.directory loc (h.directory loc hd)
  present loc hp := h'.present loc (h.present loc hp)

theorem growsTo_put {d : Disk} {loc : Location} (hne : loc ≠ []) {e : Entry}
    (h : d.isDirectoryAt loc → e = .directory) : d.GrowsTo (d.put loc e) where
  workingDir := rfl
  directory other hd := by
    rw [isDirectoryAt_iff, entryAt?_put d hne]
    split
    next heq => rw [h (heq ▸ hd)]
    next => exact isDirectoryAt_iff.mp hd
  present other hp := by
    rw [entryAt?_put d hne]
    split
    · rfl
    · exact hp

theorem enter_eq_ok {d : Disk} {loc next : Location} {name : String} :
    d.enter loc name = .ok next ↔
      d.isDirectoryAt loc ∧ stepFrom loc name = next ∧
        (IsProperName name → name.utf8ByteSize ≤ longestName ∧ (d.entryAt? next).isSome) := by
  by_cases hdir : d.isDirectoryAt loc
  · by_cases hblank : name = "" ∨ name = "."
    · have hnot : ¬ IsProperName name := fun h => hblank.elim h.1 h.2.1
      simp [enter, stepFrom, hdir, hblank, hnot]
    · by_cases hup : name = ".."
      · have hnot : ¬ IsProperName ".." := fun h => h.2.2 rfl
        subst hup
        simp [enter, stepFrom, hdir, hnot]
      · have hproper : IsProperName name := by
          obtain ⟨hempty, hdot⟩ := not_or.mp hblank
          exact ⟨hempty, hdot, hup⟩
        rw [stepFrom_of_isProperName hproper, enter]
        simp only [hdir, hblank, hup, hproper, Bool.not_true, Bool.false_eq_true, if_false,
          true_and, forall_const]
        split
        next hlong => simp [Nat.not_le.mpr hlong]
        next hshort =>
          split
          next hthere =>
            rw [Except.ok.injEq]
            exact ⟨fun h => ⟨h, Nat.not_lt.mp hshort, h ▸ hthere⟩, And.left⟩
          next hnone =>
            constructor
            · intro h
              contradiction
            · rintro ⟨rfl, _, hthere⟩
              exact absurd hthere hnone
  · simp [enter, hdir]

theorem walk_cons_eq_ok {d : Disk} {loc last : Location} {name : String} {names : List String} :
    d.walk loc (name :: names) = .ok last ↔
      ∃ next, d.enter loc name = .ok next ∧ d.walk next names = .ok last :=
  bind_eq_ok

theorem walk_append_eq_ok {d : Disk} {loc last : Location} {names names' : List String} :
    d.walk loc (names ++ names') = .ok last ↔
      ∃ next, d.walk loc names = .ok next ∧ d.walk next names' = .ok last := by
  induction names generalizing loc with
  | nil => simp [walk]
  | cons name names ih =>
    simp only [List.cons_append, walk_cons_eq_ok, ih]
    constructor
    · rintro ⟨next, hn, mid, hm, hl⟩
      exact ⟨mid, ⟨next, hn, hm⟩, hl⟩
    · rintro ⟨mid, ⟨next, hn, hm⟩, hl⟩
      exact ⟨next, hn, mid, hm, hl⟩

/-- A walk ends where its names lead to, whatever else is on the disk. -/
theorem eq_resolve_of_walk {d : Disk} {loc last : Location} {names : List String}
    (h : d.walk loc names = .ok last) : last = resolve loc names := by
  induction names generalizing loc with
  | nil => exact (Except.ok.inj h).symm
  | cons name names ih =>
    obtain ⟨next, hnext, hlast⟩ := walk_cons_eq_ok.mp h
    rw [resolve_cons, (enter_eq_ok.mp hnext).2.1]
    exact ih hlast

theorem walk_of_growsTo {d d' : Disk} (hd : d.GrowsTo d') {loc last : Location}
    {names : List String} (h : d.walk loc names = .ok last) : d'.walk loc names = .ok last := by
  induction names generalizing loc with
  | nil => exact h
  | cons name names ih =>
    obtain ⟨next, hnext, hlast⟩ := walk_cons_eq_ok.mp h
    obtain ⟨hdir, heq, hproper⟩ := enter_eq_ok.mp hnext
    have hnext' : d'.enter loc name = .ok next :=
      enter_eq_ok.mpr ⟨hd.directory loc hdir, heq, fun hn =>
        (hproper hn).imp_right (hd.present next)⟩
    exact walk_cons_eq_ok.mpr ⟨next, hnext', ih hlast⟩

/-- A walk that ends in a directory goes through directories only. -/
theorem isDirectoryAt_of_walk_append {d : Disk} {loc last : Location} {names names' : List String}
    (h : d.walk loc (names ++ names') = .ok last) (hlast : d.isDirectoryAt last) :
    d.isDirectoryAt (resolve loc names) := by
  obtain ⟨mid, hmid, hrest⟩ := walk_append_eq_ok.mp h
  rw [← eq_resolve_of_walk hmid]
  cases names' with
  | nil => exact Except.ok.inj hrest ▸ hlast
  | cons name names' =>
    obtain ⟨next, hnext, _⟩ := walk_cons_eq_ok.mp hrest
    exact (enter_eq_ok.mp hnext).1

theorem locate_eq_ok {d : Disk} {p : Path} {loc : Location} :
    d.locate p = .ok loc ↔ checkPath p = .ok () ∧ d.walk (d.start p) p.names = .ok loc := by
  rw [locate, bind_eq_ok]
  exact ⟨fun ⟨_, hc, hw⟩ => ⟨hc, hw⟩, fun ⟨hc, hw⟩ => ⟨(), hc, hw⟩⟩

theorem eq_destination_of_locate {d : Disk} {p : Path} {loc : Location}
    (h : d.locate p = .ok loc) : loc = d.destination p :=
  eq_resolve_of_walk (locate_eq_ok.mp h).2

theorem locate_of_growsTo {d d' : Disk} (hd : d.GrowsTo d') {p : Path} {loc : Location}
    (h : d.locate p = .ok loc) : d'.locate p = .ok loc := by
  obtain ⟨hc, hw⟩ := locate_eq_ok.mp h
  refine locate_eq_ok.mpr ⟨hc, ?_⟩
  rw [start_eq_of_workingDir_eq hd.workingDir]
  exact walk_of_growsTo hd hw

/-- Reading a file gives back the text that was put there. -/
theorem readFile_eq_ok {d : Disk} {p : Path} {loc : Location} (h : d.locate p = .ok loc)
    {text : String} :
    d.readFile p = .ok text ↔ d.entryAt? loc = some (.file text.toByteArray) := by
  rw [readFile, h, bind_eq_ok]
  simp only [Except.ok.injEq, exists_eq_left']
  split
  next content hfile =>
    rw [hfile, Option.some.injEq, Entry.file.injEq, ← fromUTF8?_eq_some_iff]
    cases String.fromUTF8? content with
    | none => exact ⟨nofun, nofun⟩
    | some read => simp [pure, Except.pure]
  next hother => exact ⟨nofun, fun hfile => absurd hfile (hother _)⟩

theorem isDirectory_iff {d : Disk} {p : Path} :
    d.isDirectory p = true ↔
      d.locate p = .ok (d.destination p) ∧ d.isDirectoryAt (d.destination p) := by
  rw [isDirectory]
  cases hl : d.locate p with
  | error e => simp
  | ok loc =>
    rw [← eq_destination_of_locate hl]
    simp

theorem place_eq_ok {d : Disk} {p : Path} {names : List String} {name : String} {loc : Location}
    {old : Option Entry} :
    d.place p names name = .ok (loc, old) ↔
      d.walk (d.start p) names = .ok (resolve (d.start p) names) ∧
        d.isDirectoryAt (resolve (d.start p) names) ∧ name.utf8ByteSize ≤ longestName ∧
        loc = resolve (d.start p) names ++ [name] ∧ old = d.entryAt? loc := by
  simp only [place, bind_eq_ok, guard_eq_ok, Bool.not_eq_true', Bool.not_eq_false, not_lt]
  constructor
  · rintro ⟨dir, hw, hdir, hname, h⟩
    obtain rfl := eq_resolve_of_walk hw
    obtain ⟨rfl, rfl⟩ := Prod.mk.inj (Except.ok.inj h)
    exact ⟨hw, hdir, hname, rfl, rfl⟩
  · rintro ⟨hw, hdir, hname, rfl, rfl⟩
    exact ⟨_, hw, hdir, hname, rfl⟩

theorem entryAt?_put_self (d : Disk) {loc : Location} (hne : loc ≠ []) (e : Entry) :
    (d.put loc e).entryAt? loc = some e := by
  rw [entryAt?_put d hne, if_pos rfl]

/-- A place in a directory can be located once something has been put there. -/
theorem walk_append_of_put {d : Disk} {loc dir : Location} {names : List String} {name : String}
    (hw : d.walk loc names = .ok dir) (hdir : d.isDirectoryAt dir) (hname : IsProperName name)
    (hsize : name.utf8ByteSize ≤ longestName) {e : Entry}
    (hgrows : d.GrowsTo (d.put (dir ++ [name]) e)) :
    (d.put (dir ++ [name]) e).walk loc (names ++ [name]) = .ok (dir ++ [name]) := by
  refine walk_append_eq_ok.mpr ⟨dir, walk_of_growsTo hgrows hw, ?_⟩
  refine walk_cons_eq_ok.mpr ⟨dir ++ [name], ?_, rfl⟩
  refine enter_eq_ok.mpr ⟨hgrows.directory dir hdir, stepFrom_of_isProperName hname dir, ?_⟩
  rw [entryAt?_put_self d (by simp)]
  exact fun _ => ⟨hsize, rfl⟩

/-- Whether a file can be written at a path: all names but the last lead to a directory, in which
the last can be the name of a file and is not that of a directory. -/
structure Writable (d : Disk) (p : Path) : Prop where
  check : checkPath p = .ok ()
  walk : d.walk (d.start p) p.names.dropLast = .ok (resolve (d.start p) p.names.dropLast)
  directory : d.isDirectoryAt (resolve (d.start p) p.names.dropLast)
  proper : IsProperName (p.names.getLast p.names_ne_nil)
  short : (p.names.getLast p.names_ne_nil).utf8ByteSize ≤ longestName
  free : ¬ d.isDirectoryAt (d.destination p)

theorem destination_of_isProperName (d : Disk) {p : Path}
    (h : IsProperName (p.names.getLast p.names_ne_nil)) :
    d.destination p =
      resolve (d.start p) p.names.dropLast ++ [p.names.getLast p.names_ne_nil] := by
  have hnames := List.dropLast_concat_getLast p.names_ne_nil
  calc d.destination p
      = resolve (d.start p) (p.names.dropLast ++ [p.names.getLast p.names_ne_nil]) := by
        rw [hnames]
        rfl
    _ = stepFrom (resolve (d.start p) p.names.dropLast) (p.names.getLast p.names_ne_nil) :=
        resolve_append _ _ _
    _ = _ := stepFrom_of_isProperName h _

theorem writeFile_eq_ok_iff {d d' : Disk} {p : Path} {text : String} :
    d.writeFile p text = .ok d' ↔
      d.Writable p ∧ d' = d.put (d.destination p) (.file text.toByteArray) := by
  have hlast : p.names.getLast?.getD "" = p.names.getLast p.names_ne_nil := by
    rw [List.getLast?_eq_some_getLast p.names_ne_nil, Option.getD_some]
  simp only [writeFile, bind_eq_ok, guard_eq_ok, hlast, not_or]
  constructor
  · rintro ⟨_, hcheck, ⟨loc, old⟩, hplace, ⟨hempty, hdot, hdots, hfree⟩, h⟩
    obtain ⟨hwalk, hdir, hshort, rfl, rfl⟩ := place_eq_ok.mp hplace
    have hproper : IsProperName (p.names.getLast p.names_ne_nil) := ⟨hempty, hdot, hdots⟩
    rw [← d.destination_of_isProperName hproper] at hfree h
    rw [← isDirectoryAt_iff] at hfree
    exact ⟨⟨hcheck, hwalk, hdir, hproper, hshort, hfree⟩, (Except.ok.inj h).symm⟩
  · rintro ⟨hw, rfl⟩
    obtain ⟨hempty, hdot, hdots⟩ := hw.proper
    have hfree := hw.free
    rw [isDirectoryAt_iff, d.destination_of_isProperName hw.proper] at hfree
    refine ⟨(), hw.check, _, place_eq_ok.mpr ⟨hw.walk, hw.directory, hw.short, rfl, rfl⟩,
      ⟨hempty, hdot, hdots, hfree⟩, ?_⟩
    rw [d.destination_of_isProperName hw.proper]
    rfl

theorem Writable.of_growsTo {d d' : Disk} {p : Path} (h : d.Writable p) (hd : d.GrowsTo d')
    (hfree : ¬ d'.isDirectoryAt (d.destination p)) : d'.Writable p := by
  have hstart := start_eq_of_workingDir_eq hd.workingDir p
  refine ⟨h.check, ?_, ?_, h.proper, h.short, ?_⟩
  · rw [hstart]
    exact walk_of_growsTo hd h.walk
  · rw [hstart]
    exact hd.directory _ h.directory
  · rwa [destination_eq_of_workingDir_eq hd.workingDir]

/-- A file that is written is at the place that its path denotes, where no directory was. -/
theorem writeFile_eq_ok {d d' : Disk} {p : Path} {text : String}
    (h : d.writeFile p text = .ok d') :
    d.destination p ≠ [] ∧ ¬ d.isDirectoryAt (d.destination p) ∧
      d' = d.put (d.destination p) (.file text.toByteArray) ∧
      d'.locate p = .ok (d.destination p) := by
  obtain ⟨hw, rfl⟩ := writeFile_eq_ok_iff.mp h
  have hdest := d.destination_of_isProperName hw.proper
  have hne : d.destination p ≠ [] := by simp [hdest]
  refine ⟨hne, hw.free, rfl, locate_eq_ok.mpr ⟨hw.check, ?_⟩⟩
  have hgrows : d.GrowsTo (d.put (d.destination p) (.file text.toByteArray)) :=
    growsTo_put hne fun hd => absurd hd hw.free
  rw [hdest] at hgrows ⊢
  have hwalk := walk_append_of_put hw.walk hw.directory hw.proper hw.short hgrows
  rwa [List.dropLast_concat_getLast] at hwalk

theorem dropTrailingEmpty_append (names : List String) :
    ∃ blanks, (∀ name ∈ blanks, name = "") ∧ names = dropTrailingEmpty names ++ blanks := by
  refine ⟨names.rtakeWhile (·.isEmpty), fun name hm => ?_,
    List.rdropWhile_append_rtakeWhile.symm⟩
  exact String.isEmpty_iff.mp (List.mem_rtakeWhile_imp hm)

theorem last_dropTrailingEmpty {names front : List String} {name : String}
    (h : dropTrailingEmpty names = front ++ [name]) : name ≠ "" := by
  have heq : names.rdropWhile (·.isEmpty) = front ++ [name] := h
  have hne : names.rdropWhile (·.isEmpty) ≠ [] := by simp [heq]
  have hlast := List.rdropWhile_last_not (·.isEmpty) names hne
  simpa [heq, String.isEmpty_iff] using hlast

theorem walk_blanks {d : Disk} {loc : Location} (hdir : d.isDirectoryAt loc) {blanks : List String}
    (h : ∀ name ∈ blanks, name = "") : d.walk loc blanks = .ok loc := by
  induction blanks with
  | nil => rfl
  | cons name blanks ih =>
    obtain ⟨rfl, hrest⟩ := List.forall_mem_cons.mp h
    refine walk_cons_eq_ok.mpr ⟨loc, enter_eq_ok.mpr ⟨hdir, rfl, ?_⟩, ih hrest⟩
    exact fun hproper => absurd rfl hproper.1

/-- A directory that is made is at the place that its path denotes, where nothing was. -/
theorem makeDir_eq_ok {d d' : Disk} {p : Path} (h : d.makeDir p = .ok d') :
    p.steps ≠ [] ∧ d.destination p ≠ [] ∧ d.entryAt? (d.destination p) = none ∧
      d' = d.put (d.destination p) .directory ∧ d'.locate p = .ok (d.destination p) := by
  obtain ⟨blanks, hblanks, hnames⟩ := dropTrailingEmpty_append p.names
  simp only [makeDir, bind_eq_ok, guard_eq_ok, not_or] at h
  obtain ⟨_, hcheck, ⟨loc, old⟩, hplace, ⟨hdot, hdots, hfree⟩, h⟩ := h
  obtain ⟨front, name, hfront⟩ : ∃ front name, dropTrailingEmpty p.names = front ++ [name] := by
    refine ⟨_, _, (List.dropLast_concat_getLast fun hnil => hdot ?_).symm⟩
    rw [hnil]
    rfl
  simp only [hfront, List.dropLast_concat, List.getLast?_concat, Option.getD_some] at hplace hdot hdots
  obtain ⟨hw, hdir, hsize, rfl, rfl⟩ := place_eq_ok.mp hplace
  obtain rfl := Except.ok.inj h
  have hproper : IsProperName name := ⟨last_dropTrailingEmpty hfront, hdot, hdots⟩
  rw [hfront] at hnames
  have hgrows : d.GrowsTo (d.put (resolve (d.start p) front ++ [name]) .directory) :=
    growsTo_put (by simp) fun _ => rfl
  have hwalk := walk_append_of_put hw hdir hproper hsize hgrows
  have hmade : (d.put (resolve (d.start p) front ++ [name]) .directory).isDirectoryAt
      (resolve (d.start p) front ++ [name]) := by
    rw [isDirectoryAt_iff, entryAt?_put_self d (by simp)]
  have hlocate : (d.put (resolve (d.start p) front ++ [name]) .directory).locate p =
      .ok (resolve (d.start p) front ++ [name]) := by
    rw [locate_eq_ok, hnames]
    exact ⟨hcheck, walk_append_eq_ok.mpr ⟨_, hwalk, walk_blanks hmade hblanks⟩⟩
  -- The names behind the last proper one are blank, so only a walk tells what the path denotes.
  have hdest : d.destination p = resolve (d.start p) front ++ [name] :=
    (eq_destination_of_locate hlocate).symm
  refine ⟨p.steps_ne_nil_of_isProperName ?_ hproper, by simp [hdest], ?_, by rw [hdest], ?_⟩
  · simp [hnames]
  · simpa [hdest] using hfree
  · rw [hdest, hlocate]

end Disk

end StructGen
