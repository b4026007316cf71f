import StructGen.Text.Padding

namespace StructGen

theorem splitOn_cons_self (sep : Char) (cs : List Char) :
    (sep :: cs).splitOn sep = [] :: cs.splitOn sep := by
  rw [List.splitOn_cons_eq_if_modifyHead, if_pos (beq_self_eq_true sep)]

/-- A character that does not separate goes to the first piece of what follows it. -/
theorem splitOn_cons_of_ne {sep c : Char} {cs w : List Char} {ws : List (List Char)} (hc : c ≠ sep)
    (hs : cs.splitOn sep = w :: ws) : (c :: cs).splitOn sep = (c :: w) :: ws := by
  rw [List.splitOn_cons_eq_if_modifyHead, if_neg (by simpa using hc), hs, List.modifyHead_cons]

/-- The words of a text: what stands between its spaces. -/
def words (s : String) : List String :=
  ((s.toList.splitOn ' ').filter (!·.isEmpty)).map String.ofList

theorem words_append_space (s t : String) : words (s ++ " " ++ t) = words s ++ words t := by
  have hchars : (s ++ " " ++ t).toList = s.toList ++ ' ' :: t.toList := by simp
  rw [words, hchars, List.splitOn_append_cons_self, List.filter_append, List.map_append]
  rfl

theorem words_eq_singleton {s : String} (hs : ' ' ∉ s.toList) (hne : s ≠ "") : words s = [s] := by
  have hchars : s.toList ≠ [] := fun h => hne (String.toList_eq_nil_iff.mp h)
  simp [words, List.splitOn_eq_singleton hs, hchars]

theorem words_spaces (n : Nat) : words (spaces n) = [] := by
  induction n with
  | zero => rfl
  | succ n ih =>
    have hsplit : spaces (n + 1) = "" ++ " " ++ spaces n := by
      rw [spaces_succ, String.empty_append]
    rw [hsplit, words_append_space, ih]
    rfl

theorem words_padRight (width : Nat) (s : String) : words (padRight width s) = words s := by
  unfold padRight
  cases width - s.length with
  | zero => simp [spaces]
  | succ n =>
    rw [spaces_succ, ← String.append_assoc, words_append_space, words_spaces, List.append_nil]

theorem words_intercalate (texts : List String) :
    words (" ".intercalate texts) = texts.flatMap words := by
  induction texts with
  | nil => rfl
  | cons s texts ih =>
    cases texts with
    | nil => simp
    | cons t texts =>
      rw [String.intercalate_cons_cons, words_append_space, ih]
      rfl

theorem flatMap_words_eq_self {texts : List String} (h : ∀ s ∈ texts, words s = [s]) :
    texts.flatMap words = texts := by
  induction texts with
  | nil => rfl
  | cons s texts ih =>
    have hs := h s List.mem_cons_self
    rw [List.flatMap_cons, hs, ih fun t ht => h t (List.mem_cons_of_mem s ht)]
    rfl

/-- A part of a sequence of words: a keyword with the words after it, or nothing. -/
abbrev Slot := String × Option (List String)

namespace Slot

def words : Slot → List String
  | (_, none) => []
  | (keyword, some arguments) => keyword :: arguments

/-- Whether a slot that is not empty has as many words after its keyword as the keyword wants. -/
def HasArity (arity : String → Nat) (slot : Slot) : Prop :=
  ∀ arguments ∈ slot.2, arguments.length = arity slot.1

end Slot

/-- The first word after some slots is one of their keywords or comes from what follows them. -/
theorem head_flatMap_slots {slots : List Slot} {rest : List String} {w : String}
    (h : (slots.flatMap Slot.words ++ rest).head? = some w) :
    w ∈ slots.map Prod.fst ∨ rest.head? = some w := by
  induction slots with
  | nil => exact Or.inr h
  | cons slot slots ih =>
    obtain ⟨keyword, content⟩ := slot
    cases content with
    | none => exact (ih h).imp_left (List.mem_cons_of_mem keyword)
    | some arguments =>
      have heq : keyword = w := by simpa [Slot.words] using h
      exact Or.inl (by simp [heq])

/-- Slots with distinct keywords can be told apart from each other and from what follows them. -/
theorem slots_append_inj {arity : String → Nat} {slots slots' : List Slot} {rest rest' : List String}
    (hkeys : slots.map Prod.fst = slots'.map Prod.fst) (hnodup : (slots.map Prod.fst).Nodup)
    (harity : ∀ slot ∈ slots, slot.HasArity arity) (harity' : ∀ slot ∈ slots', slot.HasArity arity)
    (hrest : ∀ w ∈ slots.map Prod.fst, rest.head? ≠ some w)
    (hrest' : ∀ w ∈ slots.map Prod.fst, rest'.head? ≠ some w)
    (h : slots.flatMap Slot.words ++ rest = slots'.flatMap Slot.words ++ rest') :
    slots = slots' ∧ rest = rest' := by
  induction slots generalizing slots' with
  | nil =>
    obtain rfl : slots' = [] := List.map_eq_nil_iff.mp hkeys.symm
    exact ⟨rfl, h⟩
  | cons slot slots ih =>
    cases slots' with
    | nil => simp at hkeys
    | cons slot' slots' =>
      obtain ⟨keyword, content⟩ := slot
      obtain ⟨keyword', content'⟩ := slot'
      obtain ⟨rfl, hsame⟩ : keyword = keyword' ∧ slots.map Prod.fst = slots'.map Prod.fst := by
        simpa using hkeys
      obtain ⟨hfresh, hnodup⟩ := List.nodup_cons.mp hnodup
      have hhead : (slots.flatMap Slot.words ++ rest).head? ≠ some keyword := fun hw =>
        (head_flatMap_slots hw).elim hfresh (hrest keyword List.mem_cons_self)
      have hhead' : (slots'.flatMap Slot.words ++ rest').head? ≠ some keyword := fun hw =>
        (head_flatMap_slots hw).elim (hsame ▸ hfresh) (hrest' keyword List.mem_cons_self)
      have hih := ih hsame hnodup (fun s hs => harity s (List.mem_cons_of_mem _ hs))
        (fun s hs => harity' s (List.mem_cons_of_mem _ hs))
        (fun w hw => hrest w (List.mem_cons_of_mem _ hw))
        (fun w hw => hrest' w (List.mem_cons_of_mem _ hw))
      rw [List.flatMap_cons, List.flatMap_cons, List.append_assoc, List.append_assoc] at h
      cases content with
      | none =>
        cases content' with
        | none =>
          obtain ⟨rfl, hr⟩ := hih h
          exact ⟨rfl, hr⟩
        | some arguments' => exact absurd (congrArg List.head? h) hhead
      | some arguments =>
        cases content' with
        | none => exact absurd (congrArg List.head? h).symm hhead'
        | some arguments' =>
          have hlen : arguments.length = arguments'.length :=
            (harity _ List.mem_cons_self arguments rfl).trans
              (harity' _ List.mem_cons_self arguments' rfl).symm
          obtain ⟨rfl, htail⟩ := List.append_inj (List.cons.inj h).2 hlen
          obtain ⟨rfl, hr⟩ := hih htail
          exact ⟨rfl, hr⟩

end StructGen
