import Mathlib.Data.List.Forall2
import StructGen.Proofs.TagTexts

namespace StructGen

/-- The characters that have no effect of their own inside double quotes and backquotes. -/
def isPlainChar (c : Char) : Bool :=
  c != '"' && c != '\\' && c != '`' && !(c.toNat < 0x20 || c.toNat == 0x7F)

/-- Whether a text has no double quote, backslash, backquote or control character; the controls
beyond ASCII do no harm. -/
def IsPlain (s : String) : Prop :=
  ∀ c ∈ s.toList, isPlainChar c = true

instance (s : String) : Decidable (IsPlain s) :=
  List.decidableBAll (fun c => isPlainChar c = true) s.toList

namespace StructTag

def isKeyChar (c : Char) : Bool :=
  decide (' ' < c) && c != '\x7f' && c != ':' && c != '"'

/-- The character that a letter stands for behind a backslash. Escapes by number are not read. -/
def unescape? (c : Char) : Option Char :=
  [('a', '\x07'), ('b', '\x08'), ('f', '\x0c'), ('n', '\n'), ('r', '\r'), ('t', '\t'),
   ('v', '\x0b'), ('\\', '\\'), ('"', '"')].lookup c

/-- Reads a quoted text behind its opening quote: the text and what follows the closing quote. -/
def readQuoted (escaped : Bool) : List Char → Option (List Char × List Char)
  | [] => none
  | c :: cs =>
    if escaped then do
      let d ← unescape? c
      let (text, rest) ← readQuoted false cs
      pure (d :: text, rest)
    else if c = '"' then some ([], cs)
    else if c = '\\' then readQuoted true cs
    else if c = '\n' then none
    else do
      let (text, rest) ← readQuoted false cs
      pure (c :: text, rest)

def readPair (cs : List Char) : Option ((String × String) × List Char) :=
  match cs.takeWhile isKeyChar, cs.dropWhile isKeyChar with
  | k :: ks, ':' :: '"' :: text =>
    (readQuoted false text).map fun (value, rest) =>
      ((String.ofList (k :: ks), String.ofList value), rest)
  | _, _ => none

theorem length_readQuoted {escaped : Bool} {cs text rest : List Char}
    (h : readQuoted escaped cs = some (text, rest)) : rest.length < cs.length := by
  induction cs generalizing escaped text with
  | nil => simp [readQuoted] at h
  | cons c cs ih =>
    have hnext : ∀ {b : Bool} {d : Char} {t : List Char},
        (do let (text, rest) ← readQuoted b cs; pure (d :: text, rest)) = some (t, rest) →
          rest.length < (c :: cs).length := by
      intro b d t h
      obtain ⟨⟨u, r⟩, hq, h⟩ := Option.bind_eq_some_iff.mp h
      cases Option.some.inj h
      exact Nat.lt_succ_of_lt (ih hq)
    rw [readQuoted] at h
    split at h
    next =>
      obtain ⟨d, _, h⟩ := Option.bind_eq_some_iff.mp h
      exact hnext h
    next =>
      split at h
      next => cases Option.some.inj h; exact Nat.lt_succ_self _
      next =>
        split at h
        next => exact Nat.lt_succ_of_lt (ih h)
        next =>
          split at h
          next => simp at h
          next => exact hnext h

theorem length_readPair {cs rest : List Char} {pair : String × String}
    (h : readPair cs = some (pair, rest)) : rest.length < cs.length := by
  unfold readPair at h
  split at h
  next text _ hd =>
    obtain ⟨⟨value, r⟩, hq, h⟩ := Option.map_eq_some_iff.mp h
    cases h
    have hr := length_readQuoted hq
    have hle : (cs.dropWhile isKeyChar).length ≤ cs.length :=
      (List.dropWhile_sublist isKeyChar).length_le
    rw [hd, List.length_cons, List.length_cons] at hle
    omega
  next => simp at h

/-- Reads the pairs of a tag, with any number of spaces around each of them. -/
def readPairs (cs : List Char) : Option (List (String × String)) :=
  match _ : cs.dropWhile (· == ' ') with
  | [] => some []
  | c :: ds =>
    match _ : readPair (c :: ds) with
    | none => none
    | some (pair, rest) => (readPairs rest).map (pair :: ·)
termination_by cs.length
decreasing_by
  rename_i hd hp
  have hr := length_readPair hp
  have hle : (cs.dropWhile (· == ' ')).length ≤ cs.length :=
    (List.dropWhile_sublist (· == ' ')).length_le
  rw [hd] at hle
  omega

def read (s : String) : Option (List (String × String)) :=
  readPairs s.toList

def pairText (key value : String) : String :=
  key ++ ":\"" ++ value ++ "\""

/-- Whether a part of a tag is a pair that can be read back, with spaces around it. -/
structure Spells (part : String) (pair : String × String) : Prop where
  key_ne_empty : pair.1 ≠ ""
  key_chars : ∀ c ∈ pair.1.toList, isKeyChar c = true
  value_plain : IsPlain pair.2
  text_eq : ∃ before after, part = spaces before ++ pairText pair.1 pair.2 ++ spaces after

end StructTag

end StructGen
