import StructGen.Json.ReadError

namespace StructGen

namespace Json

def hexDigit? (c : Char) : Option Nat :=
  if '0' ≤ c ∧ c ≤ '9' then some (c.toNat - '0'.toNat)
  else if 'a' ≤ c ∧ c ≤ 'f' then some (c.toNat - 'a'.toNat + 10)
  else if 'A' ≤ c ∧ c ≤ 'F' then some (c.toNat - 'A'.toNat + 10)
  else none

def codeUnit? (a b c d : Char) : Option Nat := do
  pure ((((← hexDigit? a) * 16 + (← hexDigit? b)) * 16 + (← hexDigit? c)) * 16 + (← hexDigit? d))

/-- What is wrong where the text has no room for four digits: it ends if fewer than four bytes
are left, and otherwise they are no digits. -/
def shortEscape (cs : List Char) : ReadError :=
  if (String.ofList cs).utf8ByteSize < 4 then .endInString else .invalidEscape

def plainEscape? : Char → Option Char
  | '"' => some '"'
  | '\\' => some '\\'
  | '/' => some '/'
  | 'b' => some '\x08'
  | 'f' => some '\x0c'
  | 'n' => some '\n'
  | 'r' => some '\r'
  | 't' => some '\t'
  | _ => none

def isHighSurrogate (n : Nat) : Bool :=
  decide (0xD800 ≤ n ∧ n ≤ 0xDBFF)

def isLowSurrogate (n : Nat) : Bool :=
  decide (0xDC00 ≤ n ∧ n ≤ 0xDFFF)

/-- The content of a string whose opening quote has been read. Two escapes that make up a
surrogate pair give one character, and no other surrogate is allowed. -/
def stringContent : List Char → Except ReadError (List Char)
  | [] => .error .endInString
  | '"' :: _ => .ok []
  | '\\' :: [] => .error .endInString
  | '\\' :: 'u' :: cs =>
    match cs with
    | a :: b :: c :: d :: cs =>
      match codeUnit? a b c d with
      | none => .error .invalidEscape
      | some high =>
        if isLowSurrogate high then .error .loneSurrogate
        else if isHighSurrogate high then
          match cs with
          | [] => .error .endInString
          | '\\' :: [] => .error .endInString
          | '\\' :: 'u' :: cs =>
            match cs with
            | e :: f :: g :: h :: cs =>
              match codeUnit? e f g h with
              | none => .error .invalidEscape
              | some low =>
                if isLowSurrogate low then
                  let code := 0x10000 + (high - 0xD800) * 0x400 + (low - 0xDC00)
                  (Char.ofNat code :: ·) <$> stringContent cs
                else .error .loneSurrogate
            | cs => .error (shortEscape cs)
          | _ => .error .unfinishedSurrogate
        else (Char.ofNat high :: ·) <$> stringContent cs
    | cs => .error (shortEscape cs)
  | '\\' :: c :: cs =>
    match plainEscape? c with
    | some e => (e :: ·) <$> stringContent cs
    | none => .error .invalidEscape
  | c :: cs =>
    if c.toNat < 0x20 then .error .controlCharacter else (c :: ·) <$> stringContent cs

/-- How many characters a string takes up to its closing quote, the opening quote not counted;
surrogates may stand alone here. -/
def stringExtent : List Char → Except ReadError Nat
  | [] => .error .endInString
  | '"' :: _ => .ok 1
  | '\\' :: [] => .error .endInString
  | '\\' :: 'u' :: cs =>
    match cs with
    | a :: b :: c :: d :: cs =>
      match codeUnit? a b c d with
      | none => .error .invalidEscape
      | some _ => (· + 6) <$> stringExtent cs
    | cs => .error (shortEscape cs)
  | '\\' :: c :: cs =>
    match plainEscape? c with
    | some _ => (· + 2) <$> stringExtent cs
    | none => .error .invalidEscape
  | c :: cs =>
    if c.toNat < 0x20 then .error .controlCharacter else (· + 1) <$> stringExtent cs

end Json

end StructGen
