import StructGen.Json.Node
import StructGen.Json.NumberText
import StructGen.Json.StringText

namespace StructGen

namespace Json

/-- A piece of a document's text. `stop` is a reason for which the text after it is not read. -/
inductive Token where
  | openBracket
  | closeBracket
  | openBrace
  | closeBrace
  | comma
  | colon
  | string (content : Except ReadError String) (stop : Option ReadError)
  | scalar (value : Except ReadError Node) (stop : Option ReadError)

namespace Token

def stop? : Token → Option ReadError
  | string _ stop | scalar _ stop => stop
  | _ => none

/-- A word that must follow its first letter, and how many characters it takes up. -/
def scanWord (value : Node) : (word : List Char) → List Char → Token × Nat
  | [], _ => (scalar (.ok value) none, 0)
  | _ :: _, [] => (scalar (.error .endInValue) (some .endInValue), 0)
  | w :: ws, c :: cs =>
    if w = c then
      let (token, n) := scanWord value ws cs
      (token, n + 1)
    else (scalar (.error .expectedWord) (some .expectedWord), 0)

def scanString (cs : List Char) : Token × Nat :=
  let content := String.ofList <$> stringContent cs
  match stringExtent cs with
  | .ok n => (string content none, n)
  | .error e => (string content (some e), 0)

def scanNumber (cs : List Char) : Token × Nat :=
  match NumberText.scan cs with
  | .ok t => (scalar (Node.number <$> t.toNumber) none, t.extent - 1)
  | .error .cut => (scalar (.error .endInValue) (some .invalidNumber), 0)
  | .error .misplaced => (scalar (.error .invalidNumber) (some .invalidNumber), 0)

/-- The token that starts with a character, and how many of the characters after it belong to
the token. -/
def scan (c : Char) (cs : List Char) : Token × Nat :=
  match c with
  | '[' => (openBracket, 0)
  | ']' => (closeBracket, 0)
  | '\x7b' => (openBrace, 0)
  | '\x7d' => (closeBrace, 0)
  | ',' => (comma, 0)
  | ':' => (colon, 0)
  | '"' => scanString cs
  | 'n' => scanWord .null ['u', 'l', 'l'] cs
  | 't' => scanWord (.bool true) ['r', 'u', 'e'] cs
  | 'f' => scanWord (.bool false) ['a', 'l', 's', 'e'] cs
  | _ =>
    if c = '-' ∨ isDigit c then scanNumber (c :: cs)
    else (scalar (.error .expectedValue) (some .expectedValue), 0)

end Token

def isSpace (c : Char) : Bool :=
  c == ' ' || c == '\n' || c == '\t' || c == '\r'

/-- The tokens of a text after the first `n` characters, which belong to an earlier token. -/
def tokensAfter : Nat → List Char → List Token
  | _, [] => []
  | n + 1, _ :: cs => tokensAfter n cs
  | 0, c :: cs =>
    if isSpace c then tokensAfter 0 cs
    else
      let (token, n) := Token.scan c cs
      match token.stop? with
      | some _ => [token]
      | none => token :: tokensAfter n cs

def tokens (cs : List Char) : List Token :=
  tokensAfter 0 cs

end Json

end StructGen
