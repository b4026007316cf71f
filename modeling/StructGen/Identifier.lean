namespace StructGen

inductive NameStyle where
  /-- `user_id` becomes `UserId`. -/
  | snake
  | same
  /-- `user_id` becomes `UserID`. -/
  | gonic
  deriving DecidableEq, Inhabited

/-- Drops underscores and writes the first character after one in upper case; `capital` says
whether the next character is such a first one. -/
def capitalizeWords : Bool → List Char → List Char
  | _, [] => []
  | capital, c :: cs =>
    if c = '_' then capitalizeWords true cs
    else if capital then c.toUpper :: capitalizeWords false cs
    else c :: capitalizeWords false cs

def snakeIdentifier (name : String) : String :=
  String.ofList (capitalizeWords true name.toList)

def underscorePieces : List Char → List (List Char)
  | [] => [[]]
  | c :: cs =>
    if c = '_' then [] :: underscorePieces cs
    else
      match underscorePieces cs with
      | [] => [[c]]
      | w :: ws => (c :: w) :: ws

/-- The words of a name: its pieces between underscores that are not empty. -/
def underscoreWords (name : List Char) : List (List Char) :=
  (underscorePieces name).filter (!·.isEmpty)

def commonInitialisms : List String :=
  ["ACL", "API", "ASCII", "CPU", "CSS", "DNS", "EOF", "GUID", "HTML", "HTTP", "HTTPS", "ID", "IP",
   "JSON", "LHS", "QPS", "RAM", "RHS", "RPC", "SLA", "SMTP", "SQL", "SSH", "TCP", "TLS", "TTL",
   "UDP", "UI", "UID", "UUID", "URI", "URL", "UTF8", "VM", "XML", "XMPP", "XSRF", "XSS"]

/-- An initialism in upper case; any other word with only its first character so. -/
def gonicWord (word : List Char) : List Char :=
  let upper := word.map Char.toUpper
  if String.ofList upper ∈ commonInitialisms then upper
  else
    match word with
    | [] => []
    | c :: cs => c.toUpper :: cs.map Char.toLower

def gonicIdentifier (name : String) : String :=
  String.ofList ((underscoreWords name.toList).flatMap gonicWord)

namespace NameStyle

def identifier : NameStyle → String → String
  | snake => snakeIdentifier
  | same => id
  | gonic => gonicIdentifier

end NameStyle

/-- The name without the given start, or the whole name if it does not start so. -/
def dropStart (start name : String) : String :=
  match start.toList.isPrefixOf? name.toList with
  | some rest => String.ofList rest
  | none => name

/-- The identifier of a name whose start, if there is one to leave out, is dropped first. -/
def NameStyle.identifierWithout (style : NameStyle) (start : Option String) (name : String) :
    String :=
  match start with
  | some s => style.identifier (dropStart s name)
  | none => style.identifier name

def goKeywords : List String :=
  ["break", "case", "chan", "const", "continue", "default", "defer", "else", "fallthrough", "for",
   "func", "go", "goto", "if", "import", "interface", "map", "package", "range", "return",
   "select", "struct", "switch", "type", "var"]

def isWordStart (c : Char) : Bool :=
  c.isAlpha || c == '_'

def isWordChar (c : Char) : Bool :=
  c.isAlphanum || c == '_'

/-- Whether a name can be that of a package: an ASCII word that is no keyword. -/
def isValidPackage (name : String) : Bool :=
  match name.toList with
  | [] => false
  | c :: cs => isWordStart c && cs.all isWordChar && !goKeywords.contains name

end StructGen
