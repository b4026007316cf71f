import StructGen.Json.Token

namespace StructGen

namespace Json

/-- A container that is still open around the place where the reader stands, with what was read
of it, the latest first. -/
inductive OpenNode where
  | array (items : List Node)
  | object (members : List Member) (key : Except ReadError String)

/-- What the reader waits for, inside which open containers. `first` tells that nothing of the
container in question was read yet. -/
inductive ReadState where
  | root
  | item (first : Bool) (items : List Node) (outer : List OpenNode)
  | afterItem (items : List Node) (outer : List OpenNode)
  | key (first : Bool) (members : List Member) (outer : List OpenNode)
  | colon (members : List Member) (key : Except ReadError String) (outer : List OpenNode)
  | member (members : List Member) (key : Except ReadError String) (outer : List OpenNode)
  | afterMember (members : List Member) (outer : List OpenNode)
  | afterRoot (n : Node)

/-- What was read of a text: a value, and whether something follows it. -/
structure Document where
  root : Node
  trailing : Bool

namespace ReadState

/-- Closes the open containers around a value after which nothing is read. -/
def close (n : Node) : List OpenNode → Node
  | [] => n
  | .array items :: outer => close (.array (n :: items).reverse .cut) outer
  | .object members k :: outer => close (.object ((k, n) :: members).reverse .cut) outer

def accept (n : Node) : List OpenNode → ReadState
  | [] => .afterRoot n
  | .array items :: outer => .afterItem (n :: items) outer
  | .object members k :: outer => .afterMember ((k, n) :: members) outer

/-- A next state, or the document if the rest of the text is not read. -/
abbrev Step := Document ⊕ ReadState

def halt (n : Node) (outer : List OpenNode) : Step :=
  .inl ⟨close n outer, false⟩

/-- A value, after which nothing is read if there is a reason to stop. -/
def acceptOrHalt (n : Node) (stop : Option ReadError) (outer : List OpenNode) : Step :=
  match stop with
  | none => .inr (accept n outer)
  | some _ => halt n outer

def startValue (outer : List OpenNode) : Token → Step
  | .openBracket => .inr (.item true [] outer)
  | .openBrace => .inr (.key true [] outer)
  | .string (.ok s) stop => acceptOrHalt (.string s) stop outer
  | .string (.error e) stop => acceptOrHalt (.fault ⟨e, stop, e⟩) stop outer
  | .scalar (.ok n) stop => acceptOrHalt n stop outer
  | .scalar (.error e) stop => acceptOrHalt (.fault ⟨e, stop, .expectedValue⟩) stop outer
  | .closeBracket | .closeBrace | .comma | .colon => halt (.fault (.same .expectedValue)) outer

def step : ReadState → Token → Step
  | root, token => startValue [] token
  | item first items outer, token =>
    match token with
    | .closeBracket =>
      if first then .inr (accept (.array [] .closed) outer)
      else halt (.array items.reverse .trailingComma) outer
    | _ => startValue (.array items :: outer) token
  | afterItem items outer, token =>
    match token with
    | .comma => .inr (item false items outer)
    | .closeBracket => .inr (accept (.array items.reverse .closed) outer)
    | _ => halt (.array items.reverse .unseparated) outer
  | key first members outer, token =>
    match token with
    | .string content none => .inr (colon members content outer)
    | .string content (some stop) =>
      let reading := match content with
        | .ok _ => stop
        | .error e => e
      halt (.fault ⟨reading, some stop, reading⟩) (.object members (.error reading) :: outer)
    | .closeBrace =>
      if first then .inr (accept (.object [] .closed) outer)
      else halt (.object members.reverse .trailingComma) outer
    | _ => halt (.object members.reverse .badKey) outer
  | colon members k outer, token =>
    match token with
    | .colon => .inr (member members k outer)
    | _ => halt (.fault (.same .expectedColon)) (.object members k :: outer)
  | member members k outer, token => startValue (.object members k :: outer) token
  | afterMember members outer, token =>
    match token with
    | .comma => .inr (.key false members outer)
    | .closeBrace => .inr (accept (.object members.reverse .closed) outer)
    | _ => halt (.object members.reverse .unseparated) outer
  | afterRoot n, _ => .inl ⟨n, true⟩

def atEnd : ReadState → Document
  | root => ⟨.fault (.same .endInValue), false⟩
  | item first items outer =>
    ⟨close (.array items.reverse (if first then .cut else .cutAfterComma)) outer, false⟩
  | afterItem items outer => ⟨close (.array items.reverse .cut) outer, false⟩
  | key first members outer =>
    ⟨close (.object members.reverse (if first then .cut else .cutAfterComma)) outer, false⟩
  | colon members k outer =>
    ⟨close (.fault (.same .endInObject)) (.object members k :: outer), false⟩
  | member members k outer =>
    ⟨close (.fault (.same .endInValue)) (.object members k :: outer), false⟩
  | afterMember members outer => ⟨close (.object members.reverse .cut) outer, false⟩
  | afterRoot n => ⟨n, false⟩

def run : ReadState → List Token → Document
  | state, [] => state.atEnd
  | state, t :: ts =>
    match state.step t with
    | .inl document => document
    | .inr next => run next ts

end ReadState

namespace Document

def ofText (text : String) : Document :=
  ReadState.root.run (tokens text.toList)

/-- Reads the value of a document with a reader; nothing may follow the value. -/
def readWith {α : Type} (d : Document) (read : Node → Except ReadError α) : Except ReadError α := do
  let value ← read d.root
  if d.trailing then
    throw .trailingCharacters
  pure value

end Document

end Json

end StructGen
