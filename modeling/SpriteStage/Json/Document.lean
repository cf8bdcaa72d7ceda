import SpriteStage.Json.Token

/-!
# JSON documents

A document is the value that a text spells, as far as the text can be read. Where reading breaks
off, the value there is `broken` and every array or object that was open stays unclosed, so that
all that was read before is still in its place, in the order of the text. Members keep that order
and may repeat a key; a key without content is unreadable.

The tokens are consumed one by one with a stack of the containers that are open.
-/

namespace SpriteStage.Json

/-- A value as far as its text can be read. -/
inductive Document where
  | scalar (s : Scalar)
  | array (items : List Document) (closed : Bool)
  | object (members : List (Option String × Document)) (closed : Bool)
  | broken
deriving Inhabited

namespace Document

/-- Whether a value was read to its end. Nothing closes around a value that was not. -/
def isComplete : Document → Bool
  | scalar _ => true
  | array _ closed => closed
  | object _ closed => closed
  | broken => false

/-- A container that is open: its finished parts, latest first, and for an object the key whose
value comes next. -/
inductive Frame where
  | array (done : List Document)
  | object (done : List (Option String × Document)) (key : Option String)

namespace Frame

def push (value : Document) : Frame → Frame
  | array done => array (value :: done)
  | object done key => object ((key, value) :: done) none

def toDocument (closed : Bool) : Frame → Document
  | array done => .array done.reverse closed
  | object done _ => .object done.reverse closed

end Frame

/-- What the next token may be. -/
inductive Expectation where
  /-- A value. -/
  | value
  /-- The first item of an array, or its end. -/
  | item
  /-- A comma, or the end of the innermost container. -/
  | next
  /-- The first key of an object, or its end. -/
  | firstKey
  /-- A key. -/
  | key
  /-- The colon after a key. -/
  | colon

def unfinished (value : Document) : List Frame → Document
  | [] => value
  | frame :: frames => unfinished ((frame.push value).toDocument false) frames

/-- The document of a text that breaks off with containers open. -/
def breakOff : Expectation → List Frame → Document
  | .next, frame :: frames | .firstKey, frame :: frames | .key, frame :: frames =>
    unfinished (frame.toDocument false) frames
  | _, frames => unfinished broken frames

/-- What was read of a text: its document, and whether anything stands behind that. -/
structure Reading where
  root : Document
  trailing : Bool

/-- The document that tokens spell, given what is expected next and the open containers. -/
def ofTokens : Expectation → List Frame → List Token → Reading
  | expectation, frames, [] => ⟨breakOff expectation frames, false⟩
  | expectation, frames, token :: tokens =>
    let finish (value : Document) (outer : List Frame) : Reading :=
      match outer with
      | [] => ⟨value, !tokens.isEmpty⟩
      | frame :: rest => ofTokens .next (frame.push value :: rest) tokens
    match expectation, token, frames with
    | .value, .scalar s, frames | .item, .scalar s, frames => finish (.scalar s) frames
    | .value, .string s, frames | .item, .string s, frames =>
      finish (.scalar (match s with | some s => .string s | none => .unreadable)) frames
    | .value, .openArray, frames | .item, .openArray, frames =>
      ofTokens .item (.array [] :: frames) tokens
    | .value, .openObject, frames | .item, .openObject, frames =>
      ofTokens .firstKey (.object [] none :: frames) tokens
    | .item, .closeArray, frame :: frames => finish (frame.toDocument true) frames
    | .next, .comma, .array done :: frames => ofTokens .value (.array done :: frames) tokens
    | .next, .comma, .object done key :: frames => ofTokens .key (.object done key :: frames) tokens
    | .next, .closeArray, .array done :: frames =>
      finish (Frame.toDocument true (.array done)) frames
    | .next, .closeObject, .object done key :: frames =>
      finish (Frame.toDocument true (.object done key)) frames
    | .firstKey, .closeObject, frame :: frames => finish (frame.toDocument true) frames
    | .firstKey, .string s, .object done _ :: frames | .key, .string s, .object done _ :: frames =>
      ofTokens .colon (.object done s :: frames) tokens
    | .colon, .colon, frames => ofTokens .value frames tokens
    | expectation, _, frames => ⟨breakOff expectation frames, false⟩

def ofText (text : String) : Reading := ofTokens .value [] (Token.ofText text.toList)

/-! ## Documents of values -/

mutual

def ofJson : Json → Document
  | .null => .scalar .null
  | .bool b => .scalar (.bool b)
  | .number n => .scalar (.number n)
  | .string s => .scalar (.string s)
  | .array items => .array (ofItems items) true
  | .object members => .object (ofMembers members) true

def ofItems : List Json → List Document
  | [] => []
  | item :: items => ofJson item :: ofItems items

def ofMembers : List (String × Json) → List (Option String × Document)
  | [] => []
  | (key, value) :: members => (some key, ofJson value) :: ofMembers members

end

end Document

end SpriteStage.Json
