import SpriteStage.Decimal.Text

/-!
# JSON values and their compact text

A number is an integer of at most 64 bits or a finite 64-bit real. Objects built by
`Json.ofMembers` have their keys in increasing order, each once, the last of several members with
one key winning; the compact text writes members in the order in which they stand.
-/

namespace SpriteStage

/-- A JSON number: an integer, or a real number. -/
inductive Json.Number where
  | integer (n : Int)
  | real (x : Double)
deriving DecidableEq, Inhabited

/-- A JSON value. -/
inductive Json where
  | null
  | bool (b : Bool)
  | number (n : Json.Number)
  | string (s : String)
  | array (items : List Json)
  | object (members : List (String × Json))
deriving Inhabited

namespace Json

namespace Number

/-- The value of a number as a 64-bit real. -/
def toDouble : Number → Double
  | integer n => Binary.ofInt n
  | real x => x

/-- The value of a number in the 32-bit format, rounded once. -/
def toSingle : Number → Single
  | integer n => Binary.ofInt n
  | real x => x.convert

def text : Number → String
  | integer n => toString n
  | real x => x.toText .json

end Number

/-! ## Text -/

/-- The escape of a character inside a quoted string. Only the quote, the backslash and the control
characters below the blank are escaped. -/
def escape (c : Char) : List Char :=
  match c with
  | '"' => ['\\', '"']
  | '\\' => ['\\', '\\']
  | '\x08' => ['\\', 'b']
  | '\x0c' => ['\\', 'f']
  | '\n' => ['\\', 'n']
  | '\r' => ['\\', 'r']
  | '\t' => ['\\', 't']
  | _ =>
    if c.toNat < 0x20 then
      ['\\', 'u', '0', '0', Nat.digitChar (c.toNat / 16), Nat.digitChar (c.toNat % 16)]
    else
      [c]

def quote (s : String) : String :=
  String.ofList ('"' :: s.toList.flatMap escape ++ ['"'])

mutual

/-- The text of a value without blanks. -/
def compact : Json → String
  | null => "null"
  | bool b => if b then "true" else "false"
  | number n => n.text
  | string s => quote s
  | array items => "[" ++ ",".intercalate (compactItems items) ++ "]"
  | object members => "\x7b" ++ ",".intercalate (compactMembers members) ++ "\x7d"

def compactItems : List Json → List String
  | [] => []
  | item :: items => compact item :: compactItems items

def compactMembers : List (String × Json) → List String
  | [] => []
  | (key, value) :: members => (quote key ++ ":" ++ compact value) :: compactMembers members

end

/-! ## Objects -/

/-- A member added to members in key order; it replaces the one with its key. -/
def insertMember (key : String) (value : Json) : List (String × Json) → List (String × Json)
  | [] => [(key, value)]
  | (k, v) :: members =>
    if key < k then (key, value) :: (k, v) :: members
    else if key = k then (key, value) :: members
    else (k, v) :: insertMember key value members

/-- The object with given members: keys in order, the last member with a key winning. -/
def ofMembers (members : List (String × Json)) : Json :=
  object (members.foldl (fun done (key, value) => insertMember key value done) [])

/-- The value of an object's field; other values have no fields. -/
def field? (key : String) : Json → Option Json
  | object members => members.lookup key
  | _ => none

end Json

end SpriteStage
