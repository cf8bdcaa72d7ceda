import SpriteStage.Json.Numeral

/-!
# JSON tokens

A text is cut into tokens up to the first place where no token can be read. A string or number that
has the right form and yet no value (half of a surrogate pair, a number beyond the finite reals) is
an `unreadable` token: it can be passed over but not be decoded.
-/

namespace SpriteStage.Json

/-- A value that is a single token; `unreadable` has the form of a value only. -/
inductive Scalar where
  | null
  | bool (b : Bool)
  | number (n : Number)
  | string (s : String)
  | unreadable

/-- A token of JSON text. A string token has no content if it is unreadable. -/
inductive Token where
  | openArray
  | closeArray
  | openObject
  | closeObject
  | comma
  | colon
  | string (content : Option String)
  | scalar (s : Scalar)
  | broken

/-! ## Strings -/

/-- A piece of a quoted string: a character, or a 16-bit code unit that was given by number. -/
inductive Piece where
  | char (c : Char)
  | unit (n : Nat)

def hexValue? (c : Char) : Option Nat :=
  if '0' ≤ c ∧ c ≤ '9' then some (c.toNat - '0'.toNat)
  else if 'a' ≤ c ∧ c ≤ 'f' then some (c.toNat - 'a'.toNat + 10)
  else if 'A' ≤ c ∧ c ≤ 'F' then some (c.toNat - 'A'.toNat + 10)
  else none

def codeUnit? (a b c d : Char) : Option Nat := do
  let a ← hexValue? a
  let b ← hexValue? b
  let c ← hexValue? c
  let d ← hexValue? d
  return ((a * 16 + b) * 16 + c) * 16 + d

def escaped? : Char → Option Char
  | '"' => some '"'
  | '\\' => some '\\'
  | '/' => some '/'
  | 'b' => some '\x08'
  | 'f' => some '\x0c'
  | 'n' => some '\n'
  | 'r' => some '\r'
  | 't' => some '\t'
  | _ => none

def consPiece {cs ds : List Char} (p : Piece) (h : cs.length ≤ ds.length) :
    Option (List Piece × Rest cs) → Option (List Piece × Rest ds)
  | some (ps, ⟨rest, hr⟩) => some (p :: ps, ⟨rest, Nat.le_trans hr h⟩)
  | none => none

/-- The pieces of a string up to its closing quote, or nothing if the text ends first, holds a raw
control character or an escape that does not exist. -/
def stringBody : (cs : List Char) → Option (List Piece × Rest cs)
  | [] => none
  | '"' :: cs => some ([], ⟨cs, by simp⟩)
  | '\\' :: 'u' :: a :: b :: c :: d :: cs =>
    match codeUnit? a b c d with
    | some n => consPiece (.unit n) (by simp; omega) (stringBody cs)
    | none => none
  | '\\' :: e :: cs =>
    match escaped? e with
    | some c => consPiece (.char c) (by simp; omega) (stringBody cs)
    | none => none
  | c :: cs =>
    if c.toNat < 0x20 ∨ c = '\\' then none
    else consPiece (.char c) (by simp) (stringBody cs)

/-- The characters of the pieces, surrogate pairs joined; nothing if half of a pair stands alone. -/
def joinPieces : List Piece → Option (List Char)
  | [] => some []
  | .char c :: ps => (joinPieces ps).map (c :: ·)
  | .unit n :: .unit m :: ps =>
    if 0xd800 ≤ n ∧ n < 0xdc00 ∧ 0xdc00 ≤ m ∧ m < 0xe000 then
      (joinPieces ps).map (Char.ofNat (0x10000 + (n - 0xd800) * 0x400 + (m - 0xdc00)) :: ·)
    else if 0xd800 ≤ n ∧ n < 0xe000 then
      none
    else
      (joinPieces (.unit m :: ps)).map (Char.ofNat n :: ·)
  | .unit n :: ps =>
    if 0xd800 ≤ n ∧ n < 0xe000 then none else (joinPieces ps).map (Char.ofNat n :: ·)

/-! ## Tokens -/

/-- The rest of a text that must go on with a given word. -/
def afterWord? : (word cs : List Char) → Option (Rest cs)
  | [], cs => some (Rest.all cs)
  | _ :: _, [] => none
  | w :: word, c :: cs =>
    if w = c then (afterWord? word cs).map fun rest => ⟨rest.1, Nat.le_succ_of_le rest.2⟩
    else none

def wordToken (word : String) (s : Scalar) (cs : List Char) : Token × Rest cs :=
  match afterWord? word.toList cs with
  | some rest => (.scalar s, rest)
  | none => (.broken, Rest.all cs)

def stringToken (cs : List Char) : Token × Rest cs :=
  match stringBody cs with
  | some (ps, rest) => (.string ((joinPieces ps).map String.ofList), rest)
  | none => (.broken, Rest.all cs)

def numberToken (negative : Bool) (c : Char) (cs : List Char) : Token × Rest cs :=
  match Numeral.unsigned? negative c cs with
  | some (n, rest) =>
    match n.value? with
    | some x => (.scalar (.number x), rest)
    | none => (.scalar .unreadable, rest)
  | none => (.broken, Rest.all cs)

/-- The token that starts with `c`, and what follows it in `cs`. -/
def Token.read (c : Char) (cs : List Char) : Token × Rest cs :=
  let single (t : Token) : Token × Rest cs := (t, Rest.all cs)
  match c with
  | '[' => single .openArray
  | ']' => single .closeArray
  | '\x7b' => single .openObject
  | '\x7d' => single .closeObject
  | ',' => single .comma
  | ':' => single .colon
  | '"' => stringToken cs
  | 'n' => wordToken "ull" .null cs
  | 't' => wordToken "rue" (.bool true) cs
  | 'f' => wordToken "alse" (.bool false) cs
  | '-' =>
    match cs with
    | [] => (.broken, Rest.all [])
    | d :: ds =>
      let (t, rest) := numberToken true d ds
      (t, ⟨rest.1, Nat.le_succ_of_le rest.2⟩)
  | _ => numberToken false c cs

def isSeparator (c : Char) : Bool := c == ' ' || c == '\n' || c == '\t' || c == '\r'

/-- The tokens of a text; after a broken one nothing more is read. -/
def Token.ofText : List Char → List Token
  | [] => []
  | c :: cs =>
    if isSeparator c then
      Token.ofText cs
    else
      match Token.read c cs with
      | (.broken, _) => [.broken]
      | (t, rest) => t :: Token.ofText rest.1
termination_by cs => cs.length
decreasing_by
  · simp
  · exact Nat.lt_succ_of_le rest.2

end SpriteStage.Json
