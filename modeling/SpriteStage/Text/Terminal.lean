/-!
# Terminal control

A text can hold sequences that a terminal obeys instead of showing them. `withoutControl` is the
text that is left for anything else than a terminal: control characters and control sequences are
gone, tabs and line breaks stay.

A sequence starts with the escape character; what follows tells its kind and so its end. A tab or
line break inside a short sequence is kept and suspends it: what follows is text up to the next
control character, with which the sequence goes on, or up to a character beyond ASCII, which drops
the sequence. Strings for the terminal swallow everything up to their end.
-/

namespace SpriteStage.Text

namespace Terminal

/-- A control sequence that has begun and not yet ended. -/
inductive Sequence where
  /-- The escape character alone. -/
  | escape
  /-- An escape sequence that waits for its final character. -/
  | intermediate
  /-- A control sequence with parameters, which a letter ends. -/
  | control
  /-- A device string of which only the introducer was read. -/
  | device
  | deviceParameters
  | deviceIntermediate
  /-- The inside of a string for the terminal. -/
  | body
  /-- A command for the operating system, which the bell ends. -/
  | command
deriving DecidableEq

inductive Mode where
  /-- Text that is shown, inside a suspended sequence or not. -/
  | text (suspended : Option Sequence)
  | inside (s : Sequence)
deriving DecidableEq

def isLayout (c : Char) : Bool := c == '\t' || c == '\n' || c == '\x0c' || c == '\r'

def isKept (c : Char) : Bool := isLayout c || 0x20 ≤ c.toNat && c != '\x7f'

namespace Sequence

/-- Whether a tab or line break suspends a sequence; the others swallow it. -/
def isSuspendable : Sequence → Bool
  | escape | intermediate | control => true
  | device | deviceParameters | deviceIntermediate | body | command => false

/-- Whether a character ends a string: the terminator is a single byte, and it is found in the
encoding of other characters too. -/
def endsString (c : Char) : Bool := (String.utf8EncodeChar c).contains 0x9c

/-- A sequence after one more character, nothing if that ends it. -/
def next (s : Sequence) (c : Char) : Option Sequence :=
  let isIntermediate := 0x20 ≤ c.toNat && c.toNat < 0x30
  let isParameter := 0x30 ≤ c.toNat && c.toNat < 0x40
  let isFinal := 0x40 ≤ c.toNat && c.toNat < 0x7f
  match s with
  | escape =>
    if isIntermediate then some intermediate
    else if c = '[' then some control
    else if c = ']' then some command
    else if c = 'P' then some device
    else if c = 'X' ∨ c = '^' ∨ c = '_' then some body
    else if isParameter || isFinal then none
    else some escape
  | intermediate => if isParameter || isFinal then none else some intermediate
  | control => if isFinal then none else some control
  | device =>
    if isIntermediate then some deviceIntermediate
    else if isParameter then some deviceParameters
    else if isFinal then some body
    else some device
  | deviceParameters =>
    if isIntermediate then some deviceIntermediate
    else if isFinal || '<' ≤ c && c ≤ '?' then some body
    else some deviceParameters
  | deviceIntermediate => if isParameter || isFinal then some body else some deviceIntermediate
  | body => if endsString c then none else some body
  | command => if c = '\x07' then none else some command

end Sequence

namespace Mode

/-- The mode after a character, and whether the character is kept. The escape character starts a
new sequence anywhere; cancel and substitute end any. -/
def step (m : Mode) (c : Char) : Mode × Bool :=
  if c = '\x1b' then (inside .escape, false)
  else if c = '\x18' ∨ c = '\x1a' then (text none, false)
  else
    match m with
    | text suspended =>
      if isKept c then (text (if c.toNat < 0x80 then suspended else none), true)
      else (suspended.elim (text none) inside, false)
    | inside s =>
      if isLayout c && s.isSuspendable then (text (some s), true)
      else ((s.next c).elim (text none) inside, false)

def kept : Mode → List Char → List Char
  | _, [] => []
  | m, c :: cs =>
    let (m, keep) := m.step c
    if keep then c :: m.kept cs else m.kept cs

end Mode

end Terminal

/-- A text without what only a terminal understands. -/
def withoutControl (s : String) : String :=
  String.ofList ((Terminal.Mode.text none).kept s.toList)

end SpriteStage.Text
