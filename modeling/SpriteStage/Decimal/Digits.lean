/-!
# Runs of decimal digits

Writing a natural number in decimal, and reading a run of decimal digits.
-/

namespace SpriteStage.Digits

/-- The decimal digits of a number, most significant first. -/
def ofNat (n : Nat) : List Char := Nat.toDigits 10 n

/-- A decimal digit of ASCII. -/
def isDigit (c : Char) : Bool := '0' ≤ c && c ≤ '9'

/-- The value of a digit. -/
def value (c : Char) : Nat := c.toNat - '0'.toNat

/-- The number that a run of digits spells; the empty run spells zero. -/
def toNat (cs : List Char) : Nat := cs.foldl (fun n c => 10 * n + value c) 0

/-- The run of digits at the front of a text, and what follows it. -/
def span (cs : List Char) : List Char × List Char :=
  (cs.takeWhile isDigit, cs.dropWhile isDigit)

theorem length_span_snd_le (cs : List Char) : (span cs).2.length ≤ cs.length :=
  (List.dropWhile_sublist _).length_le

end SpriteStage.Digits
