import SpriteStage.Decimal.Reading
import SpriteStage.Text.Blank

/-!
# Numbers written by hand

The grammar of a number on a command line: an optional sign, then digits with a point before,
between or behind them and an optional exponent, or one of the words for infinity and NaN in any
case. Blanks are not allowed. The value is the nearest number of the format.
-/

namespace SpriteStage

/-- Why a text is not a number. -/
inductive LiteralError where
  | empty
  | invalid
deriving DecidableEq

def LiteralError.message : LiteralError → String
  | empty => "cannot parse float from empty string"
  | invalid => "invalid float literal"

namespace Literal

/-- The sign in front of a number, and the rest. -/
def splitSign : List Char → Bool × List Char
  | '-' :: cs => (true, cs)
  | '+' :: cs => (false, cs)
  | cs => (false, cs)

/-- An exponent that ends the text, or zero at the end of the text. -/
def exponent? : List Char → Option Int
  | [] => some 0
  | c :: cs =>
    if c = 'e' ∨ c = 'E' then
      let (negative, cs) := splitSign cs
      match Digits.span cs with
      | ([], _) => none
      | (ds, []) => some (signedExponent negative (Digits.toNat ds))
      | _ => none
    else
      none
where
  signedExponent (negative : Bool) (n : Nat) : Int := if negative then -n else n

/-- Digits with an optional point and exponent. -/
def decimal? (cs : List Char) : Option Decimal := do
  let (whole, rest) := Digits.span cs
  let (fraction, rest) := match rest with
    | '.' :: rest => Digits.span rest
    | rest => ([], rest)
  if whole.isEmpty && fraction.isEmpty then none
  let exponent ← exponent? rest
  return ⟨Digits.toNat (whole ++ fraction), exponent - fraction.length⟩

end Literal

/-- The number that a text writes. -/
def Binary.ofLiteral {φ : Format} (text : String) : Except LiteralError (Binary φ) :=
  let (negative, cs) := Literal.splitSign text.toList
  match Text.lowerCase (String.ofList cs) with
  | "inf" | "infinity" => .ok (.infinite negative)
  | "nan" => .ok .nan
  | _ =>
    match Literal.decimal? cs with
    | some d => .ok (.ofDecimal negative d)
    | none => .error (if text.isEmpty then .empty else .invalid)

end SpriteStage
