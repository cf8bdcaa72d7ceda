import SpriteStage.Text.Visible

/-!
# Strings shown in messages

A string that a message shows is put in quotes, with escapes for the quote, the backslash, the
common controls, and every character that would not be visible.
-/

namespace SpriteStage.Text

/-- How a character appears in a shown string. -/
def showChar (c : Char) : List Char :=
  match c with
  | '"' => ['\\', '"']
  | '\\' => ['\\', '\\']
  | '\x00' => ['\\', '0']
  | '\t' => ['\\', 't']
  | '\n' => ['\\', 'n']
  | '\r' => ['\\', 'r']
  | _ => if isVisible c then [c] else ['\\', 'u', '\x7b'] ++ Nat.toDigits 16 c.toNat ++ ['\x7d']

/-- A string in quotes, everything in it visible. -/
def shown (s : String) : String :=
  String.ofList ('"' :: s.toList.flatMap showChar ++ ['"'])

end SpriteStage.Text
