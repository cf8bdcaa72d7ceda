import SpriteStage.BubbleTimers

/-!
# Made-up ids

The ids of sprites that have none of their own: a random UUID behind a fixed word. `FreshId.make`
turns the random bits and a serial number into an id.
-/

namespace SpriteStage.FreshId

/-- The lowest `count` hexadecimal digits of a number, the most significant first. -/
def hexDigits (count n : Nat) : List Char :=
  (List.range count).reverse.map fun i => Nat.digitChar (n / 16 ^ i % 16)

/-- The UUID of version 4 with given random bits. -/
def uuid (bits : Nat) : String :=
  String.ofList <|
    hexDigits 8 (bits / 2 ^ (90 : Nat)) ++ '-' :: hexDigits 4 (bits / 2 ^ (74 : Nat)) ++
    '-' :: '4' :: hexDigits 3 (bits / 2 ^ (62 : Nat)) ++
    '-' :: Nat.digitChar (8 + bits / 2 ^ (60 : Nat) % 4) :: hexDigits 3 (bits / 2 ^ (48 : Nat)) ++
    '-' :: hexDigits 12 bits

/-- The id number `n` from a random seed. -/
def make (seed n : Nat) : SpriteId := s!"sprite-{uuid (seed + n)}"

end SpriteStage.FreshId
