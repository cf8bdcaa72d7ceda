import SpriteStage.Binary.Basic

/-!
# Instants and durations

Time is counted in whole nanoseconds. A number of seconds becomes the nearest number of nanoseconds,
a half going to the even neighbour.
-/

namespace SpriteStage

/-- A point in time, in nanoseconds; there is no last one. -/
abbrev Instant := Nat

/-- A length of time, in nanoseconds. -/
abbrev Duration := Nat

def milliseconds (n : Nat) : Duration := n * 1000000

/-- Why a number of seconds is not a duration. -/
inductive DurationError where
  | negative
  /-- The number is a NaN or from `2 ^ 64` on. -/
  | outOfRange
deriving DecidableEq

/-- A number of seconds as a duration. A negative zero is zero. -/
def durationOfSeconds (seconds : Single) : Except DurationError Duration :=
  if seconds < 0 then
    .error .negative
  else
    match seconds with
    | .finite _ units _ =>
      if units < 2 ^ (64 + Format.single.scale) then
        .ok (roundQuotient (units * 10 ^ (9 : Nat)) (2 ^ Format.single.scale))
      else
        .error .outOfRange
    | _ => .error .outOfRange

/-- A duration as a number of seconds: whole seconds and the fraction rounded apart, then added. -/
def secondsOfDuration (time : Duration) : Single :=
  .ofInt (time / 10 ^ (9 : Nat) : Nat) +
    .ofInt (time % 10 ^ (9 : Nat) : Nat) / .ofInt (10 ^ (9 : Nat))

end SpriteStage
