import SpriteStage.Duration
import SpriteStage.Table

/-!
# Bubble timers

Each sprite has at most one deadline, at which its bubble is cleared. Deadlines are instants, not
ticks. A new bubble replaces the deadline of the one before it.
-/

namespace SpriteStage

/-- The name of a sprite on its stage. -/
abbrev SpriteId := String

/-- The pending deadline of each sprite that has one. -/
structure BubbleTimers where
  deadlines : Table SpriteId Instant := .empty
deriving DecidableEq, Inhabited

namespace BubbleTimers

/-- The longest time that a bubble stays: a day. -/
def longestLifetime : Duration := milliseconds (24 * 60 * 60 * 1000)

/-- How long a bubble of so many seconds stays: not at all if they are negative or not finite, and
never beyond the longest lifetime. -/
def lifetime (seconds : Single) : Duration :=
  match durationOfSeconds seconds with
  | .ok time => min time longestLifetime
  | .error .negative => 0
  | .error .outOfRange => if seconds.isFinite then longestLifetime else 0

/-- Sets a deadline. There is no last instant, so every deadline can be set. -/
def schedule (b : BubbleTimers) (id : SpriteId) (now : Instant) (seconds : Single) : BubbleTimers :=
  { deadlines := b.deadlines.insert id (now + lifetime seconds) }

def cancel (b : BubbleTimers) (id : SpriteId) : BubbleTimers :=
  { deadlines := b.deadlines.erase id }

def deadline? (b : BubbleTimers) (id : SpriteId) : Option Instant := b.deadlines.find? id

def pending (b : BubbleTimers) : Nat := b.deadlines.size

/-- The earliest deadline. -/
def next? (b : BubbleTimers) : Option Instant := b.deadlines.values.min?

/-- The sprites whose deadline is not after an instant, in order. -/
def expired (b : BubbleTimers) (now : Instant) : List SpriteId :=
  (b.deadlines.filter fun _ deadline => deadline ≤ now).keys

/-- The timers without those that have expired. -/
def dropExpired (b : BubbleTimers) (now : Instant) : BubbleTimers :=
  { deadlines := b.deadlines.filter fun _ deadline => now < deadline }

/-! ## Deadlines -/

@[simp] theorem deadline?_schedule (b : BubbleTimers) (id id' : SpriteId) (now : Instant)
    (seconds : Single) :
    (b.schedule id now seconds).deadline? id' =
      if id' = id then some (now + lifetime seconds) else b.deadline? id' :=
  b.deadlines.find?_insert id id' _

@[simp] theorem deadline?_cancel (b : BubbleTimers) (id id' : SpriteId) :
    (b.cancel id).deadline? id' = if id' = id then none else b.deadline? id' :=
  b.deadlines.find?_erase id id'

@[simp] theorem deadline?_dropExpired (b : BubbleTimers) (now : Instant) (id : SpriteId) :
    (b.dropExpired now).deadline? id = (b.deadline? id).filter (now < ·) :=
  b.deadlines.find?_filter _ id

theorem pending_schedule (b : BubbleTimers) (id : SpriteId) (now : Instant) (seconds : Single) :
    (b.schedule id now seconds).pending =
      if (b.deadline? id).isSome then b.pending else b.pending + 1 :=
  b.deadlines.size_insert id _

/-- Timers with the same deadlines are equal. -/
theorem ext_deadline? {b c : BubbleTimers} (h : ∀ id, b.deadline? id = c.deadline? id) : b = c := by
  cases b; cases c
  exact congrArg _ (Table.ext_find? h)

/-! ## Expiry -/

/-- A sprite is among the expired exactly if it has a deadline that is not after the instant. -/
theorem mem_expired (b : BubbleTimers) (now : Instant) (id : SpriteId) :
    id ∈ b.expired now ↔ ∃ deadline, b.deadline? id = some deadline ∧ deadline ≤ now := by
  simp [expired, Table.keys, Table.filter, deadline?, Table.find?_eq_some_iff]

theorem notMem_expired {b : BubbleTimers} {now : Instant} {id : SpriteId}
    (h : ∀ deadline, b.deadline? id = some deadline → now < deadline) : id ∉ b.expired now := by
  rw [mem_expired]
  rintro ⟨deadline, hdeadline, hover⟩
  exact Nat.not_le.2 (h deadline hdeadline) hover

theorem sorted_expired (b : BubbleTimers) (now : Instant) : (b.expired now).Pairwise (· < ·) :=
  List.pairwise_map.2 ((b.deadlines.filter _).sorted.imp of_decide_eq_true)

/-- The deadlines that are dropped are those of the expired. -/
theorem deadline?_dropExpired_eq_ite (b : BubbleTimers) (now : Instant) (id : SpriteId) :
    (b.dropExpired now).deadline? id = if id ∈ b.expired now then none else b.deadline? id := by
  have hmem := b.mem_expired now id
  rw [deadline?_dropExpired]
  cases hdeadline : b.deadline? id with
  | none => exact (ite_self _).symm
  | some deadline =>
      have hover : id ∈ b.expired now ↔ ¬ now < deadline := by simpa [hdeadline] using hmem
      simp only [hover, ite_not, Option.filter_some, decide_eq_true_eq]

/-- What is left after an expiry is due later only. -/
theorem expired_dropExpired (b : BubbleTimers) {earlier now : Instant} (h : earlier ≤ now) :
    (b.dropExpired now).expired earlier = [] := by
  apply List.eq_nil_iff_forall_not_mem.2
  intro id
  apply notMem_expired
  intro deadline hdeadline
  rw [deadline?_dropExpired, Option.filter_eq_some_iff] at hdeadline
  exact Nat.lt_of_le_of_lt h (of_decide_eq_true hdeadline.2)

end BubbleTimers

end SpriteStage
