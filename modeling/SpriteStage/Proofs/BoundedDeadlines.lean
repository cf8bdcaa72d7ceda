import Mathlib.Algebra.Order.Group.MinMax
import SpriteStage.BubbleTimers
import SpriteStage.Proofs.NearestNumbers

/-!
# Deadlines within a day

A bubble stays for the number of nanoseconds that is nearest to its seconds, held between none and a
day. That one rule covers every finite number (`BubbleTimers.lifetime_finite`): a number that is too
great for a duration is longer than a day as well, so there is no jump where the conversion begins
to fail. A deadline that is set leaves the others alone, and an expiry takes out the timers that are
due, in the order of their ids, and no others (`BubbleTimers.deadlines_exact`).
-/

namespace SpriteStage

variable {units m n : Nat} {seconds longer : Single} {instant earlier : Instant}

/-! ## Seconds as nanoseconds -/

/-- The number of nanoseconds nearest to some units of a second. -/
def nanoseconds (units : Nat) : Duration :=
  roundQuotient (units * 10 ^ (9 : Nat)) (2 ^ Format.single.scale)

theorem nanoseconds_zero : nanoseconds 0 = 0 := by
  rw [nanoseconds, Nat.zero_mul, roundQuotient_of_dvd (Nat.two_pow_pos _) (Nat.dvd_zero _),
    Nat.zero_div]

theorem nanoseconds_mono (h : m ≤ n) : nanoseconds m ≤ nanoseconds n :=
  roundQuotient_mono (Nat.two_pow_pos _) (Nat.mul_le_mul_right _ h)

theorem nanoseconds_near (units : Nat) :
    |(nanoseconds units : ℚ) - units / 2 ^ Format.single.scale * 10 ^ (9 : Nat)| ≤ 1 / 2 := by
  have hnear := (roundQuotient_near (units * 10 ^ (9 : Nat))
    (Nat.two_pow_pos Format.single.scale)).1
  rw [div_mul_eq_mul_div]
  exact_mod_cast hnear

theorem durationOfSeconds_of_neg (h : seconds < 0) : durationOfSeconds seconds = .error .negative :=
  if_pos h

theorem durationOfSeconds_of_not_isFinite (hneg : ¬ seconds < 0) (h : seconds.isFinite = false) :
    durationOfSeconds seconds = .error .outOfRange := by
  unfold durationOfSeconds
  rw [if_neg hneg]
  cases seconds with
  | finite => cases h
  | _ => rfl

theorem durationOfSeconds_finite {negative : Bool} {held : Format.single.Holds units}
    (hneg : ¬ (.finite negative units held : Single) < 0) :
    durationOfSeconds (.finite negative units held) =
      if units < 2 ^ (64 + Format.single.scale) then .ok (nanoseconds units)
      else .error .outOfRange :=
  if_neg hneg

namespace Binary

variable {φ : Format}

theorem max_toRat_zero (negative : Bool) (held : φ.Holds units) :
    max (.finite negative units held : Binary φ).toRat 0 =
      (signed negative units).toNat / 2 ^ φ.scale := by
  have hcast : ((signed negative units).toNat : ℚ) = max (signed negative units : ℚ) 0 := by
    exact_mod_cast Int.toNat_eq_max (signed negative units)
  rw [hcast, toRat, ← max_div_div_right (two_pow_scale_pos φ).le, zero_div]

end Binary

namespace BubbleTimers

/-- What is too long for a duration is longer than a day. -/
theorem longestLifetime_le_nanoseconds (h : 2 ^ (64 + Format.single.scale) ≤ units) :
    longestLifetime ≤ nanoseconds units := by
  have hday : longestLifetime ≤ 2 ^ (64 : Nat) := by decide
  apply le_roundQuotient (Nat.two_pow_pos _)
  calc longestLifetime * 2 ^ Format.single.scale
      ≤ 2 ^ (64 : Nat) * 2 ^ Format.single.scale := Nat.mul_le_mul_right _ hday
    _ = 2 ^ (64 + Format.single.scale) := (Nat.pow_add ..).symm
    _ ≤ units := h
    _ ≤ units * 10 ^ (9 : Nat) := Nat.le_mul_of_pos_right _ (by decide)

/-! ## Lifetimes -/

theorem lifetime_of_neg (h : seconds < 0) : lifetime seconds = 0 := by
  rw [lifetime, durationOfSeconds_of_neg h]

theorem lifetime_of_not_isFinite (h : seconds.isFinite = false) : lifetime seconds = 0 := by
  by_cases hneg : seconds < 0
  · exact lifetime_of_neg hneg
  · rw [lifetime, durationOfSeconds_of_not_isFinite hneg h]
    exact if_neg (Bool.eq_false_iff.1 h)

theorem lifetime_of_not_neg {negative : Bool} {held : Format.single.Holds units}
    (h : ¬ (.finite negative units held : Single) < 0) :
    lifetime (.finite negative units held) = min (nanoseconds units) longestLifetime := by
  rw [lifetime, durationOfSeconds_finite h]
  by_cases hunits : units < 2 ^ (64 + Format.single.scale)
  · rw [if_pos hunits]
  · -- The conversion fails, and what is finite then gets the whole day.
    rw [if_neg hunits, Nat.min_eq_right (longestLifetime_le_nanoseconds (Nat.not_lt.1 hunits))]
    exact if_pos rfl

/-- One rule for all finite numbers, also where they are negative or too great for a duration. -/
theorem lifetime_finite (negative : Bool) (held : Format.single.Holds units) :
    lifetime (.finite negative units held) =
      min (nanoseconds (signed negative units).toNat) longestLifetime := by
  have hneg : (.finite negative units held : Single) < 0 ↔ signed negative units < 0 :=
    Binary.lt_iff_of_places rfl (Binary.place_zero _)
  by_cases h : signed negative units < 0
  · rw [lifetime_of_neg (hneg.2 h), Int.toNat_of_nonpos h.le, nanoseconds_zero, Nat.zero_min]
  · have hunits : (signed negative units).toNat = units := by
      have habs := Binary.natAbs_signed negative units
      omega
    rw [lifetime_of_not_neg (mt hneg.1 h), hunits]

theorem lifetime_le (seconds : Single) : lifetime seconds ≤ longestLifetime := by
  cases seconds with
  | finite negative units held =>
      rw [lifetime_finite]
      exact Nat.min_le_right _ _
  | _ =>
      rw [lifetime_of_not_isFinite rfl]
      exact Nat.zero_le _

theorem lifetime_mono (hseconds : seconds.isFinite = true) (hlonger : longer.isFinite = true)
    (h : seconds ≤ longer) : lifetime seconds ≤ lifetime longer := by
  obtain ⟨_, _, _, rfl⟩ := Binary.exists_finite_of_isFinite hseconds
  obtain ⟨_, _, _, rfl⟩ := Binary.exists_finite_of_isFinite hlonger
  have hsigned := (Binary.le_iff_of_places rfl rfl).1 h
  rw [lifetime_finite, lifetime_finite]
  apply min_le_min_right
  apply nanoseconds_mono
  exact Int.toNat_le_toNat hsigned

theorem lifetime_of_nonpos (h : seconds ≤ 0) : lifetime seconds = 0 := by
  cases hfinite : seconds.isFinite with
  | false => exact lifetime_of_not_isFinite hfinite
  | true =>
      obtain ⟨_, _, _, rfl⟩ := Binary.exists_finite_of_isFinite hfinite
      have hsigned := (Binary.le_iff_of_places rfl (Binary.place_zero _)).1 h
      rw [lifetime_finite, Int.toNat_of_nonpos hsigned, nanoseconds_zero, Nat.zero_min]

/-- The exact time for which a bubble of so many seconds stays, in nanoseconds: none if they are
negative, and never more than a day. -/
def exactLifetime (seconds : ℚ) : ℚ := min (max seconds 0 * 10 ^ (9 : Nat)) longestLifetime

/-- A lifetime is the nearest number of nanoseconds. -/
theorem lifetime_near (h : seconds.isFinite = true) :
    |(lifetime seconds : ℚ) - exactLifetime seconds.toRat| ≤ 1 / 2 := by
  obtain ⟨negative, units, held, rfl⟩ := Binary.exists_finite_of_isFinite h
  rw [lifetime_finite, exactLifetime, Binary.max_toRat_zero, Nat.cast_min]
  calc _ ≤ max _ |(longestLifetime : ℚ) - longestLifetime| := abs_min_sub_min_le_max ..
    _ ≤ 1 / 2 := by
      rw [sub_self, abs_zero]
      exact max_le (nanoseconds_near _) (by norm_num)

/-! ## Setting and expiring -/

/-- A deadline that is set is at most a day away and the instant nearest to the exact one. Seconds
that are not positive or not finite make it immediate, and it never comes earlier for more of them.
It replaces the one that its sprite had and leaves those of the others. The sprites whose deadlines
are over are handed out in increasing order, and they are all that have their deadlines dropped. -/
theorem deadlines_exact (b : BubbleTimers) (id : SpriteId) (now : Instant) :
    (∀ seconds, ∃ deadline, (b.schedule id now seconds).deadline? id = some deadline ∧
        now ≤ deadline ∧ deadline ≤ now + longestLifetime ∧
        (seconds ≤ 0 ∨ seconds.isFinite = false → deadline = now) ∧
        (seconds.isFinite = true →
          |(deadline : ℚ) - (now + exactLifetime seconds.toRat)| ≤ 1 / 2) ∧
        ∀ longer later, seconds.isFinite = true → longer.isFinite = true → seconds ≤ longer →
          (b.schedule id now longer).deadline? id = some later → deadline ≤ later) ∧
      (∀ seconds other, other ≠ id →
        (b.schedule id now seconds).deadline? other = b.deadline? other) ∧
      (∀ seconds, (b.schedule id now seconds).deadlines.keys.Nodup ∧
        (b.schedule id now seconds).pending =
          if (b.deadline? id).isSome then b.pending else b.pending + 1) ∧
      ∀ instant, (b.expired instant).Pairwise (· < ·) ∧
        (∀ other, other ∈ b.expired instant ↔
          ∃ deadline, b.deadline? other = some deadline ∧ deadline ≤ instant) ∧
        (∀ other, (b.dropExpired instant).deadline? other =
          if other ∈ b.expired instant then none else b.deadline? other) ∧
        ∀ earlier, earlier ≤ instant → (b.dropExpired instant).expired earlier = [] := by
  have hset (seconds : Single) :
      (b.schedule id now seconds).deadline? id = some (now + lifetime seconds) := by
    rw [deadline?_schedule, if_pos rfl]
  refine ⟨fun seconds => ⟨now + lifetime seconds, hset seconds, Nat.le_add_right _ _,
    Nat.add_le_add_left (lifetime_le seconds) now, ?_, ?_, ?_⟩, ?_, ?_, ?_⟩
  · intro hnone
    rw [hnone.elim lifetime_of_nonpos lifetime_of_not_isFinite, Nat.add_zero]
  · intro hfinite
    rw [Nat.cast_add, add_sub_add_left_eq_sub]
    exact lifetime_near hfinite
  · intro longer later hseconds hlonger hle hlater
    rw [hset longer, Option.some.injEq] at hlater
    rw [← hlater]
    exact Nat.add_le_add_left (lifetime_mono hseconds hlonger hle) now
  · intro seconds other hne
    rw [deadline?_schedule, if_neg hne]
  · exact fun seconds => ⟨Table.nodup_keys _, b.pending_schedule id now seconds⟩
  · exact fun instant => ⟨b.sorted_expired instant, b.mem_expired instant,
      b.deadline?_dropExpired_eq_ite instant, fun _ => b.expired_dropExpired⟩

/-- The timers of two sprites, the later one set first. -/
def twoTimers : BubbleTimers := (({} : BubbleTimers).schedule "cat" 0 2).schedule "alien" 0 1

/-- Two neighbouring numbers of seconds, of which only the first is a duration: both give a deadline
a day away. -/
theorem deadlines_exact_rangeEnd :
    let fitting : Single := .ofInt (2 ^ (64 : Nat) - 2 ^ (40 : Nat))
    let exceeding : Single := .ofInt (2 ^ (64 : Nat))
    let now := milliseconds 500
    let tomorrow := now + longestLifetime
    (durationOfSeconds fitting).isOk = true ∧
      durationOfSeconds exceeding = .error .outOfRange ∧
      (∃ deadline, (twoTimers.schedule "cat" now fitting).deadline? "cat" = some deadline ∧
        deadline ≤ tomorrow ∧
        |(deadline : ℚ) - (now + exactLifetime fitting.toRat)| ≤ 1 / 2) ∧
      (twoTimers.schedule "cat" now exceeding).deadline? "cat" = some tomorrow ∧
      (twoTimers.schedule "cat" now (.infinite false)).deadline? "cat" = some now ∧
      (twoTimers.schedule "cat" now fitting).deadline? "alien" = some (milliseconds 1000) ∧
      twoTimers.expired (milliseconds 2000) = ["alien", "cat"] ∧
      (twoTimers.dropExpired (milliseconds 2000)).expired (milliseconds 1500) = [] := by
  intro fitting exceeding now tomorrow
  have hfitting : fitting.isFinite = true := by decide +kernel
  have hexceeding : exceeding.isFinite = true := by decide +kernel
  have hle : fitting ≤ exceeding := by decide +kernel
  have hlater : (twoTimers.schedule "cat" now exceeding).deadline? "cat" = some tomorrow := by
    decide +kernel
  obtain ⟨hset, hothers, -, hexpired⟩ := deadlines_exact twoTimers "cat" now
  obtain ⟨deadline, hdeadline, -, -, -, hnear, hmono⟩ := hset fitting
  obtain ⟨immediate, himmediate, -, -, hnow, -⟩ := hset (.infinite false)
  refine ⟨by decide +kernel, by decide +kernel, ?_, hlater, ?_, ?_, by decide +kernel, ?_⟩
  · exact ⟨deadline, hdeadline, hmono exceeding tomorrow hfitting hexceeding hle hlater,
      hnear hfitting⟩
  · rw [himmediate, hnow (.inr rfl)]
  · rw [hothers fitting "alien" (by decide)]
    decide +kernel
  · exact (hexpired (milliseconds 2000)).2.2.2 (milliseconds 1500) (by decide)

end BubbleTimers

end SpriteStage
