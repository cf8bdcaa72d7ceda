import Mathlib.Order.MinMax
import SpriteStage.Proofs.ActorSteps

/-!
# A run is a fold of its script

What a block does to an actor concerns its pose and its bubble alone (`Block.carriedOut`). So an
actor that is armed and then ticks some times has folded that over the first blocks of the script,
as many as it ticked, and stands behind them (`Actor.afterTicks_arm`). Whatever it did before it was
armed has left nothing but, with a click, its pose and its bubble, and the cooldown that runs down.
-/

namespace SpriteStage

namespace Actor

/-- The actor after so many ticks. -/
def afterTicks (a : Actor) : Nat → Actor
  | 0 => a
  | n + 1 => (a.afterTicks n).tick.1

/-- The pose and the bubble that a trigger starts from. -/
def startOf (a : Actor) : Trigger → Pose × Option Bubble
  | .play => (a.start, none)
  | .click => (a.pose, a.bubble)

variable {a : Actor} {t : Trigger} {p : FlatProgram}

theorem arm_eq (a : Actor) (t : Trigger) (p : FlatProgram) :
    a.arm t p = { a with
      armed := p
      pose := (a.startOf t).1
      bubble := (a.startOf t).2
      run := some ⟨t, 0⟩ } := by
  cases t <;> rfl

/-- An actor once it has carried out some blocks of the script that it was armed with. -/
def havingRun (a : Actor) (t : Trigger) (p : FlatProgram) (n : Nat) : Actor :=
  let reached := ((p.script t).toList.take n).foldl Block.carriedOut (a.startOf t)
  { a with
    armed := p
    pose := reached.1
    bubble := reached.2
    run := some ⟨t, min n (p.script t).size⟩
    cooldown := a.cooldown - n }

theorem current?_havingRun (a : Actor) (t : Trigger) (p : FlatProgram) (n : Nat) :
    (a.havingRun t p n).current? = (p.script t)[n]? := by
  change (p.script t)[min n (p.script t).size]? = (p.script t)[n]?
  rcases Nat.lt_or_ge n (p.script t).size with hlt | hge
  · rw [Nat.min_eq_left hlt.le]
  · rw [Nat.min_eq_right hge, Array.getElem?_eq_none (Nat.le_refl _), Array.getElem?_eq_none hge]

/-- One more tick carries out one more block, if there is one. -/
theorem tick_havingRun (a : Actor) (t : Trigger) (p : FlatProgram) (n : Nat) :
    (a.havingRun t p n).tick.1 = a.havingRun t p (n + 1) := by
  rw [tick_eq, current?_havingRun]
  have hcooldown : a.cooldown - n - 1 = a.cooldown - (n + 1) := by omega
  rcases Nat.lt_or_ge n (p.script t).size with hlt | hge
  · have htake : (p.script t).toList.take (n + 1) =
        (p.script t).toList.take n ++ [(p.script t)[n]] :=
      List.take_succ_eq_append_getElem (i := n) (l := (p.script t).toList) hlt
    rw [Array.getElem?_eq_getElem hlt]
    dsimp only
    rw [perform_fst]
    unfold havingRun
    dsimp only
    rw [htake, List.foldl_append, List.foldl_cons, List.foldl_nil, hcooldown, Option.map_some,
      Nat.min_eq_left hlt.le, Nat.min_eq_left hlt]
  · have htake : (p.script t).toList.take (n + 1) = (p.script t).toList.take n := by
      rw [List.take_of_length_le hge, List.take_of_length_le (Nat.le_succ_of_le hge)]
    rw [Array.getElem?_eq_none hge]
    unfold havingRun
    dsimp only
    rw [htake, hcooldown, Nat.min_eq_right hge, Nat.min_eq_right (Nat.le_succ_of_le hge)]

theorem afterTicks_arm (a : Actor) (t : Trigger) (p : FlatProgram) (n : Nat) :
    (a.arm t p).afterTicks n = a.havingRun t p n := by
  induction n with
  | zero => rw [afterTicks, arm_eq, havingRun, Nat.zero_min, Nat.sub_zero, List.take_zero]; rfl
  | succ n ih => rw [afterTicks, ih, tick_havingRun]

/-- An actor in any state that is armed and then ticks some times has carried out the first blocks
of its script, as many as it ticked. Its pose and its bubble are those that the blocks make, one
after the other, of what the trigger starts from, and the next tick has the effect of the next
block. Behind the last one, ticks change nothing but the cooldown. -/
theorem run_folds_script (a : Actor) (t : Trigger) (p : FlatProgram) (n : Nat) :
    let script := (p.script t).toList
    let now := (a.arm t p).afterTicks n
    now.trigger? = some t ∧ now.index = (min n script.length : Nat) ∧
      now.cooldown = a.cooldown - n ∧
      (now.pose, now.bubble) = (script.take n).foldl Block.carriedOut (a.startOf t) ∧
      now.tick.2 = ((script[n]?).map Block.effect).getD .none ∧
      now.start = a.start ∧ now.armed = p ∧
      (script.length ≤ n →
        now = { (a.arm t p).afterTicks script.length with cooldown := a.cooldown - n }) := by
  intro script now
  have hnow : now = a.havingRun t p n := afterTicks_arm a t p n
  rw [hnow]
  refine ⟨rfl, rfl, rfl, rfl, ?_, rfl, rfl, fun hend => ?_⟩
  · rw [effect_tick, current?_havingRun, ← Array.getElem?_toList]
  · have hall : script.take n = script.take script.length := by
      rw [List.take_of_length_le hend, List.take_length]
    have hmin : min n (p.script t).size = min script.length (p.script t).size :=
      (Nat.min_eq_right hend).trans (Nat.min_self _).symm
    rw [afterTicks_arm]
    unfold havingRun
    dsimp only
    rw [hall, hmin]

end Actor

end SpriteStage
