import Mathlib.Logic.Relation
import SpriteStage.Proofs.Scans

/-!
# What operations do to the parts of a session

An operation touches the clock in few ways (`clock_after`) and the settings in none. It counts the
ticks that it runs (`ticks_after`) and the encounters that swap (`swaps_after`). It changes the cast
by single steps (`Cast.Changes`), and what every such step keeps holds of the cast of every
reachable session (`Reachable.cast_keeps`).
-/

namespace SpriteStage

/-- The encounters of a scan that swapped. -/
def Scan.swapped (scan : Scan) (cooldown : Nat) : List Contact :=
  (scan.monitor.coordinate scan.cast cooldown).1

/-- An operation with which the clock starts or stops, whatever it was doing. -/
def Operation.setsClock : Operation → Bool
  | .play _ | .stop | .restart => true
  | _ => false

def Operation.isStep : Operation → Bool
  | .step _ => true
  | _ => false

namespace Session

variable {s : Session}

/-! ## Ticks -/

/-- The session when all sprites have acted and the tick is counted, but no scan has run. -/
def acted (s : Session) (now : Instant) : Session :=
  { s.act now with ticks := s.ticks + 1, sinceScan := s.sinceScan + 1 }

theorem tick_eq (s : Session) (now : Instant) :
    s.tick now = if max s.settings.scanEvery 1 ≤ s.sinceScan + 1 then (s.acted now).scan
      else s.acted now := rfl

/-- The encounters that swap in some ticks, scan by scan. -/
def tickSwapped (s : Session) (now : Instant) (count : Nat) : List (List Contact) :=
  (s.tickScans now count).map (·.swapped s.settings.swapCooldown)

theorem clock_tick (s : Session) (now : Instant) : (s.tick now).clock = s.clock := by
  rw [tick_eq]
  split <;> rfl

theorem settings_tick (s : Session) (now : Instant) : (s.tick now).settings = s.settings := by
  rw [tick_eq]
  split <;> rfl

theorem ticks_tick (s : Session) (now : Instant) : (s.tick now).ticks = s.ticks + 1 := by
  rw [tick_eq]
  split <;> rfl

theorem swaps_tick (s : Session) (now : Instant) :
    (s.tick now).swaps = s.swaps + (s.tickSwapped now 1).flatten.length := by
  rw [tick_eq]
  unfold tickSwapped tickScans tickScan?
  split
  · change s.swaps + List.length _ = s.swaps + List.length (_ ++ [])
    rw [List.append_nil]
    rfl
  · rfl

theorem clock_tickTimes (s : Session) (now : Instant) (count : Nat) :
    (s.tickTimes now count).clock = s.clock := by
  induction count generalizing s with
  | zero => rfl
  | succ count ih => rw [tickTimes, ih, clock_tick]

theorem settings_tickTimes (s : Session) (now : Instant) (count : Nat) :
    (s.tickTimes now count).settings = s.settings := by
  induction count generalizing s with
  | zero => rfl
  | succ count ih => rw [tickTimes, ih, settings_tick]

theorem ticks_tickTimes (s : Session) (now : Instant) (count : Nat) :
    (s.tickTimes now count).ticks = s.ticks + count := by
  induction count generalizing s with
  | zero => rfl
  | succ count ih =>
      rw [tickTimes, ih, ticks_tick]
      omega

theorem tickSwapped_succ (s : Session) (now : Instant) (count : Nat) :
    s.tickSwapped now (count + 1) = s.tickSwapped now 1 ++ (s.tick now).tickSwapped now count := by
  simp [tickSwapped, tickScans, settings_tick]

theorem swaps_tickTimes (s : Session) (now : Instant) (count : Nat) :
    (s.tickTimes now count).swaps = s.swaps + (s.tickSwapped now count).flatten.length := by
  induction count generalizing s with
  | zero => rfl
  | succ count ih =>
      rw [tickTimes, ih, swaps_tick, tickSwapped_succ s now count, List.flatten_append,
        List.length_append, Nat.add_assoc]

/-! ## Operations -/

/-- The ticks that an operation runs. -/
def ticksRun (s : Session) : Operation → Nat
  | .advance now => (s.clock.beginFrame now).due
  | .step _ => 1
  | _ => 0

/-- What an operation returns, or why it is rejected. -/
def reply (s : Session) (op : Operation) : Except CastError Reply := (s.perform op).map (·.1)

/-- The encounters that swap in an operation, scan by scan. -/
def swapped (s : Session) (op : Operation) : List (List Contact) :=
  (s.scansOf op).map (·.swapped s.settings.swapCooldown)

/-- The clock after an operation. -/
def clockAfter (s : Session) : Operation → Clock
  | .play now => s.clock.start now
  | .stop | .restart => s.clock.stop
  | .click id now =>
    if s.isClickable id && !s.isPlaying then s.clock.start now else s.clock
  | .advance now => (s.clock.beginFrame now).drain
  | _ => s.clock

/-- An operation leads from one session to another, as far as settings, clock and counts go. -/
structure Counts (s : Session) (op : Operation) (t : Session) : Prop where
  settings : t.settings = s.settings
  clock : t.clock = s.clockAfter op
  ticks : t.ticks = s.ticks + s.ticksRun op
  swaps : t.swaps = s.swaps + (s.swapped op).flatten.length

theorem counts_after (s : Session) (op : Operation) : s.Counts op (s.after op) := by
  cases op with
  | add spec =>
      rw [after_add]
      split <;> exact ⟨rfl, rfl, rfl, rfl⟩
  | delete id =>
      rw [after_delete]
      split <;> exact ⟨rfl, rfl, rfl, rfl⟩
  | select id =>
      rw [after_select]
      split <;> exact ⟨rfl, rfl, rfl, rfl⟩
  | edit id trigger e =>
      rw [after_edit]
      split <;> exact ⟨rfl, rfl, rfl, rfl⟩
  | click id now =>
      change s.Counts _ (s.click id now)
      unfold click
      split
      · rename_i hclickable
        refine ⟨rfl, ?_, rfl, rfl⟩
        cases hplaying : s.clock.isRunning <;> simp [clockAfter, isPlaying, hclickable, hplaying]
      · rename_i hclickable
        exact ⟨rfl, by simp [clockAfter, hclickable], rfl, rfl⟩
  | advance now =>
      let drained := { s with clock := (s.clock.beginFrame now).drain }
      exact ⟨settings_tickTimes drained now _, clock_tickTimes drained now _,
        ticks_tickTimes drained now _, swaps_tickTimes drained now _⟩
  | step now =>
      exact ⟨settings_tick s now, clock_tick s now, ticks_tick s now, swaps_tick s now⟩
  | _ => exact ⟨rfl, rfl, rfl, rfl⟩

theorem settings_afterAll (s : Session) (ops : List Operation) :
    (s.afterAll ops).settings = s.settings := by
  induction ops generalizing s with
  | nil => rfl
  | cons op ops ih => exact (ih (s.after op)).trans (s.counts_after op).settings

end Session

/-! ## Changes of sprites and casts -/

/-- One block carried out, if there is one. -/
def Sprite.act (s : Sprite) : Sprite := { s with actor := s.actor.tick.1 }

/-- The timers once a sprite has acted: a bubble that appears gets a deadline. -/
def Sprite.schedule (now : Instant) (timers : BubbleTimers) (s : Sprite) : BubbleTimers :=
  match s.actor.tick.2 with
  | .bubble seconds => timers.schedule s.id now seconds
  | _ => timers

theorem Session.timers_act (s : Session) (now : Instant) :
    (s.act now).timers = s.cast.sprites.foldl (Sprite.schedule now) s.timers := by
  unfold Session.act
  dsimp only
  rw [List.foldl_map]
  congr 1
  funext timers sprite
  unfold Sprite.schedule
  cases sprite.actor.tick.2 <;> rfl

/-- What can become of a sprite in one step, where moves are cut by an increment and swaps start a
cooldown. -/
inductive Sprite.Changes (i : Increment) (cooldown : Nat) : Sprite → Sprite → Prop where
  | keep (s : Sprite) : Changes i cooldown s s
  | withProgram (s : Sprite) (p : Program) : Changes i cooldown s (s.withProgram i p)
  | arm (s : Sprite) (t : Trigger) : Changes i cooldown s (s.arm t)
  | restart (s : Sprite) : Changes i cooldown s s.restart
  | act (s : Sprite) : Changes i cooldown s s.act
  | takeOver (s : Sprite) (p : Program) : Changes i cooldown s (s.takeOver i p cooldown)
  | clearBubble (s : Sprite) : Changes i cooldown s s.clearBubble

namespace Cast

/-- The single steps by which a session changes its cast. -/
inductive Changes (cooldown : Nat) : Cast → Cast → Prop where
  | add {c c' : Cast} {spec : SpriteSpec} : c.add spec = .ok c' → Changes cooldown c c'
  | remove {c c' : Cast} {id : SpriteId} : c.remove id = .ok c' → Changes cooldown c c'
  | select {c c' : Cast} {id : SpriteId} : c.select id = .ok c' → Changes cooldown c c'
  | sprites {c : Cast} {f : Sprite → Sprite} :
      (∀ s : Sprite, s.Changes c.increment cooldown (f s)) →
        Changes cooldown c { c with sprites := c.sprites.map f }

variable {c c' : Cast} {cooldown : Nat}

theorem Changes.modify {f : Sprite → Sprite}
    (h : ∀ s : Sprite, s.Changes c.increment cooldown (f s)) (id : SpriteId) :
    c.Changes cooldown (c.modify id f) :=
  .sprites fun s => by
    split
    · exact h s
    · exact .keep s

theorem Changes.swap {a b : SpriteId} (h : c.swap a b cooldown = .ok c') :
    c.Changes cooldown c' := by
  obtain ⟨-, s, t, -, -, rfl⟩ := exists_of_swap h
  refine .sprites fun x => ?_
  unfold handOver
  split
  · exact .takeOver x _
  · split
    · exact .takeOver x _
    · exact .keep x

theorem Changes.edit {id : SpriteId} {t : Trigger} {e : Program.Edit} {removed : Option Block}
    (h : c.edit id t e = .ok (removed, c')) : c.Changes cooldown c' := by
  unfold Cast.edit at h
  split at h
  · cases h
  · split at h
    · cases h
    · cases h
      exact .modify (fun s => .withProgram s _) id

theorem Changes.increment_eq (h : c.Changes cooldown c') : c'.increment = c.increment := by
  cases h with
  | add h =>
      unfold Cast.add at h
      split at h <;> cases h
      rfl
  | remove h =>
      unfold Cast.remove at h
      split at h <;> cases h
      rfl
  | select h =>
      unfold Cast.select at h
      split at h <;> cases h
      rfl
  | sprites _ => rfl

/-- A sprite of the cast after a step is a new one, or comes from a sprite of the cast before. -/
theorem Changes.exists_of_mem (h : c.Changes cooldown c') {s' : Sprite} (hs' : s' ∈ c'.sprites) :
    (∃ spec, s' = .ofSpec c.increment spec) ∨
      ∃ s ∈ c.sprites, s.Changes c.increment cooldown s' := by
  cases h with
  | add h =>
      unfold Cast.add at h
      split at h <;> cases h
      rcases List.mem_append.1 hs' with hold | hnew
      · exact .inr ⟨s', hold, .keep s'⟩
      · exact .inl ⟨_, List.mem_singleton.1 hnew⟩
  | remove h =>
      unfold Cast.remove at h
      split at h <;> cases h
      exact .inr ⟨s', List.mem_of_mem_eraseIdx hs', .keep s'⟩
  | select h =>
      rw [sprites_select h] at hs'
      exact .inr ⟨s', hs', .keep s'⟩
  | sprites hf =>
      obtain ⟨s, hs, rfl⟩ := List.mem_map.1 hs'
      exact .inr ⟨s, hs, hf s⟩

theorem selected_edit {id : SpriteId} {trigger : Trigger} {e : Program.Edit}
    {removed : Option Block} (h : c.edit id trigger e = .ok (removed, c')) :
    c'.selected = c.selected := by
  unfold Cast.edit at h
  split at h
  · cases h
  · split at h <;> cases h
    rfl

end Cast

namespace Monitor

open Relation

/-- What holds of a cast whichever programs are swapped holds of it after a scan's swaps. -/
theorem coordinate_keeps {P : Cast → Prop} {m : Monitor} {c : Cast} {cooldown : Nat} (h : P c)
    (hswap : ∀ c c' a b, P c → c.swap a b cooldown = .ok c' → P c') :
    P (m.coordinate c cooldown).2.2 := by
  change P ((m.detect c).1.foldl (swapEncounter cooldown) ([], (m.detect c).2, c)).2.2
  have hfold (es : List Contact) (state : List Contact × Monitor × Cast) (hstate : P state.2.2) :
      P (es.foldl (swapEncounter cooldown) state).2.2 := by
    induction es generalizing state with
    | nil => exact hstate
    | cons e rest ih =>
        refine ih _ ?_
        obtain ⟨swapped, m, c⟩ := state
        unfold swapEncounter
        dsimp only
        split
        · exact hstate
        · split
          · rename_i hok
            exact hswap _ _ _ _ hstate hok
          · exact hstate
  exact hfold _ _ h

theorem changes_coordinate (m : Monitor) (c : Cast) (cooldown : Nat) :
    ReflTransGen (Cast.Changes cooldown) c (m.coordinate c cooldown).2.2 :=
  coordinate_keeps (P := ReflTransGen (Cast.Changes cooldown) c) .refl
    fun _ _ _ _ h hok => h.tail (.swap hok)

theorem selected_coordinate (m : Monitor) (c : Cast) (cooldown : Nat) :
    (m.coordinate c cooldown).2.2.selected = c.selected := by
  refine coordinate_keeps (P := fun c' => c'.selected = c.selected) rfl ?_
  intro c' c'' a b hc' hswap
  obtain ⟨-, s, t, -, -, rfl⟩ := Cast.exists_of_swap hswap
  exact hc'

end Monitor

namespace Session

open Relation

variable {s : Session}

theorem changes_tick (s : Session) (now : Instant) :
    ReflTransGen (Cast.Changes s.settings.swapCooldown) s.cast (s.tick now).cast := by
  have hact : s.cast.Changes s.settings.swapCooldown (s.act now).cast := by
    rw [cast_act]
    exact .sprites fun sprite => .act sprite
  rw [tick_eq]
  split
  · exact (ReflTransGen.single hact).trans (Monitor.changes_coordinate s.monitor _ _)
  · exact .single hact

theorem changes_tickTimes (s : Session) (now : Instant) (count : Nat) :
    ReflTransGen (Cast.Changes s.settings.swapCooldown) s.cast (s.tickTimes now count).cast := by
  induction count generalizing s with
  | zero => exact .refl
  | succ count ih =>
      have hrest := ih (s.tick now)
      rw [settings_tick] at hrest
      exact (changes_tick s now).trans hrest

/-- The sprites whose deadlines have passed lose their bubbles. -/
theorem cast_expireBubbles (s : Session) (now : Instant) :
    (s.expireBubbles now).cast = { s.cast with
      sprites := s.cast.sprites.map fun sprite =>
        if sprite.id ∈ s.timers.expired now then sprite.clearBubble else sprite } := by
  change (s.timers.expired now).foldl (fun c id => c.modify id (·.clearBubble)) s.cast = _
  generalize s.timers.expired now = expired
  generalize s.cast = c
  induction expired generalizing c with
  | nil => simp
  | cons id rest ih =>
      have hboth (sprite : Sprite) :
          (let cleared := if sprite.id = id then sprite.clearBubble else sprite
          if cleared.id ∈ rest then cleared.clearBubble else cleared) =
            if sprite.id ∈ id :: rest then sprite.clearBubble else sprite := by
        by_cases hid : sprite.id = id
        · simp [hid, Sprite.clearBubble, Actor.clearBubble]
        · simp [hid]
      rw [List.foldl_cons, ih]
      unfold Cast.modify
      dsimp only
      rw [List.map_map]
      congr 1
      exact List.map_congr_left fun sprite _ => hboth sprite

theorem changes_expireBubbles (s : Session) (now : Instant) (cooldown : Nat) :
    s.cast.Changes cooldown (s.expireBubbles now).cast := by
  rw [cast_expireBubbles]
  refine .sprites fun sprite => ?_
  split
  · exact .clearBubble sprite
  · exact .keep sprite

theorem changes_after (s : Session) (op : Operation) :
    ReflTransGen (Cast.Changes s.settings.swapCooldown) s.cast (s.after op).cast := by
  cases op with
  | add spec =>
      rw [after_add]
      split
      · rename_i h
        exact .single (.add h)
      · exact .refl
  | delete id =>
      rw [after_delete]
      split
      · rename_i h
        exact .single (.remove h)
      · exact .refl
  | select id =>
      rw [after_select]
      split
      · rename_i h
        exact .single (.select h)
      · exact .refl
  | edit id trigger e =>
      rw [after_edit]
      split
      · rename_i h
        exact .single (.edit h)
      · exact .refl
  | play now => exact .single (.sprites fun sprite => .arm sprite .play)
  | stop => exact .refl
  | restart => exact .single (.sprites fun sprite => .restart sprite)
  | click id now =>
      change ReflTransGen _ s.cast (s.click id now).cast
      unfold click
      split
      · exact .single (.modify (fun sprite => .arm sprite .click) id)
      · exact .refl
  | advance now =>
      exact (changes_tickTimes { s with clock := (s.clock.beginFrame now).drain } now _).tail
        (changes_expireBubbles _ now _)
  | step now => exact (changes_tick s now).tail (changes_expireBubbles _ now _)

/-! ## The selection -/

theorem after_add_of_notMem {spec : SpriteSpec} (h : spec.id ∉ s.cast.ids) :
    s.after (.add spec) = { s with cast := { s.cast with
      sprites := s.cast.sprites ++ [.ofSpec s.cast.increment spec]
      selected := s.cast.selected.or (some s.cast.sprites.length) } } := by
  have hnew : s.cast.contains spec.id = false := by
    rw [← Bool.not_eq_true, Cast.contains_eq_true_iff]
    exact h
  rw [after_add, Cast.add, hnew]
  rfl

theorem selected_tick (s : Session) (now : Instant) :
    (s.tick now).cast.selected = s.cast.selected := by
  have hact : (s.act now).cast.selected = s.cast.selected := by rw [cast_act]
  rw [tick_eq]
  split
  · exact (Monitor.selected_coordinate _ _ _).trans hact
  · exact hact

theorem selected_tickTimes (s : Session) (now : Instant) (count : Nat) :
    (s.tickTimes now count).cast.selected = s.cast.selected := by
  induction count generalizing s with
  | zero => rfl
  | succ count ih => exact (ih (s.tick now)).trans (s.selected_tick now)

theorem selected_expireBubbles (s : Session) (now : Instant) :
    (s.expireBubbles now).cast.selected = s.cast.selected := by
  rw [cast_expireBubbles]

/-- What an operation leaves selected, from the ids of the sprites and what was selected before. -/
def selectedAfter (ids : List SpriteId) (selected : Option Nat) : Operation → Option Nat
  | .add spec => if spec.id ∈ ids then selected else selected.or (some ids.length)
  | .delete id =>
    match ids.findIdx? (· == id) with
    | some position => Cast.selectionAfter selected position (ids.length - 1)
    | none => selected
  | .select id => (ids.findIdx? (· == id)).or selected
  | _ => selected

theorem selected_after (s : Session) (op : Operation) :
    (s.after op).cast.selected = selectedAfter s.cast.ids s.cast.selected op := by
  have hlength : s.cast.ids.length = s.cast.sprites.length := List.length_map _
  cases op with
  | add spec =>
      by_cases hmem : spec.id ∈ s.cast.ids
      · rw [after_add, selectedAfter, if_pos hmem, Cast.add, Cast.contains_eq_true_iff.2 hmem]
        rfl
      · rw [after_add_of_notMem hmem, selectedAfter, if_neg hmem, hlength]
  | delete id =>
      rw [after_delete, selectedAfter, hlength, ← Cast.position?_eq]
      unfold Cast.remove
      cases s.cast.position? id <;> rfl
  | select id =>
      rw [after_select, selectedAfter, ← Cast.position?_eq]
      unfold Cast.select
      cases s.cast.position? id <;> rfl
  | edit id trigger e =>
      rw [after_edit]
      split
      · rename_i h
        exact Cast.selected_edit h
      · rfl
  | click id now =>
      change (s.click id now).cast.selected = s.cast.selected
      unfold click
      split <;> rfl
  | advance now =>
      exact (selected_expireBubbles _ now).trans (selected_tickTimes _ now _)
  | step now => exact (selected_expireBubbles _ now).trans (s.selected_tick now)
  | _ => rfl

/-! ## Every reachable session -/

/-- What holds of the cast of a new session and is kept by every step holds in every reachable
session with its settings. -/
theorem Reachable.cast_keeps {P : Settings → Cast → Prop}
    (hnew : ∀ settings, P settings { increment := .ofSingle settings.moveIncrement })
    (hkeeps : ∀ settings c c', c.Changes settings.swapCooldown c' → P settings c → P settings c')
    (hs : s.Reachable) : P s.settings s.cast := by
  induction hs with
  | new settings => exact hnew settings
  | @after s op _ ih =>
      have hafter := changes_after s op
      rw [(s.counts_after op).settings]
      generalize (s.after op).cast = c at hafter ⊢
      induction hafter with
      | refl => exact ih
      | tail _ hstep ih => exact hkeeps _ _ _ hstep ih

end Session

end SpriteStage
