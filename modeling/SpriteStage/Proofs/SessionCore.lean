import Mathlib.Data.List.InsertIdx
import SpriteStage.Proofs.ActorSteps
import SpriteStage.Proofs.CastProjections
import SpriteStage.Proofs.FallibleResults
import SpriteStage.Proofs.SessionParts

/-!
# The core of a session

A session holds some things that nothing it does depends on: the program that an idle actor was
armed with before, the counts of ticks and swaps, what its clock has counted, and which sprite is
selected. Its core is the session without them. An operation replies the same to a session and to
its core, and the sessions after it have the same core again (`perform_core`); the same encounters
swap (`swapped_core`).
-/

namespace SpriteStage

/-- What does the same to values and to their projections does the same to values that have the same
projection. -/
theorem eq_of_proj_eq {α : Type} {proj f : α → α} (h : ∀ a, proj (f (proj a)) = proj (f a))
    {a b : α} (hab : proj a = proj b) : proj (f a) = proj (f b) := by
  rw [← h a, hab, h b]

/-! ## Actors and sprites -/

namespace Actor

variable {a : Actor}

/-- The actor without the program that it was armed with, if it is idle. -/
def core (a : Actor) : Actor := { a with armed := if a.isIdle then {} else a.armed }

theorem core_of_run {run : Run} (h : a.run = some run) : a.core = a := by
  obtain ⟨_, _, _, _, _, _⟩ := a
  cases h
  rfl

theorem core_core (a : Actor) : a.core.core = a.core := by
  cases h : a.run with
  | none => simp [core, isIdle, h]
  | some run => rw [core_of_run h, core_of_run h]

theorem phase_core (a : Actor) : a.core.phase = a.phase := by
  cases h : a.run with
  | none => simp [core, phase, h]
  | some run => rw [core_of_run h]

theorem arm_core (a : Actor) (t : Trigger) (p : FlatProgram) : a.core.arm t p = a.arm t p := by
  cases t <;> rfl

theorem tick_core (a : Actor) : a.core.tick = (a.tick.1.core, a.tick.2) := by
  cases h : a.run with
  | none => simp [core, tick, isIdle, h]
  | some run =>
      have hrun : ∃ run', a.tick.1.run = some run' := by
        rw [run_tick, h]
        split <;> exact ⟨_, rfl⟩
      obtain ⟨run', hrun⟩ := hrun
      rw [core_of_run h, core_of_run hrun]

end Actor

namespace Sprite

def core (s : Sprite) : Sprite := { s with actor := s.actor.core }

theorem core_core (s : Sprite) : s.core.core = s.core := by
  unfold core
  dsimp only
  rw [Actor.core_core]

theorem act_core (s : Sprite) : s.core.act = s.act.core := by
  unfold act core
  dsimp only
  rw [Actor.tick_core]

theorem schedule_core (s : Sprite) (now : Instant) (timers : BubbleTimers) :
    s.core.schedule now timers = s.schedule now timers := by
  unfold schedule core
  dsimp only
  rw [Actor.tick_core]

theorem arm_core (s : Sprite) (t : Trigger) : s.core.arm t = s.arm t := by
  unfold arm core
  dsimp only
  rw [Actor.arm_core]

theorem takeOver_core (s : Sprite) (i : Increment) (p : Program) (cooldown : Nat) :
    s.core.takeOver i p cooldown = (s.takeOver i p cooldown).core := by
  obtain ⟨_, _, _, _, _, ⟨_, _, _, _, run, _⟩⟩ := s
  cases run <;> rfl

theorem isBlind_core : IsBlind core where
  stance _ := rfl
  cooldown _ := rfl
  program _ := rfl
  activeTrigger _ := rfl
  takeOver := takeOver_core

end Sprite

/-! ## Casts -/

namespace Cast

variable {c c' : Cast}

def core (c : Cast) : Cast := { c with sprites := c.sprites.map (·.core), selected := none }

theorem core_core (c : Cast) : c.core.core = c.core := c.project_project Sprite.core_core

theorem sprites_core_core (c : Cast) : c.core.sprites.map (·.core) = c.core.sprites :=
  congrArg (·.sprites) c.core_core

theorem find?_core (c : Cast) (id : SpriteId) : c.core.find? id = (c.find? id).map (·.core) :=
  find?_project Sprite.isBlind_core.id_eq c id

theorem position?_core (c : Cast) (id : SpriteId) : c.core.position? id = c.position? id := by
  unfold position? core
  rw [List.findIdx?_map]
  rfl

theorem contains_core (c : Cast) (id : SpriteId) : c.core.contains id = c.contains id := by
  unfold contains core
  rw [List.any_map]
  rfl

/-- A change of all sprites that does the same to sprites and to their cores does the same to casts
and to theirs. -/
theorem map_core {f : Sprite → Sprite} (hf : ∀ s, (f s.core).core = (f s).core) (c : Cast) :
    ({ c.core with sprites := c.core.sprites.map f } : Cast).core =
      ({ c with sprites := c.sprites.map f } : Cast).core := by
  unfold core
  dsimp only
  rw [List.map_map, List.map_map, List.map_map]
  congr 1
  exact List.map_congr_left fun s _ => hf s

theorem modify_core {f : Sprite → Sprite} (hf : ∀ s, (f s.core).core = (f s).core) (c : Cast)
    (id : SpriteId) : (c.core.modify id f).core = (c.modify id f).core := by
  refine map_core (fun s => ?_) c
  change (if s.id = id then f s.core else s.core).core = _
  split
  · exact hf s
  · exact s.core_core

theorem armAll_core (c : Cast) (t : Trigger) : (c.core.armAll t).core = (c.armAll t).core :=
  map_core (fun s => congrArg Sprite.core (s.arm_core t)) c

theorem restartAll_core (c : Cast) : c.core.restartAll.core = c.restartAll.core :=
  map_core (fun _ => rfl) c

/-- Casts with the same increment have the same core if their sprites have the same cores. -/
theorem core_eq_of_sprites (hi : c.increment = c'.increment)
    (hs : c.sprites.map (·.core) = c'.sprites.map (·.core)) : c.core = c'.core := by
  unfold core
  rw [hi, hs]

theorem add_core (c : Cast) (spec : SpriteSpec) :
    (c.core.add spec).map core = (c.add spec).map core := by
  unfold add
  rw [contains_core]
  split
  · rfl
  · refine congrArg Except.ok (core_eq_of_sprites rfl ?_)
    rw [List.map_append, sprites_core_core, List.map_append]
    rfl

theorem remove_core (c : Cast) (id : SpriteId) :
    (c.core.remove id).map core = (c.remove id).map core := by
  unfold remove
  rw [position?_core]
  split
  · rfl
  · refine congrArg Except.ok (core_eq_of_sprites rfl ?_)
    rw [← List.eraseIdx_map, ← List.eraseIdx_map, sprites_core_core]
    rfl

theorem select_core (c : Cast) (id : SpriteId) :
    (c.core.select id).map core = (c.select id).map core := by
  unfold select
  rw [position?_core]
  split
  · rfl
  · exact congrArg Except.ok c.core_core

theorem edit_core (c : Cast) (id : SpriteId) (t : Trigger) (e : Program.Edit) :
    (c.core.edit id t e).map (fun result => (result.1, result.2.core)) =
      (c.edit id t e).map fun result => (result.1, result.2.core) := by
  unfold edit
  rw [find?_core]
  cases c.find? id with
  | none => rfl
  | some s =>
      have hprogram : s.core.program.edit t e = s.program.edit t e := rfl
      dsimp only [Option.map_some]
      rw [hprogram]
      cases s.program.edit t e with
      | error error => rfl
      | ok result =>
          obtain ⟨removed, program⟩ := result
          have hmodified := modify_core (f := fun s => s.withProgram c.increment program)
            (fun s => (s.withProgram c.increment program).core_core) c id
          exact congrArg (fun cast => Except.ok (removed, cast)) hmodified

end Cast

/-! ## Scans -/

theorem Monitor.coordinate_core (m : Monitor) (c : Cast) (cooldown : Nat) :
    m.coordinate c.core cooldown = project Sprite.core (m.coordinate c cooldown) :=
  coordinate_project Sprite.isBlind_core m c cooldown

theorem Scan.swapped_core (m : Monitor) (c : Cast) (cooldown : Nat) :
    Scan.swapped ⟨m, c.core⟩ cooldown = Scan.swapped ⟨m, c⟩ cooldown := by
  have hcore := congrArg Prod.fst (m.coordinate_core c cooldown)
  exact hcore

/-! ## Clocks -/

namespace Clock

/-- The clock without its counts, and without the time of its last frame. -/
def core (c : Clock) : Clock := { c with ticks := 0, frames := 0, frameTime := 0 }

theorem beginFrame_core (c : Clock) (now : Instant) :
    (c.core.beginFrame now).core = (c.beginFrame now).core := by
  unfold beginFrame core
  cases c.last <;> rfl

theorem due_core (c : Clock) : c.core.due = c.due := rfl

theorem drain_core (c : Clock) : c.core.drain.core = c.drain.core := rfl

end Clock

/-! ## Sessions -/

namespace Session

variable {s t : Session}

def core (s : Session) : Session :=
  { s with cast := s.cast.core, clock := s.clock.core, ticks := 0, swaps := 0 }

theorem core_eq_of (hsettings : s.settings = t.settings) (hcast : s.cast.core = t.cast.core)
    (hmonitor : s.monitor = t.monitor) (htimers : s.timers = t.timers)
    (hclock : s.clock.core = t.clock.core) (hscan : s.sinceScan = t.sinceScan) :
    s.core = t.core := by
  unfold core
  rw [hsettings, hcast, hmonitor, htimers, hclock, hscan]

theorem core_core (s : Session) : s.core.core = s.core :=
  core_eq_of rfl s.cast.core_core rfl rfl rfl rfl

theorem act_eq (s : Session) (now : Instant) :
    s.act now = { s with
      cast := { s.cast with sprites := s.cast.sprites.map (·.act) }
      timers := s.cast.sprites.foldl (Sprite.schedule now) s.timers } := by
  rw [← timers_act]
  exact congrArg (fun cast => { s with cast, timers := (s.act now).timers }) (cast_act s now)

theorem find?_act (s : Session) (now : Instant) (id : SpriteId) :
    (s.act now).cast.find? id = (s.cast.find? id).map (·.act) := by
  rw [act_eq]
  exact s.cast.find?_map_sprites (f := (·.act)) (fun _ => rfl) id

theorem act_core (s : Session) (now : Instant) : s.core.act now = (s.act now).core := by
  have hsprites : s.core.cast.sprites.map (·.act) =
      (s.cast.sprites.map (·.act)).map (·.core) := by
    unfold core Cast.core
    rw [List.map_map, List.map_map]
    exact List.map_congr_left fun sprite _ => sprite.act_core
  have htimers : s.core.cast.sprites.foldl (Sprite.schedule now) s.core.timers =
      s.cast.sprites.foldl (Sprite.schedule now) s.timers := by
    unfold core Cast.core
    rw [List.foldl_map]
    congr 1
    funext timers sprite
    exact sprite.schedule_core now timers
  rw [act_eq, act_eq, hsprites, htimers]
  rfl

theorem acted_core (s : Session) (now : Instant) :
    (s.core.acted now).core = (s.acted now).core := by
  unfold acted
  rw [act_core]
  exact core_eq_of rfl (s.act now).cast.core_core rfl rfl rfl rfl

theorem scan_core (s : Session) : s.core.scan.core = s.scan.core := by
  have hcore := s.monitor.coordinate_core s.cast s.settings.swapCooldown
  have hcast := (congrArg (·.2.2.core) hcore).trans (Cast.core_core _)
  have hmonitor := congrArg (·.2.1) hcore
  exact core_eq_of rfl hcast hmonitor rfl rfl rfl

theorem tick_core (s : Session) (now : Instant) : (s.core.tick now).core = (s.tick now).core := by
  have hacted := acted_core s now
  rw [tick_eq, tick_eq]
  change (if max s.settings.scanEvery 1 ≤ s.sinceScan + 1 then (s.core.acted now).scan
    else s.core.acted now).core = _
  split
  · exact eq_of_proj_eq (f := scan) scan_core hacted
  · exact hacted

theorem tickTimes_eq_of_core_eq (h : s.core = t.core) (now : Instant) (count : Nat) :
    (s.tickTimes now count).core = (t.tickTimes now count).core := by
  induction count generalizing s t with
  | zero => exact h
  | succ count ih =>
      exact ih (eq_of_proj_eq (f := fun s => s.tick now) (fun s => s.tick_core now) h)

theorem expireBubbles_core (s : Session) (now : Instant) :
    (s.core.expireBubbles now).core = (s.expireBubbles now).core := by
  refine core_eq_of rfl ?_ rfl rfl rfl rfl
  rw [cast_expireBubbles, cast_expireBubbles]
  refine Cast.map_core (fun sprite => ?_) s.cast
  change (if sprite.id ∈ s.timers.expired now then sprite.core.clearBubble else sprite.core).core =
    (if sprite.id ∈ s.timers.expired now then sprite.clearBubble else sprite).core
  split
  · exact sprite.clearBubble.core_core
  · exact sprite.core_core

theorem expireBubbles_eq_of_core_eq (h : s.core = t.core) (now : Instant) :
    (s.expireBubbles now).core = (t.expireBubbles now).core :=
  eq_of_proj_eq (f := fun s => s.expireBubbles now) (fun s => s.expireBubbles_core now) h

/-! ## Operations -/

theorem isClickable_core (s : Session) (id : SpriteId) :
    s.core.isClickable id = s.isClickable id := by
  have hfind : s.core.cast.find? id = (s.cast.find? id).map (·.core) := s.cast.find?_core id
  unfold isClickable
  rw [hfind, Option.any_map]
  rfl

theorem click_core (s : Session) (id : SpriteId) (now : Instant) :
    (s.core.click id now).core = (s.click id now).core := by
  unfold click
  rw [isClickable_core]
  split
  · refine core_eq_of rfl ?_ rfl rfl ?_ rfl
    · exact Cast.modify_core (fun sprite => congrArg Sprite.core (sprite.arm_core .click)) s.cast id
    · change (if s.clock.isRunning then s.clock.core else s.clock.core.start now).core =
        (if s.clock.isRunning then s.clock else s.clock.start now).core
      split <;> rfl
  · exact s.core_core

/-- The session with time fed into its clock, before any tick. -/
def fed (s : Session) (now : Instant) : Session :=
  { s with clock := (s.clock.beginFrame now).drain }

theorem fed_core (s : Session) (now : Instant) : (s.core.fed now).core = (s.fed now).core := by
  refine core_eq_of rfl s.cast.core_core rfl rfl ?_ rfl
  exact eq_of_proj_eq (f := Clock.drain) Clock.drain_core (s.clock.beginFrame_core now)

theorem due_core (s : Session) (now : Instant) :
    (s.core.clock.beginFrame now).due = (s.clock.beginFrame now).due := by
  rw [← Clock.due_core, ← Clock.due_core (s.clock.beginFrame now)]
  exact congrArg Clock.due (s.clock.beginFrame_core now)

theorem advance_core (s : Session) (now : Instant) :
    (s.core.advance now).1 = (s.advance now).1 ∧
      (s.core.advance now).2.core = (s.advance now).2.core := by
  refine ⟨s.due_core now, expireBubbles_eq_of_core_eq ?_ now⟩
  change ((s.core.fed now).tickTimes now (s.core.clock.beginFrame now).due).core =
    ((s.fed now).tickTimes now (s.clock.beginFrame now).due).core
  rw [s.due_core now]
  exact tickTimes_eq_of_core_eq (s.fed_core now) now _

/-- An operation replies the same to a session and to its core, and leads from both to sessions with
the same core. -/
theorem perform_core (s : Session) (op : Operation) :
    (s.core.perform op).map (fun result => (result.1, result.2.core)) =
      (s.perform op).map fun result => (result.1, result.2.core) := by
  have hcast : s.core.cast = s.cast.core := rfl
  -- Whether an operation is rejected is decided by the cast, which the core has kept.
  have hreplied {t t' : Session} (reply : Reply) (h : t.core = t'.core) :
      (Except.ok (reply, t.core) : Except CastError _) = .ok (reply, t'.core) := by rw [h]
  cases op with
  | add spec =>
      dsimp only [perform, add]
      rw [hcast]
      obtain ⟨e, h, h'⟩ | ⟨c, c', h, h', hcore⟩ := exists_of_map_eq (s.cast.add_core spec)
      · rw [h, h']
        rfl
      · rw [h, h']
        exact hreplied _ (core_eq_of rfl hcore rfl rfl rfl rfl)
  | delete id =>
      dsimp only [perform, delete]
      rw [hcast]
      obtain ⟨e, h, h'⟩ | ⟨c, c', h, h', hcore⟩ := exists_of_map_eq (s.cast.remove_core id)
      · rw [h, h']
        rfl
      · rw [h, h']
        exact hreplied _ (core_eq_of rfl hcore rfl rfl rfl rfl)
  | select id =>
      dsimp only [perform, select]
      rw [hcast]
      obtain ⟨e, h, h'⟩ | ⟨c, c', h, h', hcore⟩ := exists_of_map_eq (s.cast.select_core id)
      · rw [h, h']
        rfl
      · rw [h, h']
        exact hreplied _ (core_eq_of rfl hcore rfl rfl rfl rfl)
  | edit id trigger e =>
      dsimp only [perform, edit]
      rw [hcast]
      obtain ⟨e, h, h'⟩ | ⟨⟨removed, c⟩, ⟨removed', c'⟩, h, h', hcore⟩ :=
        exists_of_map_eq (s.cast.edit_core id trigger e)
      · rw [h, h']
        rfl
      · obtain ⟨rfl, hcore⟩ := Prod.mk.inj hcore
        rw [h, h']
        exact hreplied _ (core_eq_of rfl hcore rfl rfl rfl rfl)
  | play now => exact hreplied _ (core_eq_of rfl (s.cast.armAll_core .play) rfl rfl rfl rfl)
  | stop => exact hreplied _ (core_eq_of rfl s.cast.core_core rfl rfl rfl rfl)
  | restart => exact hreplied _ (core_eq_of rfl s.cast.restartAll_core rfl rfl rfl rfl)
  | click id now =>
      dsimp only [perform]
      rw [isClickable_core]
      exact hreplied _ (s.click_core id now)
  | advance now =>
      obtain ⟨hcount, hcore⟩ := s.advance_core now
      exact congrArg₂ (fun count t => Except.ok (Reply.ran count, t)) hcount hcore
  | step now => exact hreplied _ (expireBubbles_eq_of_core_eq (s.tick_core now) now)

theorem reply_core (s : Session) (op : Operation) : s.core.reply op = s.reply op := by
  unfold reply
  obtain ⟨e, h, h'⟩ | ⟨r, r', h, h', hcore⟩ := exists_of_map_eq (s.perform_core op)
  · rw [h, h']
  · rw [h, h']
    exact congrArg Except.ok (congrArg (·.1) hcore)

theorem after_core (s : Session) (op : Operation) : (s.core.after op).core = (s.after op).core := by
  obtain ⟨e, h, h'⟩ | ⟨r, r', h, h', hcore⟩ := exists_of_map_eq (s.perform_core op)
  · rw [after_of_error h, after_of_error h']
    exact s.core_core
  · rw [after_of_ok h, after_of_ok h']
    exact congrArg (·.2) hcore

theorem tickSwapped_one (s : Session) (now : Instant) :
    s.tickSwapped now 1 = if max s.settings.scanEvery 1 ≤ s.sinceScan + 1 then
      [Scan.swapped ⟨s.monitor, (s.act now).cast⟩ s.settings.swapCooldown] else [] := by
  unfold tickSwapped tickScans tickScan?
  split <;> rfl

theorem tickSwapped_core (s : Session) (now : Instant) :
    s.core.tickSwapped now 1 = s.tickSwapped now 1 := by
  rw [tickSwapped_one, tickSwapped_one, act_core]
  change (if max s.settings.scanEvery 1 ≤ s.sinceScan + 1 then
    [Scan.swapped ⟨s.monitor, (s.act now).cast.core⟩ s.settings.swapCooldown] else []) = _
  rw [Scan.swapped_core]

theorem tickSwapped_eq_of_core_eq (h : s.core = t.core) (now : Instant) (count : Nat) :
    s.tickSwapped now count = t.tickSwapped now count := by
  induction count generalizing s t with
  | zero => rfl
  | succ count ih =>
      have htick : (s.tick now).core = (t.tick now).core :=
        eq_of_proj_eq (f := fun s => s.tick now) (fun s => s.tick_core now) h
      rw [tickSwapped_succ s, tickSwapped_succ t, ih htick, ← s.tickSwapped_core, h,
        t.tickSwapped_core]

theorem swapped_core (s : Session) (op : Operation) : s.core.swapped op = s.swapped op := by
  cases op with
  | advance now =>
      change (s.core.fed now).tickSwapped now (s.core.clock.beginFrame now).due =
        (s.fed now).tickSwapped now (s.clock.beginFrame now).due
      rw [s.due_core now]
      exact tickSwapped_eq_of_core_eq (s.fed_core now) now _
  | step now => exact tickSwapped_eq_of_core_eq s.core_core now 1
  | _ => rfl

end Session

end SpriteStage
