import SpriteStage.Proofs.SessionCore

/-!
# Sessions with equal cores

Sessions with equal cores show the same whatever is done to them (`outcomes_eq_of_core_eq`), and go
on having equal cores (`afterAll_eq_of_core_eq`). If the same sprite is selected in both, it stays
so. Their counts stay as far apart as they are, except those of their clocks, which start again at
zero.
-/

namespace SpriteStage

/-! ## What a session shows -/

/-- What a sprite shows. -/
structure Snapshot where
  id : SpriteId
  pose : Pose
  bubble : Option Bubble
  trigger : Option Trigger
  index : Int
  phase : Phase
deriving DecidableEq

def Sprite.snapshot (s : Sprite) : Snapshot where
  id := s.id
  pose := s.actor.pose
  bubble := s.actor.bubble
  trigger := s.actor.trigger?
  index := s.actor.index
  phase := s.actor.phase

theorem Sprite.snapshot_core (s : Sprite) : s.core.snapshot = s.snapshot := by
  unfold snapshot core
  dsimp only
  rw [Actor.phase_core]
  rfl

/-- What can be seen of an operation: its reply, the encounters that swap in each of its scans, and
then the sprites with their cooldowns and programs. -/
structure Outcome where
  reply : Except CastError Reply
  swapped : List (List Contact)
  snapshots : List Snapshot
  cooldowns : List Nat
  programs : List Program

namespace Session

variable {s t : Session}

def outcome (s : Session) (op : Operation) : Outcome where
  reply := s.reply op
  swapped := s.swapped op
  snapshots := (s.after op).cast.sprites.map (·.snapshot)
  cooldowns := (s.after op).cast.sprites.map (·.actor.cooldown)
  programs := (s.after op).cast.sprites.map (·.program)

def outcomes (s : Session) : List Operation → List Outcome
  | [] => []
  | op :: ops => s.outcome op :: (s.after op).outcomes ops

/-- What can be read off the cores of sprites is the same in sessions with equal cores. -/
theorem map_sprites_eq {α : Type} {f : Sprite → α}
    (hf : ∀ sprite : Sprite, f sprite.core = f sprite) (h : s.core = t.core) :
    s.cast.sprites.map f = t.cast.sprites.map f := by
  have hcore (s : Session) : s.core.cast.sprites.map f = s.cast.sprites.map f := by
    unfold core Cast.core
    rw [List.map_map]
    exact List.map_congr_left fun sprite _ => hf sprite
  rw [← hcore s, h, hcore t]

theorem after_eq_of_core_eq (h : s.core = t.core) (op : Operation) :
    (s.after op).core = (t.after op).core :=
  eq_of_proj_eq (f := fun s => s.after op) (fun s => s.after_core op) h

theorem outcome_eq_of_core_eq (h : s.core = t.core) (op : Operation) :
    s.outcome op = t.outcome op := by
  have hafter := after_eq_of_core_eq h op
  have hreply : s.reply op = t.reply op := by rw [← reply_core, h, reply_core]
  have hswapped : s.swapped op = t.swapped op := by rw [← swapped_core, h, swapped_core]
  unfold outcome
  rw [hreply, hswapped, map_sprites_eq Sprite.snapshot_core hafter,
    map_sprites_eq (fun _ => rfl) hafter, map_sprites_eq (fun _ => rfl) hafter]

theorem afterAll_eq_of_core_eq (h : s.core = t.core) (ops : List Operation) :
    (s.afterAll ops).core = (t.afterAll ops).core := by
  induction ops generalizing s t with
  | nil => exact h
  | cons op ops ih => exact ih (after_eq_of_core_eq h op)

theorem outcomes_eq_of_core_eq (h : s.core = t.core) (ops : List Operation) :
    s.outcomes ops = t.outcomes ops := by
  induction ops generalizing s t with
  | nil => rfl
  | cons op ops ih =>
      rw [outcomes, outcomes, outcome_eq_of_core_eq h, ih (after_eq_of_core_eq h op)]

theorem selected_eq_of_core_eq (h : s.core = t.core) (hselected : s.cast.selected = t.cast.selected)
    (ops : List Operation) :
    (s.afterAll ops).cast.selected = (t.afterAll ops).cast.selected := by
  induction ops generalizing s t with
  | nil => exact hselected
  | cons op ops ih =>
      have hids : s.cast.ids = t.cast.ids := map_sprites_eq (fun _ => rfl) h
      refine ih (after_eq_of_core_eq h op) ?_
      rw [selected_after, selected_after, hids, hselected]

/-! ## Counts -/

theorem ticksRun_core (s : Session) (op : Operation) : s.core.ticksRun op = s.ticksRun op := by
  cases op with
  | advance now => exact s.due_core now
  | _ => rfl

/-- The counts of sessions with equal cores stay as far apart as they are. -/
theorem counts_eq_of_core_eq (h : s.core = t.core) (ops : List Operation) :
    (s.afterAll ops).ticks + t.ticks = (t.afterAll ops).ticks + s.ticks ∧
      (s.afterAll ops).swaps + t.swaps = (t.afterAll ops).swaps + s.swaps := by
  induction ops generalizing s t with
  | nil => exact ⟨Nat.add_comm _ _, Nat.add_comm _ _⟩
  | cons op ops ih =>
      have hs := s.counts_after op
      have ht := t.counts_after op
      have hran : s.ticksRun op = t.ticksRun op := by rw [← ticksRun_core, h, ticksRun_core]
      have hswapped : s.swapped op = t.swapped op := by rw [← swapped_core, h, swapped_core]
      obtain ⟨hticks, hswaps⟩ := ih (after_eq_of_core_eq h op)
      rw [hs.ticks, ht.ticks, hran] at hticks
      rw [hs.swaps, ht.swaps, hswapped] at hswaps
      change ((s.after op).afterAll ops).ticks + _ = ((t.after op).afterAll ops).ticks + _ ∧
        ((s.after op).afterAll ops).swaps + _ = ((t.after op).afterAll ops).swaps + _
      exact ⟨by omega, by omega⟩

end Session

/-- The ticks and frames that a clock has counted since it was last started. -/
def Clock.counts (c : Clock) : Nat × Nat := (c.ticks, c.frames)

theorem Clock.counts_drain_beginFrame (c : Clock) (now : Instant) :
    (c.beginFrame now).drain.counts =
      (c.ticks + (c.beginFrame now).due, c.frames + if c.isRunning then 1 else 0) := by
  unfold drain take counts beginFrame isRunning
  cases c.last <;> rfl

theorem Clock.counts_ofPeriod (period : Duration) : (ofPeriod period).counts = (0, 0) := by
  unfold ofPeriod
  split <;> rfl

namespace Session

variable {s t : Session}

/-- A stopped clock keeps its counts until an operation starts it, and then counts from zero. -/
theorem counts_clockAfter_of_stopped (h : s.isPlaying = false) (op : Operation) :
    (s.clockAfter op).counts = if (s.clockAfter op).isRunning then (0, 0) else s.clock.counts := by
  have hstopped : s.clock.isRunning = false := h
  cases op with
  | play now => rfl
  | click id now =>
      rw [clockAfter]
      split
      · rfl
      · rw [hstopped]
        rfl
  | advance now =>
      have hdue : (s.clock.beginFrame now).due = 0 :=
        Clock.due_of_not_isRunning (by rw [Clock.isRunning_beginFrame, hstopped])
      have hrunning : (s.clock.beginFrame now).drain.isRunning = false := by
        rw [Clock.drain, Clock.isRunning_take, Clock.isRunning_beginFrame, hstopped]
      change (s.clock.beginFrame now).drain.counts =
        if (s.clock.beginFrame now).drain.isRunning then (0, 0) else s.clock.counts
      rw [Clock.counts_drain_beginFrame, hdue, hstopped, hrunning]
      rfl
  | stop => rfl
  | restart => rfl
  | _ =>
      change s.clock.counts = if s.clock.isRunning then (0, 0) else s.clock.counts
      rw [hstopped]
      rfl

theorem isPlaying_core (s : Session) : s.core.isPlaying = s.isPlaying := rfl

theorem isPlaying_eq_of_core_eq (h : s.core = t.core) : s.isPlaying = t.isPlaying := by
  rw [← isPlaying_core, h, isPlaying_core]

theorem counts_clockAfter_congr (h : s.core = t.core) (hcounts : s.clock.counts = t.clock.counts)
    (op : Operation) : (s.clockAfter op).counts = (t.clockAfter op).counts := by
  have hplaying := isPlaying_eq_of_core_eq h
  cases op with
  | click id now =>
      have hclickable : s.isClickable id = t.isClickable id := by
        rw [← isClickable_core, h, isClickable_core]
      rw [clockAfter, clockAfter, hclickable, hplaying]
      split
      · rfl
      · exact hcounts
  | advance now =>
      have hdue : (s.clock.beginFrame now).due = (t.clock.beginFrame now).due := by
        rw [← due_core, h, due_core]
      have hrunning : s.clock.isRunning = t.clock.isRunning := hplaying
      obtain ⟨hticks, hframes⟩ := Prod.mk.inj hcounts
      change (s.clock.beginFrame now).drain.counts = (t.clock.beginFrame now).drain.counts
      rw [Clock.counts_drain_beginFrame, Clock.counts_drain_beginFrame, hdue, hrunning, hticks,
        hframes]
  | play now => rfl
  | _ => exact hcounts

theorem clock_counts_afterAll_congr (h : s.core = t.core)
    (hcounts : s.clock.counts = t.clock.counts) (ops : List Operation) :
    (s.afterAll ops).clock.counts = (t.afterAll ops).clock.counts := by
  induction ops generalizing s t with
  | nil => exact hcounts
  | cons op ops ih =>
      refine ih (after_eq_of_core_eq h op) ?_
      rw [(s.counts_after op).clock, (t.counts_after op).clock]
      exact counts_clockAfter_congr h hcounts op

/-- Whatever the clocks of stopped sessions with equal cores have counted, they have counted the
same once they have been started. -/
theorem clock_counts_of_core_eq (h : s.core = t.core) (hstopped : s.isPlaying = false)
    (ops : List Operation) :
    (s.afterAll ops).clock.counts = (t.afterAll ops).clock.counts ∨
      (∀ p, p <+: ops → (s.afterAll p).isPlaying = false) ∧
        (s.afterAll ops).clock.counts = s.clock.counts ∧
        (t.afterAll ops).clock.counts = t.clock.counts := by
  induction ops generalizing s t with
  | nil =>
      refine .inr ⟨fun p hp => ?_, rfl, rfl⟩
      rw [List.prefix_nil.1 hp]
      exact hstopped
  | cons op ops ih =>
      have hafter := after_eq_of_core_eq h op
      have hplaying := isPlaying_eq_of_core_eq hafter
      have hs := counts_clockAfter_of_stopped hstopped op
      have ht := counts_clockAfter_of_stopped ((isPlaying_eq_of_core_eq h).symm.trans hstopped) op
      rw [← (s.counts_after op).clock] at hs
      rw [← (t.counts_after op).clock] at ht
      change _ = if (s.after op).isPlaying then _ else _ at hs
      change _ = if (t.after op).isPlaying then _ else _ at ht
      -- The first operation that starts the clocks starts both, and both then count from zero.
      cases hstarted : (s.after op).isPlaying with
      | true =>
          rw [hstarted] at hs hplaying
          rw [← hplaying] at ht
          exact .inl (clock_counts_afterAll_congr hafter (hs.trans ht.symm) ops)
      | false =>
          rw [hstarted] at hs hplaying
          rw [← hplaying] at ht
          obtain hsame | ⟨hnever, hkept, hkept'⟩ := ih hafter hstarted
          · exact .inl hsame
          · refine .inr ⟨fun p hp => ?_, hkept.trans hs, hkept'.trans ht⟩
            cases p with
            | nil => exact hstopped
            | cons op' p =>
                obtain ⟨rfl, hrest⟩ := List.cons_prefix_cons.1 hp
                exact hnever p hrest

end Session

end SpriteStage
