import Mathlib.Data.List.Induction
import SpriteStage.Proofs.ActorSteps
import SpriteStage.Proofs.SessionParts

/-!
# Bubbles that nothing clears

A bubble appears together with a deadline, and goes when the deadline has passed. Only a stop takes
the deadline away and leaves the bubble, which then lingers until a play, a restart or a new bubble:
a click starts the clock again and gives it no deadline. So a bubble without a deadline has had none
ever since some stop (`lingers_iff_since_stop`), and playing does not mean that every bubble has one
(`not_timed_while_playing`).
-/

namespace SpriteStage

def Effect.isBubble : Effect → Bool
  | .bubble _ => true
  | _ => false

theorem Actor.bubble_tick {a : Actor} (h : a.tick.2.isBubble = false) :
    a.tick.1.bubble = a.bubble := by
  rw [tick_eq] at h ⊢
  cases hcurrent : a.current? with
  | none => rfl
  | some block =>
      rw [hcurrent] at h
      cases block with
      | speak => cases h
      | _ => rfl

theorem Sprite.bubble_takeOver (s : Sprite) (i : Increment) (p : Program) (cooldown : Nat) :
    (s.takeOver i p cooldown).actor.bubble = s.actor.bubble := by
  rw [actor_takeOver]

/-- A sprite of the cast shows a bubble. -/
def Cast.Shows (c : Cast) (id : SpriteId) : Prop :=
  ∃ sprite ∈ c.sprites, sprite.id = id ∧ sprite.actor.bubble.isSome

namespace Cast

variable {c c' : Cast} {id : SpriteId}

/-- Sprites that are changed without a new bubble show none that they have not shown before. -/
theorem Shows.of_map {f : Sprite → Sprite} (hid : ∀ s, (f s).id = s.id)
    (hf : ∀ s, (f s).actor.bubble.isSome → s.actor.bubble.isSome)
    (h : { c with sprites := c.sprites.map f }.Shows id) : c.Shows id := by
  obtain ⟨sprite', hmem, rfl, hshown⟩ := h
  obtain ⟨sprite, hsprite, rfl⟩ := List.mem_map.1 hmem
  exact ⟨sprite, hsprite, (hid sprite).symm, hf sprite hshown⟩

theorem Shows.of_modify {f : Sprite → Sprite} {id' : SpriteId} (hid : ∀ s, (f s).id = s.id)
    (hf : ∀ s, (f s).actor.bubble.isSome → s.actor.bubble.isSome)
    (h : (c.modify id' f).Shows id) : c.Shows id := by
  refine Shows.of_map (fun s => ?_) (fun s => ?_) h
  · split
    · exact hid s
    · rfl
  · split
    · exact hf s
    · exact fun hs => hs

theorem Shows.of_add {spec : SpriteSpec} (hc : c.add spec = .ok c') (h : c'.Shows id) :
    c.Shows id := by
  unfold add at hc
  split at hc <;> cases hc
  obtain ⟨sprite, hsprite, hid, hshown⟩ := h
  rcases List.mem_append.1 hsprite with hold | hnew
  · exact ⟨sprite, hold, hid, hshown⟩
  · obtain rfl := List.mem_singleton.1 hnew
    cases hshown

theorem Shows.of_remove {id' : SpriteId} (hc : c.remove id' = .ok c') (h : c'.Shows id) :
    c.Shows id := by
  unfold remove at hc
  split at hc <;> cases hc
  obtain ⟨sprite, hsprite, hid, hshown⟩ := h
  exact ⟨sprite, List.mem_of_mem_eraseIdx hsprite, hid, hshown⟩

/-- A sprite that is removed shows nothing. -/
theorem not_shows_of_remove (hc : c.ids.Nodup) (h : c.remove id = .ok c') : ¬ c'.Shows id := by
  rintro ⟨sprite, hsprite, hid, -⟩
  exact ((mem_remove_iff hc h).1 hsprite).2 hid

theorem Shows.of_edit {id' : SpriteId} {t : Trigger} {e : Program.Edit} {removed : Option Block}
    (hc : c.edit id' t e = .ok (removed, c')) (h : c'.Shows id) : c.Shows id := by
  unfold Cast.edit at hc
  split at hc
  · cases hc
  · split at hc <;> cases hc
    exact Shows.of_modify (f := fun s => s.withProgram c.increment _) (fun _ => rfl)
      (fun _ hs => hs) h

theorem Shows.of_swap {a b : SpriteId} {cooldown : Nat} (hc : c.swap a b cooldown = .ok c')
    (h : c'.Shows id) : c.Shows id := by
  obtain ⟨-, s, t, -, -, rfl⟩ := exists_of_swap hc
  refine Shows.of_map (id_handOver c.increment s t cooldown) (fun x => ?_) h
  unfold handOver
  split
  · rw [Sprite.bubble_takeOver]
    exact fun hx => hx
  · split
    · rw [Sprite.bubble_takeOver]
      exact fun hx => hx
    · exact fun hx => hx

theorem not_shows_armAll_play (c : Cast) : ¬ (c.armAll .play).Shows id := by
  rintro ⟨sprite, hsprite, -, hshown⟩
  obtain ⟨s, -, rfl⟩ := List.mem_map.1 hsprite
  cases hshown

theorem not_shows_restartAll (c : Cast) : ¬ c.restartAll.Shows id := by
  rintro ⟨sprite, hsprite, -, hshown⟩
  obtain ⟨s, -, rfl⟩ := List.mem_map.1 hsprite
  cases hshown

end Cast

namespace Session

variable {s : Session} {op : Operation} {id : SpriteId}

/-- A sprite shows a bubble that has no deadline. -/
structure Lingers (s : Session) (id : SpriteId) : Prop where
  shown : s.cast.Shows id
  untimed : s.timers.deadline? id = none

/-! ## Ticks -/

/-- A sprite that speaks has a deadline afterwards. -/
theorem untimed_schedule {now : Instant} {timers : BubbleTimers} {sprite : Sprite}
    (h : (sprite.schedule now timers).deadline? id = none) :
    timers.deadline? id = none ∧ (sprite.id = id → sprite.actor.tick.2.isBubble = false) := by
  unfold Sprite.schedule at h
  cases heffect : sprite.actor.tick.2 with
  | bubble seconds =>
      rw [heffect] at h
      dsimp only at h
      rw [BubbleTimers.deadline?_schedule] at h
      split at h
      · cases h
      · rename_i hne
        exact ⟨h, fun hid => absurd hid.symm hne⟩
  | _ =>
      rw [heffect] at h
      exact ⟨h, fun _ => rfl⟩

theorem untimed_act {now : Instant} (h : (s.act now).timers.deadline? id = none) :
    s.timers.deadline? id = none ∧
      ∀ sprite ∈ s.cast.sprites, sprite.id = id → sprite.actor.tick.2.isBubble = false := by
  rw [timers_act] at h
  generalize s.cast.sprites = sprites at h ⊢
  generalize s.timers = timers at h ⊢
  induction sprites generalizing timers with
  | nil => exact ⟨h, fun _ hsprite => by cases hsprite⟩
  | cons first rest ih =>
      obtain ⟨hnone, hrest⟩ := ih _ h
      obtain ⟨hbefore, hfirst⟩ := untimed_schedule hnone
      refine ⟨hbefore, fun sprite hsprite hid => ?_⟩
      rcases List.mem_cons.1 hsprite with rfl | hsprite
      · exact hfirst hid
      · exact hrest sprite hsprite hid

theorem Lingers.of_act {now : Instant} (h : (s.act now).Lingers id) : s.Lingers id := by
  obtain ⟨hnone, hsilent⟩ := untimed_act h.untimed
  have hshown := h.shown
  rw [cast_act] at hshown
  obtain ⟨sprite', hmem, rfl, hbubble⟩ := hshown
  obtain ⟨sprite, hsprite, rfl⟩ := List.mem_map.1 hmem
  rw [Actor.bubble_tick (hsilent sprite hsprite rfl)] at hbubble
  exact ⟨⟨sprite, hsprite, rfl, hbubble⟩, hnone⟩

theorem Lingers.of_tick {now : Instant} (h : (s.tick now).Lingers id) : s.Lingers id := by
  rw [tick_eq] at h
  split at h
  · have hshown : (s.act now).cast.Shows id := Monitor.coordinate_keeps
      (P := fun c => c.Shows id → (s.act now).cast.Shows id) (fun hs => hs)
      (fun _ _ _ _ hkept hswap hs => hkept (hs.of_swap hswap)) h.shown
    exact Lingers.of_act ⟨hshown, h.untimed⟩
  · have hacted : (s.act now).Lingers id := ⟨h.shown, h.untimed⟩
    exact hacted.of_act

theorem Lingers.of_tickTimes {now : Instant} {count : Nat}
    (h : (s.tickTimes now count).Lingers id) : s.Lingers id := by
  induction count generalizing s with
  | zero => exact h
  | succ count ih => exact (ih h).of_tick

theorem Lingers.of_expireBubbles {now : Instant} (h : (s.expireBubbles now).Lingers id) :
    s.Lingers id := by
  obtain ⟨hshown, hnone⟩ := h
  rw [cast_expireBubbles] at hshown
  change (s.timers.dropExpired now).deadline? id = none at hnone
  rw [BubbleTimers.deadline?_dropExpired_eq_ite] at hnone
  obtain ⟨sprite', hmem, rfl, hbubble⟩ := hshown
  obtain ⟨sprite, hsprite, rfl⟩ := List.mem_map.1 hmem
  by_cases hexpired : sprite.id ∈ s.timers.expired now
  · rw [if_pos hexpired] at hbubble
    cases hbubble
  · rw [if_neg hexpired] at hbubble hnone ⊢
    rw [if_neg hexpired] at hnone
    exact ⟨⟨sprite, hsprite, rfl, hbubble⟩, hnone⟩

/-! ## Operations -/

/-- Only a stop leaves a bubble that has lost its deadline. -/
theorem Lingers.of_after (hs : s.Sound) (hop : op ≠ .stop) (h : (s.after op).Lingers id) :
    s.Lingers id := by
  cases op with
  | add spec =>
      rw [after_add] at h
      split at h
      · rename_i hc
        exact ⟨h.shown.of_add hc, h.untimed⟩
      · exact h
  | delete id' =>
      rw [after_delete] at h
      split at h
      · rename_i hc
        have hne : id ≠ id' := by
          rintro rfl
          exact Cast.not_shows_of_remove hs.nodup hc h.shown
        have hnone := h.untimed
        rw [BubbleTimers.deadline?_cancel, if_neg hne] at hnone
        exact ⟨h.shown.of_remove hc, hnone⟩
      · exact h
  | select id' =>
      rw [after_select] at h
      split at h
      · rename_i hc
        have hshown := h.shown
        unfold Cast.Shows at hshown
        rw [Cast.sprites_select hc] at hshown
        exact ⟨hshown, h.untimed⟩
      · exact h
  | edit id' trigger e =>
      rw [after_edit] at h
      split at h
      · rename_i hc
        exact ⟨h.shown.of_edit hc, h.untimed⟩
      · exact h
  | play now => exact absurd h.shown s.cast.not_shows_armAll_play
  | stop => exact absurd rfl hop
  | restart => exact absurd h.shown s.cast.not_shows_restartAll
  | click id' now =>
      change (s.click id' now).Lingers id at h
      unfold click at h
      split at h
      · have hshown : s.cast.Shows id :=
          Cast.Shows.of_modify (f := (·.arm .click)) (fun _ => rfl) (fun _ hs => hs) h.shown
        exact ⟨hshown, h.untimed⟩
      · exact h
  | advance now =>
      have hticked := Lingers.of_expireBubbles h
      have hfed := Lingers.of_tickTimes hticked
      exact ⟨hfed.shown, hfed.untimed⟩
  | step now => exact (Lingers.of_expireBubbles h).of_tick

/-- A bubble without a deadline lost it in a stop, and has had none ever since. -/
theorem lingers_iff_since_stop (settings : Settings) (ops : List Operation) (id : SpriteId) :
    ((ofSettings settings).afterAll ops).Lingers id ↔
      ∃ before later, ops = before ++ .stop :: later ∧
        (((ofSettings settings).afterAll before).timers.deadline? id).isSome ∧
        ∀ p, p <+: later → ((ofSettings settings).afterAll (before ++ .stop :: p)).Lingers id := by
  constructor
  · intro h
    induction ops using List.reverseRecOn with
    | nil =>
        obtain ⟨⟨sprite, hsprite, -⟩, -⟩ := h
        cases hsprite
    | append_singleton ops op ih =>
        have hsplit : (ofSettings settings).afterAll (ops ++ [op]) =
            ((ofSettings settings).afterAll ops).after op := List.foldl_concat ..
        have hsound := ((Reachable.new settings).afterAll ops).sound
        -- Either the bubble lingered already, or this operation is the stop that it lingers since.
        by_cases hbefore : ((ofSettings settings).afterAll ops).Lingers id
        · obtain ⟨before, later, rfl, htimed, hall⟩ := ih hbefore
          refine ⟨before, later ++ [op], by simp, htimed, fun p hp => ?_⟩
          rcases List.prefix_concat_iff.1 hp with rfl | hp
          · simpa using h
          · exact hall p hp
        · rw [hsplit] at h
          obtain rfl : op = .stop := by
            by_contra hop
            exact hbefore (h.of_after hsound hop)
          have htimed : (((ofSettings settings).afterAll ops).timers.deadline? id).isSome := by
            by_contra hnone
            exact hbefore ⟨h.shown, by simpa using hnone⟩
          refine ⟨ops, [], rfl, htimed, fun p hp => ?_⟩
          obtain rfl := List.prefix_nil.1 hp
          rw [hsplit]
          exact h
  · rintro ⟨before, later, rfl, -, hall⟩
    exact hall later List.prefix_rfl

/-- A session that was stopped while a sprite spoke, and started again by a click. -/
def heckled : Session :=
  let cat : SpriteSpec :=
    { id := "cat"
      name := "Cat"
      start := default
      program := { play := [.speak .say "Hi" 2], click := [.move 10] } }
  (ofSettings {}).afterAll [.add cat, .play 0, .step 0, .stop, .click "cat" 0]

theorem not_timed_while_playing :
    ¬ ∀ s : Session, s.Reachable → s.isPlaying = true → ∀ sprite ∈ s.cast.sprites,
      sprite.actor.bubble.isSome → (s.timers.deadline? sprite.id).isSome := by
  intro htimed
  have hreachable : heckled.Reachable := (Reachable.new {}).afterAll _
  have hplaying : heckled.isPlaying = true := by decide +kernel
  have hlingers : heckled.cast.sprites.any (fun sprite =>
      sprite.actor.bubble.isSome && (heckled.timers.deadline? sprite.id).isNone) = true := by
    decide +kernel
  generalize heckled = s at hreachable hplaying hlingers
  obtain ⟨sprite, hsprite, hboth⟩ := List.any_eq_true.1 hlingers
  obtain ⟨hshown, hnone⟩ := Bool.and_eq_true_iff.1 hboth
  have htimed := htimed s hreachable hplaying sprite hsprite hshown
  rw [Option.isNone_iff_eq_none] at hnone
  rw [hnone] at htimed
  cases htimed

end Session

end SpriteStage
