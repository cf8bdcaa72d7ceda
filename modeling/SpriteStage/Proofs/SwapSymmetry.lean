import SpriteStage.Proofs.CastInvariants
import SpriteStage.Proofs.ScriptExchange

/-!
# What a swap does and what it leaves alone

A swap hands each of its two sprites the other's scripts, aligned to its own active trigger, and
starts its cooldown. A sprite that is armed begins again with the new script; where it stands, what
it says and which trigger it is armed with stay as they are (`Sprite.TradesWith`). The two sprites
play the same part, and swapping them once more gives both their programs back.
-/

namespace SpriteStage

theorem Program.realign_realign (p : Program) (source target : Trigger) :
    (p.realign source target).realign target source = p := by
  cases source <;> cases target <;> rfl

/-! ## The two sprites of a swap -/

namespace Sprite

/-- A sprite has become another one by trading scripts with a partner, where moves are cut by an
increment and swaps start a cooldown. -/
structure TradesWith (i : Increment) (cooldown : Nat) (s partner s' : Sprite) : Prop where
  id : s'.id = s.id
  name : s'.name = s.name
  costume : s'.costume = s.costume
  takes : Cast.TakesOver s partner s'
  flat : s'.flat = s'.program.flatten i
  start : s'.actor.start = s.actor.start
  pose : s'.actor.pose = s.actor.pose
  bubble : s'.actor.bubble = s.actor.bubble
  trigger : s'.actor.trigger? = s.actor.trigger?
  cooldown : s'.actor.cooldown = cooldown
  armed : s.actor.isIdle = false → s'.actor.index = 0 ∧ s'.actor.armed = s'.flat
  idle : s.actor.isIdle = true → s'.actor.index = -1 ∧ s'.actor.armed = s.actor.armed

variable {i : Increment} {cooldown : Nat}

theorem trigger?_takeOver (s : Sprite) (p : Program) :
    (s.takeOver i p cooldown).actor.trigger? = s.actor.trigger? := by
  rw [actor_takeOver]
  unfold Actor.trigger?
  rw [Option.map_map]
  rfl

theorem activeTrigger_takeOver (s : Sprite) (p : Program) :
    (s.takeOver i p cooldown).activeTrigger = s.activeTrigger := by
  unfold activeTrigger
  rw [trigger?_takeOver]

/-- The sprite with a partner's scripts, aligned to its own active trigger. -/
def tradedWith (s : Sprite) (i : Increment) (cooldown : Nat) (partner : Sprite) : Sprite :=
  s.takeOver i (partner.program.realign partner.activeTrigger s.activeTrigger) cooldown

theorem tradesWith_tradedWith (s partner : Sprite) :
    s.TradesWith i cooldown partner (s.tradedWith i cooldown partner) where
  id := rfl
  name := rfl
  costume := rfl
  takes := ⟨Program.script_realign .., Program.script_realign_other ..⟩
  flat := rfl
  start := by rw [tradedWith, actor_takeOver]
  pose := by rw [tradedWith, actor_takeOver]
  bubble := by rw [tradedWith, actor_takeOver]
  trigger := s.trigger?_takeOver _
  cooldown := by rw [tradedWith, actor_takeOver]
  armed hidle := by
    obtain ⟨run, hrun⟩ : ∃ run, s.actor.run = some run := by
      rwa [Actor.isIdle, Option.isNone_eq_false_iff, Option.isSome_iff_exists] at hidle
    rw [tradedWith, actor_takeOver, hidle, hrun]
    exact ⟨rfl, rfl⟩
  idle hidle := by
    have hrun : s.actor.run = none := by rwa [Actor.isIdle, Option.isNone_iff_eq_none] at hidle
    rw [tradedWith, actor_takeOver, hidle, hrun]
    exact ⟨rfl, rfl⟩

/-- What authoring makes of a sprite: its program, also in flat form. -/
def written (s : Sprite) : SpriteId × Program × FlatProgram := (s.id, s.program, s.flat)

/-- Trading back gives a sprite its program back. -/
theorem written_tradedWith_tradedWith {s : Sprite} (hflat : s.flat = s.program.flatten i)
    (partner : Sprite) (cooldown' : Nat) :
    ((s.tradedWith i cooldown partner).tradedWith i cooldown'
      (partner.tradedWith i cooldown s)).written = s.written := by
  have hback : (partner.tradedWith i cooldown s).program.realign
      (partner.tradedWith i cooldown s).activeTrigger
      (s.tradedWith i cooldown partner).activeTrigger = s.program := by
    unfold tradedWith
    rw [activeTrigger_takeOver, activeTrigger_takeOver]
    exact Program.realign_realign ..
  unfold written
  rw [tradedWith, hback, hflat]
  rfl

end Sprite

namespace Cast

variable {c c' : Cast} {a b : SpriteId} {s t : Sprite} {cooldown : Nat}

/-! ## The cast -/

/-- From one cast to another, two sprites trade scripts with each other, and no other sprite is any
different, nor are the order of the sprites and the selection. -/
structure Trades (c : Cast) (s t : Sprite) (cooldown : Nat) (c' : Cast) : Prop where
  selected : c'.selected = c.selected
  increment : c'.increment = c.increment
  sprites : c.sprites.Forall₂ (fun x x' =>
    (x = s ∧ s.TradesWith c.increment cooldown t x') ∨
      (x = t ∧ t.TradesWith c.increment cooldown s x') ∨
        (x.id ≠ s.id ∧ x.id ≠ t.id ∧ x' = x)) c'.sprites

theorem handOver_left (i : Increment) (s t : Sprite) (cooldown : Nat) :
    handOver i s t cooldown s = s.tradedWith i cooldown t := if_pos rfl

theorem handOver_comm (i : Increment) (hne : s.id ≠ t.id) (cooldown : Nat) :
    handOver i s t cooldown = handOver i t s cooldown := by
  funext x
  unfold handOver
  by_cases hs : x.id = s.id
  · have ht : x.id ≠ t.id := fun ht => hne (hs.symm.trans ht)
    rw [if_pos hs, if_neg ht, if_pos hs]
  · rw [if_neg hs, if_neg hs]

theorem handOver_right (i : Increment) (hne : s.id ≠ t.id) (cooldown : Nat) :
    handOver i s t cooldown t = t.tradedWith i cooldown s := by
  rw [handOver_comm i hne, handOver_left]

theorem handOver_of_ne (i : Increment) (cooldown : Nat) {x : Sprite} (hs : x.id ≠ s.id)
    (ht : x.id ≠ t.id) : handOver i s t cooldown x = x := (if_neg hs).trans (if_neg ht)

/-- A sprite of a cast is the first of two, the second of them, or neither. -/
theorem eq_or_eq_or_ne (hc : c.ids.Nodup) (hs : s ∈ c.sprites) (ht : t ∈ c.sprites) {x : Sprite}
    (hx : x ∈ c.sprites) : x = s ∨ x = t ∨ (x.id ≠ s.id ∧ x.id ≠ t.id) := by
  by_cases hxs : x.id = s.id
  · exact .inl (eq_of_id_eq hc hx hs hxs)
  · by_cases hxt : x.id = t.id
    · exact .inr (.inl (eq_of_id_eq hc hx ht hxt))
    · exact .inr (.inr ⟨hxs, hxt⟩)

theorem trades_handOver (hc : c.ids.Nodup) (hs : s ∈ c.sprites) (ht : t ∈ c.sprites)
    (hne : s.id ≠ t.id) (cooldown : Nat) :
    c.Trades s t cooldown { c with sprites := c.sprites.map (handOver c.increment s t cooldown) }
    where
  selected := rfl
  increment := rfl
  sprites := by
    rw [List.forall₂_map_right_iff, List.forall₂_same]
    intro x hx
    obtain rfl | rfl | ⟨hxs, hxt⟩ := eq_or_eq_or_ne hc hs ht hx
    · rw [handOver_left]
      exact .inl ⟨rfl, x.tradesWith_tradedWith t⟩
    · rw [handOver_right _ hne]
      exact .inr (.inl ⟨rfl, x.tradesWith_tradedWith s⟩)
    · exact .inr (.inr ⟨hxs, hxt, handOver_of_ne _ _ hxs hxt⟩)

/-- In a swap that is carried out two sprites trade scripts. -/
theorem exists_trades_of_swap (hc : c.ids.Nodup) (h : c.swap a b cooldown = .ok c') :
    ∃ s t, c.find? a = some s ∧ c.find? b = some t ∧ c.Trades s t cooldown c' := by
  obtain ⟨hne, s, t, hs, ht, rfl⟩ := exists_of_swap h
  have hids : s.id ≠ t.id := by rwa [id_of_find? hs, id_of_find? ht]
  exact ⟨s, t, hs, ht, trades_handOver hc (mem_of_find? hs) (mem_of_find? ht) hids cooldown⟩

/-- Handing over twice gives every sprite its program back, in flat form as well. -/
theorem written_handOver_handOver (hc : c.ids.Nodup) (hflat : c.IsFlat) (hs : s ∈ c.sprites)
    (ht : t ∈ c.sprites) (hne : s.id ≠ t.id) (cooldown cooldown' : Nat) {x : Sprite}
    (hx : x ∈ c.sprites) :
    (handOver c.increment (s.tradedWith c.increment cooldown t)
      (t.tradedWith c.increment cooldown s) cooldown'
      (handOver c.increment s t cooldown x)).written = x.written := by
  obtain rfl | rfl | ⟨hxs, hxt⟩ := eq_or_eq_or_ne hc hs ht hx
  · rw [handOver_left, handOver_left]
    exact Sprite.written_tradedWith_tradedWith (hflat x hx) t cooldown'
  · have hids : (s.tradedWith c.increment cooldown x).id ≠
        (x.tradedWith c.increment cooldown s).id := hne
    rw [handOver_right _ hne, handOver_right _ hids]
    exact Sprite.written_tradedWith_tradedWith (hflat x hx) s cooldown'
  · have hxs' : x.id ≠ (s.tradedWith c.increment cooldown t).id := hxs
    have hxt' : x.id ≠ (t.tradedWith c.increment cooldown s).id := hxt
    rw [handOver_of_ne _ _ hxs hxt, handOver_of_ne _ _ hxs' hxt']

theorem exists_swap_back (hc : c.ids.Nodup) (hflat : c.IsFlat) (hs : c.find? a = some s)
    (ht : c.find? b = some t) (hne : a ≠ b) (hswap : c.swap a b cooldown = .ok c')
    (cooldown' : Nat) :
    ∃ back, c'.swap a b cooldown' = .ok back ∧
      back.sprites.map (·.written) = c.sprites.map (·.written) := by
  rw [swap_eq_ok hs ht hne, Except.ok.injEq] at hswap
  subst hswap
  have hids : s.id ≠ t.id := by rwa [id_of_find? hs, id_of_find? ht]
  have hfind := c.find?_map_sprites (id_handOver c.increment s t cooldown)
  have hs' := hfind a
  have ht' := hfind b
  rw [hs, Option.map_some, handOver_left] at hs'
  rw [ht, Option.map_some, handOver_right _ hids] at ht'
  refine ⟨_, swap_eq_ok hs' ht' hne cooldown', ?_⟩
  dsimp only
  rw [List.map_map, List.map_map]
  exact List.map_congr_left fun x hx => written_handOver_handOver hc hflat (mem_of_find? hs)
    (mem_of_find? ht) hids cooldown cooldown' hx

/-- In every cast that operations lead to, a swap of two distinct sprites is carried out, and it is
the same whichever of them is named first. The two trade scripts with each other and nothing else
changes; swapped once more, every sprite has its program and its flat program back. -/
theorem swap_symmetric_involutive (moveIncrement : Single) (ops : List Operation) {a b : SpriteId}
    (ha : a ∈ (({ increment := .ofSingle moveIncrement } : Cast).afterAll ops).ids)
    (hb : b ∈ (({ increment := .ofSingle moveIncrement } : Cast).afterAll ops).ids) (hne : a ≠ b)
    (cooldown : Nat) :
    let cast := ({ increment := .ofSingle moveIncrement } : Cast).afterAll ops
    ∃ s t swapped, cast.find? a = some s ∧ cast.find? b = some t ∧
      cast.swap a b cooldown = .ok swapped ∧ cast.swap b a cooldown = .ok swapped ∧
      cast.Trades s t cooldown swapped ∧
      ∀ cooldown', ∃ back, swapped.swap a b cooldown' = .ok back ∧
        back.sprites.map (·.written) = cast.sprites.map (·.written) := by
  intro cast
  have hnodup : cast.ids.Nodup :=
    afterAll_keeps (P := fun c => c.ids.Nodup) (fun _ _ _ hstep hc => hstep.nodup_ids hc)
      (c := { increment := .ofSingle moveIncrement }) List.nodup_nil ops
  have hflat : cast.IsFlat :=
    afterAll_keeps (fun _ _ _ hstep hc => hstep.isFlat hc) (fun _ hs => by cases hs) ops
  obtain ⟨s, hs⟩ := mem_ids_iff.1 ha
  obtain ⟨t, ht⟩ := mem_ids_iff.1 hb
  have hswap := swap_eq_ok hs ht hne cooldown
  have hids : s.id ≠ t.id := by rwa [id_of_find? hs, id_of_find? ht]
  refine ⟨s, t, _, hs, ht, hswap, ?_, ?_, ?_⟩
  · rw [handOver_comm _ hids]
    exact swap_eq_ok ht hs hne.symm cooldown
  · exact trades_handOver hnodup (mem_of_find? hs) (mem_of_find? ht) hids cooldown
  · exact exists_swap_back hnodup hflat hs ht hne hswap

/-- Operations that lead to an idle sprite and one that is armed with its click script. -/
def oneClicked : List Operation :=
  let spec (id : SpriteId) (play click : List Block) : SpriteSpec :=
    { id, name := id, start := default, program := { play, click } }
  [.add (spec "cat" [.move 25] [.turn 15]), .add (spec "owl" [] []),
    .add (spec "dog" [.goto 0 0] [.repeated 2 [.turn 5]]), .arm "dog" .click]

theorem swap_symmetric_involutive_oneClicked :
    let cast := ({ increment := .ofSingle 10 } : Cast).afterAll oneClicked
    cast.sprites.map (·.actor.trigger?) = [none, none, some .click] ∧
      ∃ s t swapped, cast.swap "dog" "cat" 4 = .ok swapped ∧
        cast.swap "cat" "dog" 4 = .ok swapped ∧ cast.Trades s t 4 swapped ∧
        ∃ back, swapped.swap "dog" "cat" 0 = .ok back ∧
          back.sprites.map (·.written) = cast.sprites.map (·.written) := by
  intro cast
  obtain ⟨s, t, swapped, -, -, hswap, hswap', htrades, hback⟩ :=
    swap_symmetric_involutive 10 oneClicked (a := "dog") (b := "cat") (by decide +kernel)
      (by decide +kernel) (by decide) 4
  exact ⟨by decide +kernel, s, t, swapped, hswap, hswap', htrades, hback 0⟩

end Cast

end SpriteStage
