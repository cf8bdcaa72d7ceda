import SpriteStage.Proofs.Deadlines
import SpriteStage.Proofs.EditsInFlight
import SpriteStage.Proofs.FreshSessions

/-!
# Sprites on a stage of their own

Sprites meet in scans only. A tick in which nothing swaps does to each sprite what it does to that
sprite alone (`tick_only`), and so does every operation on the whole stage (`after_only_congr`). So
as long as no encounter swaps, a sprite shows what it shows on a stage of its own
(`snapshots_without_the_others`).
-/

namespace SpriteStage

/-- An operation on the whole stage: it names no sprite. -/
def Operation.isGlobal : Operation → Bool
  | .play _ | .stop | .restart | .advance _ | .step _ => true
  | _ => false

/-! ## Scans that swap nothing -/

namespace Monitor

theorem cast_foldl_swapEncounter {cooldown : Nat} {es : List Contact}
    {state : List Contact × Monitor × Cast}
    (h : (es.foldl (swapEncounter cooldown) state).1 = []) :
    (es.foldl (swapEncounter cooldown) state).2.2 = state.2.2 := by
  induction es generalizing state with
  | nil => rfl
  | cons e rest ih =>
      refine (ih h).trans ?_
      obtain ⟨swapped, m, c⟩ := state
      rw [List.foldl_cons] at h
      have hnone : e ∉ (swapEncounter cooldown (swapped, m, c) e).1 := fun hmem =>
        List.not_mem_nil (h ▸ mem_swapped_foldl hmem cooldown rest)
      unfold swapEncounter at hnone ⊢
      dsimp only at hnone ⊢
      split
      · rfl
      · rename_i hcooling
        rw [if_neg hcooling] at hnone
        split
        · rename_i hswap
          rw [hswap] at hnone
          exact absurd (List.mem_append_right _ (List.mem_singleton_self e)) hnone
        · rfl

/-- A scan in which nothing swaps leaves the cast as it is. -/
theorem cast_coordinate {m : Monitor} {c : Cast} {cooldown : Nat}
    (h : (m.coordinate c cooldown).1 = []) : (m.coordinate c cooldown).2.2 = c :=
  cast_foldl_swapEncounter h

/-- A sprite on a stage of its own meets nobody. -/
theorem swapped_of_lone {c : Cast} (hc : c.ids.length ≤ 1) (m : Monitor) (cooldown : Nat) :
    (m.coordinate c cooldown).1 = [] := by
  have hlone : (m.candidates c).length ≤ 1 := by
    unfold Cast.ids at hc
    unfold candidates
    rw [List.length_map] at hc ⊢
    exact (List.length_filter_le ..).trans hc
  unfold coordinate detect
  generalize m.candidates c = candidates at hlone
  match candidates, hlone with
  | [], _ => rfl
  | [_], _ => rfl
  | _ :: _ :: _, hlone => simp at hlone

end Monitor

/-! ## One sprite of many -/

theorem Cast.filter_id_eq {c : Cast} (hc : c.ids.Nodup) {s : Sprite} (hs : s ∈ c.sprites) :
    c.sprites.filter (·.id == s.id) = [s] := by
  unfold ids at hc
  generalize c.sprites = sprites at hc hs
  induction sprites with
  | nil => cases hs
  | cons first rest ih =>
      rw [List.map_cons, List.nodup_cons] at hc
      obtain ⟨hfirst, hrest⟩ := hc
      rw [List.filter_cons]
      rcases List.mem_cons.1 hs with rfl | hs
      · have hothers : ∀ t ∈ rest, ¬ (t.id == s.id) = true := by
          intro t ht hid
          exact hfirst (eq_of_beq hid ▸ List.mem_map_of_mem ht)
        rw [if_pos (beq_self_eq_true _), List.filter_eq_nil_iff.2 hothers]
      · have hne : ¬ (first.id == s.id) = true := by
          intro hid
          exact hfirst (eq_of_beq hid ▸ List.mem_map_of_mem hs)
        rw [if_neg hne, ih hrest hs]

namespace BubbleTimers

/-- The deadline of one sprite only. -/
def only (x : SpriteId) (b : BubbleTimers) : BubbleTimers :=
  { deadlines := b.deadlines.filter fun id _ => id = x }

@[simp] theorem deadline?_only (b : BubbleTimers) (x id : SpriteId) :
    (b.only x).deadline? id = if id = x then b.deadline? id else none := by
  have hfilter := b.deadlines.find?_filter (fun id _ => id = x) id
  unfold deadline? only
  rw [hfilter]
  cases b.deadlines.find? id <;> simp [Option.filter_some]

theorem only_dropExpired (b : BubbleTimers) (x : SpriteId) (now : Instant) :
    (b.dropExpired now).only x = (b.only x).dropExpired now := by
  refine ext_deadline? fun id => ?_
  rw [deadline?_only, deadline?_dropExpired, deadline?_dropExpired, deadline?_only]
  split <;> rfl

theorem mem_expired_only (b : BubbleTimers) (x : SpriteId) (now : Instant) :
    x ∈ (b.only x).expired now ↔ x ∈ b.expired now := by
  rw [mem_expired, mem_expired, deadline?_only, if_pos rfl]

end BubbleTimers

namespace Sprite

theorem only_schedule (s : Sprite) (x : SpriteId) (now : Instant) (timers : BubbleTimers) :
    (s.schedule now timers).only x =
      if s.id == x then s.schedule now (timers.only x) else timers.only x := by
  refine BubbleTimers.ext_deadline? fun id => ?_
  rw [BubbleTimers.deadline?_only, deadline?_schedule]
  by_cases hs : s.id = x
  · subst hs
    rw [if_pos (beq_self_eq_true _), deadline?_schedule, BubbleTimers.deadline?_only]
    split <;> rfl
  · have hother : ¬ (s.id == x) = true := fun hid => hs (eq_of_beq hid)
    rw [if_neg hother, BubbleTimers.deadline?_only]
    split
    · rename_i hid
      rw [if_neg fun hsame => hs (hsame.symm.trans hid)]
    · rfl

theorem only_foldl_schedule (sprites : List Sprite) (x : SpriteId) (now : Instant)
    (timers : BubbleTimers) :
    (sprites.foldl (schedule now) timers).only x =
      (sprites.filter (·.id == x)).foldl (schedule now) (timers.only x) := by
  induction sprites generalizing timers with
  | nil => rfl
  | cons first rest ih =>
      rw [List.foldl_cons, ih, only_schedule, List.filter_cons]
      split <;> rfl

end Sprite

/-- The sprites that have one id, if the others are changed together with them. -/
theorem filter_id_map {f : Sprite → Sprite} (hid : ∀ s, (f s).id = s.id) (sprites : List Sprite)
    (x : SpriteId) :
    (sprites.map f).filter (·.id == x) = (sprites.filter (·.id == x)).map f := by
  rw [List.filter_map]
  congr 2
  funext s
  exact congrArg (· == x) (hid s)

namespace Session

variable {s t : Session} {x : SpriteId} {now : Instant} {op : Operation}
  {ops : List Operation}

/-- The session with one of its sprites only, without the memory of contacts and the count of
swaps. -/
def only (x : SpriteId) (s : Session) : Session :=
  { s with
    cast := { s.cast with sprites := s.cast.sprites.filter (·.id == x), selected := none }
    monitor := {}
    timers := s.timers.only x
    swaps := 0 }

theorem acted_only (s : Session) (x : SpriteId) (now : Instant) :
    (s.acted now).only x = (s.only x).acted now := by
  have hsprites := filter_id_map (f := (·.act)) (fun _ => rfl) s.cast.sprites x
  have htimers := Sprite.only_foldl_schedule s.cast.sprites x now s.timers
  unfold acted
  rw [act_eq, act_eq]
  unfold only
  dsimp only
  rw [hsprites, htimers]

/-- A tick in which nothing swaps, as far as one sprite can tell. -/
def quietTick (s : Session) (now : Instant) : Session :=
  if max s.settings.scanEvery 1 ≤ s.sinceScan + 1 then { s.acted now with sinceScan := 0 }
  else s.acted now

theorem tick_only (h : (s.tickSwapped now 1).flatten = []) (x : SpriteId) :
    (s.tick now).only x = (s.only x).quietTick now := by
  rw [tickSwapped_one] at h
  rw [tick_eq]
  unfold quietTick
  rw [← acted_only]
  change _ = if max s.settings.scanEvery 1 ≤ s.sinceScan + 1 then
    { (s.acted now).only x with sinceScan := 0 } else (s.acted now).only x
  split
  · rename_i hdue
    rw [if_pos hdue, List.flatten_singleton] at h
    have hcast : (s.acted now).scan.cast = (s.acted now).cast := Monitor.cast_coordinate h
    exact congrArg (fun cast => only x { s.acted now with cast, sinceScan := 0 }) hcast
  · rfl

theorem tickTimes_only_congr (h : s.only x = t.only x) {count : Nat}
    (hs : (s.tickSwapped now count).flatten = []) (ht : (t.tickSwapped now count).flatten = []) :
    (s.tickTimes now count).only x = (t.tickTimes now count).only x := by
  induction count generalizing s t with
  | zero => exact h
  | succ count ih =>
      rw [tickSwapped_succ, List.flatten_append, List.append_eq_nil_iff] at hs ht
      refine ih ?_ hs.2 ht.2
      rw [tick_only hs.1, tick_only ht.1, h]

theorem expireBubbles_only (s : Session) (x : SpriteId) (now : Instant) :
    (s.expireBubbles now).only x = (s.only x).expireBubbles now := by
  have hsprites : (s.cast.sprites.map (Sprite.clearedIn (s.timers.expired now))).filter
      (·.id == x) = (s.cast.sprites.filter (·.id == x)).map
        (Sprite.clearedIn ((s.timers.only x).expired now)) := by
    rw [filter_id_map (Sprite.id_clearedIn _)]
    refine List.map_congr_left fun sprite hsprite => ?_
    obtain rfl : sprite.id = x := eq_of_beq (List.mem_filter.1 hsprite).2
    exact if_congr (s.timers.mem_expired_only _ now).symm rfl rfl
  rw [expireBubbles_eq, expireBubbles_eq]
  unfold only
  dsimp only
  rw [hsprites, BubbleTimers.only_dropExpired]

/-! ## Operations -/

theorem play_only (s : Session) (x : SpriteId) (now : Instant) :
    (s.play now).only x = (s.only x).play now :=
  congrArg (fun sprites => { s.play now with
    cast := { s.cast with sprites, selected := none }
    monitor := {}
    swaps := 0 }) (filter_id_map (f := (·.arm .play)) (fun _ => rfl) s.cast.sprites x)

theorem restart_only (s : Session) (x : SpriteId) : s.restart.only x = (s.only x).restart :=
  congrArg (fun sprites => { s.restart with
    cast := { s.cast with sprites, selected := none }
    monitor := {}
    swaps := 0 }) (filter_id_map (f := (·.restart)) (fun _ => rfl) s.cast.sprites x)

/-- Stages that are the same for one sprite stay so with whatever does the same whether the others
are left out before it or after it. -/
theorem only_congr {f : Session → Session} (hf : ∀ s : Session, (f s).only x = f (s.only x))
    (h : s.only x = t.only x) : (f s).only x = (f t).only x := by
  rw [hf, hf, h]

/-- On two stages that are the same as far as one sprite can tell, an operation with which nothing
swaps on either does the same to that sprite. -/
theorem after_only_congr (h : s.only x = t.only x) (hop : op.isGlobal = true)
    (hs : (s.swapped op).flatten = []) (ht : (t.swapped op).flatten = []) :
    (s.after op).only x = (t.after op).only x := by
  cases op with
  | play now => exact only_congr (f := (·.play now)) (fun s => s.play_only x now) h
  | stop => exact congrArg (·.stop) h
  | restart => exact only_congr (f := (·.restart)) (fun s => s.restart_only x) h
  | advance now =>
      have hclock : s.clock = t.clock := congrArg (·.clock) h
      have hfed : (s.fed now).only x = (t.fed now).only x := congrArg (·.fed now) h
      -- The clocks are equal, so as many ticks run in both.
      have hdue : (s.clock.beginFrame now).due = (t.clock.beginFrame now).due := by rw [hclock]
      change ((t.fed now).tickSwapped now (t.clock.beginFrame now).due).flatten = [] at ht
      have hticked : ((s.fed now).tickTimes now (s.clock.beginFrame now).due).only x =
          ((t.fed now).tickTimes now (t.clock.beginFrame now).due).only x := by
        rw [← hdue] at ht ⊢
        exact tickTimes_only_congr hfed hs ht
      exact only_congr (f := (·.expireBubbles now)) (fun s => s.expireBubbles_only x now) hticked
  | step now =>
      have hticked : (s.tickTimes now 1).only x = (t.tickTimes now 1).only x :=
        tickTimes_only_congr h hs ht
      exact only_congr (f := (·.expireBubbles now)) (fun s => s.expireBubbles_only x now) hticked
  | _ => cases hop

/-! ## Stages with one sprite -/

theorem ids_tick (s : Session) (now : Instant) : (s.tick now).cast.ids = s.cast.ids := by
  rw [tick_eq]
  split
  · exact Monitor.coordinate_keeps (P := fun c => c.ids = s.cast.ids) (s.ids_act now)
      fun _ _ _ _ h hswap => (Cast.ids_eq_of_stances_eq (Cast.stances_swap hswap)).trans h
  · exact s.ids_act now

theorem ids_tickTimes (s : Session) (now : Instant) (count : Nat) :
    (s.tickTimes now count).cast.ids = s.cast.ids := by
  induction count generalizing s with
  | zero => rfl
  | succ count ih => exact (ih (s.tick now)).trans (s.ids_tick now)

theorem ids_after (s : Session) (hop : op.isGlobal = true) :
    (s.after op).cast.ids = s.cast.ids := by
  cases op with
  | play now => exact s.cast.ids_armAll .play
  | stop => rfl
  | restart => exact s.cast.ids_restartAll
  | advance now => exact (ids_expireBubbles _ now).trans (ids_tickTimes _ now _)
  | step now => exact (ids_expireBubbles _ now).trans (s.ids_tick now)
  | _ => cases hop

theorem ids_afterAll (s : Session) (hops : ∀ op ∈ ops, op.isGlobal = true) :
    (s.afterAll ops).cast.ids = s.cast.ids := by
  induction ops generalizing s with
  | nil => rfl
  | cons op ops ih =>
      obtain ⟨hop, hrest⟩ := List.forall_mem_cons.1 hops
      exact (ih (s.after op) hrest).trans (s.ids_after hop)

theorem tickSwapped_of_lone (hs : s.cast.ids.length ≤ 1) (now : Instant) (count : Nat) :
    (s.tickSwapped now count).flatten = [] := by
  induction count generalizing s with
  | zero => rfl
  | succ count ih =>
      have hact : (s.act now).cast.ids.length ≤ 1 := (s.ids_act now).symm ▸ hs
      have htick : (s.tick now).cast.ids.length ≤ 1 := (s.ids_tick now).symm ▸ hs
      rw [tickSwapped_succ, List.flatten_append, ih htick, List.append_nil, tickSwapped_one]
      split
      · rw [List.flatten_singleton]
        exact Monitor.swapped_of_lone hact s.monitor _
      · rfl

theorem swapped_of_lone (hs : s.cast.ids.length ≤ 1) (op : Operation) :
    (s.swapped op).flatten = [] := by
  cases op with
  | advance now => exact tickSwapped_of_lone (s := s.fed now) hs now _
  | step now => exact tickSwapped_of_lone hs now 1
  | _ => rfl

/-! ## Runs -/

theorem swaps_le_afterAll (s : Session) (ops : List Operation) :
    s.swaps ≤ (s.afterAll ops).swaps := by
  induction ops generalizing s with
  | nil => exact Nat.le_refl _
  | cons op ops ih =>
      have hfirst := (s.counts_after op).swaps
      exact (Nat.le_add_right _ _).trans (hfirst.symm.trans_le (ih (s.after op)))

theorem afterAll_only_congr (h : s.only x = t.only x) (hops : ∀ op ∈ ops, op.isGlobal = true)
    (hswaps : (s.afterAll ops).swaps = s.swaps) (ht : t.cast.ids.length ≤ 1) :
    (s.afterAll ops).only x = (t.afterAll ops).only x := by
  induction ops generalizing s t with
  | nil => exact h
  | cons op ops ih =>
      obtain ⟨hop, hrest⟩ := List.forall_mem_cons.1 hops
      have hcount := (s.counts_after op).swaps
      have hle := (s.after op).swaps_le_afterAll ops
      change ((s.after op).afterAll ops).swaps = s.swaps at hswaps
      have hnone : (s.swapped op).flatten = [] := List.eq_nil_of_length_eq_zero (by omega)
      have hlone : (t.after op).cast.ids.length ≤ 1 := (t.ids_after hop).symm ▸ ht
      exact ih (after_only_congr h hop hnone (t.swapped_of_lone ht op)) hrest (by omega) hlone

/-! ## Fresh stages -/

/-- A session that has never run, with sprites added one after the other. -/
def ofSpecs (settings : Settings) (specs : List SpriteSpec) : Session :=
  (ofSettings settings).afterAll (specs.map .add)

/-- Adding sprites, some of which may be rejected, appends sprites as they are before they run. -/
theorem exists_sprites_addAll (s : Session) (specs : List SpriteSpec) :
    ∃ sprites selected, s.afterAll (specs.map .add) = { s with cast := { s.cast with
        sprites := s.cast.sprites ++ sprites
        selected } } ∧
      ∀ sprite ∈ sprites, sprite = .ofSpec s.cast.increment sprite.spec := by
  induction specs generalizing s with
  | nil =>
      have hsame : s.cast.sprites ++ [] = s.cast.sprites := List.append_nil _
      exact ⟨[], s.cast.selected, by rw [hsame]; rfl, fun _ h => by cases h⟩
  | cons spec specs ih =>
      by_cases hmem : spec.id ∈ s.cast.ids
      · have hrejected : s.after (.add spec) = s := by
          rw [after_add, Cast.add, Cast.contains_eq_true_iff.2 hmem]
          rfl
        obtain ⟨sprites, selected, hrest, hfresh⟩ := ih s
        refine ⟨sprites, selected, ?_, hfresh⟩
        change (s.after (.add spec)).afterAll (specs.map .add) = _
        rw [hrejected, hrest]
      · obtain ⟨sprites, selected, hrest, hfresh⟩ := ih (s.after (.add spec))
        rw [after_add_of_notMem hmem] at hrest hfresh
        refine ⟨.ofSpec s.cast.increment spec :: sprites, selected, ?_, ?_⟩
        · change (s.after (.add spec)).afterAll (specs.map .add) = _
          rw [after_add_of_notMem hmem, hrest]
          dsimp only
          rw [List.append_assoc]
          rfl
        · exact List.forall_mem_cons.2 ⟨rfl, hfresh⟩

theorem reachable_ofSpecs (settings : Settings) (specs : List SpriteSpec) :
    (ofSpecs settings specs).Reachable :=
  (Reachable.new settings).afterAll _

theorem ofSpecs_singleton (settings : Settings) (spec : SpriteSpec) :
    ofSpecs settings [spec] = { ofSettings settings with
      cast := { (ofSettings settings).cast with
        sprites := [.ofSpec (ofSettings settings).cast.increment spec]
        selected := some 0 } } := by
  have hnew : spec.id ∉ (ofSettings settings).cast.ids := List.not_mem_nil
  exact after_add_of_notMem hnew

/-- A stage with a sprite of another stage only is that other one, as far as the sprite can tell. -/
theorem only_ofSpecs {settings : Settings} {specs : List SpriteSpec} {sprite : Sprite}
    (hsprite : sprite ∈ (ofSpecs settings specs).cast.sprites) :
    (ofSpecs settings specs).only sprite.id = (ofSpecs settings [sprite.spec]).only sprite.id := by
  have hmany := Cast.filter_id_eq (reachable_ofSpecs settings specs).sound.nodup hsprite
  have hone : [sprite].filter (·.id == sprite.id) = [sprite] :=
    List.filter_cons_of_pos (beq_self_eq_true _)
  obtain ⟨sprites, selected, hadded, hfresh⟩ := exists_sprites_addAll (ofSettings settings) specs
  change ofSpecs settings specs = _ at hadded
  rw [hadded] at hsprite hmany
  rw [hadded, ofSpecs_singleton, ← hfresh sprite hsprite]
  unfold only
  dsimp only at hmany ⊢
  rw [hmany, hone]

def snapshot? (s : Session) (id : SpriteId) : Option Snapshot := (s.cast.find? id).map (·.snapshot)

theorem snapshot?_only (s : Session) (x : SpriteId) : (s.only x).snapshot? x = s.snapshot? x := by
  unfold snapshot? Cast.find? only
  dsimp only
  rw [List.find?_filter]
  simp only [and_self, Bool.decide_eq_true]

/-- As long as no encounter swaps on a fresh stage, whatever is done to the stage as a whole, every
sprite shows what it shows on a fresh stage of its own. -/
theorem snapshots_without_the_others (settings : Settings) (specs : List SpriteSpec)
    (hops : ∀ op ∈ ops, op.isGlobal = true)
    (hswaps : ((ofSpecs settings specs).afterAll ops).swaps = (ofSpecs settings specs).swaps)
    {p : List Operation} (hp : p <+: ops) {sprite : Sprite}
    (hsprite : sprite ∈ (ofSpecs settings specs).cast.sprites) :
    ∃ shown, ((ofSpecs settings specs).afterAll p).snapshot? sprite.id = some shown ∧
      ((ofSpecs settings [sprite.spec]).afterAll p).snapshot? sprite.id = some shown := by
  have hsame := only_ofSpecs hsprite
  have hlone : (ofSpecs settings [sprite.spec]).cast.ids.length ≤ 1 := by
    rw [ofSpecs_singleton]
    exact Nat.le_refl 1
  have hids := (ofSpecs settings specs).ids_afterAll fun op hop => hops op (hp.subset hop)
  generalize ofSpecs settings specs = s at *
  generalize ofSpecs settings [sprite.spec] = t at hsame hlone ⊢
  obtain ⟨later, rfl⟩ := hp
  have hquiet : (s.afterAll p).swaps = s.swaps := by
    have hsplit : s.afterAll (p ++ later) = (s.afterAll p).afterAll later := List.foldl_append ..
    have hbefore := s.swaps_le_afterAll p
    have hafter := (s.afterAll p).swaps_le_afterAll later
    rw [hsplit] at hswaps
    omega
  have hglobal : ∀ op ∈ p, op.isGlobal = true := fun op hop => hops op (List.mem_append_left _ hop)
  have honly := afterAll_only_congr hsame hglobal hquiet hlone
  have hmem : sprite.id ∈ (s.afterAll p).cast.ids := hids ▸ List.mem_map_of_mem hsprite
  obtain ⟨sprite', hfind⟩ := Cast.mem_ids_iff.1 hmem
  have hshown : (s.afterAll p).snapshot? sprite.id = some sprite'.snapshot := by
    unfold snapshot?
    rw [hfind]
    rfl
  refine ⟨sprite'.snapshot, hshown, ?_⟩
  rw [← snapshot?_only, ← honly, snapshot?_only, hshown]

/-- Two sprites that go apart at once, and one of them speaks. -/
def apart : List SpriteSpec :=
  let spec (id : SpriteId) (play : List Block) : SpriteSpec :=
    { id, name := id, start := default, program := { play } }
  [spec "cat" [.goto 500 500, .speak .say "Hi" 2], spec "dog" [.turn 90]]

theorem snapshots_without_the_others_apart :
    let p : List Operation := [.play 0, .advance (milliseconds 100), .step (milliseconds 110)]
    let stage := ofSpecs {} apart
    ∃ sprite ∈ stage.cast.sprites, ∃ shown,
      (stage.afterAll p).snapshot? sprite.id = some shown ∧
        ((ofSpecs {} [sprite.spec]).afterAll p).snapshot? sprite.id = some shown ∧
        shown.bubble = some ⟨.say, "Hi"⟩ := by
  intro p stage
  have hops : ∀ op ∈ p ++ [.stop, .restart], op.isGlobal = true := by decide
  have hswaps : (stage.afterAll (p ++ [.stop, .restart])).swaps = stage.swaps := by decide +kernel
  have hfound : (stage.cast.find? "cat").isSome := by decide +kernel
  obtain ⟨sprite, hfind⟩ := Option.isSome_iff_exists.1 hfound
  have hsprite := Cast.mem_of_find? hfind
  have hspeaks : ((stage.afterAll p).snapshot? sprite.id).map (·.bubble) =
      some (some ⟨.say, "Hi"⟩) := by
    rw [Cast.id_of_find? hfind]
    decide +kernel
  obtain ⟨shown, hshown, halone⟩ :=
    snapshots_without_the_others {} apart hops hswaps (List.prefix_append p _) hsprite
  rw [hshown] at hspeaks
  exact ⟨sprite, hsprite, shown, hshown, halone, Option.some.inj hspeaks⟩

end Session

end SpriteStage
