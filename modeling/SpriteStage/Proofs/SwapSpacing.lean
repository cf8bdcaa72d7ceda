import SpriteStage.Proofs.Encounters
import SpriteStage.Proofs.SessionCore

/-!
# Swaps of a sprite lie apart

A swap puts both of its sprites on a cooldown. Every tick brings it down by one, a swap is skipped
while it lasts, and nothing but a restart cuts it short: not a play, which starts the sprite anew,
and not an edit. So the tick from which a sprite may swap again (`Session.freeFrom`) never comes
closer over a run, and two swaps of a sprite lie a cooldown apart (`Reachable.swaps_apart`).
-/

namespace SpriteStage

variable {id : SpriteId} {cooldown : Nat}

/-! ## Logs of swaps -/

/-- A scan, and the ticks that have run when it starts. -/
structure DatedScan where
  tick : Nat
  scan : Scan
deriving Inhabited

/-- An encounter that swaps, and the ticks that have run by then. -/
structure DatedSwap where
  tick : Nat
  contact : Contact
deriving Inhabited

namespace DatedSwap

def involves (swap : DatedSwap) (id : SpriteId) : Bool := swap.contact.pair.involves id

/-- A sprite that is free from one tick on takes no part in a swap before that tick and rests after
each of its swaps, and it has done so by another tick, from which it is free again. -/
inductive Rests (id : SpriteId) (cooldown : Nat) : Nat → List DatedSwap → Nat → Prop where
  | nil {free free' : Nat} : free ≤ free' → Rests id cooldown free [] free'
  | other {free free' : Nat} {swap : DatedSwap} {rest : List DatedSwap} :
      swap.involves id = false → Rests id cooldown free rest free' →
        Rests id cooldown free (swap :: rest) free'
  | own {free free' : Nat} {swap : DatedSwap} {rest : List DatedSwap} :
      swap.involves id = true → free ≤ swap.tick →
        Rests id cooldown (swap.tick + cooldown) rest free' →
          Rests id cooldown free (swap :: rest) free'

variable {free free' free'' : Nat} {log log' : List DatedSwap}

theorem Rests.of_le (h : Rests id cooldown free' log free'') (hle : free ≤ free') :
    Rests id cooldown free log free'' := by
  induction h with
  | nil hle' => exact .nil (hle.trans hle')
  | other hother _ ih => exact .other hother (ih hle)
  | own hown hfree hrest _ => exact .own hown (hle.trans hfree) hrest

theorem Rests.append (h : Rests id cooldown free log free')
    (h' : Rests id cooldown free' log' free'') : Rests id cooldown free (log ++ log') free'' := by
  induction h with
  | nil hle => exact h'.of_le hle
  | other hother _ ih => exact .other hother (ih h')
  | own hown hfree _ ih => exact .own hown hfree (ih h')

theorem Rests.free_le (h : Rests id cooldown free log free') :
    ∀ swap ∈ log.filter (·.involves id), free ≤ swap.tick := by
  induction h with
  | nil => simp
  | other hother _ ih => rwa [List.filter_cons, if_neg (ne_true_of_eq_false hother)]
  | own hown hfree _ ih =>
      rw [List.filter_cons, if_pos hown]
      refine List.forall_mem_cons.2 ⟨hfree, fun swap hswap => ?_⟩
      exact (hfree.trans (Nat.le_add_right _ _)).trans (ih swap hswap)

theorem Rests.pairwise (h : Rests id cooldown free log free') :
    (log.filter (·.involves id)).Pairwise fun a b => a.tick + cooldown ≤ b.tick := by
  induction h with
  | nil => exact .nil
  | other hother _ ih => rwa [List.filter_cons, if_neg (ne_true_of_eq_false hother)]
  | own hown _ hrest ih =>
      rw [List.filter_cons, if_pos hown]
      exact .cons hrest.free_le ih

end DatedSwap

/-- The swaps that a scan leads to. -/
def DatedScan.swaps (scan : DatedScan) (cooldown : Nat) : List DatedSwap :=
  (scan.scan.swapped cooldown).map (⟨scan.tick, ·⟩)

/-! ## Cooldowns -/

namespace Cast

variable {c c' : Cast}

/-- The ticks until a sprite may swap again, none if it is not there. -/
def cooldownOf (c : Cast) (id : SpriteId) : Nat := ((c.find? id).map (·.actor.cooldown)).getD 0

theorem isCooling_eq (c : Cast) (id : SpriteId) :
    Monitor.isCooling c id = decide (0 < c.cooldownOf id) := by
  unfold Monitor.isCooling cooldownOf
  cases c.find? id <;> rfl

theorem cooldownOf_map_sprites {f : Sprite → Sprite} (hid : ∀ s, (f s).id = s.id)
    (hf : ∀ s, (f s).actor.cooldown = s.actor.cooldown) (c : Cast) (id : SpriteId) :
    { c with sprites := c.sprites.map f }.cooldownOf id = c.cooldownOf id :=
  congrArg (·.getD 0) (map_find?_map_sprites hid hf c id)

theorem cooldownOf_modify {f : Sprite → Sprite} (hid : ∀ s, (f s).id = s.id)
    (hf : ∀ s, (f s).actor.cooldown = s.actor.cooldown) (c : Cast) (id id' : SpriteId) :
    (c.modify id' f).cooldownOf id = c.cooldownOf id :=
  congrArg (·.getD 0) (map_find?_modify hid hf c id id')

theorem cooldownOf_add {spec : SpriteSpec} (h : c.add spec = .ok c') (id : SpriteId) :
    c'.cooldownOf id = c.cooldownOf id := by
  unfold add at h
  split at h <;> cases h
  unfold cooldownOf find?
  dsimp only
  rw [List.find?_append]
  cases c.sprites.find? (·.id == id) with
  | some s => rfl
  | none =>
      rw [Option.none_or, List.find?_singleton]
      split <;> rfl

theorem cooldownOf_remove {id' : SpriteId} (hc : c.ids.Nodup) (h : c.remove id' = .ok c')
    (hne : id ≠ id') : c'.cooldownOf id = c.cooldownOf id := by
  have hfind : c'.find? id = c.find? id := by
    apply Option.ext
    intro s
    rw [find?_eq_some_iff (hc.sublist (sublist_ids_remove h)), find?_eq_some_iff hc,
      mem_remove_iff hc h]
    constructor
    · rintro ⟨⟨hs, -⟩, hid⟩
      exact ⟨hs, hid⟩
    · rintro ⟨hs, rfl⟩
      exact ⟨⟨hs, hne⟩, rfl⟩
  unfold cooldownOf
  rw [hfind]

theorem cooldownOf_edit {id' : SpriteId} {trigger : Trigger} {e : Program.Edit}
    {removed : Option Block} (h : c.edit id' trigger e = .ok (removed, c')) (id : SpriteId) :
    c'.cooldownOf id = c.cooldownOf id := by
  unfold edit at h
  split at h
  · cases h
  · split at h <;> cases h
    exact cooldownOf_modify (f := (·.withProgram c.increment _)) (fun _ => rfl) (fun _ => rfl) c
      id id'

/-- A swap starts the cooldown of its two sprites and leaves every other one as it is. -/
theorem cooldownOf_swap {a b : SpriteId} (h : c.swap a b cooldown = .ok c') (id : SpriteId) :
    c'.cooldownOf id = if a = id ∨ b = id then cooldown else c.cooldownOf id := by
  obtain ⟨-, s, t, hs, ht, rfl⟩ := exists_of_swap h
  obtain rfl := id_of_find? hs
  obtain rfl := id_of_find? ht
  unfold cooldownOf
  rw [find?_map_sprites (id_handOver c.increment s t cooldown)]
  cases hx : c.find? id with
  | none =>
      have hs' : s.id ≠ id := by
        rintro rfl
        rw [hs] at hx
        cases hx
      have ht' : t.id ≠ id := by
        rintro rfl
        rw [ht] at hx
        cases hx
      rw [if_neg (not_or.2 ⟨hs', ht'⟩)]
      rfl
  | some x =>
      obtain rfl := id_of_find? hx
      rw [Option.map_some, Option.map_some, Option.map_some, Option.getD_some, Option.getD_some]
      unfold handOver
      by_cases hxs : x.id = s.id
      · rw [if_pos hxs, if_pos (.inl hxs.symm)]
        rfl
      · by_cases hxt : x.id = t.id
        · rw [if_neg hxs, if_pos hxt, if_pos (.inr hxt.symm)]
          rfl
        · rw [if_neg hxs, if_neg hxt, if_neg (not_or.2 ⟨Ne.symm hxs, Ne.symm hxt⟩)]

end Cast

namespace Monitor

/-- A swap of a scan finds its sprites free and puts them to rest, and leaves every other sprite as
it is. -/
theorem rests_swapEncounter {free tick : Nat} {swapped : List Contact} {m : Monitor} {c : Cast}
    (h : DatedSwap.Rests id cooldown free (swapped.map (⟨tick, ·⟩)) (tick + c.cooldownOf id))
    (e : Contact) :
    let state := swapEncounter cooldown (swapped, m, c) e
    DatedSwap.Rests id cooldown free (state.1.map (⟨tick, ·⟩))
      (tick + state.2.2.cooldownOf id) := by
  unfold swapEncounter
  dsimp only
  split
  · exact h
  · rename_i hwarm
    rw [Bool.or_eq_true, not_or] at hwarm
    split
    · rename_i c' hswap
      have hcooldown := Cast.cooldownOf_swap hswap id
      rw [List.map_append]
      refine h.append ?_
      cases hinvolved : e.pair.involves id with
      | true =>
          have hone : e.pair.low = id ∨ e.pair.high = id := by
            simpa [SpritePair.involves] using hinvolved
          have hfree : c.cooldownOf id = 0 := by
            obtain rfl | rfl := hone
            · simpa [Cast.isCooling_eq] using hwarm.1
            · simpa [Cast.isCooling_eq] using hwarm.2
          rw [if_pos hone] at hcooldown
          refine .own hinvolved ?_ (.nil ?_)
          · rw [hfree]
            exact Nat.le_refl tick
          · rw [hcooldown]
      | false =>
          have hneither : ¬(e.pair.low = id ∨ e.pair.high = id) := by
            simpa [SpritePair.involves] using hinvolved
          rw [if_neg hneither] at hcooldown
          refine .other hinvolved (.nil ?_)
          rw [hcooldown]
    · exact h

theorem rests_coordinate (id : SpriteId) (tick : Nat) (m : Monitor) (c : Cast) (cooldown : Nat) :
    DatedSwap.Rests id cooldown (tick + c.cooldownOf id)
      ((m.coordinate c cooldown).1.map (⟨tick, ·⟩))
      (tick + (m.coordinate c cooldown).2.2.cooldownOf id) := by
  have hfold (es : List Contact) {free : Nat} (state : List Contact × Monitor × Cast)
      (h : DatedSwap.Rests id cooldown free (state.1.map (⟨tick, ·⟩))
        (tick + state.2.2.cooldownOf id)) :
      DatedSwap.Rests id cooldown free
        ((es.foldl (swapEncounter cooldown) state).1.map (⟨tick, ·⟩))
        (tick + (es.foldl (swapEncounter cooldown) state).2.2.cooldownOf id) := by
    induction es generalizing state with
    | nil => exact h
    | cons e rest ih => exact ih _ (rests_swapEncounter h e)
  exact hfold (m.detect c).1 ([], (m.detect c).2, c) (.nil (Nat.le_refl _))

end Monitor

/-! ## Runs -/

namespace Session

open DatedSwap

variable {s : Session}

/-- The first tick at which a sprite may swap, as far as its cooldown goes. -/
def freeFrom (s : Session) (id : SpriteId) : Nat := s.ticks + s.cast.cooldownOf id

/-- The scans of some ticks, each with the number of its tick. -/
def datedTickScans (s : Session) (now : Instant) : Nat → List DatedScan
  | 0 => []
  | count + 1 => (s.tickScan? now).toList.map (⟨(s.tick now).ticks, ·⟩) ++
      (s.tick now).datedTickScans now count

def datedScansOf (s : Session) : Operation → List DatedScan
  | .advance now => (s.fed now).datedTickScans now (s.clock.beginFrame now).due
  | .step now => s.datedTickScans now 1
  | _ => []

/-- The scans of operations, each with the number of the tick after which it runs. -/
def datedScans (s : Session) : List Operation → List DatedScan
  | [] => []
  | op :: ops => s.datedScansOf op ++ (s.after op).datedScans ops

/-- The swaps of operations, in order. -/
def swapLog (s : Session) (ops : List Operation) : List DatedSwap :=
  (s.datedScans ops).flatMap (·.swaps s.settings.swapCooldown)

theorem map_scan_datedTickScans (s : Session) (now : Instant) (count : Nat) :
    (s.datedTickScans now count).map (·.scan) = s.tickScans now count := by
  induction count generalizing s with
  | zero => rfl
  | succ count ih =>
      rw [datedTickScans, tickScans, List.map_append, ih, List.map_map]
      exact congrArg (· ++ _) (List.map_id _)

theorem map_scan_datedScans (s : Session) (ops : List Operation) :
    (s.datedScans ops).map (·.scan) = s.scans ops := by
  induction ops generalizing s with
  | nil => rfl
  | cons op ops ih =>
      have hop : (s.datedScansOf op).map (·.scan) = s.scansOf op := by
        cases op with
        | advance now => exact (s.fed now).map_scan_datedTickScans now _
        | step now => exact s.map_scan_datedTickScans now 1
        | _ => rfl
      rw [datedScans, scans, List.map_append, hop, ih]

theorem freeFrom_le_acted (s : Session) (now : Instant) (id : SpriteId) :
    s.freeFrom id ≤ (s.acted now).freeFrom id := by
  have hcooldown : (s.act now).cast.cooldownOf id = s.cast.cooldownOf id - 1 := by
    unfold Cast.cooldownOf
    rw [find?_act]
    cases s.cast.find? id with
    | none => rfl
    | some sprite => exact sprite.actor.cooldown_tick
  change s.ticks + s.cast.cooldownOf id ≤ s.ticks + 1 + (s.act now).cast.cooldownOf id
  omega

/-- One tick, with the swaps of the scan that it ends with, if one is due. -/
theorem rests_tick (s : Session) (now : Instant) (id : SpriteId) :
    Rests id s.settings.swapCooldown (s.freeFrom id)
      (((s.tickScan? now).toList.map (⟨(s.tick now).ticks, ·⟩)).flatMap
        (DatedScan.swaps · s.settings.swapCooldown)) ((s.tick now).freeFrom id) := by
  refine Rests.of_le ?_ (s.freeFrom_le_acted now id)
  rw [ticks_tick, tick_eq]
  unfold tickScan?
  split
  · rw [Option.toList_some, List.map_singleton, List.flatMap_singleton]
    exact Monitor.rests_coordinate id (s.ticks + 1) s.monitor (s.act now).cast _
  · exact .nil (Nat.le_refl _)

theorem rests_ticks (s : Session) (now : Instant) (count : Nat) (id : SpriteId) :
    Rests id s.settings.swapCooldown (s.freeFrom id)
      ((s.datedTickScans now count).flatMap (·.swaps s.settings.swapCooldown))
      ((s.tickTimes now count).freeFrom id) := by
  induction count generalizing s with
  | zero => exact .nil (Nat.le_refl _)
  | succ count ih =>
      have hrest := ih (s.tick now)
      rw [settings_tick] at hrest
      rw [datedTickScans, List.flatMap_append]
      exact (s.rests_tick now id).append hrest

theorem freeFrom_expireBubbles (s : Session) (now : Instant) (id : SpriteId) :
    (s.expireBubbles now).freeFrom id = s.freeFrom id := by
  have hcooldown : (s.expireBubbles now).cast.cooldownOf id = s.cast.cooldownOf id :=
    expireBubbles_keeps (P := fun c => c.cooldownOf id = s.cast.cooldownOf id) rfl
      (fun c id' h => (c.cooldownOf_modify (f := Sprite.clearBubble) (fun _ => rfl)
        (fun _ => rfl) id id').trans h) now
  exact congrArg (s.ticks + ·) hcooldown

/-- Any operation other than a restart and the removal of the sprite. -/
theorem rests_after (hs : s.Sound) {op : Operation} (hop : op ≠ .restart)
    (hid : op = .delete id → id ∉ s.cast.ids) :
    Rests id s.settings.swapCooldown (s.freeFrom id)
      ((s.datedScansOf op).flatMap (·.swaps s.settings.swapCooldown))
      ((s.after op).freeFrom id) := by
  have hquiet {cast : Cast} (hcast : cast.cooldownOf id = s.cast.cooldownOf id) :
      Rests id s.settings.swapCooldown (s.freeFrom id) [] (s.ticks + cast.cooldownOf id) :=
    .nil (Nat.le_of_eq (congrArg (s.ticks + ·) hcast.symm))
  cases op with
  | add spec =>
      rw [after_add]
      split
      · rename_i hc
        exact hquiet (Cast.cooldownOf_add hc id)
      · exact hquiet rfl
  | delete id' =>
      rw [after_delete]
      split
      · rename_i hc
        refine hquiet (Cast.cooldownOf_remove hs.nodup hc ?_)
        rintro rfl
        exact hid rfl (Cast.mem_ids_of_remove hc)
      · exact hquiet rfl
  | select id' =>
      rw [after_select]
      split
      · rename_i hc
        refine hquiet ?_
        unfold Cast.cooldownOf Cast.find?
        rw [Cast.sprites_select hc]
      · exact hquiet rfl
  | edit id' trigger e =>
      rw [after_edit]
      split
      · rename_i hc
        exact hquiet (Cast.cooldownOf_edit hc id)
      · exact hquiet rfl
  | play now =>
      exact hquiet (s.cast.cooldownOf_map_sprites (f := (·.arm .play)) (fun _ => rfl)
        (fun _ => rfl) id)
  | stop => exact hquiet rfl
  | restart => exact absurd rfl hop
  | click id' now =>
      change Rests _ _ _ _ ((s.click id' now).freeFrom id)
      unfold click
      split
      · exact hquiet (s.cast.cooldownOf_modify (f := (·.arm .click)) (fun _ => rfl)
          (fun _ => rfl) id id')
      · exact hquiet rfl
  | advance now =>
      change Rests _ _ _ _ ((((s.fed now).tickTimes now _).expireBubbles now).freeFrom id)
      rw [freeFrom_expireBubbles]
      exact (s.fed now).rests_ticks now _ id
  | step now =>
      change Rests _ _ _ _ (((s.tickTimes now 1).expireBubbles now).freeFrom id)
      rw [freeFrom_expireBubbles]
      exact s.rests_ticks now 1 id

theorem rests_swapLog (hs : s.Sound) {ops : List Operation} (hops : .restart ∉ ops)
    (hid : s.Keeps id ops) :
    Rests id s.settings.swapCooldown (s.freeFrom id) (s.swapLog ops)
      ((s.afterAll ops).freeFrom id) := by
  induction ops generalizing s with
  | nil => exact .nil (Nat.le_refl _)
  | cons op ops ih =>
      rw [List.mem_cons, not_or] at hops
      have hrest := ih (hs.after op) hops.2 hid.2
      unfold swapLog at hrest ⊢
      rw [(s.counts_after op).settings] at hrest
      rw [datedScans, List.flatMap_append]
      exact (rests_after hs (Ne.symm hops.1) hid.1).append hrest

/-- Two sprites that touch, part at once and touch again, where swaps start a cooldown of three
ticks. -/
def touchAndGo : Session :=
  let spec (id : SpriteId) (play : List Block) : SpriteSpec :=
    { id, name := id, start := default, program := { play } }
  let dance : List Block := [.goto 0 0, .goto 500 0, .goto 0 0]
  (ofSettings { swapCooldown := 3 }).afterAll [.add (spec "cat" []), .add (spec "dog" dance)]

theorem reachable_touchAndGo : touchAndGo.Reachable := (Reachable.new _).afterAll _

/-- Over a run without a restart, two swaps of a sprite that is not removed in between lie at least
a cooldown apart; so no scan swaps a sprite twice, unless swaps start no cooldown. The run is any
part of a longer one, and in the rest of that there may be restarts and removals. -/
theorem Reachable.swaps_apart (hs : s.Reachable) {ops : List Operation} (hops : .restart ∉ ops)
    (hid : s.Keeps id ops) :
    ((s.swapLog ops).filter (·.involves id)).Pairwise
        (fun a b => a.tick + s.settings.swapCooldown ≤ b.tick) ∧
      (0 < s.settings.swapCooldown → ∀ scan ∈ s.scans ops,
        ((scan.swapped s.settings.swapCooldown).filter (·.pair.involves id)).length ≤ 1) := by
  have hapart := (rests_swapLog hs.sound hops hid).pairwise
  refine ⟨hapart, fun hcooldown scan hscan => ?_⟩
  rw [← map_scan_datedScans] at hscan
  obtain ⟨dated, hdated, rfl⟩ := List.mem_map.1 hscan
  have hswaps : (dated.swaps s.settings.swapCooldown).Sublist (s.swapLog ops) :=
    List.sublist_flatten_of_mem (List.mem_map_of_mem hdated)
  have hone := hapart.sublist (hswaps.filter (·.involves id))
  unfold DatedScan.swaps at hone
  rw [List.filter_map, List.pairwise_map] at hone
  change List.Pairwise _ ((dated.scan.swapped _).filter (·.pair.involves id)) at hone
  cases hlist : (dated.scan.swapped s.settings.swapCooldown).filter (·.pair.involves id) with
  | nil => exact Nat.zero_le _
  | cons first rest =>
      cases rest with
      | nil => exact Nat.le_refl 1
      | cons second rest =>
          rw [hlist, List.pairwise_cons] at hone
          have hsame := hone.1 second List.mem_cons_self
          dsimp only at hsame
          omega

theorem Reachable.swaps_apart_touchAndGo :
    let swaps := (touchAndGo.swapLog (.play default :: List.replicate 4 (.step default))).filter
      (·.involves "cat")
    swaps.map (·.tick) = [1, 4] ∧ swaps.Pairwise fun a b => a.tick + 3 ≤ b.tick := by
  intro swaps
  have hkeeps : touchAndGo.Keeps "cat" (.play default :: List.replicate 4 (.step default)) :=
    ⟨nofun, nofun, nofun, nofun, nofun, trivial⟩
  have hops : .restart ∉ Operation.play default :: List.replicate 4 (.step default) := by simp
  have hcooldown : touchAndGo.settings.swapCooldown = 3 :=
    congrArg Settings.swapCooldown (settings_afterAll _ _)
  have hapart := (reachable_touchAndGo.swaps_apart hops hkeeps).1
  rw [hcooldown] at hapart
  exact ⟨by decide +kernel, hapart⟩

end Session

end SpriteStage
