import Mathlib.Data.List.Nodup
import SpriteStage.Cast

/-!
# What updates of a cast keep

Ids stay distinct whatever is done to a cast. A swap is carried out for any two distinct sprites of
it, and it changes nothing but what those two run and how long they cool down: a sprite keeps its id
and its pose, and one that is idle stays so.
-/

namespace SpriteStage

/-- What a scan sees of a sprite, its cooldown aside. -/
def Sprite.stance (s : Sprite) : SpriteId × Pose × Bool := (s.id, s.actor.pose, s.actor.isIdle)

@[simp] theorem Sprite.id_takeOver (s : Sprite) (i : Increment) (p : Program) (cooldown : Nat) :
    (s.takeOver i p cooldown).id = s.id := rfl

/-- Taking over a program begins it again if the sprite is armed, and does nothing else to the actor
but start its cooldown. -/
theorem Sprite.actor_takeOver (s : Sprite) (i : Increment) (p : Program) (cooldown : Nat) :
    (s.takeOver i p cooldown).actor = { s.actor with
      armed := if s.actor.isIdle then s.actor.armed else p.flatten i
      run := s.actor.run.map fun run => ⟨run.trigger, 0⟩
      cooldown } := by
  obtain ⟨_, _, _, _, _, ⟨_, _, _, _, run, _⟩⟩ := s
  cases run <;> rfl

theorem Sprite.stance_takeOver (s : Sprite) (i : Increment) (p : Program) (cooldown : Nat) :
    (s.takeOver i p cooldown).stance = s.stance := by
  have hpose : (s.takeOver i p cooldown).actor.pose = s.actor.pose := by rw [actor_takeOver]
  have hidle : (s.takeOver i p cooldown).actor.isIdle = s.actor.isIdle := by
    rw [actor_takeOver]
    exact Option.isNone_map
  rw [stance, hpose, hidle, id_takeOver, stance]

namespace Cast

variable {c c' : Cast} {a b id : SpriteId} {s t : Sprite}

/-! ## Look-ups -/

theorem mem_of_find? (h : c.find? id = some s) : s ∈ c.sprites := List.mem_of_find?_eq_some h

theorem id_of_find? (h : c.find? id = some s) : s.id = id := by simpa using List.find?_some h

theorem eq_of_id_eq (hc : c.ids.Nodup) (hs : s ∈ c.sprites) (ht : t ∈ c.sprites)
    (h : s.id = t.id) : s = t :=
  List.inj_on_of_nodup_map hc hs ht h

theorem find?_eq_some_iff (hc : c.ids.Nodup) :
    c.find? id = some s ↔ s ∈ c.sprites ∧ s.id = id := by
  constructor
  · intro h
    exact ⟨mem_of_find? h, id_of_find? h⟩
  · rintro ⟨hs, rfl⟩
    have hfound : (c.find? s.id).isSome := List.find?_isSome.2 ⟨s, hs, by simp⟩
    obtain ⟨t, ht⟩ := Option.isSome_iff_exists.1 hfound
    rw [ht, eq_of_id_eq hc (mem_of_find? ht) hs (id_of_find? ht)]

theorem mem_ids_iff : id ∈ c.ids ↔ ∃ s, c.find? id = some s := by
  rw [← Option.isSome_iff_exists]
  simp [ids, find?]

theorem contains_eq_true_iff : c.contains id = true ↔ id ∈ c.ids := by
  simp [contains, ids]

theorem position?_eq (c : Cast) (id : SpriteId) :
    c.position? id = c.ids.findIdx? (· == id) := by
  unfold position? ids
  rw [List.findIdx?_map]
  rfl

/-- In a cast with distinct ids, a sprite stands where its id does. -/
theorem position?_eq_some_iff (hc : c.ids.Nodup) {position : Nat} :
    c.position? id = some position ↔ c.ids[position]? = some id := by
  rw [position?_eq, List.findIdx?_eq_some_iff_getElem]
  constructor
  · rintro ⟨hlt, hid, -⟩
    rw [List.getElem?_eq_getElem hlt, eq_of_beq hid]
  · intro h
    obtain ⟨hlt, rfl⟩ := List.getElem?_eq_some_iff.1 h
    refine ⟨hlt, beq_self_eq_true _, fun j hj hsame => ?_⟩
    have heq : j = position := hc.getElem_inj_iff.1 (eq_of_beq hsame)
    exact Nat.ne_of_lt hj heq

/-! ## Ids -/

theorem ids_map_sprites {f : Sprite → Sprite} (hf : ∀ s, (f s).id = s.id) :
    { c with sprites := c.sprites.map f }.ids = c.ids := by
  unfold ids
  rw [List.map_map]
  exact List.map_congr_left fun s _ => hf s

theorem ids_modify {f : Sprite → Sprite} (hf : ∀ s, (f s).id = s.id) :
    (c.modify id f).ids = c.ids :=
  ids_map_sprites fun s => by split <;> simp [hf]

theorem ids_armAll (c : Cast) (t : Trigger) : (c.armAll t).ids = c.ids :=
  ids_map_sprites fun _ => rfl

theorem ids_restartAll (c : Cast) : c.restartAll.ids = c.ids := ids_map_sprites fun _ => rfl

theorem nodup_ids_add {spec : SpriteSpec} (h : c.add spec = .ok c') (hc : c.ids.Nodup) :
    c'.ids.Nodup := by
  unfold add at h
  split at h
  · cases h
  · rename_i hnew
    cases h
    rw [contains_eq_true_iff] at hnew
    unfold ids at hnew hc ⊢
    rw [List.map_append, List.nodup_append]
    refine ⟨hc, by simp, ?_⟩
    rintro x hx y hy rfl
    rw [List.map_singleton, List.mem_singleton] at hy
    subst hy
    exact hnew hx

theorem sublist_ids_remove (h : c.remove id = .ok c') : c'.ids.Sublist c.ids := by
  unfold remove at h
  split at h
  · cases h
  · cases h
    exact (List.eraseIdx_sublist ..).map _

theorem mem_ids_of_remove (h : c.remove id = .ok c') : id ∈ c.ids := by
  unfold remove at h
  split at h
  · cases h
  · rename_i position hposition
    have hfound : (c.position? id).isSome = true := by rw [hposition, Option.isSome_some]
    rw [position?, List.findIdx?_isSome] at hfound
    exact contains_eq_true_iff.1 hfound

/-- The sprites that are left when one is removed are those with other ids. -/
theorem mem_remove_iff (hc : c.ids.Nodup) (h : c.remove id = .ok c') :
    s ∈ c'.sprites ↔ s ∈ c.sprites ∧ s.id ≠ id := by
  unfold remove at h
  split at h <;> cases h
  rename_i position hposition
  rw [position?_eq_some_iff hc] at hposition
  have hlt : position < c.ids.length := (List.getElem?_eq_some_iff.1 hposition).1
  have hids {index : Nat} (hindex : c.sprites[index]? = some s) : c.ids[index]? = some s.id := by
    rw [ids, List.getElem?_map, hindex]
    rfl
  constructor
  · intro hs
    obtain ⟨index, hne, hindex⟩ := List.mem_eraseIdx_iff_getElem?.1 hs
    refine ⟨List.mem_of_getElem? hindex, fun hid => ?_⟩
    have hsame : c.ids[position]? = c.ids[index]? := by rw [hposition, hids hindex, hid]
    exact hne ((List.getElem?_inj hlt hc).1 hsame).symm
  · rintro ⟨hs, hne⟩
    obtain ⟨index, hindex⟩ := List.getElem?_of_mem hs
    refine List.mem_eraseIdx_iff_getElem?.2 ⟨index, ?_, hindex⟩
    rintro rfl
    exact hne (Option.some.inj ((hids hindex).symm.trans hposition))

theorem sprites_select (h : c.select id = .ok c') : c'.sprites = c.sprites := by
  unfold select at h
  split at h
  · cases h
  · cases h
    rfl

theorem ids_edit {trigger : Trigger} {e : Program.Edit} {removed : Option Block}
    (h : c.edit id trigger e = .ok (removed, c')) : c'.ids = c.ids := by
  unfold edit at h
  split at h
  · cases h
  · split at h
    · cases h
    · cases h
      exact ids_modify fun _ => rfl

/-! ## Swaps -/

/-- What becomes of a sprite when two sprites exchange their programs. -/
def handOver (i : Increment) (s t : Sprite) (cooldown : Nat) (x : Sprite) : Sprite :=
  if x.id = s.id then
    x.takeOver i (t.program.realign t.activeTrigger s.activeTrigger) cooldown
  else if x.id = t.id then
    x.takeOver i (s.program.realign s.activeTrigger t.activeTrigger) cooldown
  else
    x

theorem id_handOver (i : Increment) (s t : Sprite) (cooldown : Nat) (x : Sprite) :
    (handOver i s t cooldown x).id = x.id := by
  unfold handOver
  split
  · rfl
  · split <;> rfl

theorem stance_handOver (i : Increment) (s t : Sprite) (cooldown : Nat) (x : Sprite) :
    (handOver i s t cooldown x).stance = x.stance := by
  unfold handOver
  split
  · exact x.stance_takeOver ..
  · split
    · exact x.stance_takeOver ..
    · rfl

/-- A swap of two distinct sprites of the cast is carried out. -/
theorem swap_eq_ok (hs : c.find? a = some s) (ht : c.find? b = some t) (hne : a ≠ b)
    (cooldown : Nat) :
    c.swap a b cooldown =
      .ok { c with sprites := c.sprites.map (handOver c.increment s t cooldown) } := by
  obtain rfl := id_of_find? hs
  obtain rfl := id_of_find? ht
  unfold swap
  rw [hs, ht]
  dsimp only
  rw [if_neg hne]
  unfold modify
  rw [List.map_map]
  congr 2
  refine List.map_congr_left fun x _ => ?_
  unfold handOver
  by_cases hx : x.id = s.id
  · simp [hx, hne, Program.exchange]
  · simp [hx, Program.exchange]

theorem exists_of_swap {cooldown : Nat} (h : c.swap a b cooldown = .ok c') :
    a ≠ b ∧ ∃ s t, c.find? a = some s ∧ c.find? b = some t ∧
      c' = { c with sprites := c.sprites.map (handOver c.increment s t cooldown) } := by
  cases hs : c.find? a with
  | none => simp [swap, hs] at h
  | some s =>
      cases ht : c.find? b with
      | none => simp [swap, hs, ht] at h
      | some t =>
          by_cases hne : a = b
          · simp [swap, ht, hne] at h
          · rw [swap_eq_ok hs ht hne, Except.ok.injEq] at h
            exact ⟨hne, s, t, rfl, rfl, h.symm⟩

/-! ## Stances -/

/-- What a scan sees of the cast, cooldowns aside. -/
def stances (c : Cast) : List (SpriteId × Pose × Bool) := c.sprites.map (·.stance)

theorem stances_swap {cooldown : Nat} (h : c.swap a b cooldown = .ok c') :
    c'.stances = c.stances := by
  obtain ⟨-, s, t, -, -, rfl⟩ := exists_of_swap h
  unfold stances
  rw [List.map_map]
  exact List.map_congr_left fun x _ => stance_handOver ..

theorem ids_eq_of_stances_eq (h : c.stances = c'.stances) : c.ids = c'.ids := by
  have hids (c : Cast) : c.ids = c.stances.map (·.1) := by
    rw [stances, List.map_map]
    rfl
  rw [hids, hids, h]

theorem stance_find?_eq (h : c.stances = c'.stances) (id : SpriteId) :
    (c.find? id).map (·.stance) = (c'.find? id).map (·.stance) := by
  have hfind (c : Cast) : (c.find? id).map (·.stance) = c.stances.find? (·.1 == id) := by
    rw [stances, List.find?_map]
    rfl
  rw [hfind, hfind, h]

end Cast

end SpriteStage
