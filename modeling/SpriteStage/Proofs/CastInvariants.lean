import SpriteStage.Cast.Operation
import SpriteStage.Proofs.FallibleResults
import SpriteStage.Proofs.SessionInvariants

/-!
# What holds of every cast

Whatever is done to a cast, rejected or not, is a single step (`changes_after`). So its sprites have
distinct ids, and each carries the flat form of the program that it has (`flat_never_stale`): no
change of a program gets past the places that make it flat.
-/

namespace SpriteStage

theorem Sprite.Changes.id_eq {i : Increment} {cooldown : Nat} {s s' : Sprite}
    (h : s.Changes i cooldown s') : s'.id = s.id := by
  cases h <;> rfl

namespace Cast

variable {c c' : Cast} {cooldown : Nat}

/-! ## Steps -/

theorem Changes.nodup_ids (h : c.Changes cooldown c') (hc : c.ids.Nodup) : c'.ids.Nodup := by
  cases h with
  | add h => exact nodup_ids_add h hc
  | remove h => exact hc.sublist (sublist_ids_remove h)
  | select h =>
      rw [ids, sprites_select h]
      exact hc
  | sprites hf =>
      rw [ids_map_sprites fun s => (hf s).id_eq]
      exact hc

theorem Changes.refl (c : Cast) (cooldown : Nat) : c.Changes cooldown c := by
  have hkept : c.Changes cooldown { c with sprites := c.sprites.map id } :=
    .sprites fun s => .keep s
  rw [List.map_id] at hkept
  exact hkept

theorem exists_changes_accept {ε : Type} (cooldown : Nat) {result : Except ε Cast}
    (h : ∀ c', result = .ok c' → c.Changes cooldown c') :
    ∃ cooldown, c.Changes cooldown (c.accept result) := by
  cases result with
  | ok c' => exact ⟨cooldown, h c' rfl⟩
  | error e => exact ⟨0, .refl c 0⟩

/-- Every operation is a single step. -/
theorem changes_after (c : Cast) (op : Operation) :
    ∃ cooldown, c.Changes cooldown (c.after op) := by
  cases op with
  | add spec => exact exists_changes_accept 0 fun c' h => .add h
  | remove id => exact exists_changes_accept 0 fun c' h => .remove h
  | select id => exact exists_changes_accept 0 fun c' h => .select h
  | edit id t e =>
      refine exists_changes_accept 0 fun c' h => ?_
      obtain ⟨result, hedit, rfl⟩ := map_eq_ok_iff.1 h
      exact .edit hedit
  | arm id t => exact ⟨0, .modify (fun s => .arm s t) id⟩
  | armAll t => exact ⟨0, .sprites fun s => .arm s t⟩
  | restartAll => exact ⟨0, .sprites fun s => .restart s⟩
  | act id => exact ⟨0, .modify (fun s => .act s) id⟩
  | clearBubble id => exact ⟨0, .modify (fun s => .clearBubble s) id⟩
  | swap a b cooldown => exact exists_changes_accept cooldown fun c' h => .swap h

/-! ## Runs -/

/-- What every step keeps holds after any operations. -/
theorem afterAll_keeps {P : Cast → Prop}
    (hkeeps : ∀ cooldown c c', c.Changes cooldown c' → P c → P c') (h : P c)
    (ops : List Operation) : P (c.afterAll ops) := by
  induction ops generalizing c with
  | nil => exact h
  | cons op ops ih =>
      obtain ⟨cooldown, hstep⟩ := c.changes_after op
      exact ih (hkeeps cooldown c _ hstep h)

/-- In a cast that operations lead to from one without sprites, every sprite's flat program is that
of the program it has, with moves cut by the cast's increment, and no two sprites share an id. -/
theorem flat_never_stale (moveIncrement : Single) (ops : List Operation) :
    let cast := ({ increment := .ofSingle moveIncrement } : Cast).afterAll ops
    (∀ s ∈ cast.sprites, s.flat = s.program.flatten (.ofSingle moveIncrement)) ∧
      cast.ids.Nodup := by
  intro cast
  have hincrement : cast.increment = .ofSingle moveIncrement :=
    afterAll_keeps (P := fun c => c.increment = .ofSingle moveIncrement)
      (fun _ _ _ hstep hc => hstep.increment_eq.trans hc) rfl ops
  have hflat : cast.IsFlat :=
    afterAll_keeps (fun _ _ _ hstep hc => hstep.isFlat hc) (fun _ hs => by cases hs) ops
  have hnodup : cast.ids.Nodup :=
    afterAll_keeps (P := fun c => c.ids.Nodup) (fun _ _ _ hstep hc => hstep.nodup_ids hc)
      (c := { increment := .ofSingle moveIncrement }) List.nodup_nil ops
  refine ⟨fun s hs => ?_, hnodup⟩
  rw [← hincrement]
  exact hflat s hs

end Cast

end SpriteStage
