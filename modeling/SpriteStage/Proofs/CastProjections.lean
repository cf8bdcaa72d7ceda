import SpriteStage.Contact.Monitor
import SpriteStage.Proofs.CastUpdates

/-!
# Projections of casts

A projection forgets something about every sprite of a cast, and which one is selected. Where it
forgets only what scans do not look at and swaps leave alone (`Sprite.IsBlind`), a scan swaps the
same encounters in a cast and in its projection, and leaves the projection of the cast
(`Monitor.coordinate_project`).
-/

namespace SpriteStage

/-- A change of sprites keeps all that a scan sees of them. -/
structure Sprite.IsUnseen (f : Sprite → Sprite) : Prop where
  stance : ∀ s, (f s).stance = s.stance
  cooldown : ∀ s, (f s).actor.cooldown = s.actor.cooldown

/-- A projection keeps what scans and swaps look at, and forgets nothing that a swap changes. -/
structure Sprite.IsBlind (proj : Sprite → Sprite) : Prop where
  stance : ∀ s, (proj s).stance = s.stance
  cooldown : ∀ s, (proj s).actor.cooldown = s.actor.cooldown
  program : ∀ s, (proj s).program = s.program
  activeTrigger : ∀ s, (proj s).activeTrigger = s.activeTrigger
  takeOver : ∀ s i p cooldown,
    (proj s).takeOver i p cooldown = proj (s.takeOver i p cooldown)

variable {proj f : Sprite → Sprite}

namespace Sprite

theorem IsUnseen.id_eq (h : IsUnseen f) (s : Sprite) : (f s).id = s.id :=
  congrArg (·.1) (h.stance s)

theorem IsUnseen.isIdle_eq (h : IsUnseen f) (s : Sprite) :
    (f s).actor.isIdle = s.actor.isIdle :=
  congrArg (·.2.2) (h.stance s)

theorem IsUnseen.box_eq (h : IsUnseen f) (m : Monitor) (s : Sprite) : m.box (f s) = m.box s :=
  congrArg (fun stance : SpriteId × Pose × Bool =>
    Box.square stance.2.1.x stance.2.1.y m.spriteSize) (h.stance s)

theorem IsUnseen.isCooling_eq (h : IsUnseen f) (s : Sprite) :
    (f s).actor.isCooling = s.actor.isCooling :=
  congrArg (fun cooldown : Nat => decide (0 < cooldown)) (h.cooldown s)

theorem IsBlind.isUnseen (h : IsBlind proj) : IsUnseen proj := ⟨h.stance, h.cooldown⟩

theorem IsBlind.id_eq (h : IsBlind proj) (s : Sprite) : (proj s).id = s.id := h.isUnseen.id_eq s

end Sprite

/-! ## Sprites changed one by one -/

theorem Cast.find?_map_sprites (h : ∀ s, (f s).id = s.id) (c : Cast) (id : SpriteId) :
    { c with sprites := c.sprites.map f }.find? id = (c.find? id).map f := by
  unfold find?
  simp only [List.find?_map, Function.comp_def, h]

/-- What every sprite keeps of itself in a change is read off the cast as before. -/
theorem Cast.map_find?_map_sprites {α : Type} {g : Sprite → α} (hid : ∀ s, (f s).id = s.id)
    (hg : ∀ s, g (f s) = g s) (c : Cast) (id : SpriteId) :
    ({ c with sprites := c.sprites.map f }.find? id).map g = (c.find? id).map g := by
  rw [find?_map_sprites hid, Option.map_map]
  congr 1
  exact funext hg

theorem Cast.map_find?_modify {α : Type} {g : Sprite → α} (hid : ∀ s, (f s).id = s.id)
    (hg : ∀ s, g (f s) = g s) (c : Cast) (id id' : SpriteId) :
    ((c.modify id' f).find? id).map g = (c.find? id).map g := by
  refine map_find?_map_sprites (fun s => ?_) (fun s => ?_) c id
  · split
    · exact hid s
    · rfl
  · split
    · exact hg s
    · rfl

namespace Monitor

theorem candidates_map_sprites (h : Sprite.IsUnseen f) (m : Monitor) (c : Cast) :
    m.candidates { c with sprites := c.sprites.map f } = m.candidates c := by
  unfold candidates
  simp only [List.filter_map, List.map_map, Function.comp_def, h.id_eq, h.isIdle_eq, h.box_eq,
    h.isCooling_eq]

theorem detect_map_sprites (h : Sprite.IsUnseen f) (m : Monitor) (c : Cast) :
    m.detect { c with sprites := c.sprites.map f } = m.detect c := by
  unfold detect
  rw [candidates_map_sprites h]

theorem isCooling_map_sprites (h : Sprite.IsUnseen f) (c : Cast) (id : SpriteId) :
    isCooling { c with sprites := c.sprites.map f } id = isCooling c id := by
  unfold isCooling
  rw [Cast.find?_map_sprites h.id_eq, Option.any_map]
  simp only [h.isCooling_eq]

end Monitor

/-! ## Projected casts -/

namespace Cast

/-- The cast with its sprites projected and none selected. -/
def project (proj : Sprite → Sprite) (c : Cast) : Cast :=
  { c with sprites := c.sprites.map proj, selected := none }

theorem project_project (h : ∀ s, proj (proj s) = proj s) (c : Cast) :
    (c.project proj).project proj = c.project proj := by
  unfold project
  dsimp only
  rw [List.map_map]
  congr 1
  exact List.map_congr_left fun s _ => h s

theorem find?_project (h : ∀ s, (proj s).id = s.id) (c : Cast) (id : SpriteId) :
    (c.project proj).find? id = (c.find? id).map proj :=
  c.find?_map_sprites h id

theorem modify_project (h : ∀ s, (proj s).id = s.id) {f : Sprite → Sprite}
    (hf : ∀ s, f (proj s) = proj (f s)) (c : Cast) (id : SpriteId) :
    (c.project proj).modify id f = (c.modify id f).project proj := by
  unfold modify project
  dsimp only
  rw [List.map_map, List.map_map]
  congr 1
  refine List.map_congr_left fun s _ => ?_
  dsimp only [Function.comp]
  rw [h s]
  split
  · exact hf s
  · rfl

theorem handOver_project (h : Sprite.IsBlind proj) (i : Increment) (s t : Sprite) (cooldown : Nat)
    (x : Sprite) :
    handOver i (proj s) (proj t) cooldown (proj x) = proj (handOver i s t cooldown x) := by
  unfold handOver
  simp only [h.id_eq, h.program, h.activeTrigger]
  split
  · exact h.takeOver ..
  · split
    · exact h.takeOver ..
    · rfl

theorem swap_project (h : Sprite.IsBlind proj) (c : Cast) (a b : SpriteId) (cooldown : Nat) :
    (c.project proj).swap a b cooldown = (c.swap a b cooldown).map (·.project proj) := by
  have hfind (id : SpriteId) := find?_project h.id_eq c id
  cases hs : c.find? a with
  | none => simp [swap, hfind, hs, Except.map]
  | some s =>
      cases ht : c.find? b with
      | none => simp [swap, hfind, hs, ht, Except.map]
      | some t =>
          by_cases hne : a = b
          · simp [swap, hfind, ht, hne, Except.map]
          · rw [swap_eq_ok hs ht hne, swap_eq_ok ((hfind a).trans (congrArg _ hs))
              ((hfind b).trans (congrArg _ ht)) hne]
            refine congrArg (fun sprites => Except.ok { c with sprites, selected := none }) ?_
            unfold project
            rw [List.map_map, List.map_map]
            exact List.map_congr_left fun x _ => handOver_project h c.increment s t cooldown x

end Cast

namespace Monitor

theorem detect_project (h : Sprite.IsBlind proj) (m : Monitor) (c : Cast) :
    m.detect (c.project proj) = m.detect c :=
  detect_map_sprites h.isUnseen m c

theorem isCooling_project (h : Sprite.IsBlind proj) (c : Cast) (id : SpriteId) :
    isCooling (c.project proj) id = isCooling c id :=
  isCooling_map_sprites h.isUnseen c id

/-- What a scan is left with, its cast projected. -/
def project (proj : Sprite → Sprite) (outcome : List Contact × Monitor × Cast) :
    List Contact × Monitor × Cast :=
  (outcome.1, outcome.2.1, outcome.2.2.project proj)

theorem swapEncounter_project (h : Sprite.IsBlind proj) (cooldown : Nat) (e : Contact)
    (state : List Contact × Monitor × Cast) :
    swapEncounter cooldown (project proj state) e =
      project proj (swapEncounter cooldown state e) := by
  obtain ⟨swapped, m, c⟩ := state
  unfold swapEncounter project
  dsimp only
  rw [isCooling_project h, isCooling_project h, Cast.swap_project h]
  split
  · rfl
  · cases c.swap e.pair.low e.pair.high cooldown <;> rfl

theorem coordinate_project (h : Sprite.IsBlind proj) (m : Monitor) (c : Cast) (cooldown : Nat) :
    m.coordinate (c.project proj) cooldown = project proj (m.coordinate c cooldown) := by
  have hfold (es : List Contact) (state : List Contact × Monitor × Cast) :
      es.foldl (swapEncounter cooldown) (project proj state) =
        project proj (es.foldl (swapEncounter cooldown) state) := by
    induction es generalizing state with
    | nil => rfl
    | cons e rest ih =>
        rw [List.foldl_cons, swapEncounter_project h, ih]
        rfl
  unfold coordinate
  rw [detect_project h]
  exact hfold (m.detect c).1 ([], (m.detect c).2, c)

end Monitor

end SpriteStage
