import SpriteStage.Proofs.FallibleResults
import SpriteStage.Scene.File

/-!
# Built sessions

The session that a scene starts is one without sprites to which the sprites of the scene have been
added (`Scene.build_keeps`). If they all come with ids, it does not depend on the ids that others
would get (`Scene.build_congr`).
-/

namespace SpriteStage

/-- Every sprite of the scene comes with an id. -/
def Scene.NamesSprites (scene : Scene) : Prop := ∀ sprite ∈ scene.sprites, sprite.id.isSome

namespace Scene

variable {scene : Scene} {freshId : Nat → SpriteId} {s : Session}

/-! ## Added sprites -/

theorem exists_add_of_addSprite {sprite : SceneSprite} {state state' : Session × Nat}
    (h : addSprite freshId state sprite = .ok state') :
    ∃ spec, state.1.add spec = .ok state'.1 := by
  obtain ⟨spec, -, h⟩ := bind_eq_ok_iff.1 h
  obtain ⟨added, hadd, h⟩ := bind_eq_ok_iff.1 h
  cases h
  exact ⟨spec, mapError_eq_ok_iff.1 hadd⟩

/-- What holds of a session without sprites, and goes on holding as sprites are added, holds of the
session that a scene starts. -/
theorem build_keeps {P : Session → Prop} (h : scene.build freshId = .ok s)
    (hnew : P (.ofSettings scene.settings))
    (hadd : ∀ s s' spec, P s → s.add spec = .ok s' → P s') : P s := by
  unfold build at h
  rw [map_eq_pure_bind] at h
  obtain ⟨state, hstate, h⟩ := bind_eq_ok_iff.1 h
  cases h
  refine foldlM_keeps (P := fun state => P state.1) (fun sprite _ state next hP hnext => ?_) hnew
    hstate
  obtain ⟨spec, hspec⟩ := exists_add_of_addSprite hnext
  exact hadd _ _ spec hP hspec

theorem ticks_of_build (h : scene.build freshId = .ok s) : s.ticks = 0 := by
  refine build_keeps (P := fun s => s.ticks = 0) h rfl fun s s' spec hs hadd => ?_
  unfold Session.add at hadd
  rw [map_eq_pure_bind] at hadd
  obtain ⟨cast, -, hadd⟩ := bind_eq_ok_iff.1 hadd
  cases hadd
  exact hs

theorem build_of_loadSession {path : String} {content : FileContent}
    (h : loadSession path content freshId = .ok (scene, s)) : scene.build freshId = .ok s := by
  obtain ⟨loaded, -, h⟩ := bind_eq_ok_iff.1 h
  obtain ⟨built, hbuilt, h⟩ := bind_eq_ok_iff.1 h
  cases h
  exact mapError_eq_ok_iff.1 hbuilt

/-! ## Ids -/

theorem toSpec_congr {sprite : SceneSprite} (h : sprite.id.isSome) (id id' : SpriteId) :
    sprite.toSpec id = sprite.toSpec id' := by
  obtain ⟨own, hown⟩ := Option.isSome_iff_exists.1 h
  unfold SceneSprite.toSpec
  rw [hown]
  rfl

/-- Where sprites are named, it does not matter which ids others would get. -/
theorem build_congr {scene : Scene} (h : scene.NamesSprites) (freshId freshId' : Nat → SpriteId) :
    scene.build freshId = scene.build freshId' := by
  have hadd {sprite : SceneSprite} (hsprite : sprite.id.isSome) (state : Session × Nat) :
      addSprite freshId state sprite = addSprite freshId' state sprite := by
    obtain ⟨session, used⟩ := state
    have hspec := toSpec_congr hsprite (freshId used) (freshId' used)
    unfold addSprite
    dsimp only
    rw [hspec]
  have hall (sprites : List SceneSprite) (hsprites : ∀ sprite ∈ sprites, sprite.id.isSome)
      (state : Session × Nat) :
      sprites.foldlM (addSprite freshId) state = sprites.foldlM (addSprite freshId') state := by
    induction sprites generalizing state with
    | nil => rfl
    | cons sprite sprites ih =>
        rw [List.foldlM_cons, List.foldlM_cons, hadd (hsprites sprite List.mem_cons_self)]
        congr 1
        funext state'
        exact ih (fun sprite' hsprite' => hsprites sprite' (List.mem_cons_of_mem _ hsprite')) state'
  unfold build
  rw [hall scene.sprites h]

theorem loadSession_congr {path : String} {content : FileContent}
    (h : ∀ scene, load path content = .ok scene → scene.NamesSprites)
    (freshId freshId' : Nat → SpriteId) :
    loadSession path content freshId = loadSession path content freshId' := by
  unfold loadSession
  cases hload : load path content with
  | error e => rfl
  | ok scene =>
      have hbuild := build_congr (h scene hload) freshId freshId'
      exact congrArg (fun built => (built.mapError LoadError.invalid).map (scene, ·)) hbuild

end Scene

end SpriteStage
