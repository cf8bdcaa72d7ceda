import Mathlib.Data.List.TakeWhile
import SpriteStage.FreshId
import SpriteStage.Proofs.BuiltSessions
import SpriteStage.Proofs.FreshSessions

/-!
# Valid scenes

What a valid scene is, said without the order in which a validation looks for faults. The validation
passes exactly the valid scenes (`validate_eq_ok_iff`), and building checks nothing that it has not
checked: a scene that passes starts a session with its sprites, all at rest
(`validate_exact_and_builds`), as long as the ids made up for sprites without one are fresh.
-/

namespace SpriteStage

/-- What follows a check is reached exactly if the check does not fail. -/
theorem check_eq_ok_iff {ε α : Type} {c : Prop} [Decidable c] {e : ε} {f : Unit → Except ε α}
    {a : α} : (if c then throw e >>= f else f ()) = .ok a ↔ ¬ c ∧ f () = .ok a := by
  by_cases hc : c
  · rw [if_pos hc]
    constructor
    · intro h
      cases h
    · exact fun h => absurd hc h.1
  · rw [if_neg hc]
    exact (and_iff_right hc).symm

theorem Text.isEmptyTrimmed_iff (s : String) : isEmptyTrimmed s = true ↔ trim s = "" := by
  have hsplit := List.takeWhile_append_dropWhile (p := isBlank) (l := s.toList)
  have hempty : trim s = "" ↔ ∀ c ∈ s.toList.dropWhile isBlank, isBlank c = true := by
    unfold trim
    rw [← String.toList_inj, String.toList_ofList, String.toList_empty, List.reverse_eq_nil_iff,
      List.dropWhile_eq_nil_iff]
    simp only [List.mem_reverse]
  unfold isEmptyTrimmed
  rw [List.all_eq_true, hempty]
  constructor
  · intro h c hc
    exact h c ((List.dropWhile_sublist isBlank).subset hc)
  · intro h c hc
    rw [← hsplit, List.mem_append] at hc
    rcases hc with hc | hc
    · exact List.mem_takeWhile_imp hc
    · exact h c hc

namespace Trigger

theorem ofName?_eq_some_iff {name : String} {t : Trigger} :
    ofName? name = some t ↔ name = t.label := by
  constructor
  · intro h
    unfold ofName? at h
    split at h <;> cases h <;> rfl
  · rintro rfl
    exact t.ofName?_label

theorem label_injective : Function.Injective label := by
  intro t t' h
  rw [← Option.some_inj, ← ofName?_label, ← ofName?_label, h]

end Trigger

/-! ## Events -/

/-- Each event is that of a trigger, and no two are that of the same. -/
structure EditorEvent.AreValid (events : List EditorEvent) : Prop where
  known : ∀ e ∈ events, ∃ t : Trigger, e.event = t.label
  distinct : (events.map (·.event)).Nodup

theorem EditorEvent.areValid_cons_iff {e : EditorEvent} {events : List EditorEvent} :
    AreValid (e :: events) ↔ (∃ t : Trigger, e.event = t.label) ∧
      e.event ∉ events.map (·.event) ∧ AreValid events := by
  constructor
  · rintro ⟨hknown, hdistinct⟩
    obtain ⟨hfirst, hrest⟩ := List.forall_mem_cons.1 hknown
    rw [List.map_cons, List.nodup_cons] at hdistinct
    exact ⟨hfirst, hdistinct.1, hrest, hdistinct.2⟩
  · rintro ⟨hfirst, hnew, hrest⟩
    refine ⟨List.forall_mem_cons.2 ⟨hfirst, hrest.known⟩, ?_⟩
    rw [List.map_cons, List.nodup_cons]
    exact ⟨hnew, hrest.distinct⟩

namespace Program

theorem addEvent_eq_ok_iff {state state' : Program × List Trigger} {e : EditorEvent} :
    addEvent state e = .ok state' ↔ ∃ t : Trigger, e.event = t.label ∧ t ∉ state.2 ∧
      state' = (state.1.withScript t (e.actions.map Block.ofEditor), t :: state.2) := by
  unfold addEvent
  cases hname : Trigger.ofName? e.event with
  | none =>
      constructor
      · intro h
        cases h
      · rintro ⟨t, ht, -⟩
        rw [← Trigger.ofName?_eq_some_iff, hname] at ht
        cases ht
  | some t =>
      rw [Trigger.ofName?_eq_some_iff] at hname
      constructor
      · intro h
        dsimp only at h
        split at h <;> cases h
        exact ⟨t, hname, ‹_›, rfl⟩
      · rintro ⟨t', ht', hnew, rfl⟩
        obtain rfl := Trigger.label_injective (hname.symm.trans ht')
        exact if_neg hnew

/-- Events are added to those of some triggers exactly if they are valid, and of other triggers. -/
theorem exists_foldlM_addEvent_iff (events : List EditorEvent) (state : Program × List Trigger) :
    (∃ state', events.foldlM addEvent state = .ok state') ↔
      EditorEvent.AreValid events ∧ ∀ t ∈ state.2, t.label ∉ events.map (·.event) := by
  induction events generalizing state with
  | nil =>
      have hnone : EditorEvent.AreValid [] := ⟨fun _ h => (by cases h), List.nodup_nil⟩
      exact ⟨fun _ => ⟨hnone, fun _ _ => List.not_mem_nil⟩, fun _ => ⟨state, rfl⟩⟩
  | cons e events ih =>
      rw [List.foldlM_cons, EditorEvent.areValid_cons_iff]
      constructor
      · rintro ⟨final, h⟩
        obtain ⟨state', hfirst, hrest⟩ := bind_eq_ok_iff.1 h
        obtain ⟨t, ht, hnew, rfl⟩ := addEvent_eq_ok_iff.1 hfirst
        obtain ⟨hvalid, hseen⟩ := (ih _).1 ⟨final, hrest⟩
        obtain ⟨hother, hseen⟩ := List.forall_mem_cons.1 hseen
        refine ⟨⟨⟨t, ht⟩, ht ▸ hother, hvalid⟩, fun t' ht' hmem => ?_⟩
        rcases List.mem_cons.1 hmem with hsame | hmem
        · exact hnew (Trigger.label_injective (hsame.trans ht) ▸ ht')
        · exact hseen t' ht' hmem
      · rintro ⟨⟨⟨t, ht⟩, hother, hvalid⟩, hseen⟩
        have hnew : t ∉ state.2 := fun hmem => hseen t hmem (ht ▸ List.mem_cons_self)
        have hrest : ∀ t' ∈ t :: state.2, t'.label ∉ events.map (·.event) :=
          List.forall_mem_cons.2
            ⟨ht ▸ hother, fun t' ht' hmem => hseen t' ht' (List.mem_cons_of_mem _ hmem)⟩
        obtain ⟨final, hfinal⟩ := (ih (_, t :: state.2)).2 ⟨hvalid, hrest⟩
        exact ⟨final, bind_eq_ok_iff.2 ⟨_, addEvent_eq_ok_iff.2 ⟨t, ht, hnew, rfl⟩, hfinal⟩⟩

theorem exists_ofEvents_iff (events : List EditorEvent) :
    (∃ program, ofEvents events = .ok program) ↔ EditorEvent.AreValid events := by
  have hfold := exists_foldlM_addEvent_iff events ({}, [])
  rw [and_iff_left (fun t ht => by cases ht)] at hfold
  rw [← hfold]
  unfold ofEvents
  constructor
  · rintro ⟨program, h⟩
    rw [map_eq_pure_bind] at h
    obtain ⟨state, hstate, -⟩ := bind_eq_ok_iff.1 h
    exact ⟨state, hstate⟩
  · rintro ⟨state, hstate⟩
    exact ⟨state.1, by rw [hstate]; rfl⟩

end Program

/-! ## Sprites -/

namespace SceneSprite

variable {s : SceneSprite} {fresh : SpriteId} {spec : SpriteSpec}

/-- What is asked of a sprite of a scene. -/
structure IsValid (s : SceneSprite) : Prop where
  name : Text.trim s.name ≠ ""
  x : s.x.isFinite = true
  y : s.y.isFinite = true
  direction : s.direction.isFinite = true
  costume : ∀ name, s.costume = some name → ∃ costume, Costume.ofName? name = some costume
  events : EditorEvent.AreValid s.actions

/-- A costume is the one that a sprite names, or the first of the catalog if it names none. -/
def Wears (s : SceneSprite) (costume : Costume) : Prop :=
  match s.costume with
  | none => costume = .cat
  | some name => Costume.ofName? name = some costume

theorem exists_wears_iff : (∃ costume, s.Wears costume) ↔
    ∀ name, s.costume = some name → ∃ costume, Costume.ofName? name = some costume := by
  unfold Wears
  cases s.costume with
  | none => exact ⟨fun _ _ h => (by cases h), fun _ => ⟨.cat, rfl⟩⟩
  | some name =>
      constructor
      · rintro h _ ⟨⟩
        exact h
      · exact fun h => h name rfl

theorem toCostume_eq_ok_iff {costume : Costume} :
    s.toCostume = .ok costume ↔ s.Wears costume := by
  unfold toCostume Wears
  cases s.costume with
  | none => exact ⟨fun h => (Except.ok.inj h).symm, fun h => congrArg _ h.symm⟩
  | some name =>
      dsimp only
      cases Costume.ofName? name with
      | none => exact ⟨fun h => (by cases h), fun h => (by cases h)⟩
      | some found =>
          constructor
          · rintro ⟨⟩
            rfl
          · rintro ⟨⟩
            rfl

theorem toSpec_eq_ok_iff : s.toSpec fresh = .ok spec ↔
    ∃ costume program, s.Wears costume ∧ Program.ofEvents s.actions = .ok program ∧
      spec = {
        id := s.id.getD fresh
        name := s.name
        costume
        start := .facing s.x s.y s.direction
        program } := by
  unfold toSpec
  constructor
  · intro h
    obtain ⟨costume, hcostume, h⟩ := bind_eq_ok_iff.1 h
    obtain ⟨program, hprogram, h⟩ := bind_eq_ok_iff.1 h
    cases h
    exact ⟨costume, program, toCostume_eq_ok_iff.1 hcostume, mapError_eq_ok_iff.1 hprogram, rfl⟩
  · rintro ⟨costume, program, hcostume, hprogram, rfl⟩
    rw [toCostume_eq_ok_iff.2 hcostume, hprogram]
    rfl

theorem exists_toSpec_iff (fresh : SpriteId) : (∃ spec, s.toSpec fresh = .ok spec) ↔
    (∃ costume, s.Wears costume) ∧ ∃ program, Program.ofEvents s.actions = .ok program := by
  constructor
  · rintro ⟨spec, h⟩
    obtain ⟨costume, program, hcostume, hprogram, -⟩ := toSpec_eq_ok_iff.1 h
    exact ⟨⟨costume, hcostume⟩, program, hprogram⟩
  · rintro ⟨⟨costume, hcostume⟩, program, hprogram⟩
    exact ⟨_, toSpec_eq_ok_iff.2 ⟨costume, program, hcostume, hprogram, rfl⟩⟩

theorem isNamed_iff : s.isNamed = true ↔ Text.trim s.name ≠ "" := by
  unfold isNamed
  rw [Bool.not_eq_true', ← Bool.not_eq_true, Text.isEmptyTrimmed_iff]

end SceneSprite

namespace Scene

variable {scene : Scene} {sprites : List SceneSprite} {ids ids' : List SpriteId}

theorem validateSprite_eq_ok_iff (sprite : SceneSprite) :
    validateSprite sprite = .ok () ↔ sprite.IsValid := by
  have hchecks : validateSprite sprite = .ok () ↔ ¬ (!sprite.isNamed) = true ∧
      ¬ (!sprite.isPlaced) = true ∧ ∃ spec, sprite.toSpec "" = .ok spec := by
    unfold validateSprite
    refine check_eq_ok_iff.trans (and_congr_right' (check_eq_ok_iff.trans (and_congr_right' ?_)))
    exact bind_eq_ok_iff.trans (exists_congr fun spec => and_iff_left rfl)
  rw [hchecks, Bool.not_eq_true, Bool.not_eq_false', Bool.not_eq_true, Bool.not_eq_false',
    SceneSprite.isNamed_iff, SceneSprite.exists_toSpec_iff, SceneSprite.exists_wears_iff,
    Program.exists_ofEvents_iff]
  unfold SceneSprite.isPlaced
  rw [Bool.and_eq_true, Bool.and_eq_true]
  constructor
  · rintro ⟨hname, ⟨⟨hx, hy⟩, hdirection⟩, hcostume, hevents⟩
    exact ⟨hname, hx, hy, hdirection, hcostume, hevents⟩
  · rintro ⟨hname, hx, hy, hdirection, hcostume, hevents⟩
    exact ⟨hname, ⟨⟨hx, hy⟩, hdirection⟩, hcostume, hevents⟩

/-! ## Scenes -/

/-- The ids that the scene gives to its sprites. -/
def givenIds (scene : Scene) : List SpriteId := scene.sprites.filterMap (·.id)

/-- What is asked of a scene. -/
structure IsValid (scene : Scene) : Prop where
  version : scene.version = "0.1"
  stageId : Text.trim scene.stageId ≠ ""
  settings : scene.settings.validate = .ok ()
  sprites : ∀ sprite ∈ scene.sprites, sprite.IsValid
  ids : scene.givenIds.Nodup
  clicks : ∀ click ∈ scene.clicks, click.sprite ∈ scene.givenIds

theorem validateNext_eq_ok_iff {sprite : SceneSprite} (hids : ids.Nodup) :
    validateNext ids sprite = .ok ids' ↔
      sprite.IsValid ∧ ids' = sprite.id.toList ++ ids ∧ ids'.Nodup := by
  unfold validateNext
  rw [bind_eq_ok_iff, ← validateSprite_eq_ok_iff]
  cases sprite.id with
  | none =>
      constructor
      · rintro ⟨_, hvalid, ⟨⟩⟩
        exact ⟨hvalid, rfl, hids⟩
      · rintro ⟨hvalid, rfl, -⟩
        exact ⟨(), hvalid, rfl⟩
  | some id =>
      constructor
      · rintro ⟨_, hvalid, h⟩
        dsimp only at h
        split at h <;> cases h
        exact ⟨hvalid, rfl, List.nodup_cons.2 ⟨‹_›, hids⟩⟩
      · rintro ⟨hvalid, rfl, hnew⟩
        exact ⟨(), hvalid, if_neg (List.nodup_cons.1 hnew).1⟩

theorem foldlM_validateNext_eq_ok_iff (hids : ids.Nodup) :
    sprites.foldlM validateNext ids = .ok ids' ↔ (∀ sprite ∈ sprites, sprite.IsValid) ∧
      ids' = (sprites.filterMap (·.id)).reverse ++ ids ∧ ids'.Nodup := by
  induction sprites generalizing ids with
  | nil =>
      constructor
      · rintro ⟨⟩
        exact ⟨fun _ h => (by cases h), rfl, hids⟩
      · rintro ⟨-, rfl, -⟩
        rfl
  | cons sprite sprites ih =>
      have hall : ((sprite :: sprites).filterMap (·.id)).reverse ++ ids =
          (sprites.filterMap (·.id)).reverse ++ (sprite.id.toList ++ ids) := by
        rw [List.filterMap_cons]
        cases sprite.id <;> simp
      rw [List.foldlM_cons, hall, bind_eq_ok_iff, List.forall_mem_cons]
      constructor
      · rintro ⟨ids'', hfirst, hrest⟩
        obtain ⟨hvalid, rfl, hnodup⟩ := (validateNext_eq_ok_iff hids).1 hfirst
        obtain ⟨hvalids, hids', hnodup'⟩ := (ih hnodup).1 hrest
        exact ⟨⟨hvalid, hvalids⟩, hids', hnodup'⟩
      · rintro ⟨⟨hvalid, hvalids⟩, rfl, hnodup'⟩
        have hnodup := hnodup'.sublist (List.sublist_append_right _ _)
        exact ⟨_, (validateNext_eq_ok_iff hids).2 ⟨hvalid, rfl, hnodup⟩,
          (ih hnodup).2 ⟨hvalids, rfl, hnodup'⟩⟩

theorem checkClicks_eq_ok_iff {clicks : List ScriptedClick} :
    (match clicks.find? fun click => click.sprite ∉ ids with
      | some click => throw (.clickTarget click.atTick click.sprite)
      | none => return : Except SceneError Unit) = .ok () ↔
      ∀ click ∈ clicks, click.sprite ∈ ids := by
  have hfind : clicks.find? (fun click => click.sprite ∉ ids) = none ↔
      ∀ click ∈ clicks, click.sprite ∈ ids := by
    simp only [List.find?_eq_none, decide_eq_true_eq, not_not]
  rw [← hfind]
  cases clicks.find? fun click => click.sprite ∉ ids with
  | none => exact ⟨fun _ => rfl, fun _ => rfl⟩
  | some click => exact ⟨fun h => (by cases h), fun h => (by cases h)⟩

/-- A scene passes the validation exactly if it is valid. -/
theorem validate_eq_ok_iff (scene : Scene) : scene.validate = .ok () ↔ scene.IsValid := by
  have hchecks : scene.validate = .ok () ↔ ¬ scene.version ≠ supportedVersion ∧
      ¬ Text.isEmptyTrimmed scene.stageId = true ∧ scene.settings.validate = .ok () ∧
      ∃ ids, scene.sprites.foldlM validateNext [] = .ok ids ∧
        ∀ click ∈ scene.clicks, click.sprite ∈ ids := by
    unfold validate
    refine check_eq_ok_iff.trans (and_congr_right' (check_eq_ok_iff.trans (and_congr_right' ?_)))
    refine bind_eq_ok_iff.trans ?_
    constructor
    · rintro ⟨_, hsettings, h⟩
      obtain ⟨ids, hids, h⟩ := bind_eq_ok_iff.1 h
      exact ⟨mapError_eq_ok_iff.1 hsettings, ids, hids, checkClicks_eq_ok_iff.1 h⟩
    · rintro ⟨hsettings, ids, hids, hclicks⟩
      exact ⟨(), mapError_eq_ok_iff.2 hsettings,
        bind_eq_ok_iff.2 ⟨ids, hids, checkClicks_eq_ok_iff.2 hclicks⟩⟩
  rw [hchecks, not_not, Text.isEmptyTrimmed_iff]
  constructor
  · rintro ⟨hversion, hstage, hsettings, ids, hfold, hclicks⟩
    obtain ⟨hsprites, hids, hnodup⟩ := (foldlM_validateNext_eq_ok_iff List.nodup_nil).1 hfold
    rw [List.append_nil] at hids
    subst hids
    exact ⟨hversion, hstage, hsettings, hsprites, List.nodup_reverse.1 hnodup,
      fun click hclick => List.mem_reverse.1 (hclicks click hclick)⟩
  · rintro ⟨hversion, hstage, hsettings, hsprites, hnodup, hclicks⟩
    refine ⟨hversion, hstage, hsettings, scene.givenIds.reverse, ?_, ?_⟩
    · rw [foldlM_validateNext_eq_ok_iff List.nodup_nil, List.append_nil]
      exact ⟨hsprites, rfl, List.nodup_reverse.2 hnodup⟩
    · exact fun click hclick => List.mem_reverse.2 (hclicks click hclick)

end Scene

/-! ## Building -/

namespace Scene

variable {scene : Scene} {sprites : List SceneSprite} {freshId : Nat → SpriteId} {used : Nat}

/-- The ids of sprites in a cast when some ids have been made up before: their own, and for the
others made-up ones in order. -/
def castIds (freshId : Nat → SpriteId) : Nat → List SceneSprite → List SpriteId
  | _, [] => []
  | used, sprite :: sprites =>
    sprite.id.getD (freshId used) ::
      castIds freshId (if sprite.id.isSome then used else used + 1) sprites

def unnamed (sprites : List SceneSprite) : Nat := sprites.countP (·.id.isNone)

/-- Made-up ids are fresh: as many of them as the scene needs differ from each other and from the
ids that it gives. -/
structure IsFresh (scene : Scene) (freshId : Nat → SpriteId) : Prop where
  distinct : ((List.range (unnamed scene.sprites)).map freshId).Nodup
  unused : ∀ n < unnamed scene.sprites, freshId n ∉ scene.givenIds

theorem castIds_perm (freshId : Nat → SpriteId) (used : Nat) (sprites : List SceneSprite) :
    (castIds freshId used sprites).Perm
      ((List.range' used (unnamed sprites)).map freshId ++ sprites.filterMap (·.id)) := by
  induction sprites generalizing used with
  | nil => exact .nil
  | cons sprite sprites ih =>
      unfold castIds unnamed
      cases hid : sprite.id with
      | none =>
          rw [List.countP_cons_of_pos (by rw [hid]; rfl), List.filterMap_cons_none hid,
            List.range'_succ]
          exact .cons _ (ih (used + 1))
      | some id =>
          rw [List.countP_cons_of_neg (by rw [hid]; simp), List.filterMap_cons_some hid]
          exact ((ih used).cons id).trans List.perm_middle.symm

theorem IsFresh.nodup_castIds (h : scene.IsFresh freshId) (hids : scene.givenIds.Nodup) :
    (castIds freshId 0 scene.sprites).Nodup := by
  rw [(castIds_perm freshId 0 scene.sprites).nodup_iff, ← List.range_eq_range',
    List.nodup_append]
  refine ⟨h.distinct, hids, ?_⟩
  intro id hid id' hid' hsame
  obtain ⟨n, hn, rfl⟩ := List.mem_map.1 hid
  exact h.unused n (List.mem_range.1 hn) (hsame ▸ hid')

theorem mem_castIds (freshId : Nat → SpriteId) {id : SpriteId} (h : id ∈ scene.givenIds) :
    id ∈ castIds freshId 0 scene.sprites :=
  (castIds_perm freshId 0 scene.sprites).mem_iff.2 (List.mem_append_right _ h)

end Scene

/-- A sprite is as it is described, at its start and with nothing to carry out; its id apart. -/
structure SceneSprite.Describes (described : SceneSprite) (s : Sprite) : Prop where
  name : s.name = described.name
  costume : described.Wears s.costume
  program : Program.ofEvents described.actions = .ok s.program
  actor : s.actor = { start := .facing described.x described.y described.direction }

theorem SceneSprite.describes_ofSpec {described : SceneSprite} {fresh : SpriteId}
    {spec : SpriteSpec} (h : described.toSpec fresh = .ok spec) (i : Increment) :
    described.Describes (.ofSpec i spec) := by
  obtain ⟨costume, program, hcostume, hprogram, rfl⟩ := toSpec_eq_ok_iff.1 h
  exact ⟨rfl, hcostume, hprogram, rfl⟩

theorem Session.add_of_notMem {s : Session} {spec : SpriteSpec} (h : spec.id ∉ s.cast.ids) :
    s.add spec = .ok (s.after (.add spec)) := by
  have hnew : s.cast.contains spec.id = false :=
    Bool.eq_false_of_not_eq_true (mt Cast.contains_eq_true_iff.1 h)
  rw [after_add, Session.add, Cast.add, hnew]
  rfl

namespace Scene

theorem addSprite_of_notMem {sprite : SceneSprite} {freshId : Nat → SpriteId} {s : Session}
    {used : Nat} {spec : SpriteSpec} (hspec : sprite.toSpec (freshId used) = .ok spec)
    (hnew : spec.id ∉ s.cast.ids) :
    addSprite freshId (s, used) sprite =
      .ok (s.after (.add spec), if sprite.id.isSome then used else used + 1) :=
  bind_eq_ok_iff.2 ⟨spec, hspec,
    bind_eq_ok_iff.2 ⟨_, mapError_eq_ok_iff.2 (Session.add_of_notMem hnew), rfl⟩⟩

/-- Valid sprites are added to a session one after the other, if all ids are distinct then. -/
theorem exists_foldlM_addSprite {sprites : List SceneSprite} {freshId : Nat → SpriteId}
    (hvalid : ∀ sprite ∈ sprites, sprite.IsValid) (s : Session) (used : Nat)
    (hids : (s.cast.ids ++ castIds freshId used sprites).Nodup) :
    ∃ (specs : List SpriteSpec) (used' : Nat), sprites.foldlM (addSprite freshId) (s, used) =
        .ok (s.afterAll (specs.map .add), used') ∧
      specs.map (·.id) = castIds freshId used sprites ∧
      ∀ i, List.Forall₂ SceneSprite.Describes sprites (specs.map (.ofSpec i)) := by
  induction sprites generalizing s used with
  | nil => exact ⟨[], used, rfl, rfl, fun _ => .nil⟩
  | cons sprite sprites ih =>
      obtain ⟨hfirst, hrest⟩ := List.forall_mem_cons.1 hvalid
      have hspec := (SceneSprite.exists_toSpec_iff (freshId used)).2
        ⟨SceneSprite.exists_wears_iff.2 hfirst.costume,
          (Program.exists_ofEvents_iff _).2 hfirst.events⟩
      obtain ⟨spec, hspec⟩ := hspec
      have hid : spec.id = sprite.id.getD (freshId used) := by
        obtain ⟨_, _, -, -, rfl⟩ := SceneSprite.toSpec_eq_ok_iff.1 hspec
        rfl
      rw [castIds, ← hid] at hids ⊢
      have hnew : spec.id ∉ s.cast.ids := fun hmem =>
        (List.nodup_append.1 hids).2.2 _ hmem _ List.mem_cons_self rfl
      have hadded : (s.after (.add spec)).cast.ids = s.cast.ids ++ [spec.id] := by
        rw [Session.after_add_of_notMem hnew]
        exact List.map_append
      rw [List.append_cons, ← hadded] at hids
      obtain ⟨specs, used', hfold, hids', hdescribes⟩ := ih hrest _ _ hids
      refine ⟨spec :: specs, used', ?_, ?_, fun i => ?_⟩
      · rw [List.foldlM_cons]
        exact bind_eq_ok_iff.2 ⟨_, addSprite_of_notMem hspec hnew, hfold⟩
      · rw [List.map_cons, hids']
      · exact .cons (SceneSprite.describes_ofSpec hspec i) (hdescribes i)

theorem isPlaying_ofSettings (settings : Settings) :
    (Session.ofSettings settings).isPlaying = false := by
  have hstopped (clock : Clock) : clock.stop.isRunning = false := rfl
  unfold Session.isPlaying
  rw [← Session.stop_clock_ofSettings]
  exact hstopped _

/-- The validation passes exactly the valid scenes. One that it passes starts a session, whatever
fresh ids are made up, with its sprites in order, all at their start with nothing to carry out, with
no bubble timers, no memory of contacts and a stopped clock. Its clicks are on sprites of that. -/
theorem validate_exact_and_builds (scene : Scene) :
    (scene.validate = .ok () ↔ scene.IsValid) ∧
      (scene.validate = .ok () → ∀ freshId, scene.IsFresh freshId →
        ∃ s, scene.build freshId = .ok s ∧ s.settings = scene.settings ∧
          s.cast.ids = castIds freshId 0 scene.sprites ∧
          List.Forall₂ SceneSprite.Describes scene.sprites s.cast.sprites ∧
          s.timers = {} ∧ s.monitor.memory = .empty ∧ s.isPlaying = false ∧
          ∀ click ∈ scene.clicks, click.sprite ∈ s.cast.ids) := by
  refine ⟨scene.validate_eq_ok_iff, fun h freshId hfresh => ?_⟩
  have hvalid := scene.validate_eq_ok_iff.1 h
  have hnodup := hfresh.nodup_castIds hvalid.ids
  obtain ⟨specs, used, hfold, hids, hdescribes⟩ :=
    exists_foldlM_addSprite hvalid.sprites (.ofSettings scene.settings) 0 hnodup
  have hbuild : scene.build freshId =
      .ok ((Session.ofSettings scene.settings).afterAll (specs.map .add)) := by
    unfold build
    rw [hfold]
    rfl
  rw [← hids] at hnodup
  obtain ⟨selected, hadded⟩ :=
    Session.exists_addAll (s := .ofSettings scene.settings) hnodup
  rw [hadded] at hbuild
  have hcast : ((Session.ofSettings scene.settings).cast.sprites ++
      specs.map (Sprite.ofSpec (Session.ofSettings scene.settings).cast.increment)).map (·.id) =
        castIds freshId 0 scene.sprites := by
    rw [← hids, List.map_append, List.map_map]
    rfl
  refine ⟨_, hbuild, rfl, hcast, hdescribes _, rfl, rfl, isPlaying_ofSettings scene.settings, ?_⟩
  intro click hclick
  have hmem := mem_castIds freshId (hvalid.clicks click hclick)
  rw [← hcast] at hmem
  exact hmem

/-- A scene with one sprite that has an id and one that gets a made-up one. -/
def twoSprites : Scene where
  version := "0.1"
  stageId := "demo"
  settings := {}
  sprites := [
    { id := some "cat"
      name := "Cat"
      costume := some "Cat"
      x := 0
      y := 0
      direction := 90
      actions := [⟨"click", []⟩, ⟨"play", []⟩] },
    { id := none
      name := "Dog"
      costume := none
      x := 200
      y := 0
      direction := 450
      actions := [] }]
  clicks := [⟨3, "cat"⟩]

theorem validate_exact_and_builds_twoSprites :
    let freshId := FreshId.make 7
    twoSprites.validate = .ok () ∧ twoSprites.IsFresh freshId ∧
      ∃ s, twoSprites.build freshId = .ok s ∧ s.cast.ids = ["cat", freshId 0] ∧
        List.Forall₂ SceneSprite.Describes twoSprites.sprites s.cast.sprites := by
  intro freshId
  have hvalid : twoSprites.validate = .ok () := by decide +kernel
  have hfresh : twoSprites.IsFresh freshId :=
    ⟨by decide +kernel, by decide +kernel⟩
  obtain ⟨-, hbuilds⟩ := twoSprites.validate_exact_and_builds
  obtain ⟨s, hbuild, -, hids, hdescribes, -⟩ := hbuilds hvalid freshId hfresh
  exact ⟨hvalid, hfresh, s, hbuild, hids, hdescribes⟩

end Scene

end SpriteStage
