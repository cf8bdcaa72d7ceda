import SpriteStage.Proofs.FallibleResults
import SpriteStage.Proofs.SessionInvariants
import SpriteStage.Session.Writes

/-!
# Rejected operations

An operation writes to a session where it stands, and a step that fails undoes nothing. Yet every
operation settles: it leaves what it makes of the session or, if it is rejected, the session as it
was (`Session.outcome_writes`). For each looks at all that it needs before its first write, and an
edit that fails puts its script back as it was. An operation is rejected exactly if something stands
in its way (`Session.Refuses`).
-/

namespace SpriteStage

namespace Writing

variable {σ τ ε ε' α β : Type}

/-! ## What computations leave -/

@[simp] theorem outcome_pure (a : α) (s : σ) :
    outcome (pure a : Writing σ ε α) s = (.ok a, s) := rfl

@[simp] theorem outcome_throw (e : ε) (s : σ) :
    outcome (throw e : Writing σ ε α) s = (.error e, s) := rfl

@[simp] theorem outcome_read (s : σ) : outcome (read : Writing σ ε σ) s = (.ok s, s) := rfl

@[simp] theorem outcome_write (f : σ → σ) (s : σ) :
    outcome (write f : Writing σ ε Unit) s = (.ok (), f s) := rfl

@[simp] theorem outcome_onPart (part : σ → τ) (put : τ → σ → σ) (x : Writing τ ε α) (s : σ) :
    outcome (onPart part put x) s =
      ((x.outcome (part s)).1, put (x.outcome (part s)).2 s) := rfl

@[simp] theorem outcome_bind (x : Writing σ ε α) (f : α → Writing σ ε β) (s : σ) :
    outcome (x >>= f) s = match x.outcome s with
      | (.ok a, t) => (f a).outcome t
      | (.error e, t) => (.error e, t) := by
  unfold outcome
  rw [ExceptT.run_bind, StateT.run_bind]
  cases StateT.run (ExceptT.run x) s with
  | mk result t => cases result <;> rfl

@[simp] theorem outcome_map (f : α → β) (x : Writing σ ε α) (s : σ) :
    outcome (f <$> x) s = ((x.outcome s).1.map f, (x.outcome s).2) := by
  rw [map_eq_pure_bind, outcome_bind]
  rcases x.outcome s with ⟨_ | _, t⟩ <;> rfl

@[simp] theorem outcome_adapt (f : ε → ε') (x : Writing σ ε α) (s : σ) :
    outcome (ExceptT.adapt f x : Writing σ ε' α) s =
      ((x.outcome s).1.mapError f, (x.outcome s).2) := rfl

@[simp] theorem outcome_tryCatch (x : Writing σ ε α) (f : ε → Writing σ ε α) (s : σ) :
    outcome (tryCatch x f) s = match x.outcome s with
      | (.ok a, t) => (.ok a, t)
      | (.error e, t) => (f e).outcome t := by
  unfold outcome
  rw [ExceptT.run_tryCatch, StateT.run_bind]
  cases StateT.run (ExceptT.run x) s with
  | mk result t => cases result <;> rfl

/-- What comes of a state when something is done to it that may be rejected. -/
def settled (result : Except ε (α × σ)) (s : σ) : Except ε α × σ :=
  match result with
  | .ok (a, t) => (.ok a, t)
  | .error e => (.error e, s)

end Writing

open Writing

namespace Program

variable {p q : Program} {t : Trigger}

/-! ## Edits -/

/-- What an edit does in place: if it is rejected, it has written nothing. -/
theorem Edit.outcome_writes (e : Edit) (t : Trigger) (p : Program) :
    (e.writes t).outcome (p.script t) =
      settled ((p.edit t e).map fun (removed, q) => (removed, q.script t)) (p.script t) := by
  cases e with
  | append block => simp [writes, edit, Program.append, settled, Except.map]
  | remove index =>
      simp only [writes, outcome_bind, outcome_read, edit, Program.remove]
      cases (p.script t)[index]? <;> simp [settled, Except.map]
  | update index patch =>
      simp only [writes, outcome_bind, outcome_read, edit, Program.update]
      cases (p.script t)[index]? <;> simp [settled, Except.map]
  | reorder source target =>
      simp only [writes, outcome_bind, outcome_read, edit, Program.reorder]
      cases (p.script t)[source]? with
      | none => rfl
      | some block =>
          by_cases htarget : target < (p.script t).length <;> simp [settled, Except.map, htarget]
  | appendToRepeat index block =>
      simp only [writes, outcome_bind, outcome_read, edit, Program.appendToRepeat]
      cases (p.script t)[index]? with
      | none => rfl
      | some old => cases old <;> simp [settled, Except.map]

theorem exists_withScript_of_edit {e : Edit} {removed : Option Block}
    (h : p.edit t e = .ok (removed, q)) : ∃ blocks, q = p.withScript t blocks := by
  cases e with
  | append block =>
      cases h
      exact ⟨_, rfl⟩
  | remove index =>
      unfold edit Program.remove at h
      dsimp only at h
      split at h <;> cases h
      exact ⟨_, rfl⟩
  | update index patch =>
      unfold edit Program.update at h
      dsimp only at h
      split at h <;> cases h
      exact ⟨_, rfl⟩
  | reorder source target =>
      unfold edit Program.reorder at h
      dsimp only at h
      split at h
      · split at h <;> cases h
        exact ⟨_, rfl⟩
      · cases h
  | appendToRepeat index block =>
      unfold edit Program.appendToRepeat at h
      dsimp only at h
      split at h <;> cases h
      exact ⟨_, rfl⟩

/-- Every index that the edit names is one of the script's, and the block that is to be a repeat is
one. -/
def Edit.fits : Edit → List Block → Bool
  | .append _, _ => true
  | .remove index, blocks | .update index _, blocks => index < blocks.length
  | .reorder source target, blocks => source < blocks.length && target < blocks.length
  | .appendToRepeat index _, blocks =>
    match blocks[index]? with
    | some (.repeated ..) => true
    | _ => false

theorem isSome_getElem?_eq {α : Type} (l : List α) (index : Nat) :
    l[index]?.isSome = decide (index < l.length) := by
  rw [Bool.eq_iff_iff, isSome_getElem?, decide_eq_true_iff]

theorem isOk_edit (p : Program) (t : Trigger) (e : Edit) :
    (p.edit t e).isOk = e.fits (p.script t) := by
  cases e with
  | append block => rfl
  | remove index =>
      simp only [edit, Program.remove, Edit.fits]
      rw [← isSome_getElem?_eq]
      cases (p.script t)[index]? <;> rfl
  | update index patch =>
      simp only [edit, Program.update, Edit.fits]
      rw [← isSome_getElem?_eq]
      cases (p.script t)[index]? <;> rfl
  | reorder source target =>
      simp only [edit, Program.reorder, Edit.fits]
      rw [← isSome_getElem?_eq _ source]
      cases (p.script t)[source]? with
      | none => rfl
      | some block => by_cases htarget : target < (p.script t).length <;> simp [htarget] <;> rfl
  | appendToRepeat index block =>
      simp only [edit, Program.appendToRepeat, Edit.fits]
      cases (p.script t)[index]? with
      | none => rfl
      | some old => cases old <;> rfl

end Program

/-- Nothing was done: an operation is rejected, or a click arms nothing. -/
def IsRejection : Except CastError Reply → Prop
  | .error _ => True
  | .ok (.clicked armed) => armed = false
  | .ok _ => False

theorem isRejection_map_iff {α : Type} {f : α → Reply} (hf : ∀ a armed, f a ≠ .clicked armed)
    (result : Except CastError α) : IsRejection (result.map f) ↔ result.isOk = false := by
  cases result with
  | error e => exact iff_of_true trivial rfl
  | ok a =>
      have hother : ¬IsRejection (.ok (f a)) := by
        have ha := hf a
        cases hreply : f a with
        | clicked armed => exact absurd hreply (ha armed)
        | _ => exact not_false
      exact iff_of_false hother nofun

namespace Cast

variable {c : Cast}

theorem outcome_writeAdd (spec : SpriteSpec) (c : Cast) :
    (writeAdd spec).outcome c = settled ((c.add spec).map ((), ·)) c := by
  simp only [writeAdd, outcome_bind, outcome_read, add]
  cases c.contains spec.id with
  | true => rfl
  | false =>
      simp only [Bool.false_eq_true, if_false, outcome_bind, outcome_write, outcome_read, settled,
        Except.map]
      cases c.selected with
      | none => simp
      | some position => rfl

theorem outcome_writeRemove (id : SpriteId) (c : Cast) :
    (writeRemove id).outcome c = settled ((c.remove id).map ((), ·)) c := by
  simp only [writeRemove, outcome_bind, outcome_read, remove]
  cases h : c.position? id with
  | none => rfl
  | some position =>
      have hlt : position < c.sprites.length := (List.findIdx?_eq_some_iff_getElem.1 h).1
      rw [← List.length_eraseIdx_of_lt hlt]
      rfl

theorem outcome_writeSelect (id : SpriteId) (c : Cast) :
    (writeSelect id).outcome c = settled ((c.select id).map ((), ·)) c := by
  simp only [writeSelect, outcome_bind, outcome_read, select]
  cases h : c.position? id <;> rfl

theorem modify_modify {f g : Sprite → Sprite} (hf : ∀ s, (f s).id = s.id) (c : Cast)
    (id : SpriteId) : (c.modify id f).modify id g = c.modify id fun s => g (f s) := by
  unfold modify
  dsimp only
  rw [List.map_map]
  congr 1
  refine List.map_congr_left fun s _ => ?_
  dsimp only [Function.comp]
  by_cases hid : s.id = id
  · simp [hid, hf]
  · simp [hid]

theorem modify_congr {f g : Sprite → Sprite} {sprite : Sprite} (hc : c.ids.Nodup) {id : SpriteId}
    (hfind : c.find? id = some sprite) (h : f sprite = g sprite) :
    c.modify id f = c.modify id g := by
  unfold modify
  congr 1
  refine List.map_congr_left fun s hs => ?_
  by_cases hid : s.id = id
  · rw [(find?_eq_some_iff hc).2 ⟨hs, hid⟩] at hfind
    rw [if_pos hid, if_pos hid, Option.some.inj hfind, h]
  · rw [if_neg hid, if_neg hid]

theorem modify_eq_self {f : Sprite → Sprite} {sprite : Sprite} (hc : c.ids.Nodup) {id : SpriteId}
    (hfind : c.find? id = some sprite) (h : f sprite = sprite) : c.modify id f = c := by
  rw [modify_congr (g := fun s => s) hc hfind h]
  unfold modify
  simp only [ite_self, List.map_id']

/-- The script of an edit that is rejected is put back as it was. -/
theorem outcome_writeEdit (hc : c.ids.Nodup) (id : SpriteId) (t : Trigger) (e : Program.Edit) :
    (writeEdit id t e).outcome c = settled (c.edit id t e) c := by
  simp only [writeEdit, outcome_bind, outcome_read, edit]
  cases hfind : c.find? id with
  | none => rfl
  | some sprite =>
      simp only [outcome_bind, outcome_onPart, outcome_adapt, e.outcome_writes]
      cases hedit : sprite.program.edit t e with
      | error error =>
          have hkept : (c.modify id fun s =>
              { s with program := s.program.withScript t (sprite.program.script t) }) = c := by
            refine modify_eq_self hc hfind ?_
            rw [sprite.program.withScript_script]
          exact congrArg (Except.error (CastError.edit error), ·) hkept
      | ok result =>
          obtain ⟨removed, q⟩ := result
          obtain ⟨blocks, rfl⟩ := Program.exists_withScript_of_edit hedit
          dsimp only [settled, Except.map, Except.mapError]
          rw [Program.script_withScript_self]
          simp only [outcome_write, outcome_pure]
          congr 1
          refine (modify_modify (f := fun s => { s with program := s.program.withScript t blocks })
            (fun _ => rfl) c id).trans ?_
          exact modify_congr hc hfind rfl

theorem outcome_writeArm {id : SpriteId} (h : c.contains id = true) (t : Trigger) :
    (writeArm id t).outcome c = (.ok (), c.modify id (·.arm t)) := by
  simp only [writeArm, outcome_bind, outcome_read]
  rw [if_pos h]
  rfl

/-! ## What a cast accepts -/

theorem contains_eq_false_iff {id : SpriteId} : c.contains id = false ↔ id ∉ c.ids := by
  rw [← contains_eq_true_iff, Bool.not_eq_true]

theorem isOk_add (c : Cast) (spec : SpriteSpec) : (c.add spec).isOk = !c.contains spec.id := by
  unfold add
  cases c.contains spec.id <;> rfl

theorem isSome_position? (c : Cast) (id : SpriteId) : (c.position? id).isSome = c.contains id :=
  List.findIdx?_isSome

theorem isOk_remove (c : Cast) (id : SpriteId) : (c.remove id).isOk = c.contains id := by
  rw [← isSome_position?]
  unfold remove
  cases c.position? id <;> rfl

theorem isOk_select (c : Cast) (id : SpriteId) : (c.select id).isOk = c.contains id := by
  rw [← isSome_position?]
  unfold select
  cases c.position? id <;> rfl

theorem isOk_edit (c : Cast) (id : SpriteId) (t : Trigger) (e : Program.Edit) :
    (c.edit id t e).isOk = (c.find? id).any fun s => e.fits (s.program.script t) := by
  unfold edit
  cases c.find? id with
  | none => rfl
  | some s =>
      rw [Option.any_some, ← Program.isOk_edit]
      dsimp only
      cases s.program.edit t e <;> rfl

theorem any_find?_eq_false_iff (hc : c.ids.Nodup) {id : SpriteId} {p : Sprite → Bool} :
    (c.find? id).any p = false ↔
      id ∉ c.ids ∨ ∃ s ∈ c.sprites, s.id = id ∧ p s = false := by
  cases hfind : c.find? id with
  | none =>
      have hmem : id ∉ c.ids := by
        rw [mem_ids_iff, hfind]
        rintro ⟨_, hsome⟩
        cases hsome
      exact iff_of_true rfl (.inl hmem)
  | some s =>
      have hmem : id ∈ c.ids := mem_ids_iff.2 ⟨s, hfind⟩
      obtain ⟨hs, hid⟩ := (find?_eq_some_iff hc).1 hfind
      rw [Option.any_some]
      constructor
      · intro h
        exact .inr ⟨s, hs, hid, h⟩
      · rintro (hmem' | ⟨s', hs', hid', h⟩)
        · exact absurd hmem hmem'
        · have hfind' := (find?_eq_some_iff hc).2 ⟨hs', hid'⟩
          rw [hfind] at hfind'
          rwa [Option.some.inj hfind']

end Cast

namespace Session

variable {s : Session}

/-- A click that arms nothing has written nothing. -/
theorem outcome_click (s : Session) (id : SpriteId) (now : Instant) :
    (Operation.click id now).writes.outcome s =
      (.ok (.clicked (s.isClickable id)), s.click id now) := by
  unfold click Operation.writes
  rw [outcome_bind, outcome_read]
  dsimp only
  cases hfind : s.cast.find? id with
  | none =>
      have hclickable : s.isClickable id = false := by rw [isClickable, hfind, Option.any_none]
      rw [hclickable]
      rfl
  | some sprite =>
      have hclickable : s.isClickable id = !sprite.flat.click.isEmpty := by
        rw [isClickable, hfind, Option.any_some]
      have hcontains : s.cast.contains id = true :=
        Cast.contains_eq_true_iff.2 (Cast.mem_ids_iff.2 ⟨sprite, hfind⟩)
      rw [hclickable]
      dsimp only
      cases sprite.flat.click.isEmpty with
      | true => rfl
      | false =>
          simp only [Bool.false_eq_true, Bool.not_true, if_false, outcome_bind, outcome_tryCatch,
            onCast, outcome_onPart, Cast.outcome_writeArm hcontains, outcome_pure, outcome_read]
          cases s.clock.isRunning <;> simp [Except.map]

theorem outcome_writes (hs : s.Sound) (op : Operation) :
    op.writes.outcome s = settled (s.perform op) s := by
  cases op with
  | add spec =>
      simp only [Operation.writes, onCast, outcome_bind, outcome_onPart, Cast.outcome_writeAdd,
        perform, add]
      cases s.cast.add spec <;> rfl
  | delete id =>
      simp only [Operation.writes, onCast, outcome_bind, outcome_onPart, Cast.outcome_writeRemove,
        perform, delete]
      cases s.cast.remove id <;> rfl
  | select id =>
      simp only [Operation.writes, onCast, outcome_bind, outcome_onPart, Cast.outcome_writeSelect,
        perform, select]
      cases s.cast.select id <;> rfl
  | edit id t e =>
      simp only [Operation.writes, onCast, outcome_bind, outcome_onPart,
        Cast.outcome_writeEdit hs.nodup, perform, edit]
      cases s.cast.edit id t e <;> rfl
  | click id now => exact s.outcome_click id now
  | _ => rfl

/-! ## What stands in the way of an operation -/

/-- What stands in the way of an operation: a sprite that is there already or is not there, an edit
that does not fit the script it is for, or a click script that comes to nothing when it is made
flat. -/
def Refuses (s : Session) : Operation → Prop
  | .add spec => spec.id ∈ s.cast.ids
  | .delete id | .select id => id ∉ s.cast.ids
  | .edit id t e =>
    id ∉ s.cast.ids ∨
      ∃ sprite ∈ s.cast.sprites, sprite.id = id ∧ e.fits (sprite.program.script t) = false
  | .click id _ =>
    id ∉ s.cast.ids ∨
      ∃ sprite ∈ s.cast.sprites, sprite.id = id ∧
        (sprite.program.flatten s.cast.increment).click.isEmpty
  | _ => False

theorem reply_add (s : Session) (spec : SpriteSpec) :
    s.reply (.add spec) = (s.cast.add spec).map fun _ => .added spec.id := by
  unfold reply
  dsimp only [perform, add]
  cases s.cast.add spec <;> rfl

theorem reply_delete (s : Session) (id : SpriteId) :
    s.reply (.delete id) = (s.cast.remove id).map fun _ => .done := by
  unfold reply
  dsimp only [perform, delete]
  cases s.cast.remove id <;> rfl

theorem reply_select (s : Session) (id : SpriteId) :
    s.reply (.select id) = (s.cast.select id).map fun _ => .done := by
  unfold reply
  dsimp only [perform, select]
  cases s.cast.select id <;> rfl

theorem reply_edit (s : Session) (id : SpriteId) (t : Trigger) (e : Program.Edit) :
    s.reply (.edit id t e) = (s.cast.edit id t e).map (·.1.elim .done .removed) := by
  unfold reply
  dsimp only [perform, edit]
  cases s.cast.edit id t e <;> rfl

/-- An operation is rejected if and only if something stands in its way. -/
theorem isRejection_reply_iff (hs : s.Reachable) (op : Operation) :
    IsRejection (s.reply op) ↔ s.Refuses op := by
  have hnodup := hs.sound.nodup
  cases op with
  | add spec =>
      rw [reply_add, isRejection_map_iff (by simp), Cast.isOk_add, Bool.not_eq_false',
        Cast.contains_eq_true_iff]
      rfl
  | delete id =>
      rw [reply_delete, isRejection_map_iff (by simp), Cast.isOk_remove,
        Cast.contains_eq_false_iff]
      rfl
  | select id =>
      rw [reply_select, isRejection_map_iff (by simp), Cast.isOk_select,
        Cast.contains_eq_false_iff]
      rfl
  | edit id t e =>
      rw [reply_edit, isRejection_map_iff, Cast.isOk_edit, Cast.any_find?_eq_false_iff hnodup]
      · rfl
      · rintro ⟨_ | block, _⟩ armed <;> simp
  | click id now =>
      change s.isClickable id = false ↔ _
      unfold isClickable
      rw [Cast.any_find?_eq_false_iff hnodup]
      refine or_congr_right (exists_congr fun sprite => and_congr_right fun hsprite => ?_)
      rw [hs.isFlat sprite hsprite, Bool.not_eq_false']
  | play | stop | restart | advance | step => exact .rfl

theorem eq_click_of_perform {op : Operation} {t : Session} {armed : Bool}
    (h : s.perform op = .ok (.clicked armed, t)) :
    ∃ id now, op = .click id now ∧ armed = s.isClickable id ∧ t = s.click id now := by
  cases op with
  | add | delete | select =>
      obtain ⟨t', -, h⟩ := map_eq_ok_iff.1 h
      cases h
  | edit id trigger e =>
      obtain ⟨⟨_ | block, t'⟩, -, h⟩ := map_eq_ok_iff.1 h <;> cases h
  | click id now =>
      cases h
      exact ⟨id, now, rfl, rfl, rfl⟩
  | _ => cases h

theorem after_eq_of_isRejection {op : Operation} (h : IsRejection (s.reply op)) :
    s.after op = s := by
  cases hperform : s.perform op with
  | error e => exact after_of_error hperform
  | ok result =>
      obtain ⟨reply, t⟩ := result
      unfold Session.reply at h
      rw [hperform] at h
      cases reply with
      | clicked armed =>
          obtain rfl : armed = false := h
          obtain ⟨id, now, rfl, hclickable, rfl⟩ := eq_click_of_perform hperform
          rw [after_of_ok hperform, click, ← hclickable, if_neg Bool.false_ne_true]
      | _ => exact h.elim

/-- Whatever is done to a session, an operation that is rejected, or a click that arms nothing, has
left all of it as it was, although it writes to it where it stands; and it is rejected exactly if
something stands in its way. -/
theorem Reachable.rejected_writes_nothing (hs : s.Reachable) (op : Operation) :
    op.writes.outcome s = (s.reply op, s.after op) ∧
      (IsRejection (op.writes.outcome s).1 ↔ s.Refuses op) ∧
      (IsRejection (op.writes.outcome s).1 → (op.writes.outcome s).2 = s) := by
  have houtcome : op.writes.outcome s = (s.reply op, s.after op) := by
    rw [outcome_writes hs.sound]
    unfold settled reply Session.after
    cases s.perform op <;> rfl
  rw [houtcome]
  exact ⟨rfl, isRejection_reply_iff hs op, after_eq_of_isRejection⟩

theorem Reachable.rejected_writes_nothing_together :
    let op : Operation := .edit "cat" .play (.reorder 0 1)
    IsRejection (op.writes.outcome together).1 ∧ (op.writes.outcome together).2 = together := by
  intro op
  obtain ⟨-, hrejection, hkept⟩ := reachable_together.rejected_writes_nothing op
  have hrefuses : together.Refuses op := by
    refine (Cast.any_find?_eq_false_iff reachable_together.sound.nodup).1 ?_
    decide +kernel
  have hrejected := hrejection.2 hrefuses
  exact ⟨hrejected, hkept hrejected⟩

end Session

end SpriteStage
