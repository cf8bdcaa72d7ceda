import SpriteStage.Proofs.ActorSteps
import SpriteStage.Proofs.SessionParts

/-!
# What holds of every reachable session

The cast cuts moves by the increment of the settings, its flat programs are those of its programs, a
sprite is selected whenever there is one, and no cooldown is longer than a swap makes it. Of the
monitor nothing changes but its memory.
-/

namespace SpriteStage

/-! ## Single steps -/

theorem Scan.Leads.reset_eq {m m' : Monitor} {scans : List Scan} (h : Scan.Leads m scans m') :
    m'.reset = m.reset := by
  induction h with
  | nil => rfl
  | cons scan hscan _ ih =>
      have hmode := scan.monitor.mode_detect hscan.nodup
      have hsize := scan.monitor.spriteSize_detect hscan.nodup
      rw [ih]
      unfold Monitor.reset Scan.outcome
      rw [hmode, hsize]

namespace Cast

variable {c c' : Cast} {cooldown : Nat}

/-- Every sprite's flat program is that of its program. -/
def IsFlat (c : Cast) : Prop := ∀ s ∈ c.sprites, s.flat = s.program.flatten c.increment

theorem Changes.isFlat (h : c.Changes cooldown c') (hc : c.IsFlat) : c'.IsFlat := by
  intro s' hs'
  rw [h.increment_eq]
  obtain ⟨spec, rfl⟩ | ⟨s, hs, hchange⟩ := h.exists_of_mem hs'
  · rfl
  · cases hchange with
    | withProgram p => rfl
    | takeOver p => rfl
    | keep => exact hc _ hs
    | _ => exact hc s hs

/-- A sprite is selected, unless there is none. -/
def IsSelected (c : Cast) : Prop :=
  (c.selected = none ∧ c.sprites = []) ∨ ∃ position, c.selected = some position ∧
    position < c.sprites.length

theorem isSelected_remove {position : Nat} (hc : c.IsSelected) (h : position < c.sprites.length) :
    IsSelected { c with
      sprites := c.sprites.eraseIdx position
      selected := selectionAfter c.selected position (c.sprites.length - 1) } := by
  have hlength : (c.sprites.eraseIdx position).length = c.sprites.length - 1 :=
    List.length_eraseIdx_of_lt h
  obtain ⟨-, hempty⟩ | ⟨selected, hselected, hlt⟩ := hc
  · rw [hempty] at h
    cases h
  · unfold selectionAfter
    by_cases hleft : c.sprites.length - 1 = 0
    · refine .inl ⟨if_pos hleft, ?_⟩
      exact List.eq_nil_of_length_eq_zero (hlength.trans hleft)
    · refine .inr ⟨_, (if_neg hleft).trans (by rw [hselected]; rfl), ?_⟩
      dsimp only
      rw [hlength]
      split
      · omega
      · split <;> omega

theorem Changes.isSelected (h : c.Changes cooldown c') (hc : c.IsSelected) : c'.IsSelected := by
  cases h with
  | add h =>
      unfold Cast.add at h
      split at h <;> cases h
      obtain ⟨hnone, -⟩ | ⟨position, hposition, hlt⟩ := hc
      · exact .inr ⟨c.sprites.length, by rw [hnone]; rfl, by simp⟩
      · refine .inr ⟨position, by rw [hposition]; rfl, ?_⟩
        rw [List.length_append]
        exact Nat.lt_add_right _ hlt
  | remove h =>
      unfold Cast.remove at h
      split at h <;> cases h
      rename_i hposition
      exact isSelected_remove hc (List.findIdx?_eq_some_iff_getElem.1 hposition).1
  | select h =>
      unfold Cast.select at h
      split at h <;> cases h
      rename_i position hposition
      exact .inr ⟨position, rfl, (List.findIdx?_eq_some_iff_getElem.1 hposition).1⟩
  | sprites _ =>
      obtain ⟨hnone, hempty⟩ | ⟨position, hposition, hlt⟩ := hc
      · exact .inl ⟨hnone, List.map_eq_nil_iff.2 hempty⟩
      · exact .inr ⟨position, hposition, hlt.trans_eq (List.length_map _).symm⟩

end Cast

namespace Session

variable {s : Session}

/-! ## Reachable sessions -/

theorem reset_monitor_after (hs : s.Sound) (op : Operation) :
    (s.after op).monitor.reset = s.monitor.reset := by
  cases op with
  | add spec =>
      rw [after_add]
      split <;> rfl
  | delete id =>
      rw [after_delete]
      split <;> rfl
  | select id =>
      rw [after_select]
      split <;> rfl
  | edit id trigger e =>
      rw [after_edit]
      split <;> rfl
  | click id now =>
      change (s.click id now).monitor.reset = _
      unfold click
      split <;> rfl
  | advance now => exact (leads_advance hs now).reset_eq
  | step now => exact (leads_step hs now).reset_eq
  | _ => rfl

theorem Reachable.reset_monitor (hs : s.Reachable) :
    s.monitor.reset = { mode := s.settings.contact, spriteSize := s.settings.spriteSize } := by
  induction hs with
  | new settings => rfl
  | @after s op hs ih => rw [reset_monitor_after hs.sound, ih, (s.counts_after op).settings]

theorem Reachable.increment_eq (hs : s.Reachable) :
    s.cast.increment = .ofSingle s.settings.moveIncrement :=
  hs.cast_keeps (P := fun settings c => c.increment = .ofSingle settings.moveIncrement)
    (fun _ => rfl) fun _ _ _ hstep h => hstep.increment_eq.trans h

theorem Reachable.isFlat (hs : s.Reachable) : s.cast.IsFlat :=
  hs.cast_keeps (P := fun _ c => c.IsFlat) (fun _ _ h => by cases h) fun _ _ _ hstep => hstep.isFlat

theorem Reachable.isSelected (hs : s.Reachable) : s.cast.IsSelected :=
  hs.cast_keeps (P := fun _ c => c.IsSelected) (fun _ => .inl ⟨rfl, rfl⟩)
    fun _ _ _ hstep => hstep.isSelected

/-- No sprite cools down for longer than a swap makes it; so none ever does if swaps start no
cooldown. -/
theorem Reachable.cooldown_le (hs : s.Reachable) :
    ∀ sprite ∈ s.cast.sprites, sprite.actor.cooldown ≤ s.settings.swapCooldown := by
  refine hs.cast_keeps
    (P := fun settings c => ∀ sprite ∈ c.sprites, sprite.actor.cooldown ≤ settings.swapCooldown)
    (fun _ _ h => by cases h) fun settings c c' hstep hc sprite' hsprite' => ?_
  obtain ⟨spec, rfl⟩ | ⟨sprite, hsprite, hchange⟩ := hstep.exists_of_mem hsprite'
  · exact Nat.zero_le _
  · have hle := hc sprite hsprite
    cases hchange with
    | keep => exact hle
    | withProgram p => exact hle
    | arm t => cases t <;> exact hle
    | restart => exact Nat.zero_le _
    | act =>
        have htick := sprite.actor.cooldown_tick
        exact htick.trans_le ((Nat.sub_le _ _).trans hle)
    | takeOver p => exact Nat.le_refl _
    | clearBubble => exact hle

end Session

end SpriteStage
