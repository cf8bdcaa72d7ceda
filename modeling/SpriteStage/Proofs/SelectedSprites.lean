import SpriteStage.Proofs.CastInvariants

/-!
# The selection follows the sprite

The cast stores which sprite is selected by its position, and every removal before it moves it down.
Told by identity, nothing moves: a sprite stays selected until it is removed or another one is
selected (`Cast.SelectsByIdentity`), whatever was done to the cast before.
-/

namespace SpriteStage

/-- Where the elements have distinct keys, at most one has a given key. -/
theorem eraseP_key_eq_filter {α β : Type} [DecidableEq β] (key : α → β) (k : β) :
    {xs : List α} → (xs.map key).Nodup →
      xs.eraseP (key · == k) = xs.filter (key · ≠ k)
  | [], _ => rfl
  | x :: xs, h => by
    rw [List.map_cons, List.nodup_cons] at h
    obtain ⟨hnew, hrest⟩ := h
    by_cases hx : key x = k
    · have hkept : xs.filter (key · ≠ k) = xs := by
        refine List.filter_eq_self.2 fun y hy => decide_eq_true fun hyk => ?_
        exact hnew (List.mem_map.2 ⟨y, hy, hyk.trans hx.symm⟩)
      rw [List.eraseP_cons_of_pos (by simpa using hx), List.filter_cons_of_neg (by simpa using hx),
        hkept]
    · rw [List.eraseP_cons_of_neg (by simpa using hx), List.filter_cons_of_pos (by simpa using hx),
        eraseP_key_eq_filter key k hrest]

namespace Cast

variable {c c' : Cast} {id : SpriteId} {s : Sprite} {spec : SpriteSpec}

/-! ## Positions -/

/-- The position of another element, moved down past the removed one, is where that element is. -/
theorem bind_selectionAfter {α : Type} {xs : List α} {position removed : Nat}
    (hremoved : removed < xs.length) (hposition : position < xs.length) (hne : position ≠ removed) :
    ((selectionAfter (some position) removed (xs.length - 1)).bind fun p =>
      (xs.eraseIdx removed)[p]?) = xs[position]? := by
  have hleft : xs.length - 1 ≠ 0 := by omega
  rw [selectionAfter, if_neg hleft, Option.map_some, Option.bind_some]
  split
  · rename_i hlt
    rw [List.getElem?_eraseIdx_of_ge (by omega), Nat.sub_add_cancel (by omega)]
  · rename_i hge
    rw [if_neg hne.symm, List.getElem?_eraseIdx_of_lt (by omega)]

/-- The first element is where the selection falls when the selected one is removed. -/
theorem bind_selectionAfter_self {α : Type} {xs : List α} {position : Nat}
    (hposition : position < xs.length) :
    ((selectionAfter (some position) position (xs.length - 1)).bind fun p =>
      (xs.eraseIdx position)[p]?) = (xs.eraseIdx position).head? := by
  have hlength : (xs.eraseIdx position).length = xs.length - 1 :=
    List.length_eraseIdx_of_lt hposition
  unfold selectionAfter
  split
  · rename_i hnone
    rw [List.eq_nil_of_length_eq_zero (hlength.trans hnone)]
    rfl
  · rw [Option.map_some, Option.bind_some, if_neg (Nat.lt_irrefl _), if_pos rfl,
      List.head?_eq_getElem?]

/-! ## Operations -/

theorem selection?_of_selected {position : Nat} (h : c.selected = some position) :
    c.selection? = c.sprites[position]? := by
  rw [selection?, h, Option.bind_some]

theorem exists_add (hc : c.IsSelected) (h : spec.id ∉ c.ids) :
    ∃ c', c.add spec = .ok c' ∧ c'.sprites = c.sprites ++ [.ofSpec c.increment spec] ∧
      c'.selection? = if c.sprites = [] then some (.ofSpec c.increment spec) else c.selection? := by
  have hnew : ¬ c.contains spec.id = true := mt contains_eq_true_iff.1 h
  refine ⟨_, if_neg hnew, rfl, ?_⟩
  obtain ⟨hnone, hempty⟩ | ⟨position, hposition, hlt⟩ := hc
  · rw [selection?, hnone, hempty]
    rfl
  · have hsprites : c.sprites ≠ [] := List.ne_nil_of_length_pos (by omega)
    rw [if_neg hsprites, selection?_of_selected hposition, selection?, hposition, Option.some_or,
      Option.bind_some, List.getElem?_append_left hlt]

theorem eraseIdx_position? {position : Nat} (hc : c.ids.Nodup)
    (h : c.position? id = some position) :
    c.sprites.eraseIdx position = c.sprites.filter (·.id ≠ id) := by
  rw [← eraseP_key_eq_filter _ _ hc, List.eraseP_eq_eraseIdx]
  rw [position?] at h
  rw [h]

/-- In a cast with distinct ids a sprite is found where it stands. -/
theorem exists_position? (hids : c.ids.Nodup) (hs : s ∈ c.sprites) :
    ∃ position, c.position? s.id = some position ∧ c.sprites[position]? = some s := by
  obtain ⟨position, hposition⟩ := List.getElem?_of_mem hs
  refine ⟨position, (position?_eq_some_iff hids).2 ?_, hposition⟩
  rw [ids, List.getElem?_map, hposition]
  rfl

theorem exists_remove (hc : c.IsSelected) (hids : c.ids.Nodup) (hs : s ∈ c.sprites) :
    ∃ c', c.remove s.id = .ok c' ∧ c'.sprites = c.sprites.filter (·.id ≠ s.id) ∧
      c'.selection? =
        if c.selection?.map (·.id) = some s.id then c'.sprites.head? else c.selection? := by
  obtain ⟨position, hposition, hat⟩ := exists_position? hids hs
  have hlt : position < c.sprites.length := (List.getElem?_eq_some_iff.1 hat).1
  refine ⟨{ c with
      sprites := c.sprites.eraseIdx position
      selected := selectionAfter c.selected position (c.sprites.length - 1) }, ?_,
    eraseIdx_position? hids hposition, ?_⟩
  · rw [remove, hposition]
  · obtain ⟨-, hempty⟩ | ⟨selected, hselected, hselected'⟩ := hc
    · rw [hempty] at hs
      cases hs
    · rw [selection?_of_selected hselected, selection?]
      dsimp only
      rw [hselected]
      by_cases hsame : selected = position
      · subst hsame
        rw [hat, Option.map_some, if_pos rfl]
        exact bind_selectionAfter_self hlt
      · have hother : c.sprites[selected]?.map (·.id) ≠ some s.id := by
          intro hid
          rw [← List.getElem?_map] at hid
          have hfound := (position?_eq_some_iff hids).2 hid
          exact hsame (Option.some.inj (hfound.symm.trans hposition))
        rw [if_neg hother]
        exact bind_selectionAfter hlt hselected' hsame

theorem exists_select (hids : c.ids.Nodup) (hs : s ∈ c.sprites) :
    ∃ c', c.select s.id = .ok c' ∧ c'.sprites = c.sprites ∧ c'.selection? = some s := by
  obtain ⟨position, hposition, hat⟩ := exists_position? hids hs
  refine ⟨{ c with selected := some position }, ?_, rfl, ?_⟩
  · rw [select, hposition]
  · rw [selection?, Option.bind_some, hat]

/-! ## Runs -/

/-- Something is selected unless there is nothing, and what it is depends on identities alone: a
sprite that joins others leaves it, one that goes leaves it unless it was the selected one itself,
whose place the first sprite that is left takes. No operation touches the other sprites or their
order, and one that adds a sprite that is there or names one that is not is rejected. -/
structure SelectsByIdentity (c : Cast) : Prop where
  selected_eq_none_iff : c.selected = none ↔ c.sprites = []
  lt_length : ∀ position, c.selected = some position → position < c.sprites.length
  add : ∀ spec, spec.id ∉ c.ids → ∃ c', c.add spec = .ok c' ∧
    c'.sprites = c.sprites ++ [.ofSpec c.increment spec] ∧
    c'.selection? = if c.sprites = [] then some (.ofSpec c.increment spec) else c.selection?
  remove : ∀ s ∈ c.sprites, ∃ c', c.remove s.id = .ok c' ∧
    c'.sprites = c.sprites.filter (·.id ≠ s.id) ∧
    c'.selection? = if c.selection?.map (·.id) = some s.id then c'.sprites.head? else c.selection?
  select : ∀ s ∈ c.sprites, ∃ c', c.select s.id = .ok c' ∧
    c'.sprites = c.sprites ∧ c'.selection? = some s
  alreadyThere : ∀ spec, spec.id ∈ c.ids → c.add spec = .error (.alreadyThere spec.id)
  unknown : ∀ id ∉ c.ids, c.remove id = .error (.unknown id) ∧ c.select id = .error (.unknown id)

theorem IsSelected.selectsByIdentity (hc : c.IsSelected) (hids : c.ids.Nodup) :
    c.SelectsByIdentity where
  selected_eq_none_iff := by
    obtain ⟨hnone, hempty⟩ | ⟨position, hposition, hlt⟩ := hc
    · simp [hnone, hempty]
    · simp [hposition, List.ne_nil_of_length_pos (Nat.zero_lt_of_lt hlt)]
  lt_length := by
    obtain ⟨hnone, -⟩ | ⟨position, hposition, hlt⟩ := hc
    · simp [hnone]
    · simpa [hposition] using hlt
  add _ := exists_add hc
  remove _ := exists_remove hc hids
  select _ := exists_select hids
  alreadyThere _ hid := if_pos (contains_eq_true_iff.2 hid)
  unknown id hid := by
    have hnone : c.position? id = none := by
      rw [position?_eq, List.findIdx?_eq_none_iff]
      intro other hother
      exact beq_eq_false_iff_ne.2 (ne_of_mem_of_not_mem hother hid)
    simp only [Cast.remove, Cast.select, hnone, and_self]

/-- After any operations on a cast that began without sprites, the selection goes by identity. -/
theorem selection_follows_sprite (moveIncrement : Single) (ops : List Operation) :
    (({ increment := .ofSingle moveIncrement } : Cast).afterAll ops).SelectsByIdentity := by
  have hkeeps := afterAll_keeps (P := fun c => c.IsSelected ∧ c.ids.Nodup)
    (c := { increment := .ofSingle moveIncrement })
    (fun _ _ _ hstep hc => ⟨hstep.isSelected hc.1, hstep.nodup_ids hc.2⟩)
    ⟨.inl ⟨rfl, rfl⟩, List.nodup_nil⟩ ops
  exact hkeeps.1.selectsByIdentity hkeeps.2

end Cast

end SpriteStage
