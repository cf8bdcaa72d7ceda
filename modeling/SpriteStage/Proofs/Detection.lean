import Mathlib.Data.List.Basic
import SpriteStage.Contact.Monitor
import SpriteStage.Proofs.CastUpdates
import SpriteStage.Proofs.Places

/-!
# What one scan sees

A scan looks at each two candidates once, under a key that no other two of them have. So what it
remembers of them is what they share now, and whether they meet anew depends only on what was
remembered of them before. What two sprites share is stated by `Monitor.shared?` without any
candidates, and rectangles are compared by their places.
-/

namespace SpriteStage

namespace SpritePair

/-- A pair is of two sprites, whichever of them comes first. -/
def Joins (p : SpritePair) (a b : SpriteId) : Prop :=
  (p.low = a ∧ p.high = b) ∨ (p.low = b ∧ p.high = a)

instance (p : SpritePair) (a b : SpriteId) : Decidable (p.Joins a b) :=
  inferInstanceAs (Decidable (_ ∨ _))

def IsOrdered (p : SpritePair) : Prop := p.low < p.high

theorem joins_of (a b : SpriteId) : (of a b).Joins a b := by
  unfold of
  split
  · exact .inr ⟨rfl, rfl⟩
  · exact .inl ⟨rfl, rfl⟩

theorem isOrdered_of {a b : SpriteId} (h : a ≠ b) : (of a b).IsOrdered := by
  unfold of
  split
  · assumption
  · rename_i hnot
    exact String.not_le.1 fun hle => h (String.le_antisymm (String.not_lt.1 hnot) hle)

theorem of_low_high {p : SpritePair} (h : p.IsOrdered) : of p.low p.high = p :=
  if_neg fun hlt => String.lt_irrefl _ (String.lt_trans h hlt)

/-- An ordered pair is the one that its two sprites form. -/
theorem eq_of_of_joins {p : SpritePair} {a b : SpriteId} (hp : p.IsOrdered) (h : p.Joins a b) :
    p = of a b := by
  rw [← of_low_high hp]
  obtain ⟨rfl, rfl⟩ | ⟨rfl, rfl⟩ := h
  · rfl
  · exact of_comm _ _

theorem of_eq_of_iff {a b c d : SpriteId} :
    of a b = of c d ↔ (a = c ∧ b = d) ∨ (a = d ∧ b = c) := by
  constructor
  · intro h
    have hab := joins_of a b
    rw [h] at hab
    obtain ⟨hc, hd⟩ | ⟨hc, hd⟩ := joins_of c d <;> obtain ⟨ha, hb⟩ | ⟨ha, hb⟩ := hab
    · exact .inl ⟨ha.symm.trans hc, hb.symm.trans hd⟩
    · exact .inr ⟨hb.symm.trans hd, ha.symm.trans hc⟩
    · exact .inr ⟨ha.symm.trans hc, hb.symm.trans hd⟩
    · exact .inl ⟨hb.symm.trans hd, ha.symm.trans hc⟩
  · rintro (⟨rfl, rfl⟩ | ⟨rfl, rfl⟩)
    · rfl
    · exact of_comm _ _

end SpritePair

namespace Monitor

/-! ## Pairs of a list -/

theorem mem_pairs_iff {α : Type} {a b : α} {l : List α} : (a, b) ∈ pairs l ↔ [a, b].Sublist l := by
  induction l with
  | nil => simp [pairs]
  | cons x rest ih =>
      simp only [pairs, List.mem_append, List.mem_map, Prod.mk.injEq, ih]
      constructor
      · rintro (⟨y, hy, rfl, rfl⟩ | hsub)
        · exact (List.singleton_sublist.2 hy).cons_cons x
        · exact hsub.cons x
      · intro h
        cases h with
        | cons _ hsub => exact .inr hsub
        | cons_cons _ hsub => exact .inl ⟨b, List.singleton_sublist.1 hsub, rfl, rfl⟩

theorem mem_of_mem_pairs {α : Type} {p : α × α} {l : List α} (h : p ∈ pairs l) :
    p.1 ∈ l ∧ p.2 ∈ l := by
  have hsub := (mem_pairs_iff.1 h).subset
  exact ⟨hsub (by simp), hsub (by simp)⟩

theorem mem_pairs_or {α : Type} {a b : α} {l : List α} (ha : a ∈ l) (hb : b ∈ l) (hne : a ≠ b) :
    (a, b) ∈ pairs l ∨ (b, a) ∈ pairs l := by
  induction l with
  | nil => simp at ha
  | cons x rest ih =>
      simp only [pairs, List.mem_append, List.mem_map, Prod.mk.injEq]
      rcases List.mem_cons.1 ha with rfl | ha' <;> rcases List.mem_cons.1 hb with rfl | hb'
      · exact absurd rfl hne
      · exact .inl (.inl ⟨b, hb', rfl, rfl⟩)
      · exact .inr (.inl ⟨a, ha', rfl, rfl⟩)
      · exact (ih ha' hb').imp .inr .inr

/-- The key under which two candidates are remembered. -/
def key (p : Candidate × Candidate) : SpritePair := .of p.1.id p.2.id

theorem ne_of_mem_pairs {l : List Candidate} (hl : (l.map (·.id)).Nodup) {p : Candidate × Candidate}
    (hp : p ∈ pairs l) : p.1.id ≠ p.2.id := by
  rw [List.Nodup, List.pairwise_map] at hl
  exact List.pairwise_iff_forall_sublist.1 hl (mem_pairs_iff.1 hp)

theorem nodup_keys {l : List Candidate} (hl : (l.map (·.id)).Nodup) :
    ((pairs l).map key).Nodup := by
  induction l with
  | nil => simp [pairs]
  | cons x rest ih =>
      rw [List.map_cons, List.nodup_cons] at hl
      obtain ⟨hx, hrest⟩ := hl
      have hfresh {y : Candidate} (hy : y ∈ rest) : x.id ≠ y.id := fun h =>
        hx (List.mem_map.2 ⟨y, hy, h.symm⟩)
      rw [pairs, List.map_append, List.nodup_append]
      refine ⟨?_, ih hrest, ?_⟩
      · rw [List.map_map, List.Nodup, List.pairwise_map]
        rw [List.Nodup, List.pairwise_map] at hrest
        refine hrest.imp_of_mem fun {y z} hy _ hyz h => ?_
        rcases SpritePair.of_eq_of_iff.1 h with ⟨-, h⟩ | ⟨-, h⟩
        · exact hyz h
        · exact hfresh hy h.symm
      · intro k hk k' hk' hkk
        obtain ⟨_, hpair, rfl⟩ := List.mem_map.1 hk
        obtain ⟨y, -, rfl⟩ := List.mem_map.1 hpair
        obtain ⟨q, hq, rfl⟩ := List.mem_map.1 hk'
        obtain ⟨h₁, h₂⟩ := mem_of_mem_pairs hq
        rcases SpritePair.of_eq_of_iff.1 hkk with ⟨h, -⟩ | ⟨h, -⟩
        · exact hfresh h₁ h
        · exact hfresh h₂ h

/-! ## Looking at pairs -/

def sharedBy (m : Monitor) (p : Candidate × Candidate) : Option Box :=
  p.1.box.intersection? m.mode p.2.box

/-- The encounter of two candidates, if there is one. -/
def encounter? (m : Monitor) (p : Candidate × Candidate) : Option Contact :=
  (m.sharedBy p).bind fun overlap =>
    if m.continues (key p) overlap || p.1.isCooling || p.2.isCooling then none
    else some ⟨key p, overlap⟩

/-- The monitor after looking at two candidates. -/
def noting (m : Monitor) (p : Candidate × Candidate) : Monitor :=
  match m.sharedBy p with
  | none => m.forgetPair (key p)
  | some overlap => m.remember (key p) overlap

theorem look_eq (encounters : List Contact) (m : Monitor) (p : Candidate × Candidate) :
    look (encounters, m) p = (encounters ++ (m.encounter? p).toList, m.noting p) := by
  change (match m.sharedBy p with
    | none => (encounters, m.forgetPair (key p))
    | some overlap =>
      if m.continues (key p) overlap || p.1.isCooling || p.2.isCooling then
        (encounters, m.remember (key p) overlap)
      else
        (encounters ++ [Contact.mk (key p) overlap], m.remember (key p) overlap)) = _
  unfold encounter? noting
  cases m.sharedBy p with
  | none => simp
  | some overlap =>
      dsimp only [Option.bind_some]
      split
      · rw [Option.toList_none, List.append_nil]
      · rw [Option.toList_some]

theorem find?_noting (m : Monitor) (p : Candidate × Candidate) (k : SpritePair) :
    (m.noting p).memory.find? k = if k = key p then m.sharedBy p else m.memory.find? k := by
  unfold noting
  cases m.sharedBy p with
  | none => exact Table.find?_erase m.memory (key p) k
  | some overlap => exact Table.find?_insert m.memory (key p) k overlap

theorem mode_noting (m : Monitor) (p : Candidate × Candidate) : (m.noting p).mode = m.mode := by
  unfold noting
  cases m.sharedBy p <;> rfl

theorem spriteSize_noting (m : Monitor) (p : Candidate × Candidate) :
    (m.noting p).spriteSize = m.spriteSize := by
  unfold noting
  cases m.sharedBy p <;> rfl

theorem sharedBy_noting (m : Monitor) (p q : Candidate × Candidate) :
    (m.noting p).sharedBy q = m.sharedBy q := by
  rw [sharedBy, mode_noting, sharedBy]

theorem encounter?_noting (m : Monitor) {p q : Candidate × Candidate} (h : key q ≠ key p) :
    (m.noting p).encounter? q = m.encounter? q := by
  unfold encounter? continues
  rw [sharedBy_noting, find?_noting, if_neg h]

/-- Looking at pairs with different keys: each is an encounter by what the monitor knew at first. -/
theorem foldl_look (encounters : List Contact) (m : Monitor) (l : List (Candidate × Candidate))
    (hl : (l.map key).Nodup) :
    l.foldl look (encounters, m) = (encounters ++ l.filterMap m.encounter?, l.foldl noting m) := by
  induction l generalizing encounters m with
  | nil => simp
  | cons p rest ih =>
      rw [List.map_cons, List.nodup_cons] at hl
      obtain ⟨hp, hrest⟩ := hl
      -- The other pairs have other keys, so what is noted of `p` has no bearing on them.
      have hother : rest.filterMap (m.noting p).encounter? = rest.filterMap m.encounter? :=
        List.filterMap_congr fun q hq =>
          m.encounter?_noting fun h => hp (h ▸ List.mem_map_of_mem hq)
      rw [List.foldl_cons, look_eq, ih _ _ hrest, hother, List.foldl_cons]
      cases h : m.encounter? p <;> simp [h]

theorem mode_foldl_noting (m : Monitor) (l : List (Candidate × Candidate)) :
    (l.foldl noting m).mode = m.mode := by
  induction l generalizing m with
  | nil => rfl
  | cons p rest ih => rw [List.foldl_cons, ih, mode_noting]

theorem spriteSize_foldl_noting (m : Monitor) (l : List (Candidate × Candidate)) :
    (l.foldl noting m).spriteSize = m.spriteSize := by
  induction l generalizing m with
  | nil => rfl
  | cons p rest ih => rw [List.foldl_cons, ih, spriteSize_noting]

theorem find?_foldl_noting_of_notMem (m : Monitor) {l : List (Candidate × Candidate)}
    {k : SpritePair} (hk : k ∉ l.map key) :
    (l.foldl noting m).memory.find? k = m.memory.find? k := by
  induction l generalizing m with
  | nil => rfl
  | cons p rest ih =>
      rw [List.map_cons, List.mem_cons, not_or] at hk
      rw [List.foldl_cons, ih _ hk.2, find?_noting, if_neg hk.1]

theorem find?_foldl_noting (m : Monitor) {l : List (Candidate × Candidate)}
    (hl : (l.map key).Nodup) {p : Candidate × Candidate} (hp : p ∈ l) :
    (l.foldl noting m).memory.find? (key p) = m.sharedBy p := by
  induction l generalizing m with
  | nil => simp at hp
  | cons q rest ih =>
      rw [List.map_cons, List.nodup_cons] at hl
      rw [List.foldl_cons]
      rcases List.mem_cons.1 hp with rfl | hp
      · rw [find?_foldl_noting_of_notMem _ hl.1, find?_noting, if_pos rfl]
      · rw [ih _ hl.2 hp, sharedBy_noting]

/-! ## What two sprites share -/

variable {m : Monitor} {c c' : Cast} {a b : SpriteId} {r : Box}

/-- What two distinct armed sprites of a cast share, if their boxes are in contact. -/
def shared? (m : Monitor) (c : Cast) (a b : SpriteId) : Option Box := do
  let s ← c.find? a
  let t ← c.find? b
  if a = b ∨ s.actor.isIdle ∨ t.actor.isIdle then none
  else (m.box s).intersection? m.mode (m.box t)

theorem shared?_eq_some_iff : m.shared? c a b = some r ↔
    ∃ s t, c.find? a = some s ∧ c.find? b = some t ∧ a ≠ b ∧ s.actor.isIdle = false ∧
      t.actor.isIdle = false ∧ (m.box s).intersection? m.mode (m.box t) = some r := by
  unfold shared?
  cases c.find? a with
  | none => simp
  | some s =>
      cases c.find? b with
      | none => simp
      | some t => simp [and_assoc]

theorem box_eq_of_stance_eq (m : Monitor) {s t : Sprite} (h : s.stance = t.stance) :
    m.box s = m.box t := by
  simp only [Sprite.stance, Prod.mk.injEq] at h
  unfold box
  rw [h.2.1]

theorem shared?_congr (m : Monitor) (h : c.stances = c'.stances) : m.shared? c = m.shared? c' := by
  have hle {c c' : Cast} (h : c.stances = c'.stances) {a b : SpriteId} {r : Box}
      (hr : m.shared? c a b = some r) : m.shared? c' a b = some r := by
    obtain ⟨s, t, hs, ht, hne, hidle, hidle', hbox⟩ := shared?_eq_some_iff.1 hr
    have hs' := Cast.stance_find?_eq h a
    have ht' := Cast.stance_find?_eq h b
    rw [hs, Option.map_some, eq_comm, Option.map_eq_some_iff] at hs'
    rw [ht, Option.map_some, eq_comm, Option.map_eq_some_iff] at ht'
    obtain ⟨s', hs', hstance⟩ := hs'
    obtain ⟨t', ht', hstance'⟩ := ht'
    rw [← m.box_eq_of_stance_eq hstance, ← m.box_eq_of_stance_eq hstance'] at hbox
    simp only [Sprite.stance, Prod.mk.injEq] at hstance hstance'
    exact shared?_eq_some_iff.2 ⟨s', t', hs', ht', hne, hstance.2.2.trans hidle,
      hstance'.2.2.trans hidle', hbox⟩
  funext a b
  exact Option.ext fun r => ⟨hle h, hle h.symm⟩

theorem shared?_comm (m : Monitor) (c : Cast) (a b : SpriteId) :
    (m.shared? c a b).map Box.places = (m.shared? c b a).map Box.places := by
  have hle {a b : SpriteId} {r : Box} (h : m.shared? c a b = some r) :
      ∃ r', m.shared? c b a = some r' ∧ r.places = r'.places := by
    obtain ⟨s, t, hs, ht, hne, hidle, hidle', hbox⟩ := shared?_eq_some_iff.1 h
    obtain ⟨r', hr', heq⟩ := Box.exists_intersection?_comm hbox
    exact ⟨r', shared?_eq_some_iff.2 ⟨t, s, ht, hs, hne.symm, hidle', hidle, hr'⟩,
      Box.places_eq_of_equals heq⟩
  cases hab : m.shared? c a b with
  | some r =>
      obtain ⟨r', hr', hplaces⟩ := hle hab
      rw [hr', Option.map_some, Option.map_some, hplaces]
  | none =>
      cases hba : m.shared? c b a with
      | none => rfl
      | some r =>
          obtain ⟨r', hr', -⟩ := hle hba
          rw [hab] at hr'
          cases hr'

/-! ## Candidates -/

theorem mem_candidates_iff {x : Candidate} : x ∈ m.candidates c ↔
    ∃ s ∈ c.sprites, s.actor.isIdle = false ∧
      Candidate.mk s.id (m.box s) s.actor.isCooling = x := by
  simp [candidates, and_assoc]

theorem nodup_candidates (m : Monitor) (hc : c.ids.Nodup) :
    ((m.candidates c).map (·.id)).Nodup := by
  unfold candidates
  rw [List.map_map]
  exact hc.sublist (List.filter_sublist.map _)

theorem exists_sprite (hc : c.ids.Nodup) {x : Candidate} (hx : x ∈ m.candidates c) :
    ∃ s, c.find? x.id = some s ∧ s.actor.isIdle = false ∧ m.box s = x.box ∧
      isCooling c x.id = x.isCooling := by
  obtain ⟨s, hs, hidle, rfl⟩ := mem_candidates_iff.1 hx
  have hfind : c.find? s.id = some s := (Cast.find?_eq_some_iff hc).2 ⟨hs, rfl⟩
  refine ⟨s, hfind, hidle, rfl, ?_⟩
  rw [isCooling, hfind, Option.any_some]

theorem exists_candidate {s : Sprite} (hs : c.find? a = some s) (hidle : s.actor.isIdle = false) :
    ∃ x ∈ m.candidates c, x.id = a :=
  ⟨_, mem_candidates_iff.2 ⟨s, Cast.mem_of_find? hs, hidle, rfl⟩, Cast.id_of_find? hs⟩

theorem exists_pair {l : List Candidate} {x y : Candidate} (hx : x ∈ l) (hy : y ∈ l)
    (hne : x.id ≠ y.id) : ∃ p ∈ pairs l, key p = .of x.id y.id := by
  rcases mem_pairs_or hx hy fun h => hne (congrArg Candidate.id h) with h | h
  · exact ⟨_, h, rfl⟩
  · exact ⟨_, h, SpritePair.of_comm y.id x.id⟩

theorem sharedBy_eq (hc : c.ids.Nodup) {p : Candidate × Candidate}
    (hp : p ∈ pairs (m.candidates c)) : m.sharedBy p = m.shared? c p.1.id p.2.id := by
  obtain ⟨h₁, h₂⟩ := mem_of_mem_pairs hp
  obtain ⟨s, hs, hidle, hbox, -⟩ := exists_sprite hc h₁
  obtain ⟨t, ht, hidle', hbox', -⟩ := exists_sprite hc h₂
  have hne := ne_of_mem_pairs (m.nodup_candidates hc) hp
  simp [sharedBy, shared?, hs, ht, hidle, hidle', hne, hbox, hbox']

theorem exists_pair_of_shared? (h : m.shared? c a b = some r) :
    ∃ p ∈ pairs (m.candidates c), key p = .of a b := by
  obtain ⟨s, t, hs, ht, hne, hidle, hidle', -⟩ := shared?_eq_some_iff.1 h
  obtain ⟨x, hx, rfl⟩ := exists_candidate (m := m) hs hidle
  obtain ⟨y, hy, rfl⟩ := exists_candidate (m := m) ht hidle'
  exact exists_pair hx hy hne

/-! ## One scan -/

/-- Every pair that is remembered has its lesser id first. -/
def IsOrdered (m : Monitor) : Prop :=
  ∀ k r, m.memory.find? k = some r → k.IsOrdered

theorem detect_eq (m : Monitor) (hc : c.ids.Nodup) :
    m.detect c = ((pairs (m.candidates c)).filterMap (m.retain (m.candidates c)).encounter?,
      (pairs (m.candidates c)).foldl noting (m.retain (m.candidates c))) := by
  unfold detect
  dsimp only
  rw [foldl_look _ _ _ (nodup_keys (m.nodup_candidates hc)), List.nil_append]

theorem mode_detect (m : Monitor) (hc : c.ids.Nodup) : (m.detect c).2.mode = m.mode := by
  rw [m.detect_eq hc]
  exact mode_foldl_noting _ _

theorem spriteSize_detect (m : Monitor) (hc : c.ids.Nodup) :
    (m.detect c).2.spriteSize = m.spriteSize := by
  rw [m.detect_eq hc]
  exact spriteSize_foldl_noting _ _

theorem find?_retain_eq_some {l : List Candidate} {k : SpritePair}
    (h : (m.retain l).memory.find? k = some r) :
    m.memory.find? k = some r ∧ (∃ x ∈ l, x.id = k.low) ∧ ∃ x ∈ l, x.id = k.high := by
  change (m.memory.filter _).find? k = some r at h
  rw [Table.find?_filter, Option.filter_eq_some_iff] at h
  simpa using h

theorem find?_retain {l : List Candidate} {p : Candidate × Candidate} (hp : p ∈ pairs l) :
    (m.retain l).memory.find? (key p) = m.memory.find? (key p) := by
  obtain ⟨h₁, h₂⟩ := mem_of_mem_pairs hp
  change (m.memory.filter _).find? (key p) = _
  rw [Table.find?_filter]
  have hboth : (l.any (·.id == (key p).low) && l.any (·.id == (key p).high)) = true := by
    simp only [Bool.and_eq_true, List.any_eq_true, beq_iff_eq]
    obtain ⟨hlow, hhigh⟩ | ⟨hlow, hhigh⟩ := SpritePair.joins_of p.1.id p.2.id
    · exact ⟨⟨p.1, h₁, hlow.symm⟩, ⟨p.2, h₂, hhigh.symm⟩⟩
    · exact ⟨⟨p.2, h₂, hlow.symm⟩, ⟨p.1, h₁, hhigh.symm⟩⟩
  rw [hboth]
  cases m.memory.find? (key p) <;> rfl

theorem exists_pair_of_find?_detect (hc : c.ids.Nodup) (hm : m.IsOrdered) {k : SpritePair}
    (h : (m.detect c).2.memory.find? k = some r) :
    ∃ p ∈ pairs (m.candidates c), key p = k := by
  by_contra hnone
  -- Then it was retained, so both of its sprites are candidates, which were looked at.
  have hk : k ∉ (pairs (m.candidates c)).map key := fun hk => hnone (List.mem_map.1 hk)
  rw [m.detect_eq hc, find?_foldl_noting_of_notMem _ hk] at h
  obtain ⟨hfind, ⟨x, hx, hlow⟩, y, hy, hhigh⟩ := find?_retain_eq_some h
  have hordered := hm k r hfind
  have hne : x.id ≠ y.id := by
    rw [hlow, hhigh]
    exact String.ne_of_lt hordered
  obtain ⟨p, hp, hkey⟩ := exists_pair hx hy hne
  refine hnone ⟨p, hp, hkey.trans ?_⟩
  rw [hlow, hhigh, SpritePair.of_low_high hordered]

theorem find?_detect (hc : c.ids.Nodup) {p : Candidate × Candidate}
    (hp : p ∈ pairs (m.candidates c)) :
    (m.detect c).2.memory.find? (key p) = m.shared? c p.1.id p.2.id := by
  rw [m.detect_eq hc, find?_foldl_noting _ (nodup_keys (m.nodup_candidates hc)) hp,
    ← sharedBy_eq hc hp]
  rfl

theorem isOrdered_detect (hc : c.ids.Nodup) (hm : m.IsOrdered) : (m.detect c).2.IsOrdered := by
  intro k r h
  obtain ⟨p, hp, rfl⟩ := exists_pair_of_find?_detect hc hm h
  exact SpritePair.isOrdered_of (ne_of_mem_pairs (m.nodup_candidates hc) hp)

/-- After a scan each pair is remembered by what it shares, whatever was remembered before. -/
theorem places_find?_detect (hc : c.ids.Nodup) (hm : m.IsOrdered) (a b : SpriteId) :
    ((m.detect c).2.memory.find? (.of a b)).map Box.places =
      (m.shared? c a b).map Box.places := by
  by_cases hlooked : ∃ p ∈ pairs (m.candidates c), key p = .of a b
  · obtain ⟨p, hp, hkey⟩ := hlooked
    rw [← hkey, find?_detect hc hp]
    rcases SpritePair.of_eq_of_iff.1 hkey with ⟨ha, hb⟩ | ⟨ha, hb⟩
    · rw [ha, hb]
    · rw [ha, hb, shared?_comm]
  · have hforgotten : (m.detect c).2.memory.find? (.of a b) = none :=
      Option.eq_none_iff_forall_ne_some.2 fun r h =>
        hlooked (exists_pair_of_find?_detect hc hm h)
    have happart : m.shared? c a b = none :=
      Option.eq_none_iff_forall_ne_some.2 fun r h => hlooked (exists_pair_of_shared? h)
    rw [hforgotten, happart]

theorem continues_congr (m : Monitor) (k : SpritePair) {r r' : Box} (h : r.places = r'.places) :
    m.continues k r = m.continues k r' := by
  unfold continues
  cases m.memory.find? k with
  | none => rfl
  | some previous => exact Box.meets_congr rfl h

/-- Two sprites share something, their contact does not go on from before, and neither of them is
cooling down. -/
def MeetAnew (m : Monitor) (c : Cast) (a b : SpriteId) : Prop :=
  ∃ r, m.shared? c a b = some r ∧ m.continues (.of a b) r = false ∧ isCooling c a = false ∧
    isCooling c b = false

theorem MeetAnew.symm (h : m.MeetAnew c a b) : m.MeetAnew c b a := by
  obtain ⟨r, hr, hnew, ha, hb⟩ := h
  have hcomm := m.shared?_comm c a b
  rw [hr, Option.map_some, eq_comm, Option.map_eq_some_iff] at hcomm
  obtain ⟨r', hr', hplaces⟩ := hcomm
  refine ⟨r', hr', ?_, hb, ha⟩
  rw [SpritePair.of_comm, m.continues_congr _ hplaces, hnew]

theorem encounter?_eq_some_iff (hc : c.ids.Nodup) {p : Candidate × Candidate}
    (hp : p ∈ pairs (m.candidates c)) {e : Contact} :
    (m.retain (m.candidates c)).encounter? p = some e ↔
      m.MeetAnew c p.1.id p.2.id ∧ e.pair = key p ∧
        m.shared? c p.1.id p.2.id = some e.overlap := by
  obtain ⟨h₁, h₂⟩ := mem_of_mem_pairs hp
  obtain ⟨-, -, -, -, hcooling⟩ := exists_sprite hc h₁
  obtain ⟨-, -, -, -, hcooling'⟩ := exists_sprite hc h₂
  have hshared : (m.retain (m.candidates c)).sharedBy p = m.sharedBy p := rfl
  rw [encounter?, hshared, sharedBy_eq hc hp, ← hcooling, ← hcooling',
    Option.bind_eq_some_iff]
  have hcontinues (r : Box) :
      (m.retain (m.candidates c)).continues (key p) r = m.continues (key p) r := by
    unfold continues
    rw [find?_retain hp]
  constructor
  · rintro ⟨r, hr, he⟩
    rw [hcontinues] at he
    split at he
    · cases he
    · rename_i hnew
      cases he
      simp only [Bool.or_eq_true, not_or, Bool.not_eq_true, and_assoc] at hnew
      exact ⟨⟨r, hr, hnew⟩, rfl, hr⟩
  · rintro ⟨⟨r, hr, hnew⟩, hkey, he⟩
    obtain rfl : r = e.overlap := Option.some.inj (hr.symm.trans he)
    refine ⟨e.overlap, hr, ?_⟩
    rw [hcontinues, if_neg (by simpa [and_assoc, key] using hnew), ← hkey]

/-- A scan reports an encounter of two sprites if and only if they meet anew. -/
theorem exists_encounter_iff (hc : c.ids.Nodup) :
    (∃ e ∈ (m.detect c).1, e.pair.Joins a b) ↔ m.MeetAnew c a b := by
  rw [m.detect_eq hc]
  simp only [List.mem_filterMap]
  constructor
  · rintro ⟨e, ⟨p, hp, he⟩, hjoins⟩
    obtain ⟨hmeet, hkey, -⟩ := (encounter?_eq_some_iff hc hp).1 he
    have hordered := SpritePair.isOrdered_of (ne_of_mem_pairs (m.nodup_candidates hc) hp)
    rw [hkey] at hjoins
    rcases SpritePair.of_eq_of_iff.1 (SpritePair.eq_of_of_joins hordered hjoins) with
      ⟨rfl, rfl⟩ | ⟨rfl, rfl⟩
    · exact hmeet
    · exact hmeet.symm
  · intro hmeet
    obtain ⟨r, hr, -⟩ := id hmeet
    obtain ⟨p, hp, hkey⟩ := exists_pair_of_shared? hr
    have hmeet' : m.MeetAnew c p.1.id p.2.id := by
      rcases SpritePair.of_eq_of_iff.1 hkey with ⟨ha, hb⟩ | ⟨ha, hb⟩
      · rwa [ha, hb]
      · rw [ha, hb]
        exact hmeet.symm
    obtain ⟨r', hr', -⟩ := id hmeet'
    refine ⟨⟨key p, r'⟩, ⟨p, hp, (encounter?_eq_some_iff hc hp).2 ⟨hmeet', rfl, hr'⟩⟩, ?_⟩
    rw [hkey]
    exact SpritePair.joins_of a b

end Monitor

end SpriteStage
