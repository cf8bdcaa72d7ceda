import Mathlib.Data.List.Induction
import SpriteStage.Proofs.ContactGraph
import SpriteStage.Proofs.SwapSpacing
import SpriteStage.Proofs.SwapSymmetry

/-!
# Which encounters of a scan swap

A scan reports its encounters in the order of the cast, judged by the cooldowns before any swap.
The swaps are made one after the other; in each of them two sprites trade scripts and start their
cooldown (`Cast.TradesAll`). If that cooldown is nothing, all encounters swap. Otherwise those do
that a greedy choice takes: front to back, each that has no sprite in common with one taken before
it (`ChosenGreedily`).
-/

namespace SpriteStage

/-! ## Greedy choices -/

/-- Two contacts have a sprite in common. -/
def Contact.Shares (e e' : Contact) : Prop :=
  ∃ id, e.pair.involves id = true ∧ e'.pair.involves id = true

/-- Contacts taken from a list, front to back: each that shares no sprite with one taken before. -/
structure ChosenGreedily (chosen contacts : List Contact) : Prop where
  sublist : chosen.Sublist contacts
  mem_iff : ∀ before e after, contacts = before ++ e :: after →
    (e ∈ chosen ↔ ∀ e' ∈ before, e' ∈ chosen → ¬e'.Shares e)

namespace ChosenGreedily

variable {chosen contacts : List Contact} {e : Contact}

theorem nil : ChosenGreedily [] [] where
  sublist := .slnil
  mem_iff before e after h := by simp at h

/-- One more contact behind the others, which is taken or not. -/
theorem concat (h : ChosenGreedily chosen contacts) (hnew : e ∉ contacts) {taken : List Contact}
    (htaken : taken = [] ∧ (∃ e' ∈ chosen, e'.Shares e) ∨
      taken = [e] ∧ ∀ e' ∈ chosen, ¬e'.Shares e) :
    ChosenGreedily (chosen ++ taken) (contacts ++ [e]) where
  sublist := by
    refine h.sublist.append ?_
    obtain ⟨rfl, -⟩ | ⟨rfl, -⟩ := htaken
    · exact List.nil_sublist _
    · exact .refl _
  mem_iff before x after hsplit := by
    have hmem {y : Contact} (hy : y ∈ contacts) : y ∈ chosen ++ taken ↔ y ∈ chosen := by
      have hne : y ∉ taken := by
        rintro hy'
        obtain ⟨rfl, -⟩ | ⟨rfl, -⟩ := htaken
        · cases hy'
        · exact hnew (List.mem_singleton.1 hy' ▸ hy)
      rw [List.mem_append, or_iff_left hne]
    rcases List.eq_nil_or_concat after with rfl | ⟨after, last, rfl⟩
    · -- The new contact itself: what was taken before it is all that was taken.
      obtain ⟨rfl, heq⟩ := List.append_inj' hsplit rfl
      obtain rfl : e = x := by simpa using heq
      have hnot : e ∉ chosen := fun he => hnew (h.sublist.subset he)
      obtain ⟨rfl, e', he', hshares⟩ | ⟨rfl, hapart⟩ := htaken
      · rw [List.append_nil]
        exact iff_of_false hnot fun hall => hall e' (h.sublist.subset he') he' hshares
      · refine iff_of_true (by simp) fun e' he' hchosen => hapart e' ((hmem he').1 hchosen)
    · have hends : contacts ++ [e] = (before ++ x :: after) ++ [last] := by
        rw [hsplit]
        simp
      have hcontacts : contacts = before ++ x :: after := (List.append_inj' hends rfl).1
      have hx : x ∈ contacts := by simp [hcontacts]
      rw [hmem hx, h.mem_iff before x after hcontacts]
      refine forall₂_congr fun e' he' => ?_
      rw [hmem (by simp [hcontacts, he'])]

/-- What is not taken shares a sprite with something taken before it. -/
theorem exists_of_notMem (h : ChosenGreedily chosen contacts) {before after : List Contact}
    (hsplit : contacts = before ++ e :: after) (he : e ∉ chosen) :
    ∃ e' ∈ before, e' ∈ chosen ∧ e'.Shares e := by
  rw [h.mem_iff before e after hsplit] at he
  push Not at he
  exact he

/-- No two of the contacts taken share a sprite. -/
theorem pairwise (h : ChosenGreedily chosen contacts) :
    chosen.Pairwise fun e e' => ¬e.Shares e' := by
  rw [List.pairwise_iff_forall_sublist]
  intro e e' hsub
  obtain ⟨before, after, hsplit, hbefore⟩ :
      ∃ before after, contacts = before ++ e' :: after ∧ e ∈ before := by
    obtain ⟨first, second, hcontacts, he, he'⟩ := List.cons_sublist_iff.1 (hsub.trans h.sublist)
    obtain ⟨middle, after, rfl⟩ := List.append_of_mem (List.singleton_sublist.1 he')
    exact ⟨first ++ middle, after, by rw [hcontacts, List.append_assoc],
      List.mem_append_left _ he⟩
  have htaken := hsub.subset
  exact (h.mem_iff before e' after hsplit).1 (htaken (by simp)) e hbefore (htaken (by simp))

theorem length_filter_le (h : ChosenGreedily chosen contacts) (id : SpriteId) :
    (chosen.filter (·.pair.involves id)).length ≤ 1 := by
  have hpairwise := h.pairwise.filter (·.pair.involves id)
  cases hlist : chosen.filter (·.pair.involves id) with
  | nil => exact Nat.zero_le _
  | cons first rest =>
      cases rest with
      | nil => exact Nat.le_refl 1
      | cons second rest =>
          have hmem : ∀ e ∈ first :: second :: rest, e.pair.involves id = true := by
            intro e he
            rw [← hlist] at he
            exact (List.mem_filter.1 he).2
          rw [hlist, List.pairwise_cons] at hpairwise
          exact absurd ⟨id, hmem first (by simp), hmem second (by simp)⟩
            (hpairwise.1 second (by simp))

end ChosenGreedily

/-! ## Swaps in a row -/

namespace Cast

variable {c c' : Cast} {cooldown : Nat}

/-- Swaps the sprites of contacts, one contact after the other. -/
def swapAll (c : Cast) (contacts : List Contact) (cooldown : Nat) : Except SwapError Cast :=
  contacts.foldlM (fun c e => c.swap e.pair.low e.pair.high cooldown) c

theorem swapAll_concat {contacts : List Contact} (h : c.swapAll contacts cooldown = .ok c')
    (e : Contact) :
    c.swapAll (contacts ++ [e]) cooldown = c'.swap e.pair.low e.pair.high cooldown := by
  unfold swapAll at h ⊢
  rw [List.foldlM_append, h]
  simp only [List.foldlM_cons, List.foldlM_nil, bind_pure]
  rfl

theorem exists_of_swapAll_cons {e : Contact} {rest : List Contact}
    (h : c.swapAll (e :: rest) cooldown = .ok c') :
    ∃ c₁, c.swap e.pair.low e.pair.high cooldown = .ok c₁ ∧
      c₁.swapAll rest cooldown = .ok c' := by
  unfold swapAll at h ⊢
  rw [List.foldlM_cons] at h
  exact bind_eq_ok_iff.1 h

theorem stances_swapAll {contacts : List Contact} (h : c.swapAll contacts cooldown = .ok c') :
    c'.stances = c.stances := by
  induction contacts generalizing c with
  | nil =>
      cases h
      rfl
  | cons e rest ih =>
      obtain ⟨c₁, hswap, hrest⟩ := exists_of_swapAll_cons h
      exact (ih hrest).trans (stances_swap hswap)

/-- Swaps start the cooldown of every sprite that has part in one, and of no other. -/
theorem cooldownOf_swapAll {contacts : List Contact} (h : c.swapAll contacts cooldown = .ok c')
    (id : SpriteId) :
    c'.cooldownOf id =
      if ∃ e ∈ contacts, e.pair.involves id = true then cooldown else c.cooldownOf id := by
  induction contacts generalizing c with
  | nil =>
      cases h
      rw [if_neg (by simp)]
  | cons e rest ih =>
      obtain ⟨c₁, hswap, hrest⟩ := exists_of_swapAll_cons h
      rw [ih hrest, cooldownOf_swap hswap]
      have hone : (e.pair.low = id ∨ e.pair.high = id) ↔ e.pair.involves id = true := by
        simp [SpritePair.involves]
      simp only [hone, List.exists_mem_cons_iff]
      by_cases hrest' : ∃ e ∈ rest, e.pair.involves id = true
      · rw [if_pos hrest', if_pos (.inr hrest')]
      · rw [if_neg hrest']
        simp only [hrest', or_false]

/-- The two sprites of each contact trade scripts with each other, one contact after the other, and
nothing else changes. -/
inductive TradesAll (cooldown : Nat) : Cast → List Contact → Cast → Prop where
  | nil (c : Cast) : TradesAll cooldown c [] c
  | cons {c c₁ c' : Cast} {s t : Sprite} {e : Contact} {contacts : List Contact} :
      c.find? e.pair.low = some s → c.find? e.pair.high = some t → c.Trades s t cooldown c₁ →
      TradesAll cooldown c₁ contacts c' → TradesAll cooldown c (e :: contacts) c'

theorem tradesAll_of_swapAll {contacts : List Contact} (hc : c.ids.Nodup)
    (h : c.swapAll contacts cooldown = .ok c') : c.TradesAll cooldown contacts c' := by
  induction contacts generalizing c with
  | nil =>
      cases h
      exact .nil _
  | cons e rest ih =>
      obtain ⟨c₁, hswap, hrest⟩ := exists_of_swapAll_cons h
      obtain ⟨s, t, hs, ht, htrades⟩ := exists_trades_of_swap hc hswap
      have hids : c₁.ids = c.ids := ids_eq_of_stances_eq (stances_swap hswap)
      exact .cons hs ht htrades (ih (hids ▸ hc) hrest)

end Cast

namespace Monitor

variable {m : Monitor} {c c' : Cast} {cooldown : Nat} {es chosen : List Contact} {e : Contact}

/-! ## The order of encounters -/

theorem pairs_map {α β : Type} (f : α → β) (l : List α) :
    pairs (l.map f) = (pairs l).map fun p => (f p.1, f p.2) := by
  induction l with
  | nil => rfl
  | cons a rest ih => simp [pairs, ih]

theorem pairs_sublist {α : Type} {l l' : List α} (h : l.Sublist l') :
    (pairs l).Sublist (pairs l') := by
  induction h with
  | slnil => exact .refl _
  | cons a _ ih => exact ih.trans (List.sublist_append_right _ _)
  | cons_cons a h ih => exact (h.map _).append ih

theorem pair_of_encounter? {p : Candidate × Candidate} (h : m.encounter? p = some e) :
    e.pair = key p := by
  obtain ⟨r, -, hr⟩ := Option.bind_eq_some_iff.1 h
  split at hr
  · cases hr
  · cases hr
    rfl

theorem pairs_encounters_sublist (m : Monitor) (l : List (Candidate × Candidate)) :
    ((l.filterMap m.encounter?).map (·.pair)).Sublist (l.map key) := by
  induction l with
  | nil => exact .slnil
  | cons p rest ih =>
      rw [List.filterMap_cons]
      cases he : m.encounter? p with
      | none => exact ih.cons _
      | some e =>
          rw [List.map_cons, List.map_cons, pair_of_encounter? he]
          exact ih.cons_cons _

theorem pairs_detect_sublist_keys (m : Monitor) (hc : c.ids.Nodup) :
    ((m.detect c).1.map (·.pair)).Sublist ((pairs (m.candidates c)).map key) := by
  rw [m.detect_eq hc]
  exact pairs_encounters_sublist _ _

theorem nodup_detect (m : Monitor) (hc : c.ids.Nodup) : (m.detect c).1.Nodup :=
  ((nodup_keys (m.nodup_candidates hc)).sublist (m.pairs_detect_sublist_keys hc)).of_map _

/-- The encounters of a scan come in the order of the cast's pairs. -/
theorem pairs_detect_sublist (m : Monitor) (hc : c.ids.Nodup) :
    ((m.detect c).1.map (·.pair)).Sublist ((pairs c.ids).map fun p => .of p.1 p.2) := by
  have hids : ((m.candidates c).map (·.id)).Sublist c.ids := by
    unfold candidates
    rw [List.map_map]
    exact List.filter_sublist.map _
  have hpairs := (pairs_sublist hids).map fun p => SpritePair.of p.1 p.2
  rw [pairs_map, List.map_map] at hpairs
  exact (m.pairs_detect_sublist_keys hc).trans hpairs

/-! ## The swaps of a scan -/

/-- No swap has to be waited for: neither sprite of the contact is cooling down. -/
def IsFree (e : Contact) (c : Cast) : Prop :=
  c.cooldownOf e.pair.low = 0 ∧ c.cooldownOf e.pair.high = 0

theorem isFree_of_mem_detect (hc : c.ids.Nodup) (he : e ∈ (m.detect c).1) : IsFree e c := by
  rw [m.detect_eq hc] at he
  obtain ⟨p, hp, he⟩ := List.mem_filterMap.1 he
  obtain ⟨⟨r, -, -, h₁, h₂⟩, hkey, -⟩ := (encounter?_eq_some_iff hc hp).1 he
  simp only [Cast.isCooling_eq, decide_eq_false_iff_not, Nat.pos_iff_ne_zero, not_not] at h₁ h₂
  unfold IsFree
  rw [hkey]
  obtain ⟨hlow, hhigh⟩ | ⟨hlow, hhigh⟩ := SpritePair.joins_of p.1.id p.2.id
  · rw [key, hlow, hhigh]
    exact ⟨h₁, h₂⟩
  · rw [key, hlow, hhigh]
    exact ⟨h₂, h₁⟩

/-- After some swaps a sprite of a free contact is cooling down if it had part in one of them and
swaps start a cooldown. -/
theorem isCooling_swapAll_iff (hfree : IsFree e c) (h : c.swapAll chosen cooldown = .ok c') :
    (isCooling c' e.pair.low || isCooling c' e.pair.high) = true ↔
      0 < cooldown ∧ ∃ e' ∈ chosen, e'.Shares e := by
  have hcooling {id : SpriteId} (hid : c.cooldownOf id = 0) :
      isCooling c' id = true ↔ 0 < cooldown ∧ ∃ e' ∈ chosen, e'.pair.involves id = true := by
    rw [Cast.isCooling_eq, decide_eq_true_iff, Cast.cooldownOf_swapAll h, hid]
    split
    · rename_i hsome
      rw [and_iff_left hsome]
    · rename_i hnone
      exact iff_of_false (Nat.lt_irrefl 0) fun h => hnone h.2
  rw [Bool.or_eq_true, hcooling hfree.1, hcooling hfree.2, ← and_or_left]
  refine and_congr_right fun _ => ?_
  rw [← exists_or]
  refine exists_congr fun e' => ?_
  rw [← and_or_left]
  refine and_congr_right fun _ => ?_
  unfold Contact.Shares
  constructor
  · rintro (hlow | hhigh)
    · exact ⟨_, hlow, by simp [SpritePair.involves]⟩
    · exact ⟨_, hhigh, by simp [SpritePair.involves]⟩
  · rintro ⟨id, hid, hid'⟩
    obtain rfl | rfl : e.pair.low = id ∨ e.pair.high = id := by
      simpa [SpritePair.involves] using hid'
    · exact .inl hid
    · exact .inr hid

theorem swapEncounter_eq (hwithin : IsWithin e c) (hfree : IsFree e c)
    (h : c.swapAll chosen cooldown = .ok c') :
    (0 < cooldown ∧ (∃ e' ∈ chosen, e'.Shares e) ∧
        swapEncounter cooldown (chosen, m, c') e = (chosen, m, c')) ∨
      ((0 < cooldown → ∀ e' ∈ chosen, ¬e'.Shares e) ∧
        ∃ c'', c.swapAll (chosen ++ [e]) cooldown = .ok c'' ∧
          swapEncounter cooldown (chosen, m, c') e = (chosen ++ [e], m, c'')) := by
  have hcooling := isCooling_swapAll_iff hfree h
  rw [IsWithin, ← Cast.ids_eq_of_stances_eq (Cast.stances_swapAll h)] at hwithin
  obtain ⟨hwarm, hstate⟩ | ⟨hcold, c'', hswap, hstate⟩ :=
    swapEncounter_of_isWithin (m := m) hwithin cooldown chosen
  · obtain ⟨hpos, hshares⟩ := hcooling.1 hwarm
    exact .inl ⟨hpos, hshares, hstate⟩
  · refine .inr ⟨fun hpos e' he' hshares => ?_, c'', ?_, hstate⟩
    · rw [hcooling.2 ⟨hpos, e', he', hshares⟩] at hcold
      cases hcold
    · rw [Cast.swapAll_concat h, hswap]

/-- The swaps of free encounters, one after the other: all of them if swaps start no cooldown, and
otherwise a greedy choice. -/
theorem foldl_swapEncounter (m : Monitor) (cooldown : Nat)
    (hes : ∀ e ∈ es, IsWithin e c ∧ IsFree e c) (hnodup : es.Nodup) :
    ∃ chosen c', es.foldl (swapEncounter cooldown) ([], m, c) = (chosen, m, c') ∧
      c.swapAll chosen cooldown = .ok c' ∧ (cooldown = 0 → chosen = es) ∧
      (0 < cooldown → ChosenGreedily chosen es) := by
  induction es using List.reverseRecOn with
  | nil => exact ⟨[], c, rfl, rfl, fun _ => rfl, fun _ => .nil⟩
  | append_singleton es e ih =>
      obtain ⟨hbefore, he⟩ := List.forall_mem_append.1 hes
      obtain ⟨hwithin, hfree⟩ := he e (List.mem_singleton_self e)
      obtain ⟨hnodup, -, hnew⟩ := List.nodup_append.1 hnodup
      have hnew : e ∉ es := fun he => hnew e he e (List.mem_singleton_self e) rfl
      obtain ⟨chosen, c', hfold, hall, hzero, hgreedy⟩ := ih hbefore hnodup
      rw [List.foldl_append, hfold, List.foldl_cons, List.foldl_nil]
      obtain ⟨hpos, hshares, hstep⟩ | ⟨hapart, c'', hall', hstep⟩ :=
        swapEncounter_eq (m := m) hwithin hfree hall
      · refine ⟨chosen, c', hstep, hall, fun h => absurd h hpos.ne', fun hpos => ?_⟩
        have hnext := (hgreedy hpos).concat hnew (.inl ⟨rfl, hshares⟩)
        rwa [List.append_nil] at hnext
      · refine ⟨chosen ++ [e], c'', hstep, hall', fun h => by rw [hzero h], fun hpos => ?_⟩
        exact (hgreedy hpos).concat hnew (.inr ⟨rfl, hapart hpos⟩)

end Monitor

/-- A session that is played with four sprites in the same place. -/
def Session.huddled : Session :=
  let spec (id : SpriteId) : SpriteSpec :=
    { id, name := id, start := default, program := { play := [.unknown id] } }
  (ofSettings {}).afterAll
    [.add (spec "ant"), .add (spec "bee"), .add (spec "cat"), .add (spec "dog"), .play 0]

theorem Session.reachable_huddled : huddled.Reachable := (Reachable.new {}).afterAll _

/-- A scan of a reachable session reports its encounters in the order of the cast's pairs. All of
them swap if swaps start no cooldown. If they do, an encounter swaps if and only if it has no sprite
in common with one that swapped before it; then no sprite swaps twice, and what is dropped shares a
sprite with an earlier swap. The cast that the scan leaves is the one that these swaps and no
others make of it, one after the other, whatever was remembered before: in each of them the two
sprites trade scripts, and nothing else changes. -/
theorem Monitor.swaps_greedily {s : Session} (hs : s.Reachable) {c : Cast} (hc : s.Shows c)
    (m : Monitor) (cooldown : Nat) :
    let encounters := (m.detect c).1
    let swapped := (m.coordinate c cooldown).1
    let left := (m.coordinate c cooldown).2.2
    (encounters.map (·.pair)).Sublist ((pairs c.ids).map fun p => .of p.1 p.2) ∧
      (cooldown = 0 → swapped = encounters) ∧
      (0 < cooldown → ChosenGreedily swapped encounters ∧
        (∀ id, (swapped.filter (·.pair.involves id)).length ≤ 1) ∧
        ∀ before e after, encounters = before ++ e :: after → e ∉ swapped →
          ∃ e' ∈ before, e' ∈ swapped ∧ e'.Shares e) ∧
      c.swapAll swapped cooldown = .ok left ∧ c.TradesAll cooldown swapped left := by
  intro encounters swapped left
  have hnodup := hs.nodup_of_shows hc
  obtain ⟨chosen, c', hfold, hall, hzero, hgreedy⟩ := foldl_swapEncounter (m.detect c).2 cooldown
    (fun e he => ⟨isWithin_of_mem_detect hnodup he, isFree_of_mem_detect hnodup he⟩)
    (m.nodup_detect hnodup)
  have hcoordinate : m.coordinate c cooldown = (chosen, (m.detect c).2, c') := hfold
  obtain rfl : chosen = swapped := (congrArg (·.1) hcoordinate).symm
  obtain rfl : c' = left := (congrArg (·.2.2) hcoordinate).symm
  refine ⟨m.pairs_detect_sublist hnodup, hzero, fun hpos => ?_, hall,
    Cast.tradesAll_of_swapAll hnodup hall⟩
  have hchosen := hgreedy hpos
  exact ⟨hchosen, hchosen.length_filter_le, fun _ _ _ hsplit => hchosen.exists_of_notMem hsplit⟩

theorem Monitor.swaps_greedily_huddled :
    let encounters := (Session.huddled.monitor.detect Session.huddled.cast).1
    let swapped := (Session.huddled.monitor.coordinate Session.huddled.cast 2).1
    encounters.length = 6 ∧ swapped.map (·.pair) = [⟨"ant", "bee"⟩, ⟨"cat", "dog"⟩] ∧
      ChosenGreedily swapped encounters ∧ Session.huddled.cast.TradesAll 2 swapped
        (Session.huddled.monitor.coordinate Session.huddled.cast 2).2.2 := by
  intro encounters swapped
  obtain ⟨-, -, hgreedy, -, htrades⟩ := Monitor.swaps_greedily Session.reachable_huddled
    (.inl rfl) Session.huddled.monitor 2
  exact ⟨by decide +kernel, by decide +kernel, (hgreedy (by decide)).1, htrades⟩

end SpriteStage
