import Mathlib.Algebra.Order.Group.Multiset
import Mathlib.Data.List.InsertIdx
import Mathlib.Tactic.Abel
import SpriteStage.Program.Basic
import SpriteStage.Proofs.FallibleResults

/-!
# Moving blocks

Reordering takes a block out of a script and puts it back elsewhere, so it can be taken back by
moving the block the other way (`Program.Moves`). No edit that appends, removes or reorders makes a
block or loses one: what a script has at last, with what was removed, is what it had at first with
what was appended (`Program.reorder_splices`).
-/

namespace SpriteStage

/-! ## Lists -/

section

variable {α : Type} {l : List α} {source target : Nat}

/-- The list with the element at `source` moved to `target`. -/
def movedWithin (l : List α) (source target : Nat) (h : source < l.length) : List α :=
  (l.eraseIdx source).insertIdx target l[source]

theorem length_movedWithin (hs : source < l.length) (ht : target < l.length) :
    (movedWithin l source target hs).length = l.length := by
  have hlength := List.length_eraseIdx_of_lt hs
  rw [movedWithin, List.length_insertIdx_of_le_length (by omega), hlength]
  omega

theorem getElem?_movedWithin (hs : source < l.length) (ht : target < l.length) :
    (movedWithin l source target hs)[target]? = some l[source] := by
  have hlength := List.length_eraseIdx_of_lt hs
  rw [movedWithin, List.getElem?_insertIdx_self, if_pos (by omega)]

theorem eraseIdx_movedWithin (hs : source < l.length) :
    (movedWithin l source target hs).eraseIdx target = l.eraseIdx source :=
  List.eraseIdx_insertIdx_self _

/-- Moving the element back gives the list as it was. -/
theorem movedWithin_movedWithin (hs : source < l.length) (ht : target < l.length)
    (h : target < (movedWithin l source target hs).length) :
    movedWithin (movedWithin l source target hs) target source h = l := by
  have helement : (movedWithin l source target hs)[target] = l[source] := by
    apply Option.some.inj
    rw [← getElem?_movedWithin hs ht, List.getElem?_eq_getElem h]
  calc
    _ = ((movedWithin l source target hs).eraseIdx target).insertIdx source
          (movedWithin l source target hs)[target] := rfl
    _ = (l.eraseIdx source).insertIdx source l[source] := by
          rw [eraseIdx_movedWithin, helement]
    _ = l := List.insertIdx_eraseIdx_getElem hs

theorem perm_movedWithin (hs : source < l.length) (ht : target < l.length) :
    (movedWithin l source target hs).Perm l := by
  have hlength := List.length_eraseIdx_of_lt hs
  exact (List.perm_insertIdx _ _ (by omega)).trans (List.getElem_cons_eraseIdx_perm hs)

end

namespace Program

variable {p q : Program} {t : Trigger} {source target : Nat}

/-! ## One move -/

theorem reorder_eq_ok (hs : source < (p.script t).length) (ht : target < (p.script t).length) :
    p.reorder t source target =
      .ok (p.withScript t (movedWithin (p.script t) source target hs)) := by
  simp [reorder, movedWithin, hs, ht]

/-- One program is another with the block at `source` moved to `target`: that block is there now,
the others are as they were without it, and the move the other way takes it back. -/
structure Moves (t : Trigger) (source target : Nat) (p q : Program) : Prop where
  length : (q.script t).length = (p.script t).length
  block : (q.script t)[target]? = (p.script t)[source]?
  others : (q.script t).eraseIdx target = (p.script t).eraseIdx source
  back : q.reorder t target source = .ok p
  other : q.script t.other = p.script t.other

theorem exists_moves (hs : source < (p.script t).length) (ht : target < (p.script t).length) :
    ∃ q, p.reorder t source target = .ok q ∧ Moves t source target p q := by
  have hlength := length_movedWithin hs ht
  refine ⟨_, reorder_eq_ok hs ht, ?_⟩
  constructor
  · rw [script_withScript_self, hlength]
  · rw [script_withScript_self, getElem?_movedWithin hs ht, List.getElem?_eq_getElem hs]
  · rw [script_withScript_self, eraseIdx_movedWithin]
  · rw [reorder_eq_ok (by simpa [hlength] using ht) (by simpa [hlength] using hs)]
    simp only [script_withScript_self, movedWithin_movedWithin hs ht, withScript_withScript,
      withScript_script]
  · rw [script_withScript_other]

/-! ## Edits that keep blocks whole -/

/-- An edit that leaves every block as it is: it puts one in, takes one out or moves one. -/
def Edit.keepsBlocks : Edit → Bool
  | append _ | remove _ | reorder .. => true
  | update .. | appendToRepeat .. => false

/-- The block that an edit puts in. -/
def Edit.appended? : Edit → Option Block
  | append block => some block
  | _ => none

/-- What the edits of a script have come to so far: the program, and all blocks that they have put
in and taken out. -/
structure Ledger where
  program : Program
  appended : List Block := []
  removed : List Block := []

/-- Enters an edit in a ledger. One that is rejected leaves it as it is. -/
def Ledger.enter (t : Trigger) (ledger : Ledger) (e : Edit) : Ledger :=
  match ledger.program.edit t e with
  | .ok (removed, program) =>
    { program
      appended := ledger.appended ++ e.appended?.toList
      removed := ledger.removed ++ removed.toList }
  | .error _ => ledger

/-- The ledger of edits of a program, one after the other. -/
def ledger (p : Program) (t : Trigger) (edits : List Edit) : Ledger :=
  edits.foldl (Ledger.enter t) { program := p }

/-- The blocks that a script has and those that were taken out of it are the ones that it had at
first and those that were put in. -/
structure Ledger.Balances (t : Trigger) (p : Program) (ledger : Ledger) : Prop where
  blocks : (ledger.program.script t + ledger.removed : Multiset Block) =
    p.script t + ledger.appended
  other : ledger.program.script t.other = p.script t.other

theorem balances_append (block : Block) : Ledger.Balances t p ⟨p.append t block, [block], []⟩ := by
  constructor
  · simp only [append, script_withScript_self, ← Multiset.coe_add, Multiset.coe_nil, add_zero]
  · rw [append, script_withScript_other]

theorem balances_remove {index : Nat} {block : Block} (h : p.remove t index = .ok (block, q)) :
    Ledger.Balances t p ⟨q, [], [block]⟩ := by
  simp only [remove] at h
  split at h
  · rename_i hblock
    cases h
    obtain ⟨hindex, rfl⟩ := List.getElem?_eq_some_iff.1 hblock
    constructor
    · simp only [script_withScript_self, Multiset.coe_add, Multiset.coe_eq_coe, List.append_nil]
      exact List.perm_append_comm.trans (List.getElem_cons_eraseIdx_perm hindex)
    · rw [script_withScript_other]
  · cases h

theorem balances_reorder (h : p.reorder t source target = .ok q) :
    Ledger.Balances t p ⟨q, [], []⟩ := by
  have hrange : source < (p.script t).length ∧ target < (p.script t).length := by
    simp only [reorder] at h
    split at h
    · rename_i hblock
      split at h
      · exact ⟨(List.getElem?_eq_some_iff.1 hblock).1, ‹_›⟩
      · cases h
    · cases h
  obtain ⟨hs, ht⟩ := hrange
  rw [reorder_eq_ok hs ht] at h
  cases h
  constructor
  · simpa using perm_movedWithin hs ht
  · rw [script_withScript_other]

/-- An edit that is carried out balances. -/
theorem balances_edit {e : Edit} {removed : Option Block} (he : e.keepsBlocks = true)
    (h : p.edit t e = .ok (removed, q)) :
    Ledger.Balances t p ⟨q, e.appended?.toList, removed.toList⟩ := by
  cases e with
  | append block =>
      cases h
      exact balances_append block
  | remove index =>
      obtain ⟨⟨block, q'⟩, hremove, h⟩ := map_eq_ok_iff.1 h
      cases h
      exact balances_remove hremove
  | reorder source target =>
      obtain ⟨q', hreorder, h⟩ := map_eq_ok_iff.1 h
      cases h
      exact balances_reorder hreorder
  | update | appendToRepeat => cases he

/-- An edit more leaves the ledger balanced, carried out or rejected. -/
theorem Ledger.Balances.enter {ledger : Ledger} (h : ledger.Balances t p) {e : Edit}
    (he : e.keepsBlocks = true) : (ledger.enter t e).Balances t p := by
  unfold Ledger.enter
  split
  · rename_i removed q hedit
    have hstep := balances_edit he hedit
    refine ⟨?_, hstep.other.trans h.other⟩
    simp only [← Multiset.coe_add]
    calc (q.script t + (ledger.removed + removed.toList) : Multiset Block)
        = q.script t + removed.toList + ledger.removed := by abel
      _ = ledger.program.script t + e.appended?.toList + ledger.removed := by rw [hstep.blocks]
      _ = ledger.program.script t + ledger.removed + e.appended?.toList := by abel
      _ = p.script t + (ledger.appended + e.appended?.toList) := by rw [h.blocks, add_assoc]
  · exact h

theorem balances_ledger (p : Program) (t : Trigger) {edits : List Edit}
    (hedits : ∀ e ∈ edits, e.keepsBlocks = true) : (p.ledger t edits).Balances t p := by
  have hfold (ledger : Ledger) (h : ledger.Balances t p) :
      (edits.foldl (Ledger.enter t) ledger).Balances t p := by
    induction edits generalizing ledger with
    | nil => exact h
    | cons e rest ih =>
        obtain ⟨he, hrest⟩ := List.forall_mem_cons.1 hedits
        exact ih hrest _ (h.enter he)
  exact hfold _ ⟨rfl, rfl⟩

/-- A move inside a script puts its block where it should be, disturbs no other block, and is undone
by the move the other way. So whatever is appended, removed and reordered in a script, with or
without success, its blocks and those removed from it are always the blocks that it had and those
appended to it. -/
theorem reorder_splices (p : Program) (t : Trigger) :
    (∀ source target, source < (p.script t).length → target < (p.script t).length →
      ∃ q, p.reorder t source target = .ok q ∧ Moves t source target p q) ∧
      ∀ edits : List Edit, (∀ e ∈ edits, e.keepsBlocks = true) → (p.ledger t edits).Balances t p :=
  ⟨fun _ _ hs ht => exists_moves hs ht, fun _ hedits => balances_ledger p t hedits⟩

/-- A script of three blocks. -/
def threeTurns : Program := { play := [.turn 1, .turn 2, .turn 3] }

theorem reorder_splices_threeTurns :
    let edits : List Edit := [.reorder 0 2, .remove 3, .append (.turn 4), .remove 1, .reorder 3 0]
    (∃ q, threeTurns.reorder .play 0 2 = .ok q ∧ q.play = [.turn 2, .turn 3, .turn 1] ∧
      Moves .play 0 2 threeTurns q) ∧
      (threeTurns.ledger .play edits).program.play = [.turn 2, .turn 1, .turn 4] ∧
      (threeTurns.ledger .play edits).removed = [.turn 3] ∧
      (threeTurns.ledger .play edits).Balances .play threeTurns := by
  intro edits
  obtain ⟨hmoves, hbalances⟩ := reorder_splices threeTurns .play
  obtain ⟨q, hq, hmove⟩ := hmoves 0 2 (by decide) (by decide)
  refine ⟨⟨q, hq, ?_, hmove⟩, rfl, rfl, hbalances edits (by decide)⟩
  cases hq
  rfl

end Program

end SpriteStage
