import SpriteStage.Proofs.DecodedBlocks

/-!
# Finite numbers of decoded blocks

What is not a number falls back to a default, and the defaults are finite. The decoder asks a number
to be finite in 64 bits, which every one is, and asks nothing once it is rounded to 32. A number
that 64 bits hold and 32 do not falls back to nothing, so finiteness has to be asked of all numbers
that are read from the payload and the payloads inside it (`Block.isFinite_numbers_iff`).
-/

namespace SpriteStage

open Binary

namespace Block

mutual

/-- The numbers of a block and of the blocks inside it. -/
def numbers : Block → List Single
  | move steps => [steps]
  | turn degrees => [degrees]
  | goto x y => [x, y]
  | speak _ _ seconds => [seconds]
  | repeated _ body => listNumbers body
  | unknown _ => []

def listNumbers : List Block → List Single
  | [] => []
  | block :: body => numbers block ++ listNumbers body

end

end Block

namespace EditorBlock

/-- The fields of a block that hold its numbers. -/
def numberFields (kind : String) : List String :=
  match kind with
  | "move" => ["steps"]
  | "turn" => ["degrees"]
  | "goto" => ["x", "y"]
  | "say" | "think" => ["seconds"]
  | _ => []

theorem numberFields_of_notMem {kind : String} (hkind : kind ∉ kinds) : numberFields kind = [] := by
  unfold numberFields
  split
  case h_6 => rfl
  all_goals exact absurd (by decide) hkind

/-- The numbers that a payload and the payloads inside it give to those fields. -/
inductive Reads : EditorBlock → Json.Number → Prop where
  | field {b : EditorBlock} {field : String} {n : Json.Number} : field ∈ numberFields b.kind →
      b.payload.field? field = some (.number n) → Reads b n
  | item {b inner : EditorBlock} {items : List Json} {item : Json} {n : Json.Number} :
      b.kind = "repeat" → b.payload.field? "actions" = some (.array items) → item ∈ items →
      record.decode.ofJson item = .ok inner → Reads inner n → Reads b n

theorem Reads.isValid {b : EditorBlock} {n : Json.Number} (h : b.Reads n)
    (hb : b.payload.IsValid) : n.IsValid := by
  induction h with
  | field _ hfield => exact Json.isValid_number_iff.1 (hb.field? hfield)
  | item _ hfield hitem hdecode _ ih =>
      cases hb.field? hfield with
      | array hitems => exact ih (isValid_payload_of_ofJson (hitems _ hitem) hdecode)

variable {payload : Json}

theorem GivesNumber.isFinite_or_reads {kind field : String} {default x : Single}
    (h : GivesNumber payload field default x) (hdefault : default.isFinite = true)
    (hfield : field ∈ numberFields kind) :
    x.isFinite = true ∨ ∃ n, Reads ⟨kind, payload⟩ n ∧ n.RoundsTwice x := by
  cases h with
  | number hread hx => exact .inr ⟨_, .field hfield hread, hx⟩
  | default _ => exact .inl hdefault

theorem GivesNumber.roundsTwice {field : String} {default x : Single} {n : Json.Number}
    (h : GivesNumber payload field default x) (hread : payload.field? field = some (.number n)) :
    n.RoundsTwice x := by
  cases h with
  | number hread' hx =>
      cases hread.symm.trans hread'
      exact hx
  | default hnot => exact absurd hread (hnot n)

mutual

/-- A number that a form spells is finite by default or was read from a payload. -/
theorem Spells.isFinite_or_reads {b : EditorBlock} {block : Block} (h : b.Spells block) :
    ∀ x ∈ block.numbers, x.isFinite = true ∨ ∃ n, b.Reads n ∧ n.RoundsTwice x := by
  cases h with
  | move hsteps =>
      exact List.forall_mem_singleton.2 (hsteps.isFinite_or_reads (by decide) (by decide))
  | turn hdegrees =>
      exact List.forall_mem_singleton.2 (hdegrees.isFinite_or_reads (by decide) (by decide))
  | goto hx hy =>
      exact List.forall_mem_cons.2 ⟨hx.isFinite_or_reads (by decide) (by decide),
        List.forall_mem_singleton.2 (hy.isFinite_or_reads (by decide) (by decide))⟩
  | speak kind _ hseconds =>
      refine List.forall_mem_singleton.2 (hseconds.isFinite_or_reads (by decide) ?_)
      cases kind <;> decide
  | repeated _ _ hitems hbody =>
      intro x hx
      rcases hbody.isFinite_or_reads x hx with hfinite | ⟨item, hitem, inner, hdecode, n, hn, hx⟩
      · exact .inl hfinite
      · cases hitems with
        | array hfield => exact .inr ⟨n, .item rfl hfield hitem hdecode hn, hx⟩
        | default _ => cases hitem
  | unknown _ => exact fun _ hx => absurd hx List.not_mem_nil

theorem SpellAll.isFinite_or_reads {items : List Json} {body : List Block}
    (h : SpellAll items body) :
    ∀ x ∈ Block.listNumbers body, x.isFinite = true ∨
      ∃ item ∈ items, ∃ inner, record.decode.ofJson item = .ok inner ∧
        ∃ n, inner.Reads n ∧ n.RoundsTwice x := by
  cases h with
  | nil => exact fun _ hx => absurd hx List.not_mem_nil
  | @block item inner block items body hdecode hblock hbody =>
      intro x hx
      rcases List.mem_append.1 hx with hx | hx
      · exact (hblock.isFinite_or_reads x hx).imp_right fun hreads =>
          ⟨item, List.mem_cons_self, inner, hdecode, hreads⟩
      · exact (hbody.isFinite_or_reads x hx).imp_right fun ⟨other, hother, hreads⟩ =>
          ⟨other, List.mem_cons_of_mem _ hother, hreads⟩
  | malformed _ hbody =>
      intro x hx
      exact (hbody.isFinite_or_reads x hx).imp_right fun ⟨other, hother, hreads⟩ =>
        ⟨other, List.mem_cons_of_mem _ hother, hreads⟩

end

theorem SpellAll.exists_spells {items : List Json} {body : List Block} (h : SpellAll items body)
    {item : Json} (hitem : item ∈ items) {inner : EditorBlock}
    (hdecode : record.decode.ofJson item = .ok inner) :
    ∃ block, inner.Spells block ∧ ∀ x ∈ block.numbers, x ∈ Block.listNumbers body := by
  match h with
  | @SpellAll.block _ _ first _ _ hdecode' hfirst hbody =>
      rcases List.mem_cons.1 hitem with rfl | hitem
      · cases hdecode.symm.trans hdecode'
        exact ⟨first, hfirst, fun x hx => List.mem_append_left _ hx⟩
      · obtain ⟨block, hblock, hnumbers⟩ := hbody.exists_spells hitem hdecode
        exact ⟨block, hblock, fun x hx => List.mem_append_right _ (hnumbers x hx)⟩
  | .malformed herror hbody =>
      rcases List.mem_cons.1 hitem with rfl | hitem
      · cases hdecode.symm.trans herror
      · exact hbody.exists_spells hitem hdecode

/-- Every number that is read stands in the block. -/
theorem Reads.exists_mem_numbers {b : EditorBlock} {n : Json.Number} (h : b.Reads n)
    {block : Block} (hblock : b.Spells block) : ∃ x ∈ block.numbers, n.RoundsTwice x := by
  induction h generalizing block with
  | @field b field n hfield hread =>
      cases hblock with
      | move hsteps =>
          cases List.mem_singleton.1 hfield
          exact ⟨_, List.mem_singleton_self _, hsteps.roundsTwice hread⟩
      | turn hdegrees =>
          cases List.mem_singleton.1 hfield
          exact ⟨_, List.mem_singleton_self _, hdegrees.roundsTwice hread⟩
      | goto hx hy =>
          rcases List.mem_cons.1 hfield with rfl | hfield
          · exact ⟨_, List.mem_cons_self, hx.roundsTwice hread⟩
          · cases List.mem_singleton.1 hfield
            exact ⟨_, by simp [Block.numbers], hy.roundsTwice hread⟩
      | speak kind _ hseconds =>
          have hseconds' : field = "seconds" := by
            cases kind <;> exact List.mem_singleton.1 hfield
          cases hseconds'
          exact ⟨_, List.mem_singleton_self _, hseconds.roundsTwice hread⟩
      | repeated => exact absurd hfield List.not_mem_nil
      | unknown hkind => exact absurd hfield (numberFields_of_notMem hkind ▸ List.not_mem_nil)
  | item hkind hfield hitem hdecode _ ih =>
      cases hblock with
      | repeated _ _ hitems hbody =>
          cases hitems with
          | array hfield' =>
              cases hfield.symm.trans hfield'
              obtain ⟨inner, hinner, hnumbers⟩ := hbody.exists_spells hitem hdecode
              obtain ⟨x, hx, hrounds⟩ := ih hinner
              exact ⟨x, hnumbers x hx, hrounds⟩
          | default hnot => exact absurd hfield (hnot _)
      | speak kind => cases kind <;> simp [BubbleKind.label] at hkind
      | unknown hunknown =>
          cases hkind
          exact absurd (by decide) hunknown
      | _ => simp at hkind

end EditorBlock

namespace Block

open EditorBlock

/-- No number of a decoded block is a NaN, and they are all finite exactly if every number that was
read for them is small enough for 32 bits. -/
theorem isFinite_numbers_iff (b : EditorBlock) (hb : b.payload.IsValid) :
    (∀ x ∈ (ofEditor b).numbers, x.isNaN = false) ∧
      ((∀ x ∈ (ofEditor b).numbers, x.isFinite = true) ↔
        ∀ n, b.Reads n → |n.toRat| < Format.single.overflow) := by
  have hspells := spells_ofEditor hb
  refine ⟨fun x hx => ?_, fun hfinite n hn => ?_, fun hsmall x hx => ?_⟩
  · rcases hspells.isFinite_or_reads x hx with hfinite | ⟨n, -, hrounds⟩
    · obtain ⟨_, _, _, rfl⟩ := exists_finite_of_isFinite hfinite
      rfl
    · exact hrounds.isNaN
  · obtain ⟨x, hx, hrounds⟩ := hn.exists_mem_numbers hspells
    exact (hrounds.isFinite_iff (hn.isValid hb)).1 (hfinite x hx)
  · rcases hspells.isFinite_or_reads x hx with hfinite | ⟨n, hn, hrounds⟩
    · exact hfinite
    · exact (hrounds.isFinite_iff (hn.isValid hb)).2 (hsmall n hn)

/-- A repeat of a move whose length stands in the payload inside. -/
def repeatedMove : EditorBlock :=
  ⟨"repeat", .object [("actions", .array [.array [.string "move",
    .object [("steps", .number (.integer 25))]]]), ("count", .number (.integer 2))]⟩

theorem isFinite_numbers_iff_move :
    repeatedMove.payload.IsValid ∧ repeatedMove.Reads (.integer 25) ∧
      (ofEditor repeatedMove).numbers = [25] ∧
      (∀ x ∈ (ofEditor repeatedMove).numbers, x.isFinite = true) ∧
      ∀ n, repeatedMove.Reads n → |n.toRat| < Format.single.overflow := by
  have hmove :
      (Json.array [.string "move", .object [("steps", .number (.integer 25))]]).IsValid := by
    refine .array (List.forall_mem_cons.2 ⟨.string "move", List.forall_mem_singleton.2 ?_⟩)
    exact .object (by decide) (List.forall_mem_singleton.2 (.number (by decide)))
  have hvalid : repeatedMove.payload.IsValid := by
    refine .object (by decide) (List.forall_mem_cons.2 ⟨?_, List.forall_mem_singleton.2 ?_⟩)
    · exact .array (List.forall_mem_singleton.2 hmove)
    · exact .number (by decide)
  have hsteps : "steps" ∈ numberFields "move" := by decide
  have hreads : repeatedMove.Reads (.integer 25) :=
    .item rfl rfl (List.mem_singleton_self _) ((decode_ofJson_iff hmove).2 rfl)
      (.field hsteps rfl)
  have hnumbers : (ofEditor repeatedMove).numbers = [25] := by decide +kernel
  have hfinite : ∀ x ∈ (ofEditor repeatedMove).numbers, x.isFinite = true := by
    rw [hnumbers]
    exact List.forall_mem_singleton.2 (by decide)
  exact ⟨hvalid, hreads, hnumbers, hfinite, (isFinite_numbers_iff _ hvalid).2.1 hfinite⟩

/-- A move by more than 32 bits hold. -/
def hugeMove : String := "[\"move\",\x7b\"steps\":1e39\x7d]"

/-- Not every number of a decoded block is finite: one that 64 bits hold and 32 do not becomes an
infinity. -/
theorem not_isFinite_numbers :
    ¬ ∀ (text : String) (b : EditorBlock), record.decode.ofText text = .ok b →
      ∀ x ∈ (ofEditor b).numbers, x.isFinite = true := by
  intro h
  have hinfinite : (record.decode.ofText hugeMove).toOption.any
      (fun b => (ofEditor b).numbers.any fun x => !x.isFinite) = true := by
    decide +kernel
  obtain ⟨b, hb, hnot⟩ := (Option.any_eq_true _ _).1 hinfinite
  have hdecode : record.decode.ofText hugeMove = .ok b := by
    generalize record.decode.ofText hugeMove = result at hb
    cases result with
    | error e => cases hb
    | ok b' =>
        cases hb
        rfl
  obtain ⟨x, hx, hnot⟩ := List.any_eq_true.1 hnot
  rw [h hugeMove b hdecode x hx] at hnot
  cases hnot

end Block

end SpriteStage
