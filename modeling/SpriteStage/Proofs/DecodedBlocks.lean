import SpriteStage.Proofs.EditorRecords
import SpriteStage.Proofs.PayloadNumbers

/-!
# Decoded blocks

`EditorBlock.Spells` says which block the editor's form spells, field by field and at every depth.
Decoding a block with a valid payload gives the block that it spells
(`Block.ofEditor_keeps_structure`).
-/

namespace SpriteStage

open Binary

/-! ## What the editor's form spells -/

namespace EditorBlock

/-- The number that a payload gives to a field: the field's own if it is a number, or else the
default. -/
inductive GivesNumber (payload : Json) (field : String) (default : Single) : Single → Prop where
  | number {n : Json.Number} {x : Single} : payload.field? field = some (.number n) →
      n.RoundsTwice x → GivesNumber payload field default x
  | default : (∀ n, payload.field? field ≠ some (.number n)) →
      GivesNumber payload field default default

/-- The text that a payload gives to a field. -/
inductive GivesText (payload : Json) (field : String) : String → Prop where
  | missing : payload.field? field = none → GivesText payload field ""
  | null : payload.field? field = some .null → GivesText payload field ""
  | string {s : String} : payload.field? field = some (.string s) → GivesText payload field s
  | other {value : Json} : payload.field? field = some value → value ≠ .null →
      (∀ s, value ≠ .string s) → GivesText payload field value.compact

/-- The items of a payload's body; a body that is not an array has none. -/
inductive GivesItems (payload : Json) : List Json → Prop where
  | array {items : List Json} : payload.field? "actions" = some (.array items) →
      GivesItems payload items
  | default : (∀ items, payload.field? "actions" ≠ some (.array items)) → GivesItems payload []

/-- The kinds of blocks that are known. -/
def kinds : List String := ["move", "turn", "goto", "say", "think", "repeat"]

mutual

/-- The block that the editor's form spells. -/
inductive Spells : EditorBlock → Block → Prop where
  | move {payload : Json} {steps : Single} : GivesNumber payload "steps" 0 steps →
      Spells ⟨"move", payload⟩ (.move steps)
  | turn {payload : Json} {degrees : Single} : GivesNumber payload "degrees" 0 degrees →
      Spells ⟨"turn", payload⟩ (.turn degrees)
  | goto {payload : Json} {x y : Single} : GivesNumber payload "x" 0 x →
      GivesNumber payload "y" 0 y → Spells ⟨"goto", payload⟩ (.goto x y)
  | speak {payload : Json} {text : String} {seconds : Single} (kind : BubbleKind) :
      GivesText payload "text" text → GivesNumber payload "seconds" 1 seconds →
      Spells ⟨kind.label, payload⟩ (.speak kind text seconds)
  | repeated {payload : Json} {raw : Single} {count : Int} {items : List Json} {body : List Block} :
      GivesNumber payload "count" 1 raw → GivesCount raw count → GivesItems payload items →
      SpellAll items body → Spells ⟨"repeat", payload⟩ (.repeated count body)
  | unknown {kind : String} {payload : Json} : kind ∉ kinds → Spells ⟨kind, payload⟩ (.unknown kind)

/-- The blocks that the items of a body spell, in order. -/
inductive SpellAll : List Json → List Block → Prop where
  | nil : SpellAll [] []
  | block {item : Json} {inner : EditorBlock} {block : Block} {items : List Json}
      {body : List Block} : record.decode.ofJson item = .ok inner → Spells inner block →
      SpellAll items body → SpellAll (item :: items) (block :: body)
  | malformed {item : Json} {e : Json.DecodeError} {items : List Json} {body : List Block} :
      record.decode.ofJson item = .error e → SpellAll items body →
      SpellAll (item :: items) (.unknown "malformed" :: body)

end

variable {payload : Json}

theorem givesNumber (hpayload : payload.IsValid) (field : String) (default : Single) :
    GivesNumber payload field default (number payload field default) := by
  unfold number
  split
  · rename_i hmissing
    exact .default (by simp [hmissing])
  · rename_i hnull
    exact .default (by simp [hnull])
  · rename_i value _ hfield
    have hvalue := hpayload.field? hfield
    cases hfinite : finite? value with
    | some x =>
        obtain ⟨n, rfl, rfl⟩ := (finite?_eq_some_iff hvalue).1 hfinite
        have hvalid := Json.isValid_number_iff.1 hvalue
        exact .number hfield (Json.Number.roundsTwice_convert hvalid)
    | none =>
        refine .default fun n hn => ?_
        obtain rfl : value = .number n := Option.some.inj (hfield.symm.trans hn)
        have hsome := (finite?_eq_some_iff hvalue).2 ⟨n, rfl, rfl⟩
        cases hfinite.symm.trans hsome

theorem GivesNumber.isNaN {field : String} {default x : Single}
    (h : GivesNumber payload field default x) (hdefault : default.isNaN = false) :
    x.isNaN = false := by
  cases h with
  | number _ hx => exact hx.isNaN
  | default _ => exact hdefault

theorem givesText (payload : Json) (field : String) :
    GivesText payload field (text payload field) := by
  unfold text
  split
  · rename_i hfield
    exact .missing hfield
  · rename_i hfield
    exact .null hfield
  · rename_i hfield
    exact .string hfield
  · rename_i value hnull hstring hfield
    exact .other hfield hnull hstring

theorem givesItems (payload : Json) : GivesItems payload (items payload) := by
  unfold items
  split
  · rename_i hfield
    exact .array hfield
  · rename_i hnot
    exact .default hnot

theorem isValid_items (hpayload : payload.IsValid) : ∀ item ∈ items payload, item.IsValid := by
  unfold items
  split
  · rename_i hfield
    cases hpayload.field? hfield with
    | array hitems => exact hitems
  · simp

end EditorBlock

/-! ## Decoding -/

namespace Block

open EditorBlock

/-- The block that an item of a body stands for. -/
def ofItem (item : Json) : Block :=
  match record.decode.ofJson item with
  | .ok inner => ofEditor inner
  | .error _ => unknown "malformed"

theorem ofItem_eq {item : Json} (hitem : item.IsValid) :
    ofItem item = match ofJson? item with
      | some inner => ofEditor inner
      | none => malformed := by
  unfold ofItem
  split
  · rename_i inner hdecode
    rw [(decode_ofJson_iff hitem).1 hdecode]
  · rename_i e hdecode
    split
    · rename_i inner hshape
      cases hdecode.symm.trans ((decode_ofJson_iff hitem).2 hshape)
    · rfl

theorem ofEditor_repeat {payload : Json} (hpayload : payload.IsValid) :
    ofEditor ⟨"repeat", payload⟩ =
      repeated (count (number payload "count" 1)) ((items payload).map ofItem) := by
  have hmap : (items payload).map ofItem = (items payload).attach.map fun item => ofItem item.1 :=
    List.attach_map_val.symm
  rw [ofEditor, hmap]
  refine congrArg (repeated _) (List.map_congr_left fun item _ => ?_)
  obtain ⟨item, hitem⟩ := item
  rw [ofItem_eq (isValid_items hpayload item hitem)]
  dsimp only
  split
  · rename_i inner hshape
    rw [hshape]
  · rename_i hshape
    rw [hshape]

theorem ofEditor_goto (payload : Json) :
    ofEditor ⟨"goto", payload⟩ = goto (number payload "x" 0) (number payload "y" 0) := by
  rw [ofEditor]
  rfl

theorem ofEditor_unknown {kind : String} (payload : Json) (hkind : kind ∉ kinds) :
    ofEditor ⟨kind, payload⟩ = unknown kind := by
  rw [ofEditor]
  dsimp only
  split
  case h_7 => rfl
  all_goals exact absurd (by decide) hkind

theorem spellAll_map_ofItem {items : List Json}
    (h : ∀ item ∈ items, ∀ inner, record.decode.ofJson item = .ok inner →
      inner.Spells (ofEditor inner)) : SpellAll items (items.map ofItem) := by
  induction items with
  | nil => exact .nil
  | cons item items ih =>
      obtain ⟨hitem, hitems⟩ := List.forall_mem_cons.1 h
      rw [List.map_cons, ofItem]
      split
      · rename_i inner hdecode
        exact .block hdecode (hitem inner hdecode) (ih hitems)
      · rename_i e hdecode
        exact .malformed hdecode (ih hitems)

/-- A block with a valid payload is decoded to what it spells. -/
theorem spells_ofEditor {b : EditorBlock} (hb : b.payload.IsValid) : b.Spells (ofEditor b) := by
  -- The blocks inside a repeat have smaller payloads, which is what the decoder goes by as well.
  match b, hb with
  | ⟨kind, payload⟩, hpayload =>
    by_cases hkind : kind ∈ kinds
    · simp only [kinds, List.mem_cons, List.not_mem_nil, or_false] at hkind
      rcases hkind with rfl | rfl | rfl | rfl | rfl | rfl
      · rw [ofEditor]
        exact .move (givesNumber hpayload _ _)
      · rw [ofEditor]
        exact .turn (givesNumber hpayload _ _)
      · rw [ofEditor]
        exact .goto (givesNumber hpayload _ _) (givesNumber hpayload _ _)
      · rw [ofEditor]
        exact .speak .say (givesText _ _) (givesNumber hpayload _ _)
      · rw [ofEditor]
        exact .speak .think (givesText _ _) (givesNumber hpayload _ _)
      · rw [ofEditor_repeat hpayload]
        have hcount := givesNumber hpayload "count" 1
        refine .repeated hcount (givesCount (hcount.isNaN (by decide))) (givesItems payload)
          (spellAll_map_ofItem fun item hitem inner hinner => ?_)
        have hvalid := isValid_items hpayload item hitem
        have hsmaller : sizeOf inner.payload < sizeOf payload :=
          (sizeOf_payload_le ((decode_ofJson_iff hvalid).1 hinner)).trans_lt
            (sizeOf_of_mem_items hitem)
        exact spells_ofEditor (isValid_payload_of_ofJson hvalid hinner)
    · rw [ofEditor_unknown payload hkind]
      exact .unknown hkind
termination_by sizeOf b.payload

/-- So is every block that is read from a text. -/
theorem spells_of_text {text : String} {b : EditorBlock} (h : record.decode.ofText text = .ok b) :
    b.Spells (ofEditor b) := spells_ofEditor (isValid_payload_of_text h)

theorem kind_eq_of_spells {b : EditorBlock} {block : Block} (h : b.Spells block) :
    block.kind = b.kind := by
  cases h <;> rfl

/-- Decoding keeps the structure of the editor's form: the block is the one that the form spells at
every depth, it is of the form's kind, and a repeat has a block in its body for every item, in
order. -/
theorem ofEditor_keeps_structure (b : EditorBlock) (hb : b.payload.IsValid) :
    b.Spells (ofEditor b) ∧ (ofEditor b).kind = b.kind ∧
      ∀ items, b.kind = "repeat" → b.payload.field? "actions" = some (.array items) →
        ∃ count body, ofEditor b = repeated count body ∧ body.length = items.length ∧
          ∀ i : Nat, body[i]? = items[i]?.map ofItem := by
  have hspells := spells_ofEditor hb
  refine ⟨hspells, kind_eq_of_spells hspells, fun items hkind hitems => ?_⟩
  obtain ⟨kind, payload⟩ := b
  cases hkind
  have hread : EditorBlock.items payload = items := by
    unfold EditorBlock.items
    rw [hitems]
  rw [ofEditor_repeat hb, hread]
  exact ⟨_, _, rfl, List.length_map _, fun i => List.getElem?_map⟩

/-- A repeat of a turn without a payload and of an item that is no block. -/
def repeatedTurn : EditorBlock :=
  ⟨"repeat", .object [("actions", .array [.array [.string "turn"], .null]),
    ("count", .number (.integer 2))]⟩

theorem isValid_repeatedTurn : repeatedTurn.payload.IsValid := by
  refine .object (by decide) (List.forall_mem_cons.2 ⟨.array ?_, List.forall_mem_singleton.2 ?_⟩)
  · refine List.forall_mem_cons.2 ⟨.array ?_, List.forall_mem_singleton.2 .null⟩
    exact List.forall_mem_singleton.2 (.string "turn")
  · exact .number (by decide)

theorem ofEditor_keeps_structure_turn :
    repeatedTurn.payload.IsValid ∧ repeatedTurn.Spells (ofEditor repeatedTurn) ∧
      ∃ count body, ofEditor repeatedTurn = repeated count body ∧ body.length = 2 ∧
        body[0]? = some (ofEditor ⟨"turn", .null⟩) ∧ body[1]? = some (unknown "malformed") := by
  obtain ⟨hspells, -, hbody⟩ := ofEditor_keeps_structure repeatedTurn isValid_repeatedTurn
  obtain ⟨count, body, heq, hlength, hitems⟩ := hbody _ rfl rfl
  exact ⟨isValid_repeatedTurn, hspells, count, body, heq, hlength, hitems 0, hitems 1⟩

/-- An integer beyond 53 bits whose value in 64 bits is half-way between two numbers of 32 bits. -/
def halfwayBlock : EditorBlock :=
  ⟨"goto", .object [("x", .number (.integer 4611686293305294849)), ("y", .number (.integer 0))]⟩

theorem toRat_whole {φ : Format} (k : Nat) (held : φ.Holds (k * 2 ^ φ.scale)) :
    (finite false (k * 2 ^ φ.scale) held).toRat = k := by
  rw [toRat, signed, if_neg Bool.false_ne_true, Int.cast_natCast, Nat.cast_mul, Nat.cast_pow,
    Nat.cast_ofNat, mul_div_cancel_right₀ _ (two_pow_scale_pos φ).ne']

theorem number_halfway : number halfwayBlock.payload "x" 0 =
    finite false (2 ^ (62 : Nat) * 2 ^ Format.single.scale) (by decide +kernel) := by
  decide +kernel

/-- A number of the payload is not always the nearest one of 32 bits. -/
theorem not_ofEditor_rounds_once :
    ¬ ∀ b : EditorBlock, b.payload.IsValid → b.kind = "goto" →
      ∀ n, b.payload.field? "x" = some (.number n) →
        ∃ x y, ofEditor b = goto x y ∧ x.Rounds n.toRat := by
  intro h
  have hvalid : halfwayBlock.payload.IsValid := by
    refine .object (by decide) ?_
    refine List.forall_mem_cons.2 ⟨.number (by decide), List.forall_mem_singleton.2 ?_⟩
    exact .number (by decide)
  obtain ⟨x, y, hblock, hrounds⟩ := h halfwayBlock hvalid rfl _ rfl
  have hx : number halfwayBlock.payload "x" 0 = x :=
    (Block.goto.inj ((ofEditor_goto halfwayBlock.payload).symm.trans hblock)).1
  have habove : Format.single.Holds
      ((2 ^ (62 : Nat) + 2 ^ (39 : Nat)) * 2 ^ Format.single.scale) := by
    decide +kernel
  have hbelow : |Json.Number.toRat (.integer 4611686293305294849)| < Format.single.overflow :=
    (Json.Number.abs_integer_le (by decide)).trans_lt (Format.lt_overflow (by decide +kernel))
  -- The number above is nearer.
  have hle := (hrounds.isNearest hbelow).le (finite false _ habove) rfl
  rw [← hx, number_halfway, toRat_whole, toRat_whole] at hle
  norm_num [Json.Number.toRat, abs_le] at hle

end Block

end SpriteStage
