import SpriteStage.Block.Editor
import SpriteStage.Proofs.ValidJson

/-!
# Records of the editor

What every field keeps when it is read, a whole record keeps (`Json.Record.decode_keeps`). So the
payload of a block that comes from a text is valid. A valid JSON value is the record of a block
exactly if it has the shape of one (`EditorBlock.decode_ofJson_iff`).
-/

namespace SpriteStage

namespace Json

/-! ## Documents of valid values -/

theorem Document.isValid_ofItems {items : List Json}
    (h : ∀ item ∈ items, (ofJson item).IsValid) : ∀ doc ∈ ofItems items, doc.IsValid := by
  induction items with
  | nil => simp [ofItems]
  | cons item items ih =>
      obtain ⟨hitem, hitems⟩ := List.forall_mem_cons.1 h
      exact List.forall_mem_cons.2 ⟨hitem, ih hitems⟩

theorem Document.isValid_ofMembers {members : List (String × Json)}
    (h : ∀ member ∈ members, (ofJson member.2).IsValid) :
    ∀ member ∈ ofMembers members, member.2.IsValid := by
  induction members with
  | nil => simp [ofMembers]
  | cons member members ih =>
      obtain ⟨hmember, hmembers⟩ := List.forall_mem_cons.1 h
      exact List.forall_mem_cons.2 ⟨hmember, ih hmembers⟩

theorem IsValid.document {value : Json} (h : value.IsValid) : (Document.ofJson value).IsValid := by
  induction h with
  | number h => exact .scalar h
  | array _ ih => exact .array (Document.isValid_ofItems ih)
  | object _ _ ih => exact .object (Document.isValid_ofMembers ih)
  | _ => exact .scalar (by trivial)

theorem Document.isComplete_ofJson (value : Json) : (ofJson value).isComplete = true := by
  cases value <;> rfl

/-! ## Records -/

namespace Record

variable {α : Type} {P : α → Prop} {r : Record α} {origin : Origin} {record record' : α}

/-- What holds of a record goes on holding when one of the fields is read into it. -/
def Keeps (P : α → Prop) (field : Field α) : Prop :=
  ∀ {origin : Origin} {doc : Document} {record record' : α}, doc.IsValid → P record →
    field.set origin doc record = .ok record' → P record'

theorem readMember_keeps (hfields : ∀ field ∈ r.fields, Keeps P field)
    {state state' : α × List String} {member : Option String × Document}
    (hmember : member.2.IsValid) (hstate : P state.1)
    (h : r.readMember origin state member = .ok state') : P state'.1 := by
  obtain ⟨_ | key, doc⟩ := member
  · cases h
  · unfold readMember at h
    dsimp only at h
    split at h
    · split at h
      · cases h
        exact hstate
      · cases h
    · rename_i field hfield
      split at h
      · cases h
      · obtain ⟨record, hrecord, h⟩ := bind_eq_ok_iff.1 h
        cases h
        exact hfields field (List.mem_of_find?_eq_some hfield) hmember hstate hrecord

/-- An object is a record if its members can be read and it has all fields that are required. -/
theorem ofMembers_eq_ok_iff {members : List (Option String × Document)} {closed : Bool} :
    r.ofMembers origin members closed = .ok record ↔
      ∃ names, members.foldlM (r.readMember origin) (r.initial, []) = .ok (record, names) ∧
        closed = true ∧ ∀ field ∈ r.fields, field.isRequired = true → field.name ∈ names := by
  have hmissing (names : List String) :
      r.fields.find? (fun field => field.isRequired && !names.contains field.name) = none ↔
        ∀ field ∈ r.fields, field.isRequired = true → field.name ∈ names := by
    rw [List.find?_eq_none]
    simp
  unfold ofMembers
  rw [bind_eq_ok_iff]
  constructor
  · rintro ⟨⟨read, names⟩, hread, h⟩
    cases closed with
    | false => cases h
    | true =>
        simp only [Bool.not_true, Bool.false_eq_true, if_false] at h
        split at h
        · cases h
        · rename_i hnone
          cases h
          exact ⟨names, hread, rfl, (hmissing names).1 hnone⟩
  · rintro ⟨names, hread, rfl, hrequired⟩
    refine ⟨_, hread, ?_⟩
    simp only [Bool.not_true, Bool.false_eq_true, if_false, (hmissing names).2 hrequired]
    rfl

theorem ofMembers_keeps (hinitial : P r.initial) (hfields : ∀ field ∈ r.fields, Keeps P field)
    {members : List (Option String × Document)} (hmembers : ∀ member ∈ members, member.2.IsValid)
    {closed : Bool} (h : r.ofMembers origin members closed = .ok record) : P record := by
  obtain ⟨names, hread, -, -⟩ := ofMembers_eq_ok_iff.1 h
  exact foldlM_keeps (P := fun state => P state.1)
    (fun member hmember _ _ => readMember_keeps hfields (hmembers member hmember)) hinitial hread

theorem ofItems_keeps {fields : List (Field α)} (hfields : ∀ field ∈ fields, Keeps P field)
    {items : List Document} (hitems : ∀ item ∈ items, item.IsValid) {length read : Nat}
    {closed : Bool} (hrecord : P record)
    (h : r.ofItems origin length closed record read fields items = .ok record') : P record' := by
  induction fields generalizing items record read with
  | nil =>
      unfold ofItems at h
      cases items <;> dsimp only at h <;> split at h <;> cases h
      exact hrecord
  | cons field fields ih =>
      obtain ⟨hfield, hfields⟩ := List.forall_mem_cons.1 hfields
      cases items with
      | nil =>
          rw [ofItems] at h
          split_ifs at h
          exact ih hfields hitems hrecord h
      | cons item items =>
          obtain ⟨hitem, hitems⟩ := List.forall_mem_cons.1 hitems
          rw [ofItems] at h
          obtain ⟨next, hnext, h⟩ := bind_eq_ok_iff.1 h
          exact ih hfields hitems (hfield hitem hrecord hnext) h

/-- A record keeps what each of its fields keeps. -/
theorem decode_keeps (hinitial : P r.initial) (hfields : ∀ field ∈ r.fields, Keeps P field)
    {doc : Document} (hdoc : doc.IsValid) (h : r.decode origin doc = .ok record) : P record := by
  cases hdoc with
  | scalar _ => cases h
  | array hitems =>
      obtain ⟨inner, -, h⟩ := bind_eq_ok_iff.1 h
      exact ofItems_keeps hfields hitems hinitial h
  | object hmembers =>
      obtain ⟨inner, -, h⟩ := bind_eq_ok_iff.1 h
      exact ofMembers_keeps hinitial hfields hmembers h
  | broken => cases h

end Record

end Json

namespace EditorBlock

open Json

variable {origin : Origin}

/-! ## Blocks -/

theorem isValid_payload_of_decode {doc : Document} (hdoc : doc.IsValid) {b : EditorBlock}
    (h : record.decode origin doc = .ok b) : b.payload.IsValid := by
  refine Record.decode_keeps (P := fun b => b.payload.IsValid) .null ?_ hdoc h
  refine List.forall_mem_cons.2 ⟨fun _ hb h => ?_, List.forall_mem_singleton.2 fun hdoc _ h => ?_⟩
  · obtain ⟨kind, -, h⟩ := bind_eq_ok_iff.1 h
    cases h
    exact hb
  · obtain ⟨payload, hpayload, h⟩ := bind_eq_ok_iff.1 h
    cases h
    exact Decoder.isValid_of_json hdoc hpayload

theorem isValid_payload_of_text {text : String} {b : EditorBlock}
    (h : record.decode.ofText text = .ok b) : b.payload.IsValid := by
  obtain ⟨b', hb, h⟩ := bind_eq_ok_iff.1 h
  split at h
  · cases h
  · cases h
    exact isValid_payload_of_decode (Document.isValid_ofText text) hb

theorem isValid_payload_of_ofJson {item : Json} (hitem : item.IsValid) {b : EditorBlock}
    (h : record.decode.ofJson item = .ok b) : b.payload.IsValid :=
  isValid_payload_of_decode hitem.document h

/-! ## The shape of a block -/

theorem readMember_type (b : EditorBlock) {names : List String} (hnames : "type" ∉ names)
    (value : Json) :
    record.readMember .value (b, names) (some "type", .ofJson value) =
      match value with
      | .string kind => .ok ({ b with kind }, "type" :: names)
      | _ => .error (Decoder.unexpected (.ofJson value) "a string") := by
  have hread : record.readMember .value (b, names) (some "type", .ofJson value) =
      if names.contains "type" then .error (.duplicateField "type")
      else (do return (← (do return { b with kind := ← Decoder.string .value (.ofJson value) }),
        "type" :: names)) := rfl
  rw [hread, if_neg (by simpa using hnames)]
  cases value <;> rfl

theorem readMember_payload (b : EditorBlock) {names : List String} (hnames : "payload" ∉ names)
    {value : Json} (hvalue : value.IsValid) :
    record.readMember .value (b, names) (some "payload", .ofJson value) =
      .ok ({ b with payload := value }, "payload" :: names) := by
  have hread : record.readMember .value (b, names) (some "payload", .ofJson value) =
      if names.contains "payload" then .error (.duplicateField "payload")
      else (do return (← (do return { b with payload := ← Decoder.json .value (.ofJson value) }),
        "payload" :: names)) := rfl
  rw [hread, if_neg (by simpa using hnames), Decoder.json_ofJson hvalue]
  rfl

theorem readMember_other {key : String} (htype : key ≠ "type") (hpayload : key ≠ "payload")
    (state : EditorBlock × List String) (value : Json) :
    record.readMember .value state (some key, .ofJson value) = .ok state := by
  have hnone : record.fields.find? (·.name == key) = none := by
    simp [record, Field.required, Field.optional, htype.symm, hpayload.symm]
  unfold Record.readMember
  simp only [hnone, Document.isComplete_ofJson, if_true]
  rfl

theorem lookup_eq_none {key : String} {members : List (String × Json)}
    (h : key ∉ members.map (·.1)) : members.lookup key = none := by
  rw [List.lookup_eq_none_iff]
  rintro ⟨other, value⟩ hmember
  exact bne_iff_ne.2 fun heq => h (List.mem_map.2 ⟨_, hmember, heq.symm⟩)

theorem foldlM_cons_of_ok {ε σ α : Type} {step : σ → α → Except ε σ} {a : α} {as : List α}
    {state next : σ} (h : step state a = .ok next) :
    (a :: as).foldlM step state = as.foldlM step next := by
  rw [List.foldlM_cons, h]
  rfl

/-- Members with distinct keys are read one by one: the kind must be a string, anything will do for
the payload, and other members are passed over. -/
theorem foldlM_readMember {members : List (String × Json)}
    (hkeys : (members.map (·.1)).Nodup) (hvalues : ∀ member ∈ members, member.2.IsValid)
    (b : EditorBlock) {names : List String} (hnames : ∀ key ∈ members.map (·.1), key ∉ names) :
    match members.lookup "type" with
    | none => ∃ names', (Document.ofMembers members).foldlM (record.readMember .value) (b, names) =
        .ok (⟨b.kind, (members.lookup "payload").getD b.payload⟩, names') ∧
          ("type" ∈ names' ↔ "type" ∈ names)
    | some (.string kind) => ∃ names',
        (Document.ofMembers members).foldlM (record.readMember .value) (b, names) =
          .ok (⟨kind, (members.lookup "payload").getD b.payload⟩, names') ∧ "type" ∈ names'
    | some _ => ∃ e,
        (Document.ofMembers members).foldlM (record.readMember .value) (b, names) = .error e := by
  induction members generalizing b names with
  | nil => exact ⟨names, rfl, Iff.rfl⟩
  | cons member members ih =>
      obtain ⟨key, value⟩ := member
      obtain ⟨hkey, hdistinct⟩ := List.nodup_cons.1 hkeys
      obtain ⟨hvalue, hothers⟩ := List.forall_mem_cons.1 hvalues
      obtain ⟨hfresh, hrest⟩ := List.forall_mem_cons.1 hnames
      have hread : ∀ other ∈ members.map (·.1), other ∉ key :: names := fun other hother hmem =>
        (List.mem_cons.1 hmem).elim (fun heq => hkey (heq ▸ hother)) (hrest other hother)
      rw [Document.ofMembers]
      by_cases htype : key = "type"
      · subst htype
        have hnone : members.lookup "type" = none := lookup_eq_none hkey
        have hstep := readMember_type b hfresh value
        rw [List.lookup_cons_self]
        cases value with
        | string kind =>
            rw [foldlM_cons_of_ok hstep]
            have hfold := ih hdistinct hothers { b with kind } hread
            rw [hnone] at hfold
            obtain ⟨names', hfold, hnames'⟩ := hfold
            exact ⟨names', hfold, hnames'.2 List.mem_cons_self⟩
        | _ =>
            rw [List.foldlM_cons, hstep]
            exact ⟨_, rfl⟩
      · have hskip : ((key, value) :: members).lookup "type" = members.lookup "type" := by
          rw [List.lookup_cons, beq_false_of_ne (Ne.symm htype)]
        rw [hskip]
        by_cases hpayload : key = "payload"
        · subst hpayload
          have hnone : members.lookup "payload" = none := lookup_eq_none hkey
          have hfold := ih hdistinct hothers { b with payload := value } hread
          rw [foldlM_cons_of_ok (readMember_payload b hfresh hvalue), List.lookup_cons_self]
          rw [hnone] at hfold
          simpa [htype, Ne.symm htype] using hfold
        · have hpass : ((key, value) :: members).lookup "payload" = members.lookup "payload" := by
            rw [List.lookup_cons, beq_false_of_ne (Ne.symm hpayload)]
          rw [foldlM_cons_of_ok (readMember_other htype hpayload _ value), hpass]
          exact ih hdistinct hothers b hrest

theorem ofJson?_object_eq_some_iff {members : List (String × Json)} {b : EditorBlock} :
    ofJson? (.object members) = some b ↔ members.lookup "type" = some (.string b.kind) ∧
      b.payload = (members.lookup "payload").getD .null := by
  unfold ofJson?
  dsimp only
  split
  · rename_i kind hkind
    rw [hkind, Option.some.injEq]
    constructor
    · rintro rfl
      exact ⟨rfl, rfl⟩
    · rintro ⟨heq, hpayload⟩
      cases heq
      rw [← hpayload]
  · rename_i hnot
    exact iff_of_false nofun fun h => hnot _ h.1

theorem decode_object_iff {members : List (String × Json)} (hkeys : (members.map (·.1)).Nodup)
    (hvalues : ∀ member ∈ members, member.2.IsValid) {b : EditorBlock} :
    record.decode.ofJson (.object members) = .ok b ↔ ofJson? (.object members) = some b := by
  have hfold := foldlM_readMember hkeys hvalues record.initial fun _ _ => List.not_mem_nil
  change record.ofMembers .value (Document.ofMembers members) true = .ok b ↔ _
  rw [Record.ofMembers_eq_ok_iff, ofJson?_object_eq_some_iff]
  split at hfold
  · obtain ⟨names, hread, hnames⟩ := hfold
    rename_i hnone
    rw [hnone]
    refine iff_of_false ?_ nofun
    rintro ⟨names', hread', -, hrequired⟩
    cases hread.symm.trans hread'
    exact absurd (hnames.1 (hrequired _ List.mem_cons_self rfl)) List.not_mem_nil
  · obtain ⟨names, hread, hnames⟩ := hfold
    rename_i kind hkind
    rw [hkind]
    constructor
    · rintro ⟨names', hread', -, -⟩
      cases hread.symm.trans hread'
      exact ⟨rfl, rfl⟩
    · rintro ⟨hkind', hpayload⟩
      obtain ⟨kind', payload⟩ := b
      cases hkind'
      cases hpayload
      have hrequired : ∀ field ∈ record.fields, field.isRequired = true → field.name ∈ names :=
        List.forall_mem_cons.2 ⟨fun _ => hnames, List.forall_mem_singleton.2 nofun⟩
      exact ⟨names, hread, rfl, hrequired⟩
  · obtain ⟨e, herror⟩ := hfold
    rename_i value hnot hlookup
    rw [hlookup]
    refine iff_of_false ?_ fun h => hnot _ (Option.some.inj h.1)
    rintro ⟨names', hread', -, -⟩
    cases herror.symm.trans hread'

theorem decode_array_iff {items : List Json} (hitems : ∀ item ∈ items, item.IsValid)
    {b : EditorBlock} :
    record.decode.ofJson (.array items) = .ok b ↔ ofJson? (.array items) = some b := by
  match items with
  | [] => exact iff_of_false nofun nofun
  | [.string kind] =>
      have hread : record.decode.ofJson (.array [.string kind]) = .ok ⟨kind, .null⟩ := rfl
      rw [hread, ofJson?, Except.ok.injEq, Option.some.injEq]
  | .string kind :: payload :: items =>
      have hpayload : Decoder.json .value (.ofJson payload) = .ok payload :=
        Decoder.json_ofJson (hitems payload (by simp))
      have hread : record.decode.ofJson (.array (.string kind :: payload :: items)) =
          (do
            let b ← (do return { (⟨kind, .null⟩ : EditorBlock) with
              payload := ← Decoder.json .value (.ofJson payload) })
            record.ofItems .value (Document.ofItems (.string kind :: payload :: items)).length true
              b 2 [] (Document.ofItems items)) := rfl
      rw [hread, hpayload]
      cases items with
      | nil =>
          change Except.ok _ = _ ↔ _
          rw [ofJson?, Except.ok.injEq, Option.some.injEq]
      | cons item items => exact iff_of_false nofun nofun
  | .null :: _ | .bool _ :: _ | .number _ :: _ | .array _ :: _ | .object _ :: _ =>
      exact iff_of_false nofun nofun

/-- A valid value is the record of a block exactly if it has the shape of one. -/
theorem decode_ofJson_iff {item : Json} (hitem : item.IsValid) {b : EditorBlock} :
    record.decode.ofJson item = .ok b ↔ ofJson? item = some b := by
  cases hitem with
  | object hkeys hvalues => exact decode_object_iff (hkeys.imp ne_of_lt) hvalues
  | array hitems => exact decode_array_iff hitems
  | _ => exact iff_of_false nofun nofun

end EditorBlock

end SpriteStage
