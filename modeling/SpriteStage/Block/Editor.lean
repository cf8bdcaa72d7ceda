import SpriteStage.Block.Basic
import SpriteStage.Json.Decode

/-!
# Blocks in the editor's form

The editor writes a block as its kind with a free payload. Every such block has a meaning: a field
that is missing, null or of the wrong type gets its default, a kind that is not known is kept by
name, and an item of a repeat's body that is not a block at all stands as one of kind `malformed`.
Wherever a block does not say what it should, there is a remark to make.
-/

namespace SpriteStage

structure EditorBlock where
  kind : String
  payload : Json
deriving Inhabited

namespace EditorBlock

def record : Json.Record EditorBlock where
  name := "ActionJson"
  initial := ⟨"", .null⟩
  fields := [
    .required "type" Json.Decoder.string fun kind b => { b with kind },
    .optional "payload" Json.Decoder.json fun payload b => { b with payload }]

/-- The block that a JSON value spells: an object with its fields or an array of them. -/
def ofJson? : Json → Option EditorBlock
  | .object members =>
    match members.lookup "type" with
    | some (.string kind) => some ⟨kind, (members.lookup "payload").getD .null⟩
    | _ => none
  | .array [.string kind] => some ⟨kind, .null⟩
  | .array [.string kind, payload] => some ⟨kind, payload⟩
  | _ => none

theorem sizeOf_of_lookup {key : String} {value : Json} :
    {members : List (String × Json)} → members.lookup key = some value →
      sizeOf value < sizeOf members
  | [], h => by simp at h
  | (k, v) :: members, h => by
    rw [List.lookup_cons] at h
    split at h
    · cases h
      simp only [List.cons.sizeOf_spec, Prod.mk.sizeOf_spec]
      omega
    · have := sizeOf_of_lookup h
      simp only [List.cons.sizeOf_spec]
      omega

theorem sizeOf_payload_le {item : Json} {b : EditorBlock} (h : ofJson? item = some b) :
    sizeOf b.payload ≤ sizeOf item := by
  unfold ofJson? at h
  split at h
  · rename_i members
    split at h
    · cases h
      cases e : members.lookup "payload" with
      | none => simp
      | some value =>
        have := sizeOf_of_lookup e
        simp only [Option.getD_some, Json.object.sizeOf_spec]
        omega
    · cases h
  · cases h
    simp
  · cases h
    simp only [Json.array.sizeOf_spec, List.cons.sizeOf_spec]
    omega
  · cases h

/-! ## Fields of a payload -/

/-- The number of 64 bits that a value gives, if it is a finite one. -/
def finite? : Json → Option Double
  | .number n => if n.toDouble.isFinite then some n.toDouble else none
  | _ => none

/-- A number of the payload, rounded to 64 and then to 32 bits. It has to be finite in 64 bits, but
nothing is asked of it in 32. -/
def number (payload : Json) (field : String) (default : Single) : Single :=
  match payload.field? field with
  | none | some .null => default
  | some value =>
    match finite? value with
    | some x => x.convert
    | none => default

/-- A text of the payload; a value of another type is written as JSON. -/
def text (payload : Json) (field : String) : String :=
  match payload.field? field with
  | none | some .null => ""
  | some (.string s) => s
  | some other => other.compact

def items (payload : Json) : List Json :=
  match payload.field? "actions" with
  | some (.array items) => items
  | _ => []

theorem sizeOf_of_mem_items {payload item : Json} (h : item ∈ items payload) :
    sizeOf item < sizeOf payload := by
  unfold items at h
  split at h
  · rename_i inner e
    have hitem := List.sizeOf_lt_of_mem h
    cases payload with
    | object members =>
      have := sizeOf_of_lookup (show members.lookup "actions" = _ from e)
      simp only [Json.array.sizeOf_spec, Json.object.sizeOf_spec] at *
      omega
    | _ => simp [Json.field?] at e
  · cases h

def greatestCount : Int := 10000

def isLargeCount (raw : Single) : Bool := .ofInt greatestCount < raw

/-- A repeat's count: a number with its fraction dropped, and not above the largest count. -/
def count (raw : Single) : Int :=
  if isLargeCount raw then greatestCount else raw.truncate (-2 ^ (31 : Nat)) (2 ^ (31 : Nat) - 1)

end EditorBlock

namespace Block

def malformed : Block := unknown "malformed"

def ofEditor (b : EditorBlock) : Block :=
  match b.kind with
  | "move" => move (EditorBlock.number b.payload "steps" 0)
  | "turn" => turn (EditorBlock.number b.payload "degrees" 0)
  | "goto" => goto (EditorBlock.number b.payload "x" 0) (EditorBlock.number b.payload "y" 0)
  | "say" => bubble .say
  | "think" => bubble .think
  | "repeat" =>
    repeated (EditorBlock.count (EditorBlock.number b.payload "count" 1))
      ((EditorBlock.items b.payload).attach.map fun ⟨item, _isItem⟩ =>
        match _isBlock : EditorBlock.ofJson? item with
        | some inner => ofEditor inner
        | none => malformed)
  | kind => unknown kind
termination_by sizeOf b.payload
decreasing_by
  exact Nat.lt_of_le_of_lt (EditorBlock.sizeOf_payload_le _isBlock)
    (EditorBlock.sizeOf_of_mem_items _isItem)
where
  /-- A say or think block. -/
  bubble (kind : BubbleKind) : Block :=
    speak kind (EditorBlock.text b.payload "text")
      (EditorBlock.number b.payload "seconds" defaultSeconds)

end Block

/-! ## Remarks -/

inductive EditorRemark where
  | notANumber (kind field : String) (found : Json) (default : Single)
  | largeCount (raw : Single)
  | malformed (error : Json.DecodeError)
  | unknownKind (kind : String)

def EditorRemark.message : EditorRemark → String
  | notANumber kind field found default =>
    s!"Action '{kind}': field '{field}' is not a number ({found.compact}); " ++
      s!"using {default.display}"
  | largeCount raw =>
    s!"Repeat count {raw.display} is too large; using {EditorBlock.greatestCount}"
  | malformed error => s!"Malformed block inside repeat ({error.message}); kept as a no-op"
  | unknownKind kind => s!"Unknown action kind '{kind}' kept as a no-op block"

namespace EditorBlock

def numberRemarks (b : EditorBlock) (field : String) (default : Single) : List EditorRemark :=
  match b.payload.field? field with
  | none | some .null => []
  | some found =>
    if (finite? found).isSome then [] else [.notANumber b.kind field found default]

def countRemarks (raw : Single) : List EditorRemark :=
  if isLargeCount raw then [.largeCount raw] else []

def malformedRemarks (item : Json) : List EditorRemark :=
  match record.decode.ofJson item with
  | .error e => [.malformed e]
  | .ok _ => []

/-- The remarks on a block and on the blocks inside it, in the order of its fields. -/
def remarks (b : EditorBlock) : List EditorRemark :=
  match b.kind with
  | "move" => b.numberRemarks "steps" 0
  | "turn" => b.numberRemarks "degrees" 0
  | "goto" => b.numberRemarks "x" 0 ++ b.numberRemarks "y" 0
  | "say" | "think" => b.numberRemarks "seconds" Block.defaultSeconds
  | "repeat" =>
    b.numberRemarks "count" 1 ++ countRemarks (number b.payload "count" 1) ++
      (items b.payload).attach.flatMap fun ⟨item, _isItem⟩ =>
        match _isBlock : ofJson? item with
        | some inner => inner.remarks
        | none => malformedRemarks item
  | kind => [.unknownKind kind]
termination_by sizeOf b.payload
decreasing_by
  exact Nat.lt_of_le_of_lt (sizeOf_payload_le _isBlock) (sizeOf_of_mem_items _isItem)

end EditorBlock

end SpriteStage
