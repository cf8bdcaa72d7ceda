import SpriteStage.Json.Document
import SpriteStage.Text.Shown

/-!
# Decoding documents

Decoders take a document to a value of a domain type or to the first fault in the order of the
document. A fault of the data therefore wins over a break of the text further on, and a break wins
over the data behind it. A record is an object with known fields, or an array of its fields in
order; unknown members are passed over.
-/

namespace SpriteStage.Json

inductive Found where
  | null
  | bool (b : Bool)
  | integer (n : Int)
  | real (x : Double)
  | string (s : String)
  | sequence
  | map
deriving DecidableEq

def Found.text : Found → String
  | null => "null"
  | bool b => s!"boolean `{b}`"
  | integer n => s!"integer `{n}`"
  | real x => s!"floating point `{x.toText .json}`"
  | string s => s!"string {Text.shown s}"
  | sequence => "sequence"
  | map => "map"

/-- Why a document has no value of the type that was asked for. -/
inductive DecodeError where
  /-- The text is not well-formed. -/
  | malformed
  | missingField (name : String)
  | duplicateField (name : String)
  | unknownVariant (name : String) (expected : List String)
  | wrongType (found : Found) (expected : String)
  | wrongValue (found : Found) (expected : String)
  | wrongLength (length : Nat) (expected : String)
deriving DecidableEq

def DecodeError.message : DecodeError → String
  | malformed => "syntax"
  | missingField name => s!"missing field `{name}`"
  | duplicateField name => s!"duplicate field `{name}`"
  | unknownVariant name expected =>
    let names := " or ".intercalate (expected.map fun variant => s!"`{variant}`")
    s!"unknown variant `{name}`, expected {names}"
  | wrongType found expected => s!"invalid type: {found.text}, expected {expected}"
  | wrongValue found expected => s!"invalid value: {found.text}, expected {expected}"
  | wrongLength length expected => s!"invalid length {length}, expected {expected}"

/-- Where a document comes from: a text, in which only so many more containers may be entered, or a
value that is already in hand. -/
inductive Origin where
  | text (room : Nat)
  | value
deriving DecidableEq

/-- At most this many containers of a text may be open at once. -/
def greatestDepth : Nat := 127

def Origin.enter : Origin → Except DecodeError Origin
  | text 0 => throw .malformed
  | text (room + 1) => return text room
  | value => return value

/-- A way to read a value from a document. -/
abbrev Decoder (α : Type) := Origin → Document → Except DecodeError α

def Document.found? : Document → Option Found
  | .scalar .null => some .null
  | .scalar (.bool b) => some (.bool b)
  | .scalar (.number (.integer n)) => some (.integer n)
  | .scalar (.number (.real x)) => some (.real x)
  | .scalar (.string s) => some (.string s)
  | .scalar .unreadable => none
  | .array .. => some .sequence
  | .object .. => some .map
  | .broken => none

namespace Decoder

variable {α : Type}

def unexpected (doc : Document) (expected : String) : DecodeError :=
  match doc.found? with
  | some found => .wrongType found expected
  | none => .malformed

def string : Decoder String := fun _ doc =>
  match doc with
  | .scalar (.string s) => return s
  | _ => throw (unexpected doc "a string")

def single : Decoder Single := fun _ doc =>
  match doc with
  | .scalar (.number n) => return n.toSingle
  | _ => throw (unexpected doc "f32")

/-- A natural number below a bound; `expected` names the type. -/
def natural (bound : Nat) (expected : String) : Decoder Nat := fun _ doc =>
  match doc with
  | .scalar (.number (.integer n)) =>
    if 0 ≤ n ∧ n < bound then return n.toNat else throw (.wrongValue (.integer n) expected)
  | _ => throw (unexpected doc expected)

def natural32 : Decoder Nat := natural (2 ^ (32 : Nat)) "u32"

def natural64 : Decoder Nat := natural (2 ^ (64 : Nat)) "u64"

def nullable (decode : Decoder α) : Decoder (Option α) := fun origin doc =>
  match doc with
  | .scalar .null => return none
  | _ => some <$> decode origin doc

def list (decode : Decoder α) : Decoder (List α) := fun origin doc =>
  match doc with
  | .array items closed => do
    let inner ← origin.enter
    let values ← items.mapM (decode inner)
    if closed then return values else throw .malformed
  | _ => throw (unexpected doc "a sequence")

mutual

/-- Any value; of members with one key the last counts. -/
def json : Decoder Json
  | _, .scalar .null => return .null
  | _, .scalar (.bool b) => return .bool b
  | _, .scalar (.number n) => return .number n
  | _, .scalar (.string s) => return .string s
  | _, .scalar .unreadable => throw .malformed
  | origin, .array items closed => do
    let values ← jsonItems (← origin.enter) items
    if closed then return .array values else throw .malformed
  | origin, .object members closed => do
    let values ← jsonMembers (← origin.enter) members
    if closed then return .ofMembers values else throw .malformed
  | _, .broken => throw .malformed

def jsonItems (origin : Origin) : List Document → Except DecodeError (List Json)
  | [] => return []
  | item :: items => return (← json origin item) :: (← jsonItems origin items)

def jsonMembers (origin : Origin) :
    List (Option String × Document) → Except DecodeError (List (String × Json))
  | [] => return []
  | (none, _) :: _ => throw .malformed
  | (some key, value) :: members =>
    return (key, ← json origin value) :: (← jsonMembers origin members)

end

/-! ## Choices -/

/-- A choice among named constants: a string with its name, or an object with the name as its only
key and null for a value. -/
def choice (variants : List (String × α)) : Decoder α := fun origin doc =>
  let pick (name : String) : Except DecodeError α :=
    match variants.lookup name with
    | some value => return value
    | none => throw (.unknownVariant name (variants.map (·.1)))
  let checkNull (doc : Document) : Except DecodeError Unit :=
    match doc with
    | .scalar .null => return
    | _ => throw (unexpected doc "unit")
  match doc, origin with
  | .scalar (.string name), _ => pick name
  | .object members closed, .text _ => do
    let _ ← origin.enter
    match members with
    | (some name, content) :: others =>
      let value ← pick name
      checkNull content
      if others.isEmpty && closed then return value else throw .malformed
    | _ => throw .malformed
  | .object [(some name, content)] _, .value => do
    let value ← pick name
    checkNull content
    return value
  | .object .., .value => throw (.wrongValue .map "map with a single key")
  | _, .text _ => throw .malformed
  | _, .value => throw (unexpected doc "string or map")

end Decoder

/-! ## Records -/

structure Field (α : Type) where
  name : String
  isRequired : Bool
  set : Origin → Document → α → Except DecodeError α

namespace Field

variable {α β : Type}

def required (name : String) (decode : Decoder β) (put : β → α → α) : Field α :=
  ⟨name, true, fun origin doc record => return put (← decode origin doc) record⟩

/-- A field that may be left out; the record keeps its initial value then. -/
def optional (name : String) (decode : Decoder β) (put : β → α → α) : Field α :=
  ⟨name, false, fun origin doc record => return put (← decode origin doc) record⟩

end Field

/-- A record type: its name, a record to start from, and its fields in order. -/
structure Record (α : Type) where
  name : String
  initial : α
  fields : List (Field α)

namespace Record

variable {α : Type}

/-- One member read into a record, and the names that were read so far. -/
def readMember (r : Record α) (origin : Origin) (state : α × List String)
    (member : Option String × Document) : Except DecodeError (α × List String) :=
  match member with
  | (none, _) => throw .malformed
  | (some key, doc) =>
    match r.fields.find? (·.name == key) with
    | none => if doc.isComplete then return state else throw .malformed
    | some field =>
      if state.2.contains key then throw (.duplicateField key)
      else return (← field.set origin doc state.1, key :: state.2)

def ofMembers (r : Record α) (origin : Origin) (members : List (Option String × Document))
    (closed : Bool) : Except DecodeError α := do
  let (record, names) ← members.foldlM (r.readMember origin) (r.initial, [])
  if !closed then throw .malformed
  match r.fields.find? fun field => field.isRequired && !names.contains field.name with
  | some field => throw (.missingField field.name)
  | none => return record

/-- The record that an array of its first fields spells, `read` of the fields being done. -/
def ofItems (r : Record α) (origin : Origin) (length : Nat) (closed : Bool) (record : α)
    (read : Nat) : List (Field α) → List Document → Except DecodeError α
  | field :: fields, item :: items => do
    let record ← field.set origin item record
    r.ofItems origin length closed record (read + 1) fields items
  | field :: fields, [] =>
    if !closed then throw .malformed
    else if field.isRequired then
      throw (.wrongLength read s!"struct {r.name} with {r.fields.length} elements")
    else
      r.ofItems origin length closed record (read + 1) fields []
  | [], [] => if closed then return record else throw .malformed
  | [], _ :: _ =>
    match origin with
    | .text _ => throw .malformed
    | .value => throw (.wrongLength length "fewer elements in array")

def decode (r : Record α) : Decoder α := fun origin doc =>
  match doc with
  | .object members closed => do r.ofMembers (← origin.enter) members closed
  | .array items closed => do
    r.ofItems (← origin.enter) items.length closed r.initial 0 r.fields items
  | _ => throw (Decoder.unexpected doc s!"struct {r.name}")

end Record

/-! ## Whole documents -/

/-- The value of a text, which may hold nothing behind its document. -/
def Decoder.ofText {α : Type} (decode : Decoder α) (text : String) : Except DecodeError α := do
  let reading := Document.ofText text
  let value ← decode (.text greatestDepth) reading.root
  if reading.trailing then throw .malformed else return value

def Decoder.ofJson {α : Type} (decode : Decoder α) (value : Json) : Except DecodeError α :=
  decode .value (.ofJson value)

end SpriteStage.Json
