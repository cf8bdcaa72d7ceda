import SpriteStage.Scene.Basic

/-!
# Stage files

Loading a scene from the content of a file, and telling from modification stamps when a file has
changed.
-/

namespace SpriteStage

/-- What there is to read at a path. -/
inductive FileContent where
  | text (s : String)
  | unreadable (reason : String)
deriving DecidableEq, Inhabited

namespace FileContent

/-- No file at all. -/
def missing : FileContent := unreadable "No such file or directory (os error 2)"

/-- The content of a file, which must be a text. -/
def ofBytes (bytes : ByteArray) : FileContent :=
  match String.fromUTF8? bytes with
  | some s => text s
  | none => unreadable "stream did not contain valid UTF-8"

end FileContent

/-- Why no scene was loaded from a path. -/
inductive LoadError where
  | unreadable (path reason : String)
  | undecodable (path : String) (error : Json.DecodeError)
  | invalid (error : SceneError)
deriving DecidableEq

def LoadError.message : LoadError → String
  | unreadable path reason => s!"Cannot open stage {path}: {reason}"
  | undecodable path error => s!"Stage {path} is not valid stage JSON: {error.message}"
  | invalid error => error.message

namespace Scene

/-- The scene that a file spells, whether valid or not. -/
def read (path : String) : FileContent → Except LoadError Scene
  | .unreadable reason => .error (.unreadable path reason)
  | .text s => (record.decode.ofText s).mapError (.undecodable path)

/-- The valid scene of a file. -/
def load (path : String) (content : FileContent) : Except LoadError Scene := do
  let scene ← read path content
  scene.validate.mapError .invalid
  return scene

/-- The valid scene of a file together with its session. -/
def loadSession (path : String) (content : FileContent) (freshId : Nat → SpriteId) :
    Except LoadError (Scene × Session) := do
  let scene ← load path content
  let session ← (scene.build freshId).mapError .invalid
  return (scene, session)

end Scene

/-- When a file was last modified. -/
abbrev Stamp := Int

/-- The latest stamp that was seen of a file, none if the file was not there. -/
structure FileWatch where
  seen : Option Stamp := none
deriving DecidableEq, Inhabited

namespace FileWatch

/-- Whether a stamp is later than the one seen; any stamp is later than none. -/
def isLater (seen : Option Stamp) : Option Stamp → Bool
  | none => false
  | some stamp =>
    match seen with
    | none => true
    | some before => before < stamp

/-- Looks at the stamp of the file: whether it has changed, and the watch that has seen it. A file
that is gone does not count as changed until it is back with a later stamp. -/
def poll (w : FileWatch) (stamp : Option Stamp) : Bool × FileWatch :=
  if isLater w.seen stamp then (true, ⟨stamp⟩) else (false, w)

end FileWatch

end SpriteStage
