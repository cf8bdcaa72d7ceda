import SpriteStage.Cast
import SpriteStage.Contact.Box
import SpriteStage.Contact.Pair

/-!
# The contact monitor

A scan looks at every pair of armed sprites. The monitor remembers what each pair in contact shared
at the last scan, and nothing of other pairs. A contact starts a new episode if its pair is not
remembered or if what the pair shared then does not meet what it shares now. A new episode between
sprites that are not cooling down is an encounter, and encounters swap programs.
-/

namespace SpriteStage

def defaultSpriteSize : Single := 100

structure Monitor where
  mode : ContactMode := .touch
  spriteSize : Single := defaultSpriteSize
  memory : Table SpritePair Box := .empty
deriving Inhabited

structure Contact where
  pair : SpritePair
  overlap : Box
deriving Inhabited

/-- An armed sprite as a scan sees it. -/
structure Candidate where
  id : SpriteId
  box : Box
  isCooling : Bool
deriving Inhabited

namespace Monitor

/-- The pairs of a list's elements, each element with those behind it. -/
def pairs {α : Type} : List α → List (α × α)
  | [] => []
  | a :: rest => rest.map (a, ·) ++ pairs rest

def box (m : Monitor) (s : Sprite) : Box := .square s.actor.pose.x s.actor.pose.y m.spriteSize

def candidates (m : Monitor) (cast : Cast) : List Candidate :=
  (cast.sprites.filter fun s => !s.actor.isIdle).map fun s =>
    { id := s.id, box := m.box s, isCooling := s.actor.isCooling }

/-! ## Memory -/

def remember (m : Monitor) (pair : SpritePair) (overlap : Box) : Monitor :=
  { m with memory := m.memory.insert pair overlap }

def forgetPair (m : Monitor) (pair : SpritePair) : Monitor :=
  { m with memory := m.memory.erase pair }

/-- The monitor without memory of pairs that are not both among some candidates. -/
def retain (m : Monitor) (candidates : List Candidate) : Monitor :=
  { m with
    memory := m.memory.filter fun pair _ =>
      candidates.any (·.id == pair.low) && candidates.any (·.id == pair.high) }

/-- Whether the monitor remembers a pair by something that meets what it shares now. -/
def continues (m : Monitor) (pair : SpritePair) (overlap : Box) : Bool :=
  match m.memory.find? pair with
  | some previous => previous.meets overlap
  | none => false

/-! ## Scanning -/

/-- Looks at two candidates. What they share is remembered, and if that is nothing, they are
forgotten. The contact is an encounter if it does not go on from before and neither is cooling. -/
def look (state : List Contact × Monitor) (pair : Candidate × Candidate) :
    List Contact × Monitor :=
  let (encounters, m) := state
  let (a, b) := pair
  let key := SpritePair.of a.id b.id
  match a.box.intersection? m.mode b.box with
  | none => (encounters, m.forgetPair key)
  | some overlap =>
    let remembered := m.remember key overlap
    if m.continues key overlap || a.isCooling || b.isCooling then
      (encounters, remembered)
    else
      (encounters ++ [⟨key, overlap⟩], remembered)

/-- One scan: the encounters that start, and the monitor that has seen them. -/
def detect (m : Monitor) (cast : Cast) : List Contact × Monitor :=
  let candidates := m.candidates cast
  (pairs candidates).foldl look ([], m.retain candidates)

def isCooling (cast : Cast) (id : SpriteId) : Bool := (cast.find? id).any (·.actor.isCooling)

/-- Swaps the programs of an encounter, unless a swap before it has put one of its sprites on a
cooldown. The encounters that did swap are collected; one whose swap is skipped is forgotten. -/
def swapEncounter (cooldown : Nat) (state : List Contact × Monitor × Cast) (c : Contact) :
    List Contact × Monitor × Cast :=
  let (swapped, m, cast) := state
  if isCooling cast c.pair.low || isCooling cast c.pair.high then
    state
  else
    match cast.swap c.pair.low c.pair.high cooldown with
    | .ok cast => (swapped ++ [c], m, cast)
    | .error _ => (swapped, m.forgetPair c.pair, cast)

/-- One scan and the swaps that it leads to, in order: the encounters that swapped, the monitor and
the cast. -/
def coordinate (m : Monitor) (cast : Cast) (cooldown : Nat) : List Contact × Monitor × Cast :=
  let (encounters, m) := m.detect cast
  encounters.foldl (swapEncounter cooldown) ([], m, cast)

def reset (m : Monitor) : Monitor := { m with memory := .empty }

/-- The monitor without memory of a sprite. -/
def forget (m : Monitor) (id : SpriteId) : Monitor :=
  { m with memory := m.memory.filter fun pair _ => !pair.involves id }

end Monitor

end SpriteStage
