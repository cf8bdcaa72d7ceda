import SpriteStage.BubbleTimers

/-!
# Pairs of sprites

An unordered pair of sprites is kept with its lesser id first, so that it is one key whichever way
round it was formed.
-/

namespace SpriteStage

/-- Two sprites, the lesser id first. -/
structure SpritePair where
  low : SpriteId
  high : SpriteId
deriving DecidableEq, Inhabited

namespace SpritePair

def of (a b : SpriteId) : SpritePair := if b < a then ⟨b, a⟩ else ⟨a, b⟩

def involves (p : SpritePair) (id : SpriteId) : Bool := p.low == id || p.high == id

theorem of_comm (a b : SpriteId) : of a b = of b a := by
  unfold of
  by_cases h₁ : a < b <;> by_cases h₂ : b < a
  · exact absurd (String.lt_trans h₁ h₂) (String.lt_irrefl a)
  · simp [h₁, h₂]
  · simp [h₁, h₂]
  · have : a = b := String.le_antisymm (String.not_lt.1 h₂) (String.not_lt.1 h₁)
    simp [this]

/-- Pairs are ordered by their first sprites, then by their second. -/
instance : KeyOrder SpritePair where
  before p q := KeyOrder.before (p.low, p.high) (q.low, q.high)
  irrefl _ := KeyOrder.irrefl _
  trans := KeyOrder.trans
  connected {p q} h₁ h₂ := by
    have := KeyOrder.connected h₁ h₂
    cases p; cases q
    simp_all

end SpritePair

end SpriteStage
