import SpriteStage.Proofs.Scans

/-!
# Memory and the contacts of a stage

After a scan the monitor remembers the contacts of the stage as it is now, neither more nor fewer:
each two distinct armed sprites whose boxes are in contact, once, with the rectangle that they
share. Which memory the scan started from has no influence, and neither have cooldowns and swaps.
-/

namespace SpriteStage

/-- A memory holds each two sprites that share a rectangle once, with that rectangle, zero signs
aside, and it holds no others. -/
structure Mirrors (memory : Table SpritePair Box) (shared? : SpriteId → SpriteId → Option Box) :
    Prop where
  remembers : ∀ a b r, shared? a b = some r →
    ∃ e ∈ memory.entries, e.1.Joins a b ∧ e.2.equals r = true
  shared : ∀ e ∈ memory.entries, ∀ a b, e.1.Joins a b →
    ∃ r, shared? a b = some r ∧ e.2.equals r = true
  once : memory.entries.Pairwise fun e e' => ∀ a b, e.1.Joins a b → ¬e'.1.Joins a b

namespace Monitor

variable {m : Monitor} {c : Cast}

/-- A rectangle in the same places as one that two sprites share equals it. -/
theorem equals_of_shared? {a b : SpriteId} {r r' : Box} (h : m.shared? c a b = some r)
    (hplaces : r'.places = r.places) : r'.equals r = true := by
  obtain ⟨s, t, -, -, -, -, -, hbox⟩ := shared?_eq_some_iff.1 h
  obtain ⟨hoccupied, rfl⟩ := Box.intersection?_eq_some_iff.1 hbox
  rw [← Box.isOccupied_congr m.mode hplaces] at hoccupied
  exact Box.equals_of_isOccupied hoccupied hplaces

theorem mirrors_detect (hc : c.ids.Nodup) (hm : m.IsOrdered) :
    Mirrors (m.detect c).2.memory (m.shared? c) where
  remembers a b r hr := by
    have hplaces := places_find?_detect hc hm a b
    rw [hr, Option.map_some, Option.map_eq_some_iff] at hplaces
    obtain ⟨r', hfind, hplaces⟩ := hplaces
    exact ⟨_, (Table.find?_eq_some_iff _).1 hfind, SpritePair.joins_of a b,
      equals_of_shared? hr hplaces⟩
  shared e he a b hjoins := by
    have hfind := (Table.find?_eq_some_iff _).2 he
    have hordered := isOrdered_detect hc hm e.1 e.2 hfind
    have hplaces := places_find?_detect hc hm a b
    rw [← SpritePair.eq_of_of_joins hordered hjoins, hfind, Option.map_some, eq_comm,
      Option.map_eq_some_iff] at hplaces
    obtain ⟨r, hr, hplaces⟩ := hplaces
    exact ⟨r, hr, equals_of_shared? hr hplaces.symm⟩
  once := by
    refine (m.detect c).2.memory.sorted.imp_of_mem ?_
    intro e e' he he' hbefore a b hjoins hjoins'
    have hordered := isOrdered_detect hc hm e.1 e.2 ((Table.find?_eq_some_iff _).2 he)
    have hordered' := isOrdered_detect hc hm e'.1 e'.2 ((Table.find?_eq_some_iff _).2 he')
    refine KeyOrder.ne_of_before hbefore ?_
    rw [SpritePair.eq_of_of_joins hordered hjoins, SpritePair.eq_of_of_joins hordered' hjoins']

end Monitor

namespace Session

/-- The casts that a scan of a session can meet: as the session stands, or at a scan of an operation
on it. -/
def Shows (s : Session) (c : Cast) : Prop :=
  c = s.cast ∨ ∃ op, ∃ scan ∈ s.scansOf op, scan.cast = c

theorem Reachable.nodup_of_shows {s : Session} (hs : s.Reachable) {c : Cast} (hc : s.Shows c) :
    c.ids.Nodup := by
  obtain rfl | ⟨op, scan, hscan, rfl⟩ := hc
  · exact hs.sound.nodup
  · exact (sound_of_mem_scansOf hs.sound hscan).nodup

end Session

/-- A scan of a reachable session leaves a memory that mirrors the contacts, before its swaps and
after them, whatever was remembered before and however long a swap cools down. -/
theorem Monitor.mirrors_coordinate {s : Session} (hs : s.Reachable) {c : Cast} (hc : s.Shows c)
    {m : Monitor} (hm : m.Reachable) (cooldown : Nat) :
    (m.coordinate c cooldown).2.1.mode = m.mode ∧
      (m.coordinate c cooldown).2.1.spriteSize = m.spriteSize ∧
      Mirrors (m.coordinate c cooldown).2.1.memory (m.shared? c) ∧
      Mirrors (m.coordinate c cooldown).2.1.memory (m.shared? (m.coordinate c cooldown).2.2) := by
  have hnodup := hs.nodup_of_shows hc
  have hmirrors := mirrors_detect hnodup hm.isOrdered
  rw [m.monitor_coordinate hnodup, m.shared?_congr (m.stances_coordinate hnodup cooldown)]
  exact ⟨m.mode_detect hnodup, m.spriteSize_detect hnodup, hmirrors, hmirrors⟩

theorem Monitor.mirrors_coordinate_together :
    let (_, m, c) := Session.together.monitor.coordinate Session.together.cast 3
    m.memory.size = 1 ∧ Mirrors m.memory (Session.together.monitor.shared? c) :=
  ⟨by decide +kernel, (mirrors_coordinate Session.reachable_together (.inl rfl)
    Session.reachable_together.sound.monitor 3).2.2.2⟩

end SpriteStage
