import SpriteStage.Proofs.Detection
import SpriteStage.Session.Operation

/-!
# The scans of a session

The swaps after a scan change neither what is remembered nor where sprites stand, so a scan leaves
the monitor as its detection does. Everything else that happens to a session leaves the ids of its
cast distinct and its monitor reachable (`Session.Sound`). `Session.scans` lists the scans of a
session, each with the monitor and the cast that it starts from.
-/

namespace SpriteStage

namespace Monitor

/-- The monitors that scans of any casts lead to, with sprites forgotten in between. -/
inductive Reachable : Monitor → Prop where
  | new (mode : ContactMode) (spriteSize : Single) : Reachable { mode, spriteSize }
  | detect {m : Monitor} {c : Cast} : Reachable m → c.ids.Nodup → Reachable (m.detect c).2
  | coordinate {m : Monitor} {c : Cast} (cooldown : Nat) :
      Reachable m → c.ids.Nodup → Reachable (m.coordinate c cooldown).2.1
  | reset {m : Monitor} : Reachable m → Reachable m.reset
  | forget {m : Monitor} (id : SpriteId) : Reachable m → Reachable (m.forget id)

variable {m : Monitor} {c c' : Cast}

/-! ## Swaps after a scan -/

/-- The sprites of a contact are two of a cast. -/
def IsWithin (e : Contact) (c : Cast) : Prop :=
  e.pair.low ∈ c.ids ∧ e.pair.high ∈ c.ids ∧ e.pair.low ≠ e.pair.high

theorem isWithin_of_mem_detect (hc : c.ids.Nodup) {e : Contact} (he : e ∈ (m.detect c).1) :
    IsWithin e c := by
  rw [m.detect_eq hc] at he
  obtain ⟨p, hp, he⟩ := List.mem_filterMap.1 he
  obtain ⟨-, hkey, -⟩ := (encounter?_eq_some_iff hc hp).1 he
  obtain ⟨h₁, h₂⟩ := mem_of_mem_pairs hp
  obtain ⟨s, hs, -⟩ := exists_sprite hc h₁
  obtain ⟨t, ht, -⟩ := exists_sprite hc h₂
  have hne := ne_of_mem_pairs (m.nodup_candidates hc) hp
  unfold IsWithin
  rw [hkey]
  obtain ⟨hlow, hhigh⟩ | ⟨hlow, hhigh⟩ := SpritePair.joins_of p.1.id p.2.id
  · exact ⟨Cast.mem_ids_iff.2 ⟨s, hlow ▸ hs⟩, Cast.mem_ids_iff.2 ⟨t, hhigh ▸ ht⟩,
      fun h => hne (hlow.symm.trans (h.trans hhigh))⟩
  · exact ⟨Cast.mem_ids_iff.2 ⟨t, hlow ▸ ht⟩, Cast.mem_ids_iff.2 ⟨s, hhigh ▸ hs⟩,
      fun h => hne (hhigh.symm.trans (h.symm.trans hlow))⟩

/-- An encounter of two sprites of a cast is passed over while one of them is cooling; otherwise the
two are swapped. -/
theorem swapEncounter_of_isWithin {e : Contact} (he : IsWithin e c) (cooldown : Nat)
    (swapped : List Contact) :
    ((isCooling c e.pair.low || isCooling c e.pair.high) = true ∧
        swapEncounter cooldown (swapped, m, c) e = (swapped, m, c)) ∨
      ((isCooling c e.pair.low || isCooling c e.pair.high) = false ∧
        ∃ c', c.swap e.pair.low e.pair.high cooldown = .ok c' ∧
          swapEncounter cooldown (swapped, m, c) e = (swapped ++ [e], m, c')) := by
  obtain ⟨hlow, hhigh, hne⟩ := he
  obtain ⟨s, hs⟩ := Cast.mem_ids_iff.1 hlow
  obtain ⟨t, ht⟩ := Cast.mem_ids_iff.1 hhigh
  have hswap := Cast.swap_eq_ok hs ht hne cooldown
  unfold swapEncounter
  dsimp only
  cases hcooling : isCooling c e.pair.low || isCooling c e.pair.high with
  | true => exact .inl ⟨rfl, if_pos rfl⟩
  | false =>
      rw [hswap]
      exact .inr ⟨rfl, _, rfl, if_neg Bool.false_ne_true⟩

theorem swapEncounter_keeps {e : Contact} (he : IsWithin e c) (cooldown : Nat)
    (swapped : List Contact) :
    (swapEncounter cooldown (swapped, m, c) e).2.1 = m ∧
      (swapEncounter cooldown (swapped, m, c) e).2.2.stances = c.stances := by
  obtain ⟨-, hstate⟩ | ⟨-, c', hswap, hstate⟩ := swapEncounter_of_isWithin he cooldown swapped
  · rw [hstate]
    exact ⟨rfl, rfl⟩
  · rw [hstate]
    exact ⟨rfl, Cast.stances_swap hswap⟩

theorem foldl_swapEncounter_keeps (cooldown : Nat) {es : List Contact}
    (hes : ∀ e ∈ es, IsWithin e c) (swapped : List Contact) (hc' : c'.stances = c.stances) :
    (es.foldl (swapEncounter cooldown) (swapped, m, c')).2.1 = m ∧
      (es.foldl (swapEncounter cooldown) (swapped, m, c')).2.2.stances = c.stances := by
  induction es generalizing swapped c' with
  | nil => exact ⟨rfl, hc'⟩
  | cons e rest ih =>
      have he : IsWithin e c' := by
        rw [IsWithin, Cast.ids_eq_of_stances_eq hc']
        exact hes e List.mem_cons_self
      obtain ⟨hmonitor, hstances⟩ := swapEncounter_keeps (m := m) he cooldown swapped
      rw [List.foldl_cons]
      generalize hstep : swapEncounter cooldown (swapped, m, c') e = state at hmonitor hstances
      obtain ⟨swapped', m', c''⟩ := state
      obtain rfl : m' = m := hmonitor
      exact ih (fun e he => hes e (List.mem_cons_of_mem _ he)) swapped' (hstances.trans hc')

/-- Swaps leave what a scan remembers as it is. -/
theorem monitor_coordinate (m : Monitor) (hc : c.ids.Nodup) (cooldown : Nat) :
    (m.coordinate c cooldown).2.1 = (m.detect c).2 :=
  (foldl_swapEncounter_keeps cooldown (fun _ he => isWithin_of_mem_detect hc he) [] rfl).1

theorem stances_coordinate (m : Monitor) (hc : c.ids.Nodup) (cooldown : Nat) :
    (m.coordinate c cooldown).2.2.stances = c.stances :=
  (foldl_swapEncounter_keeps cooldown (fun _ he => isWithin_of_mem_detect hc he) [] rfl).2

theorem Reachable.isOrdered (hm : m.Reachable) : m.IsOrdered := by
  induction hm with
  | new => exact fun k r h => by cases h
  | detect _ hc ih => exact isOrdered_detect hc ih
  | coordinate cooldown _ hc ih =>
      rw [monitor_coordinate _ hc]
      exact isOrdered_detect hc ih
  | reset => exact fun k r h => by cases h
  | forget id _ ih =>
      intro k r h
      change (Table.filter _ _).find? k = some r at h
      rw [Table.find?_filter, Option.filter_eq_some_iff] at h
      exact ih k r h.1

end Monitor

/-! ## Sound sessions -/

namespace Session

/-- The sprites have distinct ids, and the memory comes from scans. -/
structure Sound (s : Session) : Prop where
  nodup : s.cast.ids.Nodup
  monitor : s.monitor.Reachable

variable {s t : Session}

theorem cast_act (s : Session) (now : Instant) :
    (s.act now).cast = { s.cast with
      sprites := s.cast.sprites.map fun sprite =>
        { sprite with actor := sprite.actor.tick.1 } } := by
  unfold act
  dsimp only
  rw [List.map_map]
  rfl

theorem ids_act (s : Session) (now : Instant) : (s.act now).cast.ids = s.cast.ids := by
  rw [cast_act]
  exact Cast.ids_map_sprites fun _ => rfl

theorem Sound.act (hs : s.Sound) (now : Instant) : (s.act now).Sound :=
  ⟨(ids_act s now).symm ▸ hs.nodup, hs.monitor⟩

theorem Sound.scan (hs : s.Sound) : s.scan.Sound := by
  refine ⟨?_, hs.monitor.coordinate _ hs.nodup⟩
  have hids := Cast.ids_eq_of_stances_eq
    (s.monitor.stances_coordinate hs.nodup s.settings.swapCooldown)
  exact hids.symm ▸ hs.nodup

theorem Sound.tick (hs : s.Sound) (now : Instant) : (s.tick now).Sound := by
  have hcounted : Sound { s.act now with
      ticks := (s.act now).ticks + 1, sinceScan := (s.act now).sinceScan + 1 } :=
    ⟨(hs.act now).nodup, (hs.act now).monitor⟩
  unfold Session.tick
  dsimp only
  split
  · exact hcounted.scan
  · exact hcounted

theorem Sound.tickTimes (hs : s.Sound) (now : Instant) (count : Nat) :
    (s.tickTimes now count).Sound := by
  induction count generalizing s with
  | zero => exact hs
  | succ count ih => exact ih (hs.tick now)

/-- What holds of a cast whichever bubbles are cleared holds of it when some are over. -/
theorem expireBubbles_keeps {P : Cast → Prop} (h : P s.cast)
    (hclear : ∀ c id, P c → P (c.modify id (·.clearBubble))) (now : Instant) :
    P (s.expireBubbles now).cast := by
  change P (List.foldl _ s.cast (s.timers.expired now))
  generalize s.timers.expired now = expired
  induction expired generalizing s with
  | nil => exact h
  | cons id rest ih =>
      exact ih (s := { s with cast := s.cast.modify id (·.clearBubble) }) (hclear s.cast id h)

theorem ids_expireBubbles (s : Session) (now : Instant) :
    (s.expireBubbles now).cast.ids = s.cast.ids :=
  expireBubbles_keeps (P := fun c => c.ids = s.cast.ids) rfl
    (fun _ _ h => (Cast.ids_modify (f := Sprite.clearBubble) fun _ => rfl).trans h) now

theorem Sound.expireBubbles (hs : s.Sound) (now : Instant) : (s.expireBubbles now).Sound :=
  ⟨(ids_expireBubbles s now).symm ▸ hs.nodup, hs.monitor⟩

theorem Sound.advance (hs : s.Sound) (now : Instant) : (s.advance now).2.Sound :=
  (Sound.tickTimes (s := { s with clock := (s.clock.beginFrame now).drain })
    ⟨hs.nodup, hs.monitor⟩ now _).expireBubbles now

theorem Sound.click (hs : s.Sound) (id : SpriteId) (now : Instant) : (s.click id now).Sound := by
  unfold Session.click
  split
  · have hids : (s.cast.modify id (·.arm .click)).ids = s.cast.ids := Cast.ids_modify fun _ => rfl
    exact ⟨hids.symm ▸ hs.nodup, hs.monitor⟩
  · exact hs

/-! ## Operations that can be rejected -/

theorem after_add (s : Session) (spec : SpriteSpec) :
    s.after (.add spec) = match s.cast.add spec with
      | .ok cast => { s with cast }
      | .error _ => s := by
  dsimp only [Session.after, perform, add]
  cases s.cast.add spec <;> rfl

theorem after_delete (s : Session) (id : SpriteId) :
    s.after (.delete id) = match s.cast.remove id with
      | .ok cast => { s with cast, timers := s.timers.cancel id, monitor := s.monitor.forget id }
      | .error _ => s := by
  dsimp only [Session.after, perform, delete]
  cases s.cast.remove id <;> rfl

theorem after_select (s : Session) (id : SpriteId) :
    s.after (.select id) = match s.cast.select id with
      | .ok cast => { s with cast }
      | .error _ => s := by
  dsimp only [Session.after, perform, select]
  cases s.cast.select id <;> rfl

theorem after_edit (s : Session) (id : SpriteId) (trigger : Trigger) (e : Program.Edit) :
    s.after (.edit id trigger e) = match s.cast.edit id trigger e with
      | .ok (_, cast) => { s with cast }
      | .error _ => s := by
  dsimp only [Session.after, perform, edit]
  cases s.cast.edit id trigger e <;> rfl

theorem Sound.after (hs : s.Sound) (op : Operation) : (s.after op).Sound := by
  cases op with
  | add spec =>
      rw [after_add]
      split
      · rename_i hc
        exact ⟨Cast.nodup_ids_add hc hs.nodup, hs.monitor⟩
      · exact hs
  | delete id =>
      rw [after_delete]
      split
      · rename_i hc
        exact ⟨hs.nodup.sublist (Cast.sublist_ids_remove hc), hs.monitor.forget id⟩
      · exact hs
  | select id =>
      rw [after_select]
      split
      · rename_i c hc
        have hids : c.ids = s.cast.ids := by rw [Cast.ids, Cast.sprites_select hc, Cast.ids]
        exact ⟨hids.symm ▸ hs.nodup, hs.monitor⟩
      · exact hs
  | edit id trigger e =>
      rw [after_edit]
      split
      · rename_i hc
        exact ⟨(Cast.ids_edit hc).symm ▸ hs.nodup, hs.monitor⟩
      · exact hs
  | play now => exact ⟨(Cast.ids_armAll s.cast .play).symm ▸ hs.nodup, hs.monitor.reset⟩
  | stop => exact ⟨hs.nodup, hs.monitor⟩
  | restart => exact ⟨(Cast.ids_restartAll s.cast).symm ▸ hs.nodup, hs.monitor.reset⟩
  | click id now => exact hs.click id now
  | advance now => exact hs.advance now
  | step now => exact (hs.tick now).expireBubbles now

theorem Reachable.sound (hs : s.Reachable) : s.Sound := by
  induction hs with
  | new settings => exact ⟨List.nodup_nil, .new settings.contact settings.spriteSize⟩
  | after op _ ih => exact ih.after op

end Session

/-! ## Scans as they happen -/

/-- What a scan starts from. -/
structure Scan where
  monitor : Monitor
  cast : Cast
deriving Inhabited

namespace Scan

/-- What two sprites share at a scan. -/
def shared? (scan : Scan) (a b : SpriteId) : Option Box := scan.monitor.shared? scan.cast a b

def outcome (scan : Scan) : Monitor := (scan.monitor.detect scan.cast).2

structure Sound (scan : Scan) : Prop where
  nodup : scan.cast.ids.Nodup
  monitor : scan.monitor.Reachable

/-- Sound scans that lead from one monitor to another, each starting from what the one before has
left. -/
inductive Leads : Monitor → List Scan → Monitor → Prop where
  | nil (m : Monitor) : Leads m [] m
  | cons {m : Monitor} {rest : List Scan} (scan : Scan) :
      scan.Sound → Leads scan.outcome rest m → Leads scan.monitor (scan :: rest) m

theorem Leads.append {m m' m'' : Monitor} {l l' : List Scan} (h : Leads m l m')
    (h' : Leads m' l' m'') : Leads m (l ++ l') m'' := by
  induction h with
  | nil => exact h'
  | cons scan hscan _ ih => exact .cons scan hscan (ih h')

theorem Leads.sound_of_mem {m m' : Monitor} {l : List Scan} (h : Leads m l m') {scan : Scan}
    (hscan : scan ∈ l) : scan.Sound := by
  induction h with
  | nil => cases hscan
  | cons first hfirst _ ih =>
      rcases List.mem_cons.1 hscan with rfl | hscan
      · exact hfirst
      · exact ih hscan

end Scan

namespace Session

variable {s : Session}

/-- The scan that a tick ends with, if one is due. -/
def tickScan? (s : Session) (now : Instant) : Option Scan :=
  if max s.settings.scanEvery 1 ≤ s.sinceScan + 1 then some ⟨s.monitor, (s.act now).cast⟩ else none

def tickScans (s : Session) (now : Instant) : Nat → List Scan
  | 0 => []
  | count + 1 => (s.tickScan? now).toList ++ (s.tick now).tickScans now count

/-- The scans of an operation. -/
def scansOf (s : Session) : Operation → List Scan
  | .advance now =>
    let clock := s.clock.beginFrame now
    { s with clock := clock.drain }.tickScans now clock.due
  | .step now => s.tickScans now 1
  | _ => []

def scans (s : Session) : List Operation → List Scan
  | [] => []
  | op :: ops => s.scansOf op ++ (s.after op).scans ops

theorem monitor_tick (s : Session) (now : Instant) :
    (s.tick now).monitor = if max s.settings.scanEvery 1 ≤ s.sinceScan + 1 then
      (s.monitor.coordinate (s.act now).cast s.settings.swapCooldown).2.1 else s.monitor := by
  unfold tick
  exact apply_ite Session.monitor _ _ _

theorem leads_tickScan? (hs : s.Sound) (now : Instant) :
    Scan.Leads s.monitor (s.tickScan? now).toList (s.tick now).monitor := by
  have hnodup := (hs.act now).nodup
  have hmonitor := s.monitor.monitor_coordinate hnodup s.settings.swapCooldown
  rw [monitor_tick]
  unfold tickScan?
  split
  · rw [hmonitor]
    exact .cons ⟨s.monitor, (s.act now).cast⟩ ⟨hnodup, hs.monitor⟩ (.nil _)
  · exact .nil _

theorem leads_tickScans (hs : s.Sound) (now : Instant) (count : Nat) :
    Scan.Leads s.monitor (s.tickScans now count) (s.tickTimes now count).monitor := by
  induction count generalizing s with
  | zero => exact .nil _
  | succ count ih => exact (leads_tickScan? hs now).append (ih (hs.tick now))

theorem leads_advance (hs : s.Sound) (now : Instant) :
    Scan.Leads s.monitor (s.scansOf (.advance now)) (s.after (.advance now)).monitor :=
  leads_tickScans (s := { s with clock := (s.clock.beginFrame now).drain })
    ⟨hs.nodup, hs.monitor⟩ now _

theorem leads_step (hs : s.Sound) (now : Instant) :
    Scan.Leads s.monitor (s.scansOf (.step now)) (s.after (.step now)).monitor :=
  leads_tickScans hs now 1

theorem sound_of_mem_scansOf (hs : s.Sound) {op : Operation} {scan : Scan}
    (hscan : scan ∈ s.scansOf op) : scan.Sound := by
  cases op with
  | advance now => exact (leads_advance hs now).sound_of_mem hscan
  | step now => exact (leads_step hs now).sound_of_mem hscan
  | _ => cases hscan

/-- A session with two sprites in the same place. -/
def placed : Session :=
  let spec (id : SpriteId) (play : List Block) : SpriteSpec :=
    { id, name := id, start := default, program := { play } }
  (ofSettings {}).afterAll [.add (spec "cat" [.goto 0 0]), .add (spec "dog" [])]

def together : Session := placed.play default

theorem reachable_placed : placed.Reachable := (Reachable.new {}).afterAll _

theorem reachable_together : together.Reachable := reachable_placed.after (.play default)

end Session

end SpriteStage
