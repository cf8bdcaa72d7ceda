import SpriteStage.Proofs.SessionCore

/-!
# The cadence of scans

A session counts the ticks since its last scan, and a scan puts the count back to zero. So of the
ticks since the session was made or last put to its start, it is exactly each so-manieth that ends
with a scan (`Session.scans_every_multiple`): whether ticks come from frames or from single steps,
and whatever is done in between.
-/

namespace SpriteStage

/-- How many ticks it is from one scan to the next: at least one. -/
def Settings.scanPeriod (s : Settings) : Nat := max s.scanEvery 1

/-- An operation that puts every sprite to its start, so that ticks are counted anew. -/
def Operation.startsAnew : Operation → Bool
  | .play _ | .restart => true
  | _ => false

/-- A tick of a run: how many ticks there have been, this one included, since the session was made
or last put to its start, and which session it finds and when. -/
structure NumberedTick where
  number : Nat
  found : Session
  now : Instant

namespace NumberedTick

/-- The session when the sprites have acted. -/
def acted (tick : NumberedTick) : Session := tick.found.acted tick.now

/-- The scan that such a tick makes if it makes one: of the cast as it has acted. -/
def scan (tick : NumberedTick) : Scan := ⟨tick.found.monitor, tick.acted.cast⟩

/-- The session when that scan is done: the monitor has looked at the cast as it has acted, what it
swapped is swapped and counted, and the ticks up to the next scan are counted anew. -/
def scanned (tick : NumberedTick) : Session :=
  let (swapped, monitor, cast) :=
    tick.scan.monitor.coordinate tick.scan.cast tick.found.settings.swapCooldown
  { tick.acted with cast, monitor, sinceScan := 0, swaps := tick.found.swaps + swapped.length }

/-- In a tick every sprite acts once, and then the contacts are scanned if the tick's number is a
multiple of the period, and only then. Before the tick the count has not reached the period. -/
structure KeepsCadence (period : Nat) (tick : NumberedTick) : Prop where
  acted : tick.acted.cast.sprites = tick.found.cast.sprites.map Sprite.act
  outcome : tick.found.tick tick.now =
    if period ∣ tick.number then tick.scanned else tick.acted
  sinceScan_lt : tick.found.sinceScan < period

end NumberedTick

/-! ## Counting in rounds -/

theorem le_mod_add_one_iff {period n : Nat} (h : 0 < period) :
    period ≤ n % period + 1 ↔ period ∣ n + 1 := by
  have hlt := Nat.mod_lt n h
  rw [Nat.dvd_iff_mod_eq_zero, ← Nat.mod_add_mod]
  constructor
  · intro hle
    have hround : n % period + 1 = period := by omega
    rw [hround, Nat.mod_self]
  · intro hzero
    by_contra hnot
    rw [Nat.mod_eq_of_lt (by omega)] at hzero
    omega

theorem add_one_mod {period n : Nat} (h : 0 < period) :
    (n + 1) % period = if period ∣ n + 1 then 0 else n % period + 1 := by
  split
  · rename_i hdvd
    exact Nat.mod_eq_zero_of_dvd hdvd
  · rename_i hdvd
    rw [← le_mod_add_one_iff h] at hdvd
    rw [← Nat.mod_add_mod, Nat.mod_eq_of_lt (by omega)]

namespace Session

variable {s : Session} {number : Nat}

theorem scanPeriod_pos (s : Session) : 0 < s.settings.scanPeriod :=
  Nat.lt_of_lt_of_le Nat.zero_lt_one (Nat.le_max_right _ _)

/-! ## Ticks -/

/-- Ticks in a row, behind a number of others. -/
def ticking (s : Session) (now : Instant) (number : Nat) : Nat → List NumberedTick
  | 0 => []
  | count + 1 => ⟨number + 1, s, now⟩ :: (s.tick now).ticking now (number + 1) count

theorem length_ticking (s : Session) (now : Instant) (number count : Nat) :
    (s.ticking now number count).length = count := by
  induction count generalizing s number with
  | zero => rfl
  | succ count ih => rw [ticking, List.length_cons, ih]

/-- The session has counted as many ticks since its last scan as a number of ticks leaves of whole
rounds. -/
def IsInStep (s : Session) (number : Nat) : Prop := s.sinceScan = number % s.settings.scanPeriod

theorem IsInStep.sinceScan_lt (h : s.IsInStep number) : s.sinceScan < s.settings.scanPeriod := by
  rw [h]
  exact Nat.mod_lt _ s.scanPeriod_pos

theorem IsInStep.tick_eq (h : s.IsInStep number) (now : Instant) :
    s.tick now =
      if s.settings.scanPeriod ∣ number + 1 then (s.acted now).scan else s.acted now := by
  have hdue := le_mod_add_one_iff (n := number) s.scanPeriod_pos
  rw [← h] at hdue
  rw [Session.tick_eq]
  exact if_congr hdue rfl rfl

theorem IsInStep.tickScan?_eq (h : s.IsInStep number) (now : Instant) :
    s.tickScan? now = if s.settings.scanPeriod ∣ number + 1 then
      some (NumberedTick.scan ⟨number + 1, s, now⟩) else none := by
  have hdue := le_mod_add_one_iff (n := number) s.scanPeriod_pos
  rw [← h] at hdue
  exact if_congr hdue rfl rfl

theorem IsInStep.keepsCadence (h : s.IsInStep number) (now : Instant) :
    NumberedTick.KeepsCadence s.settings.scanPeriod ⟨number + 1, s, now⟩ where
  acted := by
    change (s.act now).cast.sprites = _
    rw [act_eq]
  outcome := h.tick_eq now
  sinceScan_lt := h.sinceScan_lt

theorem IsInStep.tick (h : s.IsInStep number) (now : Instant) :
    (s.tick now).IsInStep (number + 1) := by
  unfold IsInStep
  rw [settings_tick, add_one_mod s.scanPeriod_pos, h.tick_eq now]
  split
  · rfl
  · change s.sinceScan + 1 = _
    rw [h]

theorem IsInStep.tickTimes (h : s.IsInStep number) (now : Instant) (count : Nat) :
    (s.tickTimes now count).IsInStep (number + count) := by
  induction count generalizing s number with
  | zero => exact h
  | succ count ih =>
      have hrest := ih (h.tick now)
      rw [Nat.add_assoc, Nat.add_comm 1] at hrest
      exact hrest

theorem IsInStep.keepsCadence_of_mem_ticking (h : s.IsInStep number) {now : Instant} {count : Nat}
    {tick : NumberedTick} (htick : tick ∈ s.ticking now number count) :
    tick.KeepsCadence s.settings.scanPeriod := by
  induction count generalizing s number with
  | zero => cases htick
  | succ count ih =>
      rcases List.mem_cons.1 htick with rfl | htick
      · exact h.keepsCadence now
      · have hrest := ih (h.tick now) htick
        rwa [settings_tick] at hrest

/-- Of some ticks, those whose numbers are multiples of a period. -/
def onBeat (period : Nat) (ticks : List NumberedTick) : List NumberedTick :=
  ticks.filter fun tick => period ∣ tick.number

theorem IsInStep.tickScans_eq (h : s.IsInStep number) (now : Instant) (count : Nat) :
    s.tickScans now count =
      (onBeat s.settings.scanPeriod (s.ticking now number count)).map (·.scan) := by
  induction count generalizing s number with
  | zero => rfl
  | succ count ih =>
      have hrest := ih (h.tick now)
      rw [settings_tick] at hrest
      unfold onBeat at hrest ⊢
      rw [tickScans, ticking, h.tickScan?_eq now, hrest, List.filter_cons]
      simp only [decide_eq_true_eq]
      split <;> rfl

/-! ## Operations -/

/-- The ticks of an operation, behind a number of others. -/
def ticksOf (s : Session) (number : Nat) : Operation → List NumberedTick
  | .advance now => (s.fed now).ticking now number (s.clock.beginFrame now).due
  | .step now => s.ticking now number 1
  | _ => []

theorem length_ticksOf (s : Session) (number : Nat) (op : Operation) :
    (s.ticksOf number op).length = s.ticksRun op := by
  cases op with
  | advance now => exact length_ticking _ now number _
  | step now => rfl
  | _ => rfl

/-- The ticks since the session was made or last put to its start, when an operation is over. -/
def numberAfter (s : Session) (number : Nat) (op : Operation) : Nat :=
  if op.startsAnew then 0 else number + s.ticksRun op

theorem IsInStep.congr (h : s.IsInStep number) {t : Session} (hsettings : t.settings = s.settings)
    (hcount : t.sinceScan = s.sinceScan) : t.IsInStep number := by
  unfold IsInStep
  rw [hcount, hsettings, h]

theorem IsInStep.after (h : s.IsInStep number) (op : Operation) :
    (s.after op).IsInStep (s.numberAfter number op) := by
  have hsettings := (s.counts_after op).settings
  cases op with
  | add spec =>
      apply h.congr hsettings
      rw [after_add]
      split <;> rfl
  | delete id =>
      apply h.congr hsettings
      rw [after_delete]
      split <;> rfl
  | select id =>
      apply h.congr hsettings
      rw [after_select]
      split <;> rfl
  | edit id t e =>
      apply h.congr hsettings
      rw [after_edit]
      split <;> rfl
  | play now => exact (Nat.zero_mod _).symm
  | stop => exact h.congr hsettings rfl
  | restart => exact (Nat.zero_mod _).symm
  | click id now =>
      apply h.congr hsettings
      change (s.click id now).sinceScan = _
      unfold click
      split <;> rfl
  | advance now =>
      have hfed : (s.fed now).IsInStep number := h
      exact (hfed.tickTimes now (s.clock.beginFrame now).due).congr rfl rfl
  | step now => exact (h.tick now).congr rfl rfl

theorem IsInStep.keepsCadence_of_mem_ticksOf (h : s.IsInStep number) {op : Operation}
    {tick : NumberedTick} (htick : tick ∈ s.ticksOf number op) :
    tick.KeepsCadence s.settings.scanPeriod := by
  cases op with
  | advance now =>
      have hfed : (s.fed now).IsInStep number := h
      exact hfed.keepsCadence_of_mem_ticking htick
  | step now => exact h.keepsCadence_of_mem_ticking htick
  | _ => cases htick

theorem IsInStep.scansOf_eq (h : s.IsInStep number) (op : Operation) :
    s.scansOf op = (onBeat s.settings.scanPeriod (s.ticksOf number op)).map (·.scan) := by
  cases op with
  | advance now =>
      have hfed : (s.fed now).IsInStep number := h
      exact hfed.tickScans_eq now _
  | step now => exact h.tickScans_eq now 1
  | _ => rfl

/-! ## Runs -/

/-- The ticks of operations, behind a number of others. -/
def tickLog (s : Session) (number : Nat) : List Operation → List NumberedTick
  | [] => []
  | op :: ops => s.ticksOf number op ++ (s.after op).tickLog (s.numberAfter number op) ops

theorem ticks_eq_length_tickLog (s : Session) (number : Nat) (ops : List Operation) :
    (s.afterAll ops).ticks = s.ticks + (s.tickLog number ops).length := by
  induction ops generalizing s number with
  | nil => rfl
  | cons op ops ih =>
      change ((s.after op).afterAll ops).ticks = _
      rw [ih (s.after op) (s.numberAfter number op), (s.counts_after op).ticks, tickLog,
        List.length_append, length_ticksOf]
      omega

theorem IsInStep.keepsCadence_of_mem_tickLog (h : s.IsInStep number) {ops : List Operation}
    {tick : NumberedTick} (htick : tick ∈ s.tickLog number ops) :
    tick.KeepsCadence s.settings.scanPeriod := by
  induction ops generalizing s number with
  | nil => cases htick
  | cons op ops ih =>
      rcases List.mem_append.1 htick with htick | htick
      · exact h.keepsCadence_of_mem_ticksOf htick
      · have hrest := ih (h.after op) htick
        rwa [(s.counts_after op).settings] at hrest

theorem IsInStep.scans_eq (h : s.IsInStep number) (ops : List Operation) :
    s.scans ops = (onBeat s.settings.scanPeriod (s.tickLog number ops)).map (·.scan) := by
  induction ops generalizing s number with
  | nil => rfl
  | cons op ops ih =>
      have hrest := ih (h.after op)
      rw [(s.counts_after op).settings] at hrest
      unfold onBeat at hrest ⊢
      rw [scans, tickLog, List.filter_append, List.map_append, hrest, h.scansOf_eq op]
      rfl

theorem IsInStep.sinceScan_afterAll_lt (h : s.IsInStep number) (ops : List Operation) :
    (s.afterAll ops).sinceScan < s.settings.scanPeriod := by
  induction ops generalizing s number with
  | nil => exact h.sinceScan_lt
  | cons op ops ih =>
      have hrest := ih (h.after op)
      rwa [(s.counts_after op).settings] at hrest

/-- Of the ticks since a session was made or last put to its start, exactly those whose numbers are
multiples of the scan period end with a scan, each after every sprite has acted once. Nothing but a
play or a restart starts the count of ticks anew, and the count since the last scan stays below the
period. -/
theorem scans_every_multiple (settings : Settings) (ops : List Operation) :
    let period := max settings.scanEvery 1
    let fresh := ofSettings settings
    let log := fresh.tickLog 0 ops
    (∀ tick ∈ log, tick.KeepsCadence period) ∧
      fresh.scans ops = (log.filter fun tick => period ∣ tick.number).map (·.scan) ∧
      (fresh.afterAll ops).ticks = log.length ∧
      (fresh.afterAll ops).sinceScan < period ∧
      (settings.scanEvery < 2 ^ (32 : Nat) →
        ∀ tick ∈ log, tick.found.sinceScan + 1 < 2 ^ (32 : Nat)) := by
  intro period fresh log
  have hfresh : fresh.IsInStep 0 := (Nat.zero_mod _).symm
  have hcadence : ∀ tick ∈ log, tick.KeepsCadence period := fun tick htick =>
    hfresh.keepsCadence_of_mem_tickLog htick
  refine ⟨hcadence, hfresh.scans_eq ops, ?_, hfresh.sinceScan_afterAll_lt ops, ?_⟩
  · exact (fresh.ticks_eq_length_tickLog 0 ops).trans (Nat.zero_add _)
  · intro hbound tick htick
    have hlt := (hcadence tick htick).sinceScan_lt
    omega

/-- A tick before a play, and four after it with a halt and a click between them. -/
def haltedRun : List Operation :=
  [.add { id := "cat", name := "cat", start := default, program := { click := [.turn 10] } },
    .add { id := "dog", name := "dog", start := default }, .step 0, .play 0, .step 0,
    .advance (milliseconds 50), .stop, .click "cat" 0, .step 0, .step 0]

theorem scans_every_multiple_halted :
    let fresh := ofSettings { scanEvery := 3 }
    let log := fresh.tickLog 0 haltedRun
    log.map (·.number) = [1, 1, 2, 3, 4] ∧ (fresh.scans haltedRun).length = 1 ∧
      ∃ tick ∈ log, tick.number = 3 ∧ tick.KeepsCadence 3 ∧
        tick.found.tick tick.now = tick.scanned ∧ tick.found.sinceScan + 1 < 2 ^ (32 : Nat) := by
  intro fresh log
  have hnumbers : log.map (·.number) = [1, 1, 2, 3, 4] := by decide +kernel
  have hscans : (fresh.scans haltedRun).length = 1 := by decide +kernel
  obtain ⟨tick, htick, hnumber⟩ : ∃ tick ∈ log, tick.number = 3 := by
    rw [← List.mem_map, hnumbers]
    decide
  obtain ⟨hcadence, -, -, -, hbound⟩ := scans_every_multiple { scanEvery := 3 } haltedRun
  have hkeeps : tick.KeepsCadence 3 := hcadence tick htick
  have houtcome := hkeeps.outcome
  rw [hnumber, if_pos (Nat.dvd_refl 3)] at houtcome
  exact ⟨hnumbers, hscans, tick, htick, hnumber, hkeeps, houtcome,
    hbound (by decide) tick htick⟩

end Session

end SpriteStage
