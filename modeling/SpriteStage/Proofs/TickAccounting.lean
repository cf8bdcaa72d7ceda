import SpriteStage.Proofs.SessionParts

/-!
# Ticks and the time fed in

Frames feed time into a running clock, each at most the longest frame, and `advance` runs a tick for
each whole period of it, as if it took them one by one until none is due (`Session.Takes`). So after
any frames the ticks run are the whole periods of all the time fed in, and what is left over is its
remainder, however the frames were spaced (`Reachable.ticks_without_drift`).
-/

namespace SpriteStage

/-- The time between two ticks: 50 ms if it is set to zero. -/
def Settings.period (s : Settings) : Duration :=
  if s.tickPeriodMs = 0 then milliseconds 50 else milliseconds s.tickPeriodMs

/-- The most that a frame counts for: never less than one tick. -/
def Settings.frameLimit (s : Settings) : Duration := max (milliseconds s.longestFrameMs) s.period

namespace Clock

variable {c c' : Clock} {last now : Instant}

/-! ## One tick at a time -/

/-- Ticks are taken from a clock, one by one, until none is due. -/
inductive Drains : Clock → Nat → Clock → Prop where
  | nil {c : Clock} : c.tick? = none → Drains c 0 c
  | cons {c c' c'' : Clock} {count : Nat} :
      c.tick? = some c' → Drains c' count c'' → Drains c (count + 1) c''

theorem due_take_one (h : 0 < c.due) : (c.take 1).due = c.due - 1 := by
  cases hrunning : c.isRunning with
  | false =>
      rw [due_of_not_isRunning hrunning] at h
      omega
  | true =>
      rw [due_of_isRunning hrunning] at h ⊢
      rw [due_of_isRunning (by rw [isRunning_take, hrunning])]
      have hle : c.period ≤ c.accumulated := Nat.le_of_not_lt fun hlt => by
        rw [Nat.div_eq_of_lt hlt] at h
        omega
      have hdiv := Nat.div_eq_sub_div c.period_pos hle
      change (c.accumulated - 1 * c.period) / c.period = c.accumulated / c.period - 1
      rw [Nat.one_mul, hdiv, Nat.add_sub_cancel]

theorem take_take (c : Clock) (m n : Nat) : (c.take m).take n = c.take (m + n) := by
  unfold take
  simp only [Nat.sub_sub, Nat.add_assoc, Nat.add_mul]

/-- Taking ticks one by one takes as many as are due, and leaves what draining leaves. -/
theorem drains (c : Clock) : c.Drains c.due c.drain := by
  unfold drain
  induction hdue : c.due generalizing c with
  | zero =>
      have hnone : c.tick? = none := by
        rw [tick?, hdue]
        rfl
      have hsame : c.take 0 = c := by
        cases c
        simp [take]
      rw [hsame]
      exact .nil hnone
  | succ count ih =>
      have hsome : c.tick? = some (c.take 1) := by
        rw [tick?, if_pos (by omega)]
      have hrest := ih (c.take 1) (by rw [due_take_one (by omega), hdue, Nat.add_sub_cancel])
      rw [take_take, Nat.add_comm 1] at hrest
      exact .cons hsome hrest

theorem period_ofPeriod {period : Duration} (h : 0 < period) :
    (ofPeriod period).period = period := by
  unfold ofPeriod
  rw [dif_pos h]

theorem accumulated_ofPeriod (period : Duration) : (ofPeriod period).accumulated = 0 := by
  unfold ofPeriod
  split <;> rfl

/-! ## Frames -/

/-- The time that frames feed into a clock whose last frame was at a given instant, when none of
them counts for more than a longest frame. -/
def fed (longest : Duration) : Instant → List Instant → Duration
  | _, [] => 0
  | last, now :: rest => min (now - last) longest + fed longest now rest

/-- Frames that do not go back and are at most the longest frame apart feed in all the time that
passes. -/
theorem fed_of_isChain {longest : Duration} {frames : List Instant}
    (h : (last :: frames).IsChain fun t t' => t ≤ t' ∧ t' - t ≤ longest) :
    last ≤ frames.getLastD last ∧ fed longest last frames = frames.getLastD last - last := by
  induction frames generalizing last with
  | nil => exact ⟨Nat.le_refl last, (Nat.sub_self last).symm⟩
  | cons now rest ih =>
      obtain ⟨⟨hle, hgap⟩, hrest⟩ := List.isChain_cons_cons.1 h
      obtain ⟨hle', hfed⟩ := ih hrest
      rw [fed, hfed, Nat.min_eq_left hgap, List.getLastD_cons, Nat.add_comm]
      exact ⟨Nat.le_trans hle hle', Nat.sub_add_sub_cancel hle' hle⟩

theorem beginFrame_of_last (h : c.last = some last) (now : Instant) :
    c.beginFrame now = { c with
      last := some now
      accumulated := c.accumulated + min (now - last) c.longestFrame
      frames := c.frames + 1
      frameTicks := 0
      frameTime := min (now - last) c.longestFrame } := by
  unfold beginFrame
  rw [h]

theorem due_beginFrame (h : c.last = some last) (now : Instant) :
    (c.beginFrame now).due = (c.accumulated + min (now - last) c.longestFrame) / c.period := by
  rw [beginFrame_of_last h]
  rfl

theorem accumulated_drain_beginFrame (h : c.last = some last) (now : Instant) :
    (c.beginFrame now).drain.accumulated =
      (c.accumulated + min (now - last) c.longestFrame) % c.period := by
  have hrunning : (c.beginFrame now).isRunning = true := by
    rw [isRunning_beginFrame, isRunning, h]
    rfl
  rw [accumulated_drain hrunning, beginFrame_of_last h]

/-- A clock has been fed some time since it was started with nothing accumulated: it has run a tick
for each whole period, and keeps the rest. -/
structure HasRun (c : Clock) (ticks : Nat) (time : Duration) : Prop where
  ticks : ticks = time / c.period
  accumulated : c.accumulated = time % c.period

theorem HasRun.frame {ticks : Nat} {time : Duration} (hrun : c.HasRun ticks time)
    (h : c.last = some last) (now : Instant) :
    (c.beginFrame now).drain.HasRun (ticks + (c.beginFrame now).due)
      (time + min (now - last) c.longestFrame) := by
  have hperiod : (c.beginFrame now).drain.period = c.period := by
    rw [beginFrame_of_last h]
    rfl
  have hsum : time + min (now - last) c.longestFrame =
      c.period * (time / c.period) + (time % c.period + min (now - last) c.longestFrame) := by
    rw [← Nat.add_assoc, Nat.div_add_mod]
  refine ⟨?_, ?_⟩
  · rw [due_beginFrame h, hperiod, hrun.ticks, hrun.accumulated, hsum,
      Nat.mul_add_div c.period_pos]
  · rw [accumulated_drain_beginFrame h, hperiod, hrun.accumulated, Nat.mod_add_mod]

end Clock

/-- The instant of an operation that feeds time into the clock. -/
def Operation.frame? : Operation → Option Instant
  | .advance now => some now
  | _ => none

theorem Operation.eq_advance_of_frame? {op : Operation} {now : Instant}
    (h : op.frame? = some now) : op = .advance now := by
  cases op <;> cases h
  rfl

namespace Session

variable {s : Session} {op : Operation} {ops : List Operation} {began last : Instant}

/-! ## Operations -/

/-- The ticks that an operation says it has run. -/
def ticksReturned (s : Session) (op : Operation) : Nat :=
  match s.reply op with
  | .ok (.ran count) => count
  | _ => 0

def ticksReturnedAll (s : Session) : List Operation → Nat
  | [] => 0
  | op :: ops => s.ticksReturned op + (s.after op).ticksReturnedAll ops

theorem ticksReturned_advance (s : Session) (now : Instant) :
    s.ticksReturned (.advance now) = (s.clock.beginFrame now).due := rfl

theorem ticksReturned_of_frame?_eq_none (s : Session) (h : op.frame? = none) :
    s.ticksReturned op = 0 := by
  unfold ticksReturned reply
  cases op with
  | add spec => dsimp only [perform]; cases s.add spec <;> rfl
  | delete id => dsimp only [perform]; cases s.delete id <;> rfl
  | select id => dsimp only [perform]; cases s.select id <;> rfl
  | edit id trigger e =>
      dsimp only [perform]
      cases s.edit id trigger e with
      | error e => rfl
      | ok result =>
          obtain ⟨removed, t⟩ := result
          cases removed <;> rfl
  | advance now => cases h
  | _ => rfl

/-- The ticks that operations take from the clock: each frame feeds it and then takes ticks one by
one until none is due, and nothing else takes any. -/
inductive Takes : Session → List Operation → Nat → Prop where
  | nil {s : Session} : Takes s [] 0
  | frame {s : Session} {now : Instant} {ops : List Operation} {count total : Nat} :
      (s.clock.beginFrame now).Drains count (s.after (.advance now)).clock →
      Takes (s.after (.advance now)) ops total → Takes s (.advance now :: ops) (count + total)
  | other {s : Session} {op : Operation} {ops : List Operation} {total : Nat} :
      op.frame? = none → Takes (s.after op) ops total → Takes s (op :: ops) total

theorem clock_after_advance (s : Session) (now : Instant) :
    (s.after (.advance now)).clock = (s.clock.beginFrame now).drain :=
  (s.counts_after (.advance now)).clock

/-- The ticks that a frame says it has run are taken one by one. -/
theorem drains_advance (s : Session) (now : Instant) :
    (s.clock.beginFrame now).Drains (s.ticksReturned (.advance now))
      (s.after (.advance now)).clock := by
  rw [ticksReturned_advance, clock_after_advance]
  exact (s.clock.beginFrame now).drains

/-- Operations take as many ticks as they say they have run. -/
theorem takes_ticksReturnedAll (s : Session) (ops : List Operation) :
    s.Takes ops (s.ticksReturnedAll ops) := by
  induction ops generalizing s with
  | nil => exact .nil
  | cons op ops ih =>
      rw [ticksReturnedAll]
      cases hframe : op.frame? with
      | none =>
          rw [ticksReturned_of_frame?_eq_none s hframe, Nat.zero_add]
          exact .other hframe (ih (s.after op))
      | some now =>
          obtain rfl := Operation.eq_advance_of_frame? hframe
          exact .frame (s.drains_advance now) (ih (s.after (.advance now)))

/-- The session counts the ticks that operations say they have run, and one for each step. -/
theorem ticks_afterAll (s : Session) (ops : List Operation) :
    (s.afterAll ops).ticks = s.ticks + s.ticksReturnedAll ops + ops.countP (·.isStep) := by
  induction ops generalizing s with
  | nil => rfl
  | cons op ops ih =>
      have hop : s.ticksRun op = s.ticksReturned op + if op.isStep then 1 else 0 := by
        cases op with
        | advance now => rfl
        | _ => rw [ticksReturned_of_frame?_eq_none s rfl]; rfl
      have hcounts := (s.counts_after op).ticks
      have hrest := ih (s.after op)
      change ((s.after op).afterAll ops).ticks = _
      rw [hrest, hcounts, hop, ticksReturnedAll, List.countP_cons]
      omega

theorem clockAfter_of_not_setsClock (hplaying : s.isPlaying = true) (hop : op.setsClock = false)
    (hframe : op.frame? = none) : s.clockAfter op = s.clock := by
  cases op with
  | click id now =>
      rw [clockAfter, hplaying, Bool.not_true, Bool.and_false]
      rfl
  | play now => cases hop
  | stop => cases hop
  | restart => cases hop
  | advance now => cases hframe
  | _ => rfl

/-- No operation changes the period of the clock or its longest frame. -/
theorem limits_clockAfter (s : Session) (op : Operation) :
    (s.clockAfter op).period = s.clock.period ∧
      (s.clockAfter op).longestFrame = s.clock.longestFrame := by
  cases op with
  | click id now =>
      rw [clockAfter]
      split <;> exact ⟨rfl, rfl⟩
  | advance now =>
      have hbegin : (s.clock.beginFrame now).period = s.clock.period ∧
          (s.clock.beginFrame now).longestFrame = s.clock.longestFrame := by
        unfold Clock.beginFrame
        split <;> exact ⟨rfl, rfl⟩
      exact hbegin
  | _ => exact ⟨rfl, rfl⟩

theorem period_ofSettings (settings : Settings) :
    (Clock.ofPeriod settings.tickPeriod).period = settings.period := by
  unfold Settings.period
  by_cases hzero : settings.tickPeriodMs = 0
  · have hnone : settings.tickPeriod = 0 := by
      rw [Settings.tickPeriod, hzero, milliseconds, Nat.zero_mul]
    rw [hnone, if_pos hzero]
    rfl
  · have hpos : 0 < settings.tickPeriod := Nat.mul_pos (Nat.pos_of_ne_zero hzero) (by decide)
    rw [Clock.period_ofPeriod hpos, if_neg hzero, Settings.tickPeriod]

theorem clock_ofSettings (settings : Settings) :
    (ofSettings settings).clock = { Clock.ofPeriod settings.tickPeriod with
      longestFrame := max settings.longestFrame (Clock.ofPeriod settings.tickPeriod).period } := rfl

/-- It is stated of any clock: with the session's own put in, its period would be computed. -/
theorem limits_of_eq {settings : Settings} {clock c : Clock}
    (hperiod : clock.period = settings.period)
    (hc : c = { clock with longestFrame := max settings.longestFrame clock.period }) :
    c.period = settings.period ∧ c.longestFrame = settings.frameLimit := by
  subst hc
  exact ⟨hperiod, congrArg (max settings.longestFrame) hperiod⟩

theorem Reachable.limits (hs : s.Reachable) :
    s.clock.period = s.settings.period ∧ s.clock.longestFrame = s.settings.frameLimit := by
  induction hs with
  | new settings => exact limits_of_eq (period_ofSettings settings) (clock_ofSettings settings)
  | @after s op _ ih =>
      have hcounts := s.counts_after op
      rw [hcounts.clock, hcounts.settings, (limits_clockAfter s op).1, (limits_clockAfter s op).2]
      exact ih

/-- Between operations no tick is due: the clock keeps less than a period. -/
theorem accumulated_lt_clockAfter (h : s.clock.accumulated < s.clock.period) (op : Operation) :
    (s.clockAfter op).accumulated < (s.clockAfter op).period := by
  cases op with
  | play now => exact s.clock.period_pos
  | stop => exact s.clock.period_pos
  | restart => exact s.clock.period_pos
  | click id now =>
      rw [clockAfter]
      split
      · exact s.clock.period_pos
      · exact h
  | advance now =>
      have hperiod := (limits_clockAfter s (.advance now)).1
      rw [hperiod]
      change (s.clock.beginFrame now).drain.accumulated < s.clock.period
      cases hlast : s.clock.last with
      | some last =>
          rw [Clock.accumulated_drain_beginFrame hlast]
          exact Nat.mod_lt _ s.clock.period_pos
      | none =>
          -- A stopped clock takes in nothing, and gives nothing up.
          have hkept : (s.clock.beginFrame now).accumulated = s.clock.accumulated := by
            unfold Clock.beginFrame
            rw [hlast]
          exact Nat.lt_of_le_of_lt (Nat.sub_le _ _) (hkept ▸ h)
  | _ => exact h

/-- It is stated of any clock, as `limits_of_eq` is. -/
theorem accumulated_lt_of_eq {longestFrame : Duration} {clock c : Clock}
    (hnone : clock.accumulated = 0) (hc : c = { clock with longestFrame }) :
    c.accumulated < c.period := by
  subst hc
  exact hnone ▸ clock.period_pos

theorem Reachable.accumulated_lt (hs : s.Reachable) : s.clock.accumulated < s.clock.period := by
  induction hs with
  | new settings =>
      exact accumulated_lt_of_eq (Clock.accumulated_ofPeriod settings.tickPeriod)
        (clock_ofSettings settings)
  | @after s op _ ih =>
      rw [(s.counts_after op).clock]
      exact accumulated_lt_clockAfter ih op

/-- While no operation starts or stops a clock, it runs ticks for the time that frames feed in. -/
theorem hasRun_afterAll {ticks : Nat} {time : Duration} (hlast : s.clock.last = some last)
    (hrun : s.clock.HasRun ticks time) (hops : ∀ op ∈ ops, op.setsClock = false) :
    (s.afterAll ops).clock.last = some ((ops.filterMap Operation.frame?).getLastD last) ∧
      (s.afterAll ops).clock.HasRun (ticks + s.ticksReturnedAll ops)
        (time + Clock.fed s.clock.longestFrame last (ops.filterMap Operation.frame?)) := by
  induction ops generalizing s last ticks time with
  | nil => exact ⟨hlast, hrun⟩
  | cons op ops ih =>
      have hclock := (s.counts_after op).clock
      have hlimits := (limits_clockAfter s op).2
      have hrest : ∀ op ∈ ops, op.setsClock = false := fun op hop =>
        hops op (List.mem_cons_of_mem _ hop)
      change ((s.after op).afterAll ops).clock.last = _ ∧
        ((s.after op).afterAll ops).clock.HasRun _ _
      rw [← hclock] at hlimits
      -- A clock that is running is left alone by everything but frames.
      cases hframe : op.frame? with
      | none =>
          have hplaying : s.isPlaying = true := by
            unfold isPlaying Clock.isRunning
            rw [hlast]
            rfl
          have hsame := clockAfter_of_not_setsClock hplaying (hops op List.mem_cons_self) hframe
          rw [← hclock] at hsame
          have hnext := ih (s := s.after op) (hsame ▸ hlast) (hsame ▸ hrun) hrest
          rw [hlimits] at hnext
          rw [List.filterMap_cons_none hframe, ticksReturnedAll,
            ticksReturned_of_frame?_eq_none s hframe, Nat.zero_add]
          exact hnext
      | some now =>
          obtain rfl := Operation.eq_advance_of_frame? hframe
          have hdrained := s.clock_after_advance now
          have hran := hrun.frame hlast now
          have hnow : (s.clock.beginFrame now).drain.last = some now := by
            rw [Clock.beginFrame_of_last hlast]
            rfl
          have hnext := ih (s := s.after (.advance now)) (hdrained ▸ hnow) (hdrained ▸ hran) hrest
          rw [hlimits] at hnext
          rw [List.filterMap_cons_some hframe, ticksReturnedAll, Clock.fed, List.getLastD_cons,
            ticksReturned_advance, ← Nat.add_assoc, ← Nat.add_assoc]
          exact hnext

/-- An operation starts the clock at an instant: a play, or a click on a stopped session that arms
a sprite. -/
inductive StartsClock (s : Session) (began : Instant) : Operation → Prop where
  | play : StartsClock s began (.play began)
  | click {id : SpriteId} : s.isPlaying = false → s.isClickable id = true →
      StartsClock s began (.click id began)

theorem StartsClock.clock_eq (h : s.StartsClock began op) :
    (s.after op).clock = s.clock.start began := by
  rw [(s.counts_after op).clock]
  cases h with
  | play => rfl
  | click hstopped hclickable =>
      rw [clockAfter, hstopped, hclickable]
      rfl

theorem StartsClock.ticks_eq (h : s.StartsClock began op) : (s.after op).ticks = s.ticks := by
  rw [(s.counts_after op).ticks]
  cases h <;> rfl

/-- From the start of the clock on, the operations have run a tick for each whole period of the time
that their frames feed in, taking ticks one by one, and the clock keeps the rest. If the frames do
not go back and none is later than a longest frame after the one before, that is all the time since
the start. A frame that is a period or more after the one before always runs a tick. -/
theorem Reachable.ticks_without_drift (hs : s.Reachable) (hstart : s.StartsClock began op)
    (hops : ∀ op ∈ ops, op.setsClock = false) :
    let frames := ops.filterMap Operation.frame?
    let time := Clock.fed s.settings.frameLimit began frames
    let started := s.after op
    let ended := started.afterAll ops
    started.ticksReturnedAll ops = time / s.settings.period ∧
      started.Takes ops (time / s.settings.period) ∧
      ended.clock.accumulated = time % s.settings.period ∧
      ended.ticks = s.ticks + time / s.settings.period + ops.countP (·.isStep) ∧
      ((began :: frames).IsChain (fun t t' => t ≤ t' ∧ t' - t ≤ s.settings.frameLimit) →
        started.ticksReturnedAll ops = (frames.getLastD began - began) / s.settings.period) ∧
      ∀ now, frames.getLastD began + s.settings.period ≤ now →
        1 ≤ ended.ticksReturned (.advance now) := by
  intro frames time started ended
  have hclock : started.clock = s.clock.start began := hstart.clock_eq
  have hnone : (s.clock.start began).HasRun 0 0 := by
    refine ⟨?_, ?_⟩
    · rw [Nat.zero_div]
    · rw [Nat.zero_mod]
      rfl
  have hlongest : started.clock.longestFrame = s.settings.frameLimit := by
    rw [hclock]
    exact hs.limits.2
  have hbegan : started.clock.last = some began := by
    rw [hclock]
    rfl
  obtain ⟨hlast, hrun⟩ := hasRun_afterAll hbegan (hclock ▸ hnone) hops
  rw [hlongest, Nat.zero_add, Nat.zero_add] at hrun
  have hsettings : ended.settings = s.settings :=
    (settings_afterAll started ops).trans (s.counts_after op).settings
  obtain ⟨hperiod, hlimit⟩ : ended.clock.period = ended.settings.period ∧
    ended.clock.longestFrame = ended.settings.frameLimit := ((hs.after op).afterAll ops).limits
  rw [hsettings] at hperiod hlimit
  have hticks : started.ticksReturnedAll ops = time / s.settings.period := hperiod ▸ hrun.ticks
  have htakes := started.takes_ticksReturnedAll ops
  rw [hticks] at htakes
  refine ⟨hticks, htakes, hperiod ▸ hrun.accumulated, ?_, ?_, ?_⟩
  · have hcount := started.ticks_afterAll ops
    rw [hticks, hstart.ticks_eq] at hcount
    exact hcount
  · intro hchain
    have hfed : time = frames.getLastD began - began := (Clock.fed_of_isChain hchain).2
    rw [hticks, hfed]
  · intro now hnow
    have hgap : s.settings.period ≤ now - frames.getLastD began := Nat.le_sub_of_add_le' hnow
    have hcapped : s.settings.period ≤ min (now - frames.getLastD began) s.settings.frameLimit :=
      Nat.le_min.2 ⟨hgap, Nat.le_max_right _ _⟩
    rw [ticksReturned_advance, Clock.due_beginFrame hlast, hperiod, hlimit]
    exact (Nat.one_le_div_iff (hperiod ▸ ended.clock.period_pos)).2
      (Nat.le_trans hcapped (Nat.le_add_left _ _))

/-- Frames that are not evenly spaced. -/
def unevenFrames : List Operation :=
  [.advance (milliseconds 30), .advance (milliseconds 60), .advance (milliseconds 160)]

theorem Reachable.ticks_without_drift_placed :
    (placed.after (.play 0)).ticksReturnedAll unevenFrames = 3 ∧
      (placed.after (.play 0)).Takes unevenFrames 3 ∧
      ((placed.after (.play 0)).afterAll unevenFrames).clock.accumulated = milliseconds 10 := by
  have hsettings : placed.settings = {} := settings_afterAll _ _
  have hstart : placed.StartsClock 0 (.play 0) := .play
  have hframes : ∀ op ∈ unevenFrames, op.setsClock = false := by decide
  obtain ⟨hticks, htakes, hleft, -⟩ := reachable_placed.ticks_without_drift hstart hframes
  rw [hsettings] at hticks htakes hleft
  refine ⟨?_, htakes, ?_⟩
  · rw [hticks]
    decide
  · rw [hleft]
    decide

end Session

end SpriteStage
