import SpriteStage.Proofs.Deadlines
import SpriteStage.Proofs.EqualCores

/-!
# Edits while a session runs

An actor carries out the program that it was armed with, so an edit of its sprite's program shows
only when the actor is armed again: by a play, by a click, or by a swap. Two sessions that differ in
nothing but the program of one sprite (`Session.blank`) therefore do the same in every tick, and are
left with no other difference, as long as that sprite does not swap (`tick_congr_blank`). So nothing
shows of an edit until then (`sightings_edit`).
-/

namespace SpriteStage

namespace Sprite

variable {x : SpriteId} {s : Sprite}

/-- The sprite without its program, if it is a given one. -/
def blank (x : SpriteId) (s : Sprite) : Sprite :=
  if s.id = x then { s with program := {}, flat := {} } else s

theorem blank_of_ne (h : s.id ≠ x) : s.blank x = s := if_neg h

@[simp] theorem id_blank (x : SpriteId) (s : Sprite) : (s.blank x).id = s.id := by
  unfold blank
  split <;> rfl

@[simp] theorem actor_blank (x : SpriteId) (s : Sprite) : (s.blank x).actor = s.actor := by
  unfold blank
  split <;> rfl

theorem isUnseen_blank (x : SpriteId) : IsUnseen (blank x) where
  stance s := by rw [stance, stance, id_blank, actor_blank]
  cooldown s := by rw [actor_blank]

theorem act_blank (x : SpriteId) (s : Sprite) : (s.blank x).act = s.act.blank x := by
  have hid : s.act.id = s.id := rfl
  unfold blank
  rw [hid]
  split <;> rfl

theorem clearedIn_blank (ids : List SpriteId) (x : SpriteId) (s : Sprite) :
    (s.blank x).clearedIn ids = (s.clearedIn ids).blank x := by
  unfold clearedIn
  rw [id_blank]
  split
  · have hid : s.clearBubble.id = s.id := rfl
    unfold blank
    rw [hid]
    split <;> rfl
  · rfl

theorem schedule_blank (x : SpriteId) (s : Sprite) (now : Instant) (timers : BubbleTimers) :
    (s.blank x).schedule now timers = s.schedule now timers := by
  unfold schedule
  rw [actor_blank, id_blank]

theorem snapshot_blank (x : SpriteId) (s : Sprite) : (s.blank x).snapshot = s.snapshot := by
  unfold snapshot
  rw [actor_blank, id_blank]

theorem blank_withProgram (h : s.id = x) (i : Increment) (p : Program) :
    (s.withProgram i p).blank x = s.blank x := by
  have hid : (s.withProgram i p).id = x := h
  unfold blank
  rw [if_pos h, if_pos hid]
  rfl

end Sprite

/-! ## Casts -/

namespace Cast

variable {c c' : Cast} {a b x : SpriteId} {cooldown : Nat}

/-- The cast without the program of a sprite. -/
def blank (x : SpriteId) (c : Cast) : Cast := { c with sprites := c.sprites.map (Sprite.blank x) }

theorem ids_eq_of_blank_eq (h : c.blank x = c'.blank x) : c.ids = c'.ids := by
  have hids (c : Cast) : (c.blank x).ids = c.ids := ids_map_sprites (Sprite.id_blank x)
  rw [← hids c, h, hids c']

theorem find?_blank (h : a ≠ x) (c : Cast) : (c.blank x).find? a = c.find? a := by
  refine (c.find?_map_sprites (Sprite.id_blank x) a).trans ?_
  cases hs : c.find? a with
  | none => rfl
  | some s =>
      have hne : s.id ≠ x := by rwa [id_of_find? hs]
      rw [Option.map_some, Sprite.blank_of_ne hne]

theorem handOver_blank {s t : Sprite} (hs : s.id ≠ x) (ht : t.id ≠ x) (i : Increment)
    (cooldown : Nat) (y : Sprite) :
    handOver i s t cooldown (y.blank x) = (handOver i s t cooldown y).blank x := by
  by_cases hy : y.id = x
  · have hkept (z : Sprite) (hz : z.id = x) : handOver i s t cooldown z = z := by
      unfold handOver
      rw [if_neg (hz ▸ hs.symm), if_neg (hz ▸ ht.symm)]
    rw [hkept y hy, hkept (y.blank x) (by rw [Sprite.id_blank, hy])]
  · have hy' : (handOver i s t cooldown y).id ≠ x := by rwa [id_handOver]
    rw [Sprite.blank_of_ne hy, Sprite.blank_of_ne hy']

/-- A sprite that takes no part in a swap may be without its program. -/
theorem swap_blank (ha : a ≠ x) (hb : b ≠ x) (c : Cast) (cooldown : Nat) :
    (c.blank x).swap a b cooldown = (c.swap a b cooldown).map (blank x) := by
  have hfind := c.find?_blank ha
  have hfind' := c.find?_blank hb
  cases hs : c.find? a with
  | none => simp [swap, hfind, hs, Except.map]
  | some s =>
      cases ht : c.find? b with
      | none => simp [swap, hfind, hfind', hs, ht, Except.map]
      | some t =>
          by_cases hne : a = b
          · simp [swap, hfind', ht, hne, Except.map]
          · have hleft : s.id ≠ x := by rwa [id_of_find? hs]
            have hright : t.id ≠ x := by rwa [id_of_find? ht]
            rw [swap_eq_ok hs ht hne, swap_eq_ok (hfind.trans hs) (hfind'.trans ht) hne]
            refine congrArg (fun sprites => Except.ok { c with sprites }) ?_
            unfold blank
            rw [List.map_map, List.map_map]
            exact List.map_congr_left fun y _ => handOver_blank hleft hright c.increment cooldown y

theorem swap_congr_blank (h : c.blank x = c'.blank x) (ha : a ≠ x) (hb : b ≠ x) (cooldown : Nat) :
    (c.swap a b cooldown).map (blank x) = (c'.swap a b cooldown).map (blank x) := by
  rw [← swap_blank ha hb, h, swap_blank ha hb]

/-- Whether a swap is skipped depends on the ids in the cast alone. -/
theorem exists_error_of_swap (h : c.ids = c'.ids) {e : SwapError}
    (he : c.swap a b cooldown = .error e) : ∃ e', c'.swap a b cooldown = .error e' := by
  cases hswap : c'.swap a b cooldown with
  | error e' => exact ⟨e', rfl⟩
  | ok c'' =>
      obtain ⟨hne, s, t, hs, ht, -⟩ := exists_of_swap hswap
      obtain ⟨s', hs'⟩ : ∃ s', c.find? a = some s' := mem_ids_iff.1 (h ▸ mem_ids_iff.2 ⟨s, hs⟩)
      obtain ⟨t', ht'⟩ : ∃ t', c.find? b = some t' := mem_ids_iff.1 (h ▸ mem_ids_iff.2 ⟨t, ht⟩)
      rw [swap_eq_ok hs' ht' hne] at he
      cases he

/-- An edit reaches nothing but the program of its sprite. -/
theorem blank_edit {t : Trigger} {e : Program.Edit} {removed : Option Block}
    (h : c.edit x t e = .ok (removed, c')) : c'.blank x = c.blank x := by
  unfold edit at h
  split at h
  · cases h
  · split at h <;> cases h
    unfold blank modify
    dsimp only
    rw [List.map_map]
    refine congrArg (fun sprites => { c with sprites }) (List.map_congr_left fun s _ => ?_)
    dsimp only [Function.comp]
    split
    · rename_i hid
      exact Sprite.blank_withProgram hid _ _
    · rfl

end Cast

/-! ## Scans -/

namespace Monitor

variable {c c' : Cast} {x : SpriteId} {cooldown : Nat}
  {state state' : List Contact × Monitor × Cast}

/-- What a scan is left with, without the program of a sprite. -/
def blank (x : SpriteId) (outcome : List Contact × Monitor × Cast) :
    List Contact × Monitor × Cast :=
  (outcome.1, outcome.2.1, outcome.2.2.blank x)

theorem isCooling_congr_blank (h : c.blank x = c'.blank x) (id : SpriteId) :
    isCooling c id = isCooling c' id := by
  have hblank (c : Cast) : isCooling (c.blank x) id = isCooling c id :=
    isCooling_map_sprites (Sprite.isUnseen_blank x) c id
  rw [← hblank c, h, hblank c']

theorem detect_congr_blank (h : c.blank x = c'.blank x) (m : Monitor) :
    m.detect c = m.detect c' := by
  have hblank (c : Cast) : m.detect (c.blank x) = m.detect c :=
    detect_map_sprites (Sprite.isUnseen_blank x) m c
  rw [← hblank c, h, hblank c']

theorem swapEncounter_congr_blank (h : blank x state = blank x state') (e : Contact)
    (hspared : ∀ e' ∈ (swapEncounter cooldown state e).1, e'.pair.involves x = false) :
    blank x (swapEncounter cooldown state e) = blank x (swapEncounter cooldown state' e) := by
  obtain ⟨swapped, m, c⟩ := state
  obtain ⟨swapped', m', c'⟩ := state'
  obtain ⟨rfl, hrest⟩ : swapped = swapped' ∧ _ := Prod.mk.inj h
  obtain ⟨rfl, hc⟩ : m = m' ∧ c.blank x = c'.blank x := Prod.mk.inj hrest
  unfold swapEncounter at hspared ⊢
  dsimp only at hspared ⊢
  rw [← isCooling_congr_blank hc, ← isCooling_congr_blank hc]
  split
  · exact h
  · rename_i hready
    rw [if_neg hready] at hspared
    by_cases hinvolved : e.pair.involves x = true
    · -- Only a swap that is skipped can involve the sprite, and it is skipped in both.
      cases hswap : c.swap e.pair.low e.pair.high cooldown with
      | error error =>
          obtain ⟨error', hswap'⟩ := Cast.exists_error_of_swap (Cast.ids_eq_of_blank_eq hc) hswap
          rw [hswap']
          exact congrArg (fun cast => (swapped, m.forgetPair e.pair, cast)) hc
      | ok c'' =>
          rw [hswap] at hspared
          have hspared := hspared e (List.mem_append_right _ (List.mem_singleton_self e))
          rw [hspared] at hinvolved
          cases hinvolved
    · unfold SpritePair.involves at hinvolved
      rw [Bool.or_eq_true, not_or, beq_iff_eq, beq_iff_eq] at hinvolved
      have hswap := Cast.swap_congr_blank hc hinvolved.1 hinvolved.2 cooldown
      obtain ⟨error, hleft, hright⟩ | ⟨d, d', hleft, hright, hd⟩ := exists_of_map_eq hswap
      · rw [hleft, hright]
        exact congrArg (fun cast => (swapped, m.forgetPair e.pair, cast)) hc
      · rw [hleft, hright]
        exact congrArg (fun cast => (swapped ++ [e], m, cast)) hd

theorem mem_swapped_swapEncounter {e : Contact} (he : e ∈ state.1) (cooldown : Nat)
    (e' : Contact) : e ∈ (swapEncounter cooldown state e').1 := by
  obtain ⟨swapped, m, c⟩ := state
  unfold swapEncounter
  dsimp only
  split
  · exact he
  · split
    · exact List.mem_append_left _ he
    · exact he

theorem mem_swapped_foldl {e : Contact} (he : e ∈ state.1) (cooldown : Nat) (es : List Contact) :
    e ∈ (es.foldl (swapEncounter cooldown) state).1 := by
  induction es generalizing state with
  | nil => exact he
  | cons first rest ih => exact ih (mem_swapped_swapEncounter he cooldown first)

theorem foldl_swapEncounter_congr_blank (h : blank x state = blank x state') (es : List Contact)
    (hspared : ∀ e ∈ (es.foldl (swapEncounter cooldown) state).1, e.pair.involves x = false) :
    blank x (es.foldl (swapEncounter cooldown) state) =
      blank x (es.foldl (swapEncounter cooldown) state') := by
  induction es generalizing state state' with
  | nil => exact h
  | cons e rest ih =>
      rw [List.foldl_cons] at hspared ⊢
      rw [List.foldl_cons]
      refine ih (swapEncounter_congr_blank h e fun e' he' => ?_) hspared
      exact hspared e' (mem_swapped_foldl he' cooldown rest)

/-- A scan in which a sprite does not swap makes no use of its program. -/
theorem coordinate_congr_blank (h : c.blank x = c'.blank x) (m : Monitor)
    (hspared : ∀ e ∈ (m.coordinate c cooldown).1, e.pair.involves x = false) :
    blank x (m.coordinate c cooldown) = blank x (m.coordinate c' cooldown) := by
  have hdetect := detect_congr_blank h m
  have hstate : blank x ([], (m.detect c).2, c) = blank x ([], (m.detect c).2, c') :=
    congrArg (fun cast => ([], (m.detect c).2, cast)) h
  have hfold := foldl_swapEncounter_congr_blank hstate (m.detect c).1 hspared
  rw [hdetect] at hfold
  unfold coordinate
  rw [hdetect]
  exact hfold

end Monitor

/-- What can be seen of a scan: the encounters that start, and those of them that swap. -/
structure ScanReport where
  encounters : List Contact
  swapped : List Contact

/-- No encounter swaps a given sprite. -/
def ScanReport.spares (x : SpriteId) (report : ScanReport) : Bool :=
  report.swapped.all fun e => !e.pair.involves x

theorem ScanReport.involves_eq_false {x : SpriteId} {report : ScanReport}
    (h : report.spares x = true) {e : Contact} (he : e ∈ report.swapped) :
    e.pair.involves x = false := by
  have hspared := List.all_eq_true.1 h e he
  rwa [Bool.not_eq_true'] at hspared

namespace Scan

def report (cooldown : Nat) (scan : Scan) : ScanReport where
  encounters := (scan.monitor.detect scan.cast).1
  swapped := scan.swapped cooldown

theorem report_congr_blank {c c' : Cast} {x : SpriteId} (h : c.blank x = c'.blank x) (m : Monitor)
    {cooldown : Nat} (hspared : (report cooldown ⟨m, c⟩).spares x = true) :
    report cooldown ⟨m, c⟩ = report cooldown ⟨m, c'⟩ := by
  have hboth := Monitor.coordinate_congr_blank h m
    fun _ he => ScanReport.involves_eq_false hspared he
  have hencounters : (m.detect c).1 = (m.detect c').1 :=
    congrArg (·.1) (Monitor.detect_congr_blank h m)
  have hswapped : (m.coordinate c cooldown).1 = (m.coordinate c' cooldown).1 :=
    congrArg (·.1) hboth
  exact congrArg₂ ScanReport.mk hencounters hswapped

end Scan

/-- What can be seen of an operation: its reply and its scans, and then the sprites, the deadlines
and the contacts that are remembered. -/
structure Sighting where
  reply : Except CastError Reply
  reports : List ScanReport
  snapshots : List Snapshot
  timers : BubbleTimers
  memory : Table SpritePair Box

/-- An operation that lets a session run on or halts it, and arms no sprite. -/
def Operation.isPassive : Operation → Bool
  | .advance _ | .step _ | .stop => true
  | _ => false

namespace Session

variable {s t : Session} {x : SpriteId}

/-- The session without the program of a sprite. -/
def blank (x : SpriteId) (s : Session) : Session := { s with cast := s.cast.blank x }

/-- Sessions that are equal without the program of a sprite differ in their casts only. -/
theorem exists_cast_of_blank_eq (h : s.blank x = t.blank x) :
    ∃ cast, t = { s with cast } ∧ s.cast.blank x = cast.blank x := by
  obtain ⟨settings, cast, monitor, timers, clock, ticks, sinceScan, swaps⟩ := s
  obtain ⟨settings', cast', monitor', timers', clock', ticks', sinceScan', swaps'⟩ := t
  simp only [blank, mk.injEq] at h
  obtain ⟨rfl, hcast, rfl, rfl, rfl, rfl, rfl, rfl⟩ := h
  exact ⟨cast', rfl, hcast⟩

/-! ## Ticks -/

theorem acted_blank (s : Session) (x : SpriteId) (now : Instant) :
    (s.blank x).acted now = (s.acted now).blank x := by
  have hsprites : (s.cast.sprites.map (Sprite.blank x)).map (·.act) =
      (s.cast.sprites.map (·.act)).map (Sprite.blank x) := by
    rw [List.map_map, List.map_map]
    exact List.map_congr_left fun sprite _ => sprite.act_blank x
  have htimers : (s.cast.sprites.map (Sprite.blank x)).foldl (Sprite.schedule now) s.timers =
      s.cast.sprites.foldl (Sprite.schedule now) s.timers := by
    rw [List.foldl_map]
    congr 1
    funext timers sprite
    exact sprite.schedule_blank x now timers
  unfold acted
  rw [act_eq, act_eq]
  unfold blank Cast.blank
  dsimp only
  rw [hsprites, htimers]

theorem expireBubbles_blank (s : Session) (x : SpriteId) (now : Instant) :
    (s.blank x).expireBubbles now = (s.expireBubbles now).blank x := by
  have hsprites (ids : List SpriteId) :
      (s.cast.sprites.map (Sprite.blank x)).map (Sprite.clearedIn ids) =
        (s.cast.sprites.map (Sprite.clearedIn ids)).map (Sprite.blank x) := by
    rw [List.map_map, List.map_map]
    exact List.map_congr_left fun sprite _ => sprite.clearedIn_blank ids x
  rw [expireBubbles_eq, expireBubbles_eq]
  unfold blank Cast.blank
  dsimp only
  rw [hsprites]

theorem scan_congr_blank (h : s.blank x = t.blank x)
    (hspared : (Scan.report s.settings.swapCooldown ⟨s.monitor, s.cast⟩).spares x = true) :
    s.scan.blank x = t.scan.blank x := by
  obtain ⟨cast, rfl, hcast⟩ := exists_cast_of_blank_eq h
  have hboth := Monitor.coordinate_congr_blank hcast s.monitor
    fun _ he => ScanReport.involves_eq_false hspared he
  exact congrArg (fun outcome : List Contact × Monitor × Cast => { s with
    monitor := outcome.2.1
    cast := outcome.2.2
    sinceScan := 0
    swaps := s.swaps + outcome.1.length }) hboth

/-- What can be seen of the scans of some ticks. -/
def tickReports (s : Session) (now : Instant) (count : Nat) : List ScanReport :=
  (s.tickScans now count).map (Scan.report s.settings.swapCooldown)

theorem tickReports_one (s : Session) (now : Instant) :
    s.tickReports now 1 = if max s.settings.scanEvery 1 ≤ s.sinceScan + 1 then
      [Scan.report s.settings.swapCooldown ⟨s.monitor, (s.acted now).cast⟩] else [] := by
  unfold tickReports tickScans tickScan?
  split <;> rfl

theorem tickReports_succ (s : Session) (now : Instant) (count : Nat) :
    s.tickReports now (count + 1) =
      s.tickReports now 1 ++ (s.tick now).tickReports now count := by
  simp [tickReports, tickScans, settings_tick]

/-- A tick in which a sprite does not swap makes no use of its program. -/
theorem tick_congr_blank (h : s.blank x = t.blank x) (now : Instant)
    (hspared : ∀ report ∈ s.tickReports now 1, report.spares x = true) :
    (s.tick now).blank x = (t.tick now).blank x ∧
      s.tickReports now 1 = t.tickReports now 1 := by
  have hacted : (s.acted now).blank x = (t.acted now).blank x := by
    rw [← acted_blank, h, acted_blank]
  obtain ⟨cast, rfl, -⟩ := exists_cast_of_blank_eq h
  rw [tickReports_one] at hspared ⊢
  rw [tickReports_one, tick_eq, tick_eq]
  dsimp only
  split
  · rename_i hdue
    rw [if_pos hdue] at hspared
    have hspared := hspared _ (List.mem_singleton_self _)
    have hcast : (s.acted now).cast.blank x = ({ s with cast }.acted now).cast.blank x :=
      congrArg (·.cast) hacted
    refine ⟨scan_congr_blank hacted hspared, ?_⟩
    rw [Scan.report_congr_blank hcast s.monitor hspared]
  · exact ⟨hacted, rfl⟩

theorem tickTimes_congr_blank (h : s.blank x = t.blank x) (now : Instant) (count : Nat)
    (hspared : ∀ report ∈ s.tickReports now count, report.spares x = true) :
    (s.tickTimes now count).blank x = (t.tickTimes now count).blank x ∧
      s.tickReports now count = t.tickReports now count := by
  induction count generalizing s t with
  | zero => exact ⟨h, rfl⟩
  | succ count ih =>
      rw [tickReports_succ] at hspared
      obtain ⟨htick, hfirst⟩ := tick_congr_blank h now fun report hreport =>
        hspared report (List.mem_append_left _ hreport)
      obtain ⟨hticks, hrest⟩ := ih htick fun report hreport =>
        hspared report (List.mem_append_right _ hreport)
      refine ⟨hticks, ?_⟩
      rw [tickReports_succ s, tickReports_succ t, hfirst, hrest]

/-! ## Operations -/

/-- What can be seen of the scans of an operation. -/
def reports (s : Session) (op : Operation) : List ScanReport :=
  (s.scansOf op).map (Scan.report s.settings.swapCooldown)

/-- A sprite does not swap in any of some operations. -/
def spares (s : Session) (x : SpriteId) : List Operation → Bool
  | [] => true
  | op :: ops => (s.reports op).all (·.spares x) && (s.after op).spares x ops

def sighting (s : Session) (op : Operation) : Sighting where
  reply := s.reply op
  reports := s.reports op
  snapshots := (s.after op).cast.sprites.map (·.snapshot)
  timers := (s.after op).timers
  memory := (s.after op).monitor.memory

def sightings (s : Session) : List Operation → List Sighting
  | [] => []
  | op :: ops => s.sighting op :: (s.after op).sightings ops

theorem snapshots_congr_blank (h : s.blank x = t.blank x) :
    s.cast.sprites.map (·.snapshot) = t.cast.sprites.map (·.snapshot) := by
  have hblank (s : Session) :
      (s.blank x).cast.sprites.map (·.snapshot) = s.cast.sprites.map (·.snapshot) := by
    unfold blank Cast.blank
    rw [List.map_map]
    exact List.map_congr_left fun sprite _ => sprite.snapshot_blank x
  rw [← hblank s, h, hblank t]

theorem after_congr_blank (h : s.blank x = t.blank x) {op : Operation} (hop : op.isPassive = true)
    (hspared : ∀ report ∈ s.reports op, report.spares x = true) :
    (s.after op).blank x = (t.after op).blank x ∧ s.reports op = t.reports op ∧
      s.reply op = t.reply op := by
  have hexpired {s t : Session} (h : s.blank x = t.blank x) (now : Instant) :
      (s.expireBubbles now).blank x = (t.expireBubbles now).blank x := by
    rw [← expireBubbles_blank, h, expireBubbles_blank]
  obtain ⟨cast, rfl, hcast⟩ := exists_cast_of_blank_eq h
  cases op with
  | advance now =>
      have hfed : (s.fed now).blank x = ({ s with cast }.fed now).blank x :=
        congrArg (fun cast => (Session.fed { s with cast } now)) hcast
      obtain ⟨hticks, hreports⟩ := tickTimes_congr_blank hfed now _ hspared
      exact ⟨hexpired hticks now, hreports, rfl⟩
  | step now =>
      obtain ⟨htick, hreports⟩ := tick_congr_blank h now hspared
      exact ⟨hexpired htick now, hreports, rfl⟩
  | stop =>
      refine ⟨?_, rfl, rfl⟩
      exact congrArg (fun cast => Session.stop { s with cast }) hcast
  | _ => cases hop

theorem sightings_congr_blank (h : s.blank x = t.blank x) {ops : List Operation}
    (hops : ∀ op ∈ ops, op.isPassive = true) (hspared : s.spares x ops = true) :
    s.sightings ops = t.sightings ops := by
  induction ops generalizing s t with
  | nil => rfl
  | cons op ops ih =>
      obtain ⟨hop, hrest⟩ := Bool.and_eq_true_iff.1 hspared
      obtain ⟨hafter, hreports, hreply⟩ :=
        after_congr_blank h (hops op List.mem_cons_self) (List.all_eq_true.1 hop)
      have hsightings := ih hafter (fun op hop => hops op (List.mem_cons_of_mem _ hop)) hrest
      obtain ⟨cast, hsame, -⟩ := exists_cast_of_blank_eq hafter
      rw [sightings, sightings, hsightings, sighting, sighting, hreply, hreports,
        snapshots_congr_blank hafter, hsame]

theorem blank_after_edit (s : Session) (x : SpriteId) (trigger : Trigger) (e : Program.Edit) :
    (s.after (.edit x trigger e)).blank x = s.blank x := by
  rw [after_edit]
  split
  · rename_i hc
    exact congrArg (fun cast => { s with cast }) (Cast.blank_edit hc)
  · rfl

/-- As long as a session is only advanced, stepped and stopped and a sprite does not swap, nothing
shows of an edit of the sprite's program, whether it is carried out or rejected. -/
theorem sightings_edit (s : Session) (x : SpriteId) (trigger : Trigger) (e : Program.Edit)
    {ops : List Operation} (hops : ∀ op ∈ ops, op.isPassive = true)
    (hspared : s.spares x ops = true ∨ (s.after (.edit x trigger e)).spares x ops = true) :
    (s.after (.edit x trigger e)).sightings ops = s.sightings ops := by
  have hblank := s.blank_after_edit x trigger e
  obtain hspared | hspared := hspared
  · exact (sightings_congr_blank hblank.symm hops hspared).symm
  · exact sightings_congr_blank hblank hops hspared

/-- A sprite on its way, and two others in the same place far from it. -/
def walking : Session :=
  let spec (id : SpriteId) (play : List Block) : SpriteSpec :=
    { id, name := id, start := default, program := { play } }
  (ofSettings {}).afterAll
    [.add (spec "cat" [.goto 500 500, .speak .say "Hi" 2]), .add (spec "dog" []),
      .add (spec "fox" []), .play 0]

theorem sightings_edit_walking :
    let ops : List Operation := [.step 0, .advance (milliseconds 60), .stop]
    let edited := walking.after (.edit "cat" .play (.remove 1))
    (walking.reports (.step 0)).any (fun report => !report.swapped.isEmpty) = true ∧
      edited.sightings ops = walking.sightings ops := by
  intro ops edited
  have hops : ∀ op ∈ ops, op.isPassive = true := by decide
  have hspared : walking.spares "cat" ops = true := by decide +kernel
  exact ⟨by decide +kernel, walking.sightings_edit "cat" .play (.remove 1) hops (.inl hspared)⟩

end Session

end SpriteStage
