import SpriteStage.Proofs.Deadlines
import SpriteStage.Proofs.LingeringBubbles
import SpriteStage.Proofs.SessionInvariants

/-!
# References to sprites

Three parts of a session name sprites: the cast with its selection, the timers, and the memory of
contacts. Every deadline is that of a sprite that shows a bubble, and every pair that is remembered
is of two armed sprites (`Session.Resolves`), whatever is done to a session. So a sprite that is
gone is named nowhere, and one that is added starts with nothing that was another's
(`Reachable.no_dangling_references`).
-/

namespace SpriteStage

theorem Actor.phase_eq_idle_iff (a : Actor) : a.phase = .idle ↔ a.isIdle = true := by
  unfold phase isIdle
  cases a.run with
  | none => simp
  | some run =>
      dsimp only
      split <;> simp

/-! ## Sprites with a property -/

namespace Cast

variable {P : Actor → Prop} {c c' : Cast} {id id' : SpriteId} {cooldown : Nat}

/-- A sprite of the cast has an actor with a property. -/
def Has (P : Actor → Prop) (c : Cast) (id : SpriteId) : Prop :=
  ∃ s ∈ c.sprites, s.id = id ∧ P s.actor

/-- A sprite of the cast is armed. -/
def HasArmed (c : Cast) (id : SpriteId) : Prop := ∃ s ∈ c.sprites, s.id = id ∧ s.actor.phase ≠ .idle

theorem has_bubble_iff : c.Has (·.bubble.isSome) id ↔ c.Shows id := Iff.rfl

theorem hasArmed_iff : c.HasArmed id ↔ c.Has (·.isIdle = false) id := by
  unfold HasArmed Has
  simp only [ne_eq, Actor.phase_eq_idle_iff, Bool.not_eq_true]

theorem Has.mem_ids (h : c.Has P id) : id ∈ c.ids := by
  obtain ⟨s, hs, rfl, -⟩ := h
  exact List.mem_map_of_mem hs

theorem Has.map {f : Sprite → Sprite} (h : c.Has P id) (hid : ∀ s, (f s).id = s.id)
    (hf : ∀ s ∈ c.sprites, s.id = id → P s.actor → P (f s).actor) :
    { c with sprites := c.sprites.map f }.Has P id := by
  obtain ⟨s, hs, rfl, hP⟩ := h
  exact ⟨f s, List.mem_map_of_mem hs, hid s, hf s hs rfl hP⟩

theorem Has.modify {f : Sprite → Sprite} (h : c.Has P id) (hid : ∀ s, (f s).id = s.id)
    (hf : ∀ s : Sprite, P s.actor → P (f s).actor) : (c.modify id' f).Has P id := by
  refine h.map (fun s => ?_) (fun s _ _ hs => ?_)
  · split
    · exact hid s
    · rfl
  · split
    · exact hf s hs
    · exact hs

theorem Has.add {spec : SpriteSpec} (h : c.Has P id) (hc : c.add spec = .ok c') : c'.Has P id := by
  unfold Cast.add at hc
  split at hc <;> cases hc
  obtain ⟨s, hs, hid, hP⟩ := h
  exact ⟨s, List.mem_append_left _ hs, hid, hP⟩

theorem Has.remove (h : c.Has P id) (hnodup : c.ids.Nodup) (hc : c.remove id' = .ok c')
    (hne : id ≠ id') : c'.Has P id := by
  obtain ⟨s, hs, rfl, hP⟩ := h
  exact ⟨s, (mem_remove_iff hnodup hc).2 ⟨hs, hne⟩, rfl, hP⟩

theorem Has.select (h : c.Has P id) (hc : c.select id' = .ok c') : c'.Has P id := by
  unfold Has
  rw [sprites_select hc]
  exact h

theorem Has.edit {t : Trigger} {e : Program.Edit} {removed : Option Block} (h : c.Has P id)
    (hc : c.edit id' t e = .ok (removed, c')) : c'.Has P id := by
  unfold Cast.edit at hc
  split at hc
  · cases hc
  · split at hc <;> cases hc
    exact h.modify (fun _ => rfl) fun _ hs => hs

/-- What taking over a program leaves to a sprite, a scan leaves to it. -/
theorem Has.coordinate (h : c.Has P id) (m : Monitor)
    (hP : ∀ (s : Sprite) i p, P s.actor → P (s.takeOver i p cooldown).actor) :
    (m.coordinate c cooldown).2.2.Has P id := by
  refine Monitor.coordinate_keeps (P := fun c => c.Has P id) h ?_
  intro c c' a b hc hswap
  obtain ⟨-, s, t, -, -, rfl⟩ := exists_of_swap hswap
  refine hc.map (id_handOver c.increment s t cooldown) fun x _ _ hx => ?_
  unfold handOver
  split
  · exact hP x _ _ hx
  · split
    · exact hP x _ _ hx
    · exact hx

end Cast

/-! ## What a scan remembers -/

/-- A scan remembers only pairs of sprites that it has looked at. -/
theorem Monitor.hasArmed_of_find?_detect {m : Monitor} {c : Cast} (hc : c.ids.Nodup)
    (hm : m.IsOrdered) {pair : SpritePair} {overlap : Box}
    (h : (m.detect c).2.memory.find? pair = some overlap) :
    c.Has (·.isIdle = false) pair.low ∧ c.Has (·.isIdle = false) pair.high := by
  obtain ⟨p, hp, hkey⟩ := exists_pair_of_find?_detect hc hm h
  obtain ⟨hfirst, hsecond⟩ := mem_of_mem_pairs hp
  have harmed {x : Candidate} (hx : x ∈ m.candidates c) : c.Has (·.isIdle = false) x.id := by
    obtain ⟨s, hs, hidle, rfl⟩ := mem_candidates_iff.1 hx
    exact ⟨s, hs, rfl, hidle⟩
  obtain ⟨hlow, hhigh⟩ | ⟨hlow, hhigh⟩ := SpritePair.joins_of p.1.id p.2.id
  · rw [← hkey, key, hlow, hhigh]
    exact ⟨harmed hfirst, harmed hsecond⟩
  · rw [← hkey, key, hlow, hhigh]
    exact ⟨harmed hsecond, harmed hfirst⟩

namespace Session

variable {s t : Session} {id : SpriteId}

/-- What the timers and the memory name is there: a sprite that shows a bubble for each deadline,
and two armed sprites for each pair. -/
structure Resolves (s : Session) : Prop where
  timers : ∀ id deadline, s.timers.deadline? id = some deadline → s.cast.Has (·.bubble.isSome) id
  memory : ∀ pair overlap, s.monitor.memory.find? pair = some overlap →
    s.cast.Has (·.isIdle = false) pair.low ∧ s.cast.Has (·.isIdle = false) pair.high

theorem resolves_of_empty (htimers : s.timers = {}) (hmemory : s.monitor.memory = .empty) :
    s.Resolves := by
  refine ⟨fun id deadline hdeadline => ?_, fun pair overlap hremembered => ?_⟩
  · rw [htimers] at hdeadline
    cases hdeadline
  · rw [hmemory] at hremembered
    cases hremembered

/-! ## Ticks -/

theorem Resolves.act (h : s.Resolves) (hs : s.Sound) (now : Instant) : (s.act now).Resolves := by
  refine ⟨fun id deadline hdeadline => ?_, fun pair overlap hremembered => ?_⟩
  · by_cases hid : id ∈ s.cast.ids
    · obtain ⟨sprite, hsprite, rfl⟩ := List.mem_map.1 hid
      rw [deadline?_act hs.nodup hsprite] at hdeadline
      -- A new deadline comes with a new bubble, and one that is kept belongs to the bubble before.
      have hshown : sprite.act.actor.bubble.isSome = true := by
        rw [sprite.isSome_bubble_act now]
        cases hspeaks : sprite.newDeadline? now with
        | some _ => rfl
        | none =>
            rw [hspeaks, Option.none_or] at hdeadline
            obtain ⟨sprite', hsprite', hid', hbefore⟩ := h.timers _ _ hdeadline
            rw [Cast.eq_of_id_eq hs.nodup hsprite' hsprite hid'] at hbefore
            simpa using hbefore
      rw [cast_act]
      exact ⟨sprite.act, List.mem_map_of_mem hsprite, rfl, hshown⟩
    · rw [deadline?_act_of_notMem hid] at hdeadline
      exact absurd (h.timers id deadline hdeadline).mem_ids hid
  · have hkept {id : SpriteId} (harmed : s.cast.Has (·.isIdle = false) id) :
        (s.act now).cast.Has (·.isIdle = false) id := by
      rw [cast_act]
      exact harmed.map (fun _ => rfl) fun sprite _ _ hsprite =>
        (sprite.actor.isIdle_tick).trans hsprite
    obtain ⟨hlow, hhigh⟩ := h.memory pair overlap hremembered
    exact ⟨hkept hlow, hkept hhigh⟩

theorem Resolves.scan (h : s.Resolves) (hs : s.Sound) : s.scan.Resolves := by
  have hmonitor := s.monitor.monitor_coordinate hs.nodup s.settings.swapCooldown
  refine ⟨fun id deadline hdeadline => ?_, fun pair overlap hremembered => ?_⟩
  · refine (h.timers id deadline hdeadline).coordinate s.monitor fun sprite i p hshown => ?_
    rw [Sprite.bubble_takeOver]
    exact hshown
  · have hkept {id : SpriteId} (harmed : s.cast.Has (·.isIdle = false) id) :
        s.scan.cast.Has (·.isIdle = false) id := by
      refine harmed.coordinate s.monitor fun sprite i p hsprite => ?_
      have hstance := sprite.stance_takeOver i p s.settings.swapCooldown
      exact (congrArg (·.2.2) hstance).trans hsprite
    change (s.monitor.coordinate s.cast s.settings.swapCooldown).2.1.memory.find? pair = _
      at hremembered
    rw [hmonitor] at hremembered
    obtain ⟨hlow, hhigh⟩ :=
      Monitor.hasArmed_of_find?_detect hs.nodup hs.monitor.isOrdered hremembered
    exact ⟨hkept hlow, hkept hhigh⟩

theorem Resolves.tick (h : s.Resolves) (hs : s.Sound) (now : Instant) : (s.tick now).Resolves := by
  have hacted : (s.acted now).Resolves := ⟨(h.act hs now).timers, (h.act hs now).memory⟩
  have hsound : (s.acted now).Sound := ⟨(hs.act now).nodup, (hs.act now).monitor⟩
  rw [tick_eq]
  split
  · exact hacted.scan hsound
  · exact hacted

theorem Resolves.tickTimes (h : s.Resolves) (hs : s.Sound) (now : Instant) (count : Nat) :
    (s.tickTimes now count).Resolves := by
  induction count generalizing s with
  | zero => exact h
  | succ count ih => exact ih (h.tick hs now) (hs.tick now)

theorem Resolves.expireBubbles (h : s.Resolves) (now : Instant) :
    (s.expireBubbles now).Resolves := by
  refine ⟨fun id deadline hdeadline => ?_, fun pair overlap hremembered => ?_⟩
  · change (s.timers.dropExpired now).deadline? id = some deadline at hdeadline
    rw [BubbleTimers.deadline?_dropExpired_eq_ite, Option.ite_none_left_eq_some] at hdeadline
    obtain ⟨hpending, hbefore⟩ := hdeadline
    rw [cast_expireBubbles]
    refine (h.timers id deadline hbefore).map (fun sprite => ?_) fun sprite _ hid hshown => ?_
    · split <;> rfl
    · rw [if_neg (hid ▸ hpending)]
      exact hshown
  · have hkept {id : SpriteId} (harmed : s.cast.Has (·.isIdle = false) id) :
        (s.expireBubbles now).cast.Has (·.isIdle = false) id := by
      rw [cast_expireBubbles]
      refine harmed.map (fun sprite => ?_) fun sprite _ _ hsprite => ?_
      · split <;> rfl
      · split <;> exact hsprite
    obtain ⟨hlow, hhigh⟩ := h.memory pair overlap hremembered
    exact ⟨hkept hlow, hkept hhigh⟩

/-! ## Operations -/

/-- Where timers and memory stay as they are, it is enough that sprites keep what they show and
stay armed. -/
theorem Resolves.of_cast (h : s.Resolves) {c : Cast}
    (hshown : ∀ id, s.cast.Has (·.bubble.isSome) id → c.Has (·.bubble.isSome) id)
    (harmed : ∀ id, s.cast.Has (·.isIdle = false) id → c.Has (·.isIdle = false) id) :
    { s with cast := c }.Resolves :=
  ⟨fun id deadline hdeadline => hshown id (h.timers id deadline hdeadline),
    fun pair overlap hremembered =>
      (h.memory pair overlap hremembered).imp (harmed pair.low) (harmed pair.high)⟩

theorem find?_forget {m : Monitor} {pair : SpritePair} {overlap : Box}
    (h : (m.forget id).memory.find? pair = some overlap) :
    m.memory.find? pair = some overlap ∧ pair.low ≠ id ∧ pair.high ≠ id := by
  change (m.memory.filter _).find? pair = some overlap at h
  rw [Table.find?_filter, Option.filter_eq_some_iff] at h
  simpa [SpritePair.involves] using h

theorem Resolves.delete (h : s.Resolves) (hs : s.Sound) {c : Cast}
    (hc : s.cast.remove id = .ok c) :
    Resolves { s with
      cast := c
      timers := s.timers.cancel id
      monitor := s.monitor.forget id } := by
  refine ⟨fun id' deadline hdeadline => ?_, fun pair overlap hremembered => ?_⟩
  · have hcancelled := s.timers.deadline?_cancel id id'
    change (s.timers.cancel id).deadline? id' = some deadline at hdeadline
    rw [hcancelled] at hdeadline
    split at hdeadline
    · cases hdeadline
    · rename_i hne
      exact (h.timers id' deadline hdeadline).remove hs.nodup hc hne
  · obtain ⟨hbefore, hlow, hhigh⟩ := find?_forget hremembered
    obtain ⟨harmed, harmed'⟩ := h.memory pair overlap hbefore
    exact ⟨harmed.remove hs.nodup hc hlow, harmed'.remove hs.nodup hc hhigh⟩

theorem Resolves.click (h : s.Resolves) (id : SpriteId) (now : Instant) :
    (s.click id now).Resolves := by
  unfold Session.click
  split
  · have harmed := h.of_cast (c := s.cast.modify id (·.arm .click))
      (fun _ hshown => hshown.modify (fun _ => rfl) fun _ hsprite => hsprite)
      (fun _ harmed => harmed.modify (fun _ => rfl) fun _ _ => rfl)
    exact ⟨harmed.timers, harmed.memory⟩
  · exact h

theorem Resolves.after (h : s.Resolves) (hs : s.Sound) (op : Operation) :
    (s.after op).Resolves := by
  cases op with
  | add spec =>
      rw [after_add]
      split
      · rename_i hc
        exact h.of_cast (fun _ hshown => hshown.add hc) fun _ harmed => harmed.add hc
      · exact h
  | delete id =>
      rw [after_delete]
      split
      · rename_i hc
        exact h.delete hs hc
      · exact h
  | select id =>
      rw [after_select]
      split
      · rename_i hc
        exact h.of_cast (fun _ hshown => hshown.select hc) fun _ harmed => harmed.select hc
      · exact h
  | edit id trigger e =>
      rw [after_edit]
      split
      · rename_i hc
        exact h.of_cast (fun _ hshown => hshown.edit hc) fun _ harmed => harmed.edit hc
      · exact h
  | play now => exact resolves_of_empty rfl rfl
  | stop =>
      refine ⟨fun id deadline hdeadline => ?_, h.memory⟩
      cases hdeadline
  | restart => exact resolves_of_empty rfl rfl
  | click id now => exact h.click id now
  | advance now =>
      have hfed : { s with clock := (s.clock.beginFrame now).drain }.Resolves :=
        ⟨h.timers, h.memory⟩
      exact (hfed.tickTimes ⟨hs.nodup, hs.monitor⟩ now _).expireBubbles now
  | step now => exact (h.tick hs now).expireBubbles now

theorem Reachable.resolves (hs : s.Reachable) : s.Resolves := by
  induction hs with
  | new settings => exact resolves_of_empty rfl rfl
  | after op hs ih => exact ih.after hs.sound op

/-! ## Sprites that are gone -/

/-- The timers or the memory name a sprite. -/
def Tracks (s : Session) (id : SpriteId) : Prop :=
  (s.timers.deadline? id).isSome ∨
    ∃ pair, (s.monitor.memory.find? pair).isSome ∧ pair.involves id

theorem Resolves.mem_ids (h : s.Resolves) (htracks : s.Tracks id) : id ∈ s.cast.ids := by
  obtain htimed | ⟨pair, hremembered, hinvolved⟩ := htracks
  · obtain ⟨deadline, hdeadline⟩ := Option.isSome_iff_exists.1 htimed
    exact (h.timers id deadline hdeadline).mem_ids
  · obtain ⟨overlap, hoverlap⟩ := Option.isSome_iff_exists.1 hremembered
    obtain ⟨hlow, hhigh⟩ := h.memory pair overlap hoverlap
    unfold SpritePair.involves at hinvolved
    rcases Bool.or_eq_true_iff.1 hinvolved with hid | hid
    · exact eq_of_beq hid ▸ hlow.mem_ids
    · exact eq_of_beq hid ▸ hhigh.mem_ids

theorem notMem_ids_after_delete (hs : s.Sound) (id : SpriteId) :
    id ∉ (s.after (.delete id)).cast.ids := by
  intro hid
  obtain ⟨sprite, hsprite, rfl⟩ := List.mem_map.1 hid
  rw [after_delete] at hsprite
  split at hsprite
  · rename_i hc
    exact ((Cast.mem_remove_iff hs.nodup hc).1 hsprite).2 rfl
  · rename_i hc
    unfold Cast.remove at hc
    split at hc
    · rename_i hnone
      have hsome : (s.cast.position? sprite.id).isSome := by
        rw [Cast.position?, List.findIdx?_isSome]
        exact List.any_eq_true.2 ⟨sprite, hsprite, beq_self_eq_true _⟩
      rw [hnone] at hsome
      cases hsome
    · cases hc

/-- In every reachable session each deadline is that of a sprite that shows a bubble, each pair that
is remembered is of two distinct armed sprites, the lesser id first, and a sprite is selected unless
there is none. A sprite that is deleted is named nowhere afterwards, and one that is added, whether
its id was in use before or not, starts without deadline and without contacts. -/
theorem Reachable.no_dangling_references (hs : s.Reachable) :
    (∀ id, (s.timers.deadline? id).isSome → s.cast.Shows id) ∧
      (∀ pair, (s.monitor.memory.find? pair).isSome →
        pair.low < pair.high ∧ s.cast.HasArmed pair.low ∧ s.cast.HasArmed pair.high) ∧
      s.cast.IsSelected ∧
      (∀ id, let left := s.after (.delete id)
        id ∉ left.cast.ids ∧ ¬ left.Tracks id ∧
          ∀ sprite, left.cast.selection? = some sprite → sprite.id ≠ id) ∧
      ∀ spec joined, s.add spec = .ok joined → ¬ joined.Tracks spec.id := by
  have hresolves := hs.resolves
  refine ⟨fun id htimed => ?_, fun pair hremembered => ?_, hs.isSelected, fun id => ?_, ?_⟩
  · obtain ⟨deadline, hdeadline⟩ := Option.isSome_iff_exists.1 htimed
    exact Cast.has_bubble_iff.1 (hresolves.timers id deadline hdeadline)
  · obtain ⟨overlap, hoverlap⟩ := Option.isSome_iff_exists.1 hremembered
    obtain ⟨hlow, hhigh⟩ := hresolves.memory pair overlap hoverlap
    exact ⟨hs.sound.monitor.isOrdered pair overlap hoverlap, Cast.hasArmed_iff.2 hlow,
      Cast.hasArmed_iff.2 hhigh⟩
  · have hgone := notMem_ids_after_delete hs.sound id
    refine ⟨hgone, fun htracks => hgone ((hs.after _).resolves.mem_ids htracks), ?_⟩
    rintro sprite hselected rfl
    obtain ⟨position, -, hsprite⟩ := Option.bind_eq_some_iff.1 hselected
    exact hgone (List.mem_map_of_mem (List.mem_of_getElem? hsprite))
  · intro spec joined hadd htracks
    unfold add at hadd
    cases hcast : s.cast.add spec with
    | error e =>
        rw [hcast] at hadd
        cases hadd
    | ok c =>
        rw [hcast] at hadd
        cases hadd
        have hmem : spec.id ∈ s.cast.ids := hresolves.mem_ids htracks
        rw [Cast.add, Cast.contains_eq_true_iff.2 hmem] at hcast
        cases hcast

/-- A session with a pending deadline and a remembered contact. -/
def meeting : Session :=
  let spec (id : SpriteId) (play : List Block) : SpriteSpec :=
    { id, name := id, start := default, program := { play } }
  (ofSettings {}).afterAll
    [.add (spec "cat" [.speak .say "Hi" 2]), .add (spec "dog" []), .play 0, .step 0]

theorem Reachable.no_dangling_references_meeting :
    (meeting.Tracks "cat" ∧ meeting.Tracks "dog") ∧
      ¬ (meeting.after (.delete "cat")).Tracks "cat" := by
  have hreachable : meeting.Reachable := (Reachable.new {}).afterAll _
  obtain ⟨-, -, -, hdelete, -⟩ := hreachable.no_dangling_references
  have htimed : (meeting.timers.deadline? "cat").isSome = true := by decide +kernel
  have hremembered : (meeting.monitor.memory.find? ⟨"cat", "dog"⟩).isSome = true := by
    decide +kernel
  exact ⟨⟨.inl htimed, .inr ⟨_, hremembered, by decide⟩⟩, (hdelete "cat").2.1⟩

end Session

end SpriteStage
