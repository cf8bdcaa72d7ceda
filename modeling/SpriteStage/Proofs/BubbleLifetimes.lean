import SpriteStage.Proofs.BatchedTicks
import SpriteStage.Proofs.LingeringBubbles

/-!
# How long bubbles stay

What a sprite shows, and until when, depends on its own turns alone: the advances and steps, each
with its instant and with what the sprite says and thinks in it. A turn leaves what was said or
thought last in it, or else what there was before, unless that is over (`Turn.leaves`), and so does
the session (`Voices.after`). A play leaves nothing of what came before it, so after a play a sprite
shows what it has said or thought last since then, until a turn comes too late for that
(`Reachable.bubble_lifetime`).
-/

namespace SpriteStage

/-- What a say or think block shows, and for how many seconds. -/
structure Speech where
  bubble : Bubble
  seconds : Single
deriving DecidableEq

def Block.speech? : Block → Option Speech
  | speak kind text seconds => some ⟨⟨kind, text⟩, seconds⟩
  | _ => none

/-- A bubble, and the instant at which it is over. -/
structure Voice where
  bubble : Bubble
  deadline : Instant

namespace Voice

def ofSpeech (now : Instant) (speech : Speech) : Voice :=
  ⟨speech.bubble, now + BubbleTimers.lifetime speech.seconds⟩

/-- What speeches at one instant leave: the last of them. -/
def ofSpeeches? (now : Instant) (speeches : List Speech) : Option Voice :=
  speeches.getLast?.map (ofSpeech now)

theorem ofSpeeches?_append (now : Instant) (speeches speeches' : List Speech) :
    ofSpeeches? now (speeches ++ speeches') =
      (ofSpeeches? now speeches').or (ofSpeeches? now speeches) := by
  unfold ofSpeeches?
  rw [List.getLast?_append, Option.map_or]

end Voice

/-! ## Turns -/

/-- What a sprite says and thinks in one advance or step, and the instant of that. -/
structure Turn where
  now : Instant
  speeches : List Speech
deriving DecidableEq

namespace Turn

variable {turns before later : List Turn} {turn : Turn} {speech : Speech}

/-- What there is after a turn: what was said or thought last, unless that is over. -/
def leaves (voice? : Option Voice) (turn : Turn) : Option Voice :=
  ((Voice.ofSpeeches? turn.now turn.speeches).or voice?).filter (turn.now < ·.deadline)

theorem leaves_of_getLast? (h : turn.speeches.getLast? = some speech) (voice? : Option Voice) :
    leaves voice? turn = (some (.ofSpeech turn.now speech)).filter (turn.now < ·.deadline) := by
  unfold leaves Voice.ofSpeeches?
  rw [h]
  rfl

theorem leaves_of_silent (h : turn.speeches = []) (voice? : Option Voice) :
    leaves voice? turn = voice?.filter (turn.now < ·.deadline) := by
  unfold leaves
  rw [h]
  rfl

theorem foldl_leaves_of_silent (h : ∀ turn ∈ turns, turn.speeches = []) (voice? : Option Voice) :
    turns.foldl leaves voice? = voice?.filter fun voice => turns.all (·.now < voice.deadline) := by
  induction turns generalizing voice? with
  | nil => cases voice? <;> rfl
  | cons first rest ih =>
      obtain ⟨hfirst, hrest⟩ := List.forall_mem_cons.1 h
      rw [List.foldl_cons, ih hrest, leaves_of_silent hfirst, Option.filter_filter]
      rfl

/-- What is said last is there until a turn comes too late for it. -/
theorem foldl_leaves_of_getLast? (hspeech : turn.speeches.getLast? = some speech)
    (hlater : ∀ t ∈ later, t.speeches = []) (voice? : Option Voice) :
    (before ++ turn :: later).foldl leaves voice? =
      if ∀ t ∈ turn :: later, t.now < turn.now + BubbleTimers.lifetime speech.seconds then
        some (.ofSpeech turn.now speech)
      else none := by
  have hall (deadline : Instant) :
      (turn :: later).all (·.now < deadline) = true ↔ ∀ t ∈ turn :: later, t.now < deadline := by
    simp only [List.all_eq_true, decide_eq_true_eq]
  rw [List.foldl_append, List.foldl_cons, leaves_of_getLast? hspeech,
    foldl_leaves_of_silent hlater, Option.filter_filter, Option.filter_some]
  exact if_congr (hall _) rfl rfl

end Turn

/-! ## Sprites and casts -/

namespace Sprite

/-- What a sprite says or thinks when it acts. -/
def speech? (s : Sprite) : Option Speech := s.actor.current?.bind Block.speech?

theorem newDeadline?_eq_ofSpeeches? (s : Sprite) (now : Instant) :
    s.newDeadline? now = (Voice.ofSpeeches? now s.speech?.toList).map (·.deadline) := by
  rw [newDeadline?_eq]
  unfold speech?
  cases s.actor.current? with
  | none => rfl
  | some block => cases block <;> rfl

theorem bubble_act (s : Sprite) (now : Instant) :
    s.act.actor.bubble =
      ((Voice.ofSpeeches? now s.speech?.toList).map (·.bubble)).or s.actor.bubble := by
  unfold act speech?
  rw [Actor.tick_eq]
  cases s.actor.current? with
  | none => rfl
  | some block => cases block <;> rfl

end Sprite

namespace Cast

def bubble? (c : Cast) (id : SpriteId) : Option Bubble := (c.find? id).bind (·.actor.bubble)

/-- What a sprite of the cast says or thinks when it acts. -/
def speech? (c : Cast) (id : SpriteId) : Option Speech := (c.find? id).bind (·.speech?)

theorem bubble?_eq (c : Cast) (id : SpriteId) :
    c.bubble? id = ((c.find? id).map (·.actor.bubble)).join := by
  unfold bubble?
  cases c.find? id <;> rfl

theorem bubble?_map_sprites {f : Sprite → Sprite} (hid : ∀ s, (f s).id = s.id)
    (hf : ∀ s, (f s).actor.bubble = s.actor.bubble) (c : Cast) (id : SpriteId) :
    { c with sprites := c.sprites.map f }.bubble? id = c.bubble? id := by
  rw [bubble?_eq, map_find?_map_sprites hid hf, ← bubble?_eq]

theorem bubble?_modify {f : Sprite → Sprite} (hid : ∀ s, (f s).id = s.id)
    (hf : ∀ s, (f s).actor.bubble = s.actor.bubble) (c : Cast) (id id' : SpriteId) :
    (c.modify id f).bubble? id' = c.bubble? id' := by
  rw [bubble?_eq, map_find?_modify hid hf, ← bubble?_eq]

theorem bubble?_swap {c c' : Cast} {a b : SpriteId} {cooldown : Nat}
    (h : c.swap a b cooldown = .ok c') (id : SpriteId) : c'.bubble? id = c.bubble? id := by
  obtain ⟨-, s, t, -, -, rfl⟩ := exists_of_swap h
  refine bubble?_map_sprites (id_handOver c.increment s t cooldown) (fun x => ?_) c id
  unfold handOver
  split
  · exact x.bubble_takeOver ..
  · split
    · exact x.bubble_takeOver ..
    · rfl

theorem bubble?_armAll_play (c : Cast) (id : SpriteId) : (c.armAll .play).bubble? id = none := by
  have hfind : (c.armAll .play).find? id = (c.find? id).map (·.arm .play) :=
    c.find?_map_sprites (f := (·.arm .play)) (fun _ => rfl) id
  unfold bubble?
  rw [hfind]
  cases c.find? id <;> rfl

end Cast

theorem Monitor.bubble?_coordinate (m : Monitor) (c : Cast) (cooldown : Nat) (id : SpriteId) :
    (m.coordinate c cooldown).2.2.bubble? id = c.bubble? id :=
  coordinate_keeps (P := fun c' => c'.bubble? id = c.bubble? id) rfl
    fun _ _ _ _ h hswap => (Cast.bubble?_swap hswap id).trans h

/-- An operation that leaves the cast and the course of a play as they are: time passes, or a sprite
is clicked. -/
def Operation.isLive : Operation → Bool
  | .advance _ | .step _ | .click .. => true
  | _ => false

namespace Session

variable {s : Session} {id : SpriteId} {voice? : Option Voice}

/-- What a sprite says and thinks in some ticks. -/
def tickSpeeches (s : Session) (now : Instant) (id : SpriteId) : Nat → List Speech
  | 0 => []
  | count + 1 => (s.cast.speech? id).toList ++ (s.tick now).tickSpeeches now id count

/-- The turn of a sprite that an operation is, if it is one. -/
def turn? (s : Session) (id : SpriteId) : Operation → Option Turn
  | .advance now => some ⟨now, (s.fed now).tickSpeeches now id (s.clock.beginFrame now).due⟩
  | .step now => some ⟨now, s.tickSpeeches now id 1⟩
  | _ => none

/-- The turns of a sprite in the course of operations. -/
def turns (s : Session) (id : SpriteId) : List Operation → List Turn
  | [] => []
  | op :: ops => (s.turn? id op).toList ++ (s.after op).turns id ops

/-- A sprite shows a bubble until its deadline, or it shows none and has no deadline. -/
structure Voices (s : Session) (id : SpriteId) (voice? : Option Voice) : Prop where
  bubble : s.cast.bubble? id = voice?.map (·.bubble)
  deadline : s.timers.deadline? id = voice?.map (·.deadline)

/-! ## Ticks -/

theorem Voices.act (hs : s.Sound) (h : s.Voices id voice?) (now : Instant) :
    (s.act now).Voices id ((Voice.ofSpeeches? now (s.cast.speech? id).toList).or voice?) := by
  have hfind := s.find?_act now id
  have hbubble := h.bubble
  unfold Cast.bubble? at hbubble
  unfold Cast.speech?
  cases hsprite : s.cast.find? id with
  | none =>
      have hmem : id ∉ s.cast.ids := by
        rw [Cast.mem_ids_iff, hsprite]
        rintro ⟨_, hsome⟩
        cases hsome
      rw [hsprite] at hfind hbubble
      refine ⟨?_, (deadline?_act_of_notMem hmem now).trans h.deadline⟩
      unfold Cast.bubble?
      rw [hfind]
      exact hbubble
  | some sprite =>
      obtain rfl := Cast.id_of_find? hsprite
      rw [hsprite] at hfind hbubble
      dsimp only [Option.bind_some] at hbubble ⊢
      constructor
      · unfold Cast.bubble?
        rw [hfind, Option.map_some, Option.bind_some, sprite.bubble_act now, hbubble,
          Option.map_or]
      · rw [deadline?_act hs.nodup (Cast.mem_of_find? hsprite),
          sprite.newDeadline?_eq_ofSpeeches?, h.deadline, Option.map_or]

theorem Voices.tick (hs : s.Sound) (h : s.Voices id voice?) (now : Instant) :
    (s.tick now).Voices id ((Voice.ofSpeeches? now (s.cast.speech? id).toList).or voice?) := by
  have hact := h.act hs now
  rw [tick_eq]
  split
  · exact ⟨(s.monitor.bubble?_coordinate _ _ id).trans hact.bubble, hact.deadline⟩
  · exact ⟨hact.bubble, hact.deadline⟩

/-- Ticks leave what was said or thought last in them, or else what there was before. -/
theorem Voices.tickTimes (hs : s.Sound) (h : s.Voices id voice?) (now : Instant) (count : Nat) :
    (s.tickTimes now count).Voices id
      ((Voice.ofSpeeches? now (s.tickSpeeches now id count)).or voice?) := by
  induction count generalizing s voice? with
  | zero => exact h
  | succ count ih =>
      rw [Session.tickTimes, tickSpeeches, Voice.ofSpeeches?_append, Option.or_assoc]
      exact ih (hs.tick now) (h.tick hs now)

theorem bubble?_expireBubbles (s : Session) (now : Instant) (id : SpriteId) :
    (s.expireBubbles now).cast.bubble? id =
      if id ∈ s.timers.expired now then none else s.cast.bubble? id := by
  have hfind : (s.expireBubbles now).cast.find? id =
      (s.cast.find? id).map (Sprite.clearedIn (s.timers.expired now)) := by
    rw [expireBubbles_eq]
    exact s.cast.find?_map_sprites (Sprite.id_clearedIn _) id
  unfold Cast.bubble?
  rw [hfind]
  cases hsprite : s.cast.find? id with
  | none => exact (ite_self _).symm
  | some sprite =>
      obtain rfl := Cast.id_of_find? hsprite
      exact apply_ite (fun sprite : Sprite => sprite.actor.bubble) _ _ _

theorem Voices.expireBubbles (h : s.Voices id voice?) (now : Instant) :
    (s.expireBubbles now).Voices id (voice?.filter (now < ·.deadline)) := by
  have hexpired := s.timers.mem_expired now id
  have hdeadline := s.timers.deadline?_dropExpired now id
  rw [h.deadline] at hexpired hdeadline
  constructor
  · rw [bubble?_expireBubbles, h.bubble]
    cases voice? with
    | none => exact ite_self _
    | some voice =>
        have hover : id ∈ s.timers.expired now ↔ ¬ now < voice.deadline := by simpa using hexpired
        simp only [hover, ite_not, Option.filter_some, decide_eq_true_eq]
        split <;> rfl
  · refine hdeadline.trans ?_
    rw [Option.filter_map]
    rfl

/-! ## Operations -/

/-- A turn leaves to a sprite what it leaves by itself, and a click leaves it what it has. -/
theorem Voices.after (hs : s.Sound) (h : s.Voices id voice?) {op : Operation}
    (hop : op.isLive = true) :
    (s.after op).Voices id ((s.turn? id op).toList.foldl Turn.leaves voice?) := by
  cases op with
  | advance now =>
      have hfed : (s.fed now).Voices id voice? := ⟨h.bubble, h.deadline⟩
      have hsound : (s.fed now).Sound := ⟨hs.nodup, hs.monitor⟩
      exact (hfed.tickTimes hsound now _).expireBubbles now
  | step now => exact (h.tickTimes hs now 1).expireBubbles now
  | click id' now =>
      change (s.click id' now).Voices id voice?
      unfold click
      split
      · have harmed := s.cast.bubble?_modify (f := (·.arm .click)) (fun _ => rfl)
          (fun _ => rfl) id' id
        exact ⟨harmed.trans h.bubble, h.deadline⟩
      · exact h
  | _ => cases hop

theorem Voices.afterAll (hs : s.Sound) (h : s.Voices id voice?) {ops : List Operation}
    (hops : ∀ op ∈ ops, op.isLive = true) :
    (s.afterAll ops).Voices id ((s.turns id ops).foldl Turn.leaves voice?) := by
  induction ops generalizing s voice? with
  | nil => exact h
  | cons op ops ih =>
      obtain ⟨hop, hrest⟩ := List.forall_mem_cons.1 hops
      rw [turns, List.foldl_append]
      exact ih (hs.after op) (h.after hs hop) hrest

theorem voices_play (s : Session) (began : Instant) (id : SpriteId) :
    (s.play began).Voices id none :=
  ⟨s.cast.bubble?_armAll_play id, rfl⟩

/-- As time passes and sprites are clicked after a play, a sprite shows what it has said or thought
last since then, unless one of the turns from that one on is not before the end of its lifetime. A
sprite that has said nothing shows nothing. -/
theorem Reachable.bubble_lifetime (hs : s.Reachable) (began : Instant) {ops : List Operation}
    (hops : ∀ op ∈ ops, op.isLive = true) {sprite : Sprite}
    (hsprite : sprite ∈ ((s.play began).afterAll ops).cast.sprites) :
    let turns := (s.play began).turns sprite.id ops
    ((∀ turn ∈ turns, turn.speeches = []) → sprite.actor.bubble = none) ∧
      ∀ before turn later speech, turns = before ++ turn :: later →
        turn.speeches.getLast? = some speech → (∀ t ∈ later, t.speeches = []) →
        sprite.actor.bubble =
          if ∀ t ∈ turn :: later, t.now < turn.now + BubbleTimers.lifetime speech.seconds then
            some speech.bubble
          else none := by
  intro turns
  have hplayed : (s.play began).Reachable := hs.after (.play began)
  have hfind := (Cast.find?_eq_some_iff (hplayed.afterAll ops).sound.nodup).2 ⟨hsprite, rfl⟩
  have hshown : sprite.actor.bubble = (turns.foldl Turn.leaves none).map (·.bubble) := by
    have hbubble := ((s.voices_play began sprite.id).afterAll hplayed.sound hops).bubble
    unfold Cast.bubble? at hbubble
    rw [hfind] at hbubble
    exact hbubble
  constructor
  · intro hsilent
    rw [hshown, Turn.foldl_leaves_of_silent hsilent]
    rfl
  · intro before turn later speech hturns hspeech hlater
    rw [hshown, hturns, Turn.foldl_leaves_of_getLast? hspeech hlater]
    exact apply_ite (Option.map _) _ _ _

/-- A sprite says something of its own and then, after a swap, twice what another was given to say;
the last of it is there until its own lifetime is over. -/
theorem Reachable.bubble_lifetime_talking :
    let ops : List Operation := [.advance (milliseconds 60), .click "cat" (milliseconds 70),
      .advance (milliseconds 110), .advance (milliseconds 200), .step (milliseconds 2199)]
    ∃ sprite ∈ ((talking.play 0).afterAll ops).cast.sprites,
      sprite.id = "dog" ∧ sprite.actor.bubble = some ⟨.think, "Hm"⟩ := by
  intro ops
  have hops : ∀ op ∈ ops, op.isLive = true := by decide
  have hturns : (talking.play 0).turns "dog" ops =
      [⟨milliseconds 60, [⟨⟨.say, "Ho"⟩, 0⟩]⟩, ⟨milliseconds 110, [⟨⟨.say, "Hi"⟩, 0⟩]⟩,
        ⟨milliseconds 200, [⟨⟨.think, "Hm"⟩, 2⟩]⟩, ⟨milliseconds 2199, []⟩] := by
    decide +kernel
  have hfound : (((talking.play 0).afterAll ops).cast.find? "dog").isSome := by decide +kernel
  obtain ⟨sprite, hfind⟩ := Option.isSome_iff_exists.1 hfound
  have hsprite := Cast.mem_of_find? hfind
  have hid := Cast.id_of_find? hfind
  obtain ⟨-, hlast⟩ := reachable_talking.bubble_lifetime 0 hops hsprite
  rw [hid, hturns] at hlast
  have hshown := hlast [_, _] _ [_] _ rfl rfl (by decide)
  refine ⟨sprite, hsprite, hid, hshown.trans ?_⟩
  decide +kernel

end Session

end SpriteStage
