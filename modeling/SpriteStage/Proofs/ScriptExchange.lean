import SpriteStage.Proofs.CastProjections
import SpriteStage.Proofs.Scans

/-!
# Where scripts go

Running a session never changes a script and never makes or loses one. Every cast that an operation
leads through has the same programs as the one before, or follows from it by a swap, which exchanges
the active scripts of two sprites with each other and their other scripts with each other.
-/

open scoped List

namespace SpriteStage

def Program.scripts (p : Program) : List (List Block) := Trigger.all.map p.script

theorem Program.scripts_realign_perm (p : Program) (source target : Trigger) :
    (p.realign source target).scripts.Perm p.scripts := by
  unfold realign
  split
  · exact .refl _
  · exact .swap _ _ _

namespace Cast

variable {c c' c'' : Cast} {l l' : List Cast}

/-- All scripts of a cast, one for each sprite and trigger. -/
def scripts (c : Cast) : List (List Block) := c.sprites.flatMap (·.program.scripts)

def programs (c : Cast) : List (SpriteId × Program) := c.sprites.map fun s => (s.id, s.program)

theorem scripts_eq (c : Cast) : c.scripts = c.programs.flatMap (·.2.scripts) := by
  rw [programs, List.flatMap_map]
  rfl

theorem ids_eq_of_programs_eq (h : c.programs = c'.programs) : c.ids = c'.ids := by
  have hids (c : Cast) : c.ids = c.programs.map (·.1) := by
    rw [programs, List.map_map]
    rfl
  rw [hids, hids, h]

theorem programs_map_sprites {f : Sprite → Sprite} (hid : ∀ s, (f s).id = s.id)
    (hprogram : ∀ s, (f s).program = s.program) :
    { c with sprites := c.sprites.map f }.programs = c.programs := by
  unfold programs
  rw [List.map_map]
  exact List.map_congr_left fun s _ => Prod.ext (hid s) (hprogram s)

theorem programs_modify {id : SpriteId} {f : Sprite → Sprite} (hid : ∀ s, (f s).id = s.id)
    (hprogram : ∀ s, (f s).program = s.program) : (c.modify id f).programs = c.programs := by
  refine programs_map_sprites (fun s => ?_) (fun s => ?_)
  · split <;> simp [hid]
  · split <;> simp [hprogram]

/-! ## Exchanges -/

/-- A sprite has the scripts that another had, the active one for its own active trigger and the
other one for the other. -/
structure TakesOver (s t : Sprite) (s' : Sprite) : Prop where
  active : s'.program.script s.activeTrigger = t.program.script t.activeTrigger
  inactive : s'.program.script s.activeTrigger.other = t.program.script t.activeTrigger.other

/-- From one cast to another, two sprites exchange their scripts and nothing else changes hands. -/
structure Exchanged (c : Cast) (s t : Sprite) (c' : Cast) : Prop where
  distinct : s.id ≠ t.id
  first : c.find? s.id = some s
  second : c.find? t.id = some t
  ids : c'.ids = c.ids
  firstTakes : ∃ s', c'.find? s.id = some s' ∧ TakesOver s t s'
  secondTakes : ∃ t', c'.find? t.id = some t' ∧ TakesOver t s t'
  others : ∀ id, id ≠ s.id → id ≠ t.id → c'.find? id = c.find? id

theorem exchanged_of_swap {a b : SpriteId} {cooldown : Nat} (h : c.swap a b cooldown = .ok c') :
    ∃ s t, s.id = a ∧ t.id = b ∧ Exchanged c s t c' := by
  obtain ⟨hne, s, t, hs, ht, rfl⟩ := exists_of_swap h
  obtain rfl := id_of_find? hs
  obtain rfl := id_of_find? ht
  have hfind := c.find?_map_sprites (id_handOver c.increment s t cooldown)
  refine ⟨s, t, rfl, rfl, hne, hs, ht, ids_map_sprites fun x => id_handOver .., ?_, ?_, ?_⟩
  · refine ⟨handOver c.increment s t cooldown s, ?_, ?_⟩
    · rw [hfind, hs, Option.map_some]
    · rw [handOver, if_pos rfl]
      exact ⟨Program.script_realign .., Program.script_realign_other ..⟩
  · refine ⟨handOver c.increment s t cooldown t, ?_, ?_⟩
    · rw [hfind, ht, Option.map_some]
    · rw [handOver, if_neg hne.symm, if_pos rfl]
      exact ⟨Program.script_realign .., Program.script_realign_other ..⟩
  · intro id hs' ht'
    rw [hfind]
    cases hx : c.find? id with
    | none => rfl
    | some x =>
        obtain rfl := id_of_find? hx
        rw [Option.map_some, handOver, if_neg hs', if_neg ht']

theorem exists_perm (hc : c.ids.Nodup) {s t : Sprite} (hs : s ∈ c.sprites) (ht : t ∈ c.sprites)
    (hne : s.id ≠ t.id) :
    ∃ rest, c.sprites.Perm (s :: t :: rest) ∧ ∀ x ∈ rest, x.id ≠ s.id ∧ x.id ≠ t.id := by
  obtain ⟨before, after, hsplit⟩ := List.append_of_mem hs
  have hperm : c.sprites.Perm (s :: (before ++ after)) := hsplit ▸ List.perm_middle
  have ht' : t ∈ before ++ after := by
    rcases List.mem_cons.1 (hperm.subset ht) with rfl | ht'
    · exact absurd rfl hne
    · exact ht'
  obtain ⟨before', after', hsplit'⟩ := List.append_of_mem ht'
  have hperm' : c.sprites.Perm (s :: t :: (before' ++ after')) :=
    hperm.trans (.cons s (hsplit' ▸ List.perm_middle))
  refine ⟨before' ++ after', hperm', fun x hx => ?_⟩
  have hids := (hperm'.map Sprite.id).nodup_iff.1 hc
  simp only [List.map_cons, List.nodup_cons, List.mem_cons, not_or] at hids
  have hmem : x.id ∈ (before' ++ after').map (·.id) := List.mem_map_of_mem hx
  exact ⟨fun h => hids.1.2 (h ▸ hmem), fun h => hids.2.1 (h ▸ hmem)⟩

theorem map_handOver_others (i : Increment) {s t : Sprite} (cooldown : Nat) {rest : List Sprite}
    (hrest : ∀ x ∈ rest, x.id ≠ s.id ∧ x.id ≠ t.id) :
    rest.map (handOver i s t cooldown) = rest := by
  have hsame : ∀ x ∈ rest, handOver i s t cooldown x = id x := fun x hx => by
    rw [handOver, if_neg (hrest x hx).1, if_neg (hrest x hx).2, id]
  rw [List.map_congr_left hsame, List.map_id]

/-- A swap keeps the scripts of the cast, counted with repetition. -/
theorem scripts_perm_of_swap {a b : SpriteId} {cooldown : Nat} (hc : c.ids.Nodup)
    (h : c.swap a b cooldown = .ok c') : c'.scripts.Perm c.scripts := by
  obtain ⟨hne, s, t, hs, ht, rfl⟩ := exists_of_swap h
  obtain rfl := id_of_find? hs
  obtain rfl := id_of_find? ht
  obtain ⟨rest, hperm, hrest⟩ := exists_perm hc (mem_of_find? hs) (mem_of_find? ht) hne
  let f := handOver c.increment s t cooldown
  let g (x : Sprite) := x.program.scripts
  have hfirst : (g (f s)).Perm (g t) := by
    dsimp only [f, g, handOver]
    rw [if_pos rfl]
    exact Program.scripts_realign_perm ..
  have hsecond : (g (f t)).Perm (g s) := by
    dsimp only [f, g, handOver]
    rw [if_neg hne.symm, if_pos rfl]
    exact Program.scripts_realign_perm ..
  calc (c.sprites.map f).flatMap g
    _ ~ ((s :: t :: rest).map f).flatMap g := (hperm.map f).flatMap_right g
    _ = g (f s) ++ (g (f t) ++ rest.flatMap g) := by
        rw [List.map_cons, List.map_cons, map_handOver_others c.increment cooldown hrest,
          List.flatMap_cons, List.flatMap_cons]
    _ ~ g t ++ (g s ++ rest.flatMap g) := hfirst.append (hsecond.append_right _)
    _ ~ g s ++ (g t ++ rest.flatMap g) := by
        rw [← List.append_assoc, ← List.append_assoc]
        exact List.perm_append_comm.append_right _
    _ = (s :: t :: rest).flatMap g := by rw [List.flatMap_cons, List.flatMap_cons]
    _ ~ c.sprites.flatMap g := hperm.symm.flatMap_right g

/-! ## Courses -/

/-- Every sprite keeps its program, or a swap makes two of them exchange their scripts. -/
def Passes (c c' : Cast) : Prop :=
  c'.programs = c.programs ∨
    ∃ s t cooldown, c.swap s.id t.id cooldown = .ok c' ∧ Exchanged c s t c'

/-- Casts that lead from one to another, each passing to the next. -/
inductive Course : Cast → List Cast → Cast → Prop where
  | nil (c : Cast) : Course c [] c
  | cons {c c' c'' : Cast} {l : List Cast} : Passes c c' → Course c' l c'' → Course c (c' :: l) c''

theorem Course.append (h : Course c l c') (h' : Course c' l' c'') : Course c (l ++ l') c'' := by
  induction h with
  | nil => exact h'
  | cons hpasses _ ih => exact .cons hpasses (ih h')

theorem Course.single (h : Passes c c') : Course c [c'] c' := .cons h (.nil c')

theorem passes_of_swap {a b : SpriteId} {cooldown : Nat} (h : c.swap a b cooldown = .ok c') :
    Passes c c' := by
  obtain ⟨s, t, rfl, rfl, hexchanged⟩ := exchanged_of_swap h
  exact .inr ⟨s, t, cooldown, h, hexchanged⟩

theorem Passes.keeps (h : Passes c c') (hc : c.ids.Nodup) :
    c'.ids.Nodup ∧ c'.scripts.Perm c.scripts := by
  rcases h with h | ⟨s, t, cooldown, hswap, hexchanged⟩
  · rw [ids_eq_of_programs_eq h, scripts_eq, h, ← scripts_eq]
    exact ⟨hc, .refl _⟩
  · exact ⟨hexchanged.ids.symm ▸ hc, scripts_perm_of_swap hc hswap⟩

theorem Course.scripts_perm (h : Course c l c') (hc : c.ids.Nodup) :
    c'.scripts.Perm c.scripts := by
  induction h with
  | nil => exact .refl _
  | cons hpasses _ ih =>
      obtain ⟨hnodup, hperm⟩ := hpasses.keeps hc
      exact (ih hnodup).trans hperm

end Cast

namespace Monitor

variable {c : Cast}

/-- The casts that the swaps of a scan lead through, from the one that is scanned to the one that is
left. -/
def swapCasts (m : Monitor) (c : Cast) (cooldown : Nat) : List Cast :=
  ((m.detect c).1.scanl (swapEncounter cooldown) ([], (m.detect c).2, c)).map (·.2.2)

theorem passes_swapEncounter (cooldown : Nat) (state : List Contact × Monitor × Cast)
    (e : Contact) : Cast.Passes state.2.2 (swapEncounter cooldown state e).2.2 := by
  obtain ⟨swapped, m, c⟩ := state
  unfold swapEncounter
  dsimp only
  split
  · exact .inl rfl
  · split
    · rename_i hswap
      exact Cast.passes_of_swap hswap
    · exact .inl rfl

theorem course_scanl (cooldown : Nat) (es : List Contact) {state : List Contact × Monitor × Cast}
    (h : Cast.Passes c state.2.2) :
    Cast.Course c ((es.scanl (swapEncounter cooldown) state).map (·.2.2))
      (es.foldl (swapEncounter cooldown) state).2.2 := by
  induction es generalizing c state with
  | nil => exact .single h
  | cons e rest ih =>
      rw [List.scanl_cons, List.map_cons, List.foldl_cons]
      exact .cons h (ih (passes_swapEncounter cooldown state e))

theorem course_swapCasts {c' : Cast} (h : Cast.Passes c c') (m : Monitor) (cooldown : Nat) :
    Cast.Course c (m.swapCasts c' cooldown) (m.coordinate c' cooldown).2.2 :=
  course_scanl cooldown (m.detect c').1 h

end Monitor

/-- An operation that changes which sprites there are or what they are to do. -/
def Operation.isAuthoring : Operation → Bool
  | .add _ | .delete _ | .edit .. => true
  | _ => false

namespace Session

variable {s : Session}

/-- The casts that a tick leads through, when all sprites have acted and after each swap. -/
def tickCasts (s : Session) (now : Instant) : List Cast :=
  match s.tickScan? now with
  | some scan => scan.monitor.swapCasts scan.cast s.settings.swapCooldown
  | none => [(s.act now).cast]

def ticksCasts (s : Session) (now : Instant) : Nat → List Cast
  | 0 => []
  | count + 1 => s.tickCasts now ++ (s.tick now).ticksCasts now count

/-- The casts that an operation leads through, the last one being that of the session after it. -/
def castsOf (s : Session) (op : Operation) : List Cast :=
  let ticks := match op with
    | .advance now =>
      let clock := s.clock.beginFrame now
      { s with clock := clock.drain }.ticksCasts now clock.due
    | .step now => s.ticksCasts now 1
    | _ => []
  ticks ++ [(s.after op).cast]

def casts (s : Session) : List Operation → List Cast
  | [] => []
  | op :: ops => s.castsOf op ++ (s.after op).casts ops

theorem programs_act (s : Session) (now : Instant) :
    (s.act now).cast.programs = s.cast.programs := by
  rw [cast_act]
  exact Cast.programs_map_sprites (fun _ => rfl) fun _ => rfl

theorem programs_expireBubbles (s : Session) (now : Instant) :
    (s.expireBubbles now).cast.programs = s.cast.programs :=
  expireBubbles_keeps (P := fun c => c.programs = s.cast.programs) rfl
    (fun _ _ h =>
      (Cast.programs_modify (f := Sprite.clearBubble) (fun _ => rfl) fun _ => rfl).trans h) now

theorem cast_tick (s : Session) (now : Instant) :
    (s.tick now).cast = if max s.settings.scanEvery 1 ≤ s.sinceScan + 1 then
      (s.monitor.coordinate (s.act now).cast s.settings.swapCooldown).2.2
    else (s.act now).cast := by
  unfold tick
  exact apply_ite Session.cast _ _ _

theorem course_tick (s : Session) (now : Instant) :
    Cast.Course s.cast (s.tickCasts now) (s.tick now).cast := by
  have hact : Cast.Passes s.cast (s.act now).cast := .inl (programs_act s now)
  rw [cast_tick]
  unfold tickCasts tickScan?
  by_cases hdue : max s.settings.scanEvery 1 ≤ s.sinceScan + 1
  · rw [if_pos hdue, if_pos hdue]
    exact Monitor.course_swapCasts hact _ _
  · rw [if_neg hdue, if_neg hdue]
    exact .single hact

theorem course_ticks (s : Session) (now : Instant) (count : Nat) :
    Cast.Course s.cast (s.ticksCasts now count) (s.tickTimes now count).cast := by
  induction count generalizing s with
  | zero => exact .nil _
  | succ count ih => exact (course_tick s now).append (ih (s.tick now))

theorem course_castsOf (s : Session) {op : Operation} (hop : op.isAuthoring = false) :
    Cast.Course s.cast (s.castsOf op) (s.after op).cast := by
  cases op with
  | add spec => cases hop
  | delete id => cases hop
  | edit id trigger e => cases hop
  | select id =>
      refine .single (.inl ?_)
      rw [after_select]
      split
      · rename_i c hc
        rw [Cast.programs, Cast.sprites_select hc, Cast.programs]
      · rfl
  | play now => exact .single (.inl (Cast.programs_map_sprites (fun _ => rfl) fun _ => rfl))
  | stop => exact .single (.inl rfl)
  | restart => exact .single (.inl (Cast.programs_map_sprites (fun _ => rfl) fun _ => rfl))
  | click id now =>
      refine .single (.inl ?_)
      change (s.click id now).cast.programs = _
      unfold click
      split
      · exact Cast.programs_modify (fun _ => rfl) fun _ => rfl
      · rfl
  | advance now =>
      exact (course_ticks { s with clock := (s.clock.beginFrame now).drain } now _).append
        (.single (.inl (programs_expireBubbles _ now)))
  | step now =>
      exact (course_ticks s now 1).append (.single (.inl (programs_expireBubbles _ now)))

theorem course_casts (s : Session) {ops : List Operation}
    (hops : ∀ op ∈ ops, op.isAuthoring = false) :
    Cast.Course s.cast (s.casts ops) (s.afterAll ops).cast := by
  induction ops generalizing s with
  | nil => exact .nil _
  | cons op ops ih =>
      exact (course_castsOf s (hops op List.mem_cons_self)).append
        (ih (s.after op) fun op hop => hops op (List.mem_cons_of_mem _ hop))

/-- Running a session keeps its scripts, counted with repetition, and a script goes from one sprite
to another only by a swap, which exchanges active scripts with each other and others with each
other. -/
theorem Reachable.scripts_only_exchanged (hs : s.Reachable) {ops : List Operation}
    (hops : ∀ op ∈ ops, op.isAuthoring = false) :
    (s.afterAll ops).cast.scripts.Perm s.cast.scripts ∧
      Cast.Course s.cast (s.casts ops) (s.afterAll ops).cast := by
  have hcourse := course_casts s hops
  exact ⟨hcourse.scripts_perm hs.sound.nodup, hcourse⟩

theorem Reachable.scripts_only_exchanged_together :
    (together.afterAll [.step default]).swaps = 1 ∧
      (together.afterAll [.step default]).cast.scripts.Perm together.cast.scripts :=
  ⟨by decide +kernel, (reachable_together.scripts_only_exchanged (by decide)).1⟩

end Session

end SpriteStage
