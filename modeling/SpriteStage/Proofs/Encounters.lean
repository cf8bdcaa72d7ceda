import SpriteStage.Proofs.Scans

/-!
# Encounters over a run

A run goes from a start or a restart to the next one. During it the monitor recalls of two sprites
what they shared at the last scan, so a scan reports an encounter of them exactly when a contact of
theirs begins while neither is cooling down. A contact that is kept up is one episode: it is
reported once if at all, and never if one of them was cooling down when it began.
-/

namespace SpriteStage

variable {a b : SpriteId} {r? : Option Box} {m m' : Monitor} {l l' : List Scan} {scan : Scan}

/-! ## What is recalled of two sprites -/

/-- The monitor remembers two sprites by a rectangle in given places, or not at all. -/
def Monitor.Recalls (m : Monitor) (a b : SpriteId) (r? : Option Box) : Prop :=
  (m.memory.find? (.of a b)).map Box.places = r?.map Box.places

theorem Monitor.recalls_reset (m : Monitor) (a b : SpriteId) : m.reset.Recalls a b none := rfl

theorem Monitor.Recalls.forget (h : m.Recalls a b r?) {id : SpriteId} (ha : id ≠ a) (hb : id ≠ b) :
    (m.forget id).Recalls a b r? := by
  have hinvolved : (SpritePair.of a b).involves id = false := by
    unfold SpritePair.involves
    obtain ⟨hlow, hhigh⟩ | ⟨hlow, hhigh⟩ := SpritePair.joins_of a b <;>
      simp [hlow, hhigh, ha.symm, hb.symm]
  unfold Recalls
  change ((m.memory.filter _).find? _).map _ = _
  rw [Table.find?_filter, hinvolved]
  rw [← h]
  cases m.memory.find? (.of a b) <;> rfl

theorem Monitor.Recalls.continues_eq (h : m.Recalls a b r?) (r : Box) :
    m.continues (.of a b) r = r?.any (·.meets r) := by
  unfold Recalls at h
  unfold continues
  cases hfind : m.memory.find? (.of a b) with
  | none =>
      rw [hfind, Option.map_none, eq_comm, Option.map_eq_none_iff] at h
      rw [h]
      rfl
  | some previous =>
      rw [hfind, Option.map_some, eq_comm, Option.map_eq_some_iff] at h
      obtain ⟨r', rfl, hplaces⟩ := h
      exact Box.meets_congr hplaces.symm rfl

namespace Scan

/-- A scan reports an encounter of two sprites. -/
def Reports (scan : Scan) (a b : SpriteId) : Prop :=
  ∃ e ∈ (scan.monitor.detect scan.cast).1, e.pair.Joins a b

def isCooling (scan : Scan) (id : SpriteId) : Bool := Monitor.isCooling scan.cast id

theorem Sound.recalls_outcome (h : scan.Sound) (a b : SpriteId) :
    scan.outcome.Recalls a b (scan.shared? a b) :=
  Monitor.places_find?_detect h.nodup h.monitor.isOrdered a b

/-- Scans at each of which the monitor recalls of two sprites what they shared at the one before. -/
inductive Recalled (a b : SpriteId) : Option Box → List Scan → Prop where
  | nil (r? : Option Box) : Recalled a b r? []
  | cons {r? : Option Box} {scan : Scan} {rest : List Scan} :
      scan.Sound → scan.monitor.Recalls a b r? → Recalled a b (scan.shared? a b) rest →
        Recalled a b r? (scan :: rest)

/-- What two sprites shared at the last of some scans. -/
def lastShared (a b : SpriteId) (r? : Option Box) (l : List Scan) : Option Box :=
  l.foldl (fun _ scan => scan.shared? a b) r?

theorem Recalled.append (h : Recalled a b r? l) (h' : Recalled a b (lastShared a b r? l) l') :
    Recalled a b r? (l ++ l') := by
  induction h with
  | nil => exact h'
  | cons hscan hrecalls _ ih => exact .cons hscan hrecalls (ih h')

theorem Leads.recalled (h : Leads m l m') (hm : m.Recalls a b r?) :
    Recalled a b r? l ∧ m'.Recalls a b (lastShared a b r? l) := by
  induction h generalizing r? with
  | nil => exact ⟨.nil _, hm⟩
  | cons scan hscan _ ih =>
      obtain ⟨hrecalled, hlast⟩ := ih (hscan.recalls_outcome a b)
      exact ⟨.cons hscan hm hrecalled, hlast⟩

theorem Recalled.of_getElem?_zero (h : Recalled a b r? l) (hscan : l[0]? = some scan) :
    scan.Sound ∧ scan.monitor.Recalls a b r? := by
  cases h with
  | nil => cases hscan
  | cons hsound hrecalls _ =>
      obtain rfl := Option.some.inj hscan
      exact ⟨hsound, hrecalls⟩

theorem Recalled.of_getElem?_succ (h : Recalled a b r? l) {k : Nat} {previous : Scan}
    (hprevious : l[k]? = some previous) (hscan : l[k + 1]? = some scan) :
    scan.Sound ∧ scan.monitor.Recalls a b (previous.shared? a b) := by
  induction h generalizing k with
  | nil => cases hscan
  | cons _ _ hrest ih =>
      rw [List.getElem?_cons_succ] at hscan
      cases k with
      | zero =>
          obtain rfl := Option.some.inj hprevious
          exact hrest.of_getElem?_zero hscan
      | succ k =>
          rw [List.getElem?_cons_succ] at hprevious
          exact ih hprevious hscan

end Scan

/-! ## Runs -/

/-- An operation with which a new run begins. -/
def Operation.beginsRun : Operation → Bool
  | .play _ | .restart => true
  | _ => false

namespace Session

variable {s : Session}

/-- The sessions with which a run begins. -/
inductive Begins : Session → Prop where
  | new (settings : Settings) : Begins (ofSettings settings)
  | play {s : Session} (now : Instant) : s.Reachable → Begins (s.play now)
  | restart {s : Session} : s.Reachable → Begins s.restart

/-- No operation removes a sprite. -/
def Keeps (s : Session) (id : SpriteId) : List Operation → Prop
  | [] => True
  | op :: ops => (op = .delete id → id ∉ s.cast.ids) ∧ (s.after op).Keeps id ops

theorem begins_together : together.Begins := .play default reachable_placed

theorem Begins.reachable (hs : s.Begins) : s.Reachable := by
  cases hs with
  | new settings => exact .new settings
  | play now hs => exact hs.after (.play now)
  | restart hs => exact hs.after .restart

theorem Begins.recalls (hs : s.Begins) (a b : SpriteId) : s.monitor.Recalls a b none := by
  cases hs with
  | new settings => rfl
  | play now _ => exact Monitor.recalls_reset _ a b
  | restart _ => exact Monitor.recalls_reset _ a b

/-- During a run an operation keeps in memory what two sprites shared at its last scan. -/
theorem recalled_scansOf (hs : s.Sound) (hrecalls : s.monitor.Recalls a b r?) {op : Operation}
    (hop : op.beginsRun = false) (ha : op = .delete a → a ∉ s.cast.ids)
    (hb : op = .delete b → b ∉ s.cast.ids) :
    Scan.Recalled a b r? (s.scansOf op) ∧
      (s.after op).monitor.Recalls a b (Scan.lastShared a b r? (s.scansOf op)) := by
  cases op with
  | add spec =>
      refine ⟨.nil _, ?_⟩
      rw [after_add]
      split <;> exact hrecalls
  | delete id =>
      refine ⟨.nil _, ?_⟩
      rw [after_delete]
      split
      · rename_i hc
        -- The sprite that is removed is neither of the two.
        have hid := Cast.mem_ids_of_remove hc
        refine Monitor.Recalls.forget hrecalls ?_ ?_
        · rintro rfl
          exact ha rfl hid
        · rintro rfl
          exact hb rfl hid
      · exact hrecalls
  | select id =>
      refine ⟨.nil _, ?_⟩
      rw [after_select]
      split <;> exact hrecalls
  | edit id trigger e =>
      refine ⟨.nil _, ?_⟩
      rw [after_edit]
      split <;> exact hrecalls
  | play now => cases hop
  | stop => exact ⟨.nil _, hrecalls⟩
  | restart => cases hop
  | click id now =>
      refine ⟨.nil _, ?_⟩
      change (s.click id now).monitor.Recalls a b r?
      unfold click
      split <;> exact hrecalls
  | advance now => exact (leads_advance hs now).recalled hrecalls
  | step now => exact (leads_step hs now).recalled hrecalls

theorem recalled_scans (hs : s.Sound) (hrecalls : s.monitor.Recalls a b r?) {ops : List Operation}
    (hops : ∀ op ∈ ops, op.beginsRun = false) (ha : s.Keeps a ops) (hb : s.Keeps b ops) :
    Scan.Recalled a b r? (s.scans ops) := by
  induction ops generalizing s r? with
  | nil => exact .nil _
  | cons op ops ih =>
      obtain ⟨hrecalled, hlast⟩ :=
        recalled_scansOf hs hrecalls (hops op List.mem_cons_self) ha.1 hb.1
      have hrest := ih (hs.after op) hlast (fun op hop => hops op (List.mem_cons_of_mem _ hop))
        ha.2 hb.2
      exact hrecalled.append hrest

end Session

/-! ## Episodes -/

namespace Scan

def ReportsAt (a b : SpriteId) (l : List Scan) (k : Nat) : Prop :=
  ∃ scan, l[k]? = some scan ∧ scan.Reports a b

/-- What two sprites share at a scan meets what they share at the next one. -/
def GoesOnAt (a b : SpriteId) (l : List Scan) (k : Nat) : Prop :=
  ∃ previous scan r r', l[k]? = some previous ∧ l[k + 1]? = some scan ∧
    previous.shared? a b = some r ∧ scan.shared? a b = some r' ∧ r.meets r' = true

/-- The contact of two sprites at one scan goes on at every scan up to another. -/
def KeptUp (a b : SpriteId) (l : List Scan) (first last : Nat) : Prop :=
  ∀ k, first ≤ k → k < last → GoesOnAt a b l k

/-- A contact begins at a scan if there is none before, or if the one before does not meet it. -/
def BeginsAt (a b : SpriteId) (l : List Scan) (k : Nat) (r : Box) : Prop :=
  k = 0 ∨ ∃ previous, l[k - 1]? = some previous ∧
    (previous.shared? a b = none ∨ ∃ r', previous.shared? a b = some r' ∧ r'.meets r = false)

theorem Sound.reports_iff (h : scan.Sound) (hrecalls : scan.monitor.Recalls a b r?) :
    scan.Reports a b ↔ ∃ r, scan.shared? a b = some r ∧ r?.any (·.meets r) = false ∧
      scan.isCooling a = false ∧ scan.isCooling b = false := by
  refine (Monitor.exists_encounter_iff h.nodup).trans (exists_congr fun r => ?_)
  rw [hrecalls.continues_eq]
  rfl

theorem Recalled.reports_iff (h : Recalled a b none l) {k : Nat} (hscan : l[k]? = some scan) :
    scan.Reports a b ↔ ∃ r, scan.shared? a b = some r ∧ BeginsAt a b l k r ∧
      scan.isCooling a = false ∧ scan.isCooling b = false := by
  cases k with
  | zero =>
      obtain ⟨hsound, hrecalls⟩ := h.of_getElem?_zero hscan
      simp [hsound.reports_iff hrecalls, BeginsAt]
  | succ k =>
      obtain ⟨hlt, -⟩ := List.getElem?_eq_some_iff.1 hscan
      obtain ⟨previous, hprevious⟩ : ∃ previous, l[k]? = some previous :=
        ⟨l[k], List.getElem?_eq_getElem (by omega)⟩
      obtain ⟨hsound, hrecalls⟩ := h.of_getElem?_succ hprevious hscan
      rw [hsound.reports_iff hrecalls]
      refine exists_congr fun r => and_congr_right fun _ => and_congr_left fun _ => ?_
      rw [BeginsAt, Nat.add_sub_cancel, hprevious]
      cases hshared : previous.shared? a b <;> simp [hshared]

theorem Recalled.not_reportsAt (h : Recalled a b none l) {k : Nat} (hgoes : GoesOnAt a b l k) :
    ¬ReportsAt a b l (k + 1) := by
  rintro ⟨scan, hscan, hreports⟩
  obtain ⟨previous, scan', r, r', hprevious, hscan', hr, hr', hmeets⟩ := hgoes
  obtain rfl : scan = scan' := Option.some.inj (hscan.symm.trans hscan')
  obtain ⟨hsound, hrecalls⟩ := h.of_getElem?_succ hprevious hscan
  obtain ⟨r'', hr'', hnew, -⟩ := (hsound.reports_iff hrecalls).1 hreports
  obtain rfl : r' = r'' := Option.some.inj (hr'.symm.trans hr'')
  rw [hr, Option.any_some, hmeets] at hnew
  cases hnew

/-- What is reported of a contact that is kept up is reported at its first scan. -/
theorem KeptUp.eq_first {first last k : Nat} (h : KeptUp a b l first last)
    (hrecalled : Recalled a b none l) (hfirst : first ≤ k) (hlast : k ≤ last)
    (hreports : ReportsAt a b l k) : k = first := by
  by_contra hne
  obtain ⟨j, rfl⟩ : ∃ j, k = j + 1 := ⟨k - 1, by omega⟩
  exact hrecalled.not_reportsAt (h j (by omega) (by omega)) hreports

end Scan

/-- Over a run a scan reports an encounter of two sprites if and only if they are in contact, this
contact begins there, and neither of them is cooling down. So a contact that is kept up is reported
at most once, and never if one of them was cooling down at its first scan. -/
theorem Session.Begins.reports_iff_contact_begins {s : Session} (hs : s.Begins)
    {ops : List Operation} (hops : ∀ op ∈ ops, op.beginsRun = false) (ha : s.Keeps a ops)
    (hb : s.Keeps b ops) :
    (∀ k scan, (s.scans ops)[k]? = some scan →
      (scan.Reports a b ↔ ∃ r, scan.shared? a b = some r ∧ Scan.BeginsAt a b (s.scans ops) k r ∧
        scan.isCooling a = false ∧ scan.isCooling b = false)) ∧
    (∀ first last, Scan.KeptUp a b (s.scans ops) first last →
      (∀ j k, first ≤ j → j ≤ last → first ≤ k → k ≤ last → Scan.ReportsAt a b (s.scans ops) j →
        Scan.ReportsAt a b (s.scans ops) k → j = k) ∧
      ∀ scan, (s.scans ops)[first]? = some scan →
        (scan.isCooling a = true ∨ scan.isCooling b = true) →
        ∀ k, first ≤ k → k ≤ last → ¬Scan.ReportsAt a b (s.scans ops) k) := by
  have hrecalled := recalled_scans hs.reachable.sound (hs.recalls a b) hops ha hb
  refine ⟨fun k scan hscan => hrecalled.reports_iff hscan, fun first last hkept => ⟨?_, ?_⟩⟩
  · intro j k hj hj' hk hk' hreports hreports'
    rw [hkept.eq_first hrecalled hj hj' hreports, hkept.eq_first hrecalled hk hk' hreports']
  · intro scan hscan hcooling k hk hk' hreports
    obtain rfl := hkept.eq_first hrecalled hk hk' hreports
    obtain ⟨scan', hscan', hreports⟩ := hreports
    obtain rfl : scan = scan' := Option.some.inj (hscan.symm.trans hscan')
    obtain ⟨r, -, -, hwarm, hwarm'⟩ := (hrecalled.reports_iff hscan).1 hreports
    rcases hcooling with hcooling | hcooling
    · rw [hwarm] at hcooling
      cases hcooling
    · rw [hwarm'] at hcooling
      cases hcooling

theorem Session.Begins.reports_iff_contact_begins_together :
    let scans := together.scans [.step default, .step default]
    Scan.ReportsAt "cat" "dog" scans 0 ∧ ¬Scan.ReportsAt "cat" "dog" scans 1 := by
  have hops : ∀ op ∈ [Operation.step default, .step default], op.beginsRun = false := by decide
  have hkeeps (id : SpriteId) : together.Keeps id [.step default, .step default] :=
    ⟨nofun, nofun, trivial⟩
  have hrun := begins_together.reports_iff_contact_begins hops (hkeeps "cat") (hkeeps "dog")
  have hfirst : Scan.ReportsAt "cat" "dog" (together.scans [.step default, .step default]) 0 :=
    ⟨_, rfl, (hrun.1 0 _ rfl).2 ⟨_, rfl, .inl rfl, by decide +kernel, by decide +kernel⟩⟩
  have hkept : Scan.KeptUp "cat" "dog" (together.scans [.step default, .step default]) 0 1 := by
    intro k _ hk
    obtain rfl : k = 0 := by omega
    exact ⟨_, _, _, _, rfl, rfl, rfl, rfl, by decide +kernel⟩
  refine ⟨hfirst, fun hsecond => ?_⟩
  have hsame := (hrun.2 0 1 hkept).1 0 1 (by omega) (by omega) (by omega) (by omega) hfirst hsecond
  cases hsame

end SpriteStage
