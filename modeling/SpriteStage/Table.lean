/-!
# Tables with ordered keys

A table holds at most one value per key, as a list of entries in strictly increasing key order, so
that two tables with the same look-ups are equal (`Table.ext_find?`). Each operation is followed by
what it does to look-ups.
-/

namespace SpriteStage

/-- A strict total order on keys that can be decided. -/
class KeyOrder (κ : Type) where
  before : κ → κ → Bool
  irrefl (a : κ) : before a a = false
  trans {a b c : κ} : before a b → before b c → before a c
  connected {a b : κ} : before a b = false → before b a = false → a = b

/-- Texts are ordered by their code points. -/
instance : KeyOrder String where
  before a b := decide (a < b)
  irrefl a := by simp
  trans h₁ h₂ := by
    simp only [decide_eq_true_eq] at *
    exact String.lt_trans h₁ h₂
  connected h₁ h₂ := by
    simp only [decide_eq_false_iff_not, String.not_lt] at *
    exact String.le_antisymm h₂ h₁

/-- Pairs are ordered by their first parts, then by their second. -/
instance {α β : Type} [DecidableEq α] [KeyOrder α] [KeyOrder β] : KeyOrder (α × β) where
  before a b := KeyOrder.before a.1 b.1 || (decide (a.1 = b.1) && KeyOrder.before a.2 b.2)
  irrefl a := by simp [KeyOrder.irrefl]
  trans {a b c} h₁ h₂ := by
    simp only [Bool.or_eq_true, Bool.and_eq_true, decide_eq_true_eq] at *
    rcases h₁ with h₁ | ⟨e₁, h₁⟩ <;> rcases h₂ with h₂ | ⟨e₂, h₂⟩
    · exact .inl (KeyOrder.trans h₁ h₂)
    · exact .inl (e₂ ▸ h₁)
    · exact .inl (e₁ ▸ h₂)
    · exact .inr ⟨e₁.trans e₂, KeyOrder.trans h₁ h₂⟩
  connected {a b} h₁ h₂ := by
    simp only [Bool.or_eq_false_iff, Bool.and_eq_false_imp, decide_eq_true_eq] at *
    have e := KeyOrder.connected h₁.1 h₂.1
    exact Prod.ext e (KeyOrder.connected (h₁.2 e) (h₂.2 e.symm))

theorem KeyOrder.ne_of_before {κ : Type} [KeyOrder κ] {a b : κ} (h : before a b) : a ≠ b := by
  rintro rfl
  simp [irrefl] at h

theorem KeyOrder.before_asymm {κ : Type} [KeyOrder κ] {a b : κ} (h : before a b) :
    before b a = false := by
  cases e : before b a with
  | false => rfl
  | true => simpa [irrefl] using trans h e

/-- At most one value for each key, in increasing key order. -/
structure Table (κ ν : Type) [KeyOrder κ] where
  entries : List (κ × ν)
  sorted : entries.Pairwise fun a b => KeyOrder.before a.1 b.1

namespace Table

variable {κ ν : Type} [KeyOrder κ]

@[ext] theorem ext {s t : Table κ ν} (h : s.entries = t.entries) : s = t := by
  cases s; cases t; simp_all

instance [DecidableEq κ] [DecidableEq ν] : DecidableEq (Table κ ν) := fun s t =>
  decidable_of_iff (s.entries = t.entries) ⟨ext, fun h => h ▸ rfl⟩

def empty : Table κ ν := ⟨[], .nil⟩

instance : Inhabited (Table κ ν) := ⟨empty⟩

def size (t : Table κ ν) : Nat := t.entries.length

def keys (t : Table κ ν) : List κ := t.entries.map (·.1)

def values (t : Table κ ν) : List ν := t.entries.map (·.2)

def filter (p : κ → ν → Bool) (t : Table κ ν) : Table κ ν :=
  ⟨t.entries.filter fun e => p e.1 e.2, t.sorted.filter _⟩

/-- The table with a value for a key, whatever it held for that key before. -/
def insert (t : Table κ ν) (k : κ) (v : ν) : Table κ ν where
  entries := t.entries.filter (fun e => KeyOrder.before e.1 k) ++
    (k, v) :: t.entries.filter (fun e => KeyOrder.before k e.1)
  sorted := by
    refine List.pairwise_append.2 ⟨t.sorted.filter _, List.pairwise_cons.2 ⟨?_, t.sorted.filter _⟩,
      ?_⟩
    · intro e he
      exact (List.mem_filter.1 he).2
    · intro a ha b hb
      have ha := (List.mem_filter.1 ha).2
      rcases List.mem_cons.1 hb with rfl | hb
      · exact ha
      · exact KeyOrder.trans ha (List.mem_filter.1 hb).2

/-- The table with given entries, the last one winning for a key. -/
def ofList (entries : List (κ × ν)) : Table κ ν :=
  entries.foldl (fun t e => t.insert e.1 e.2) empty

theorem eq_of_mem_iff {s t : Table κ ν} (h : ∀ e, e ∈ s.entries ↔ e ∈ t.entries) : s = t := by
  apply ext
  have nodup (u : Table κ ν) : u.entries.Nodup :=
    u.sorted.imp fun hlt e => KeyOrder.ne_of_before hlt (congrArg Prod.fst e)
  have perm : s.entries.Perm t.entries := (List.perm_ext_iff_of_nodup (nodup s) (nodup t)).2 h
  refine perm.eq_of_pairwise (fun a b _ _ hab hba => ?_) s.sorted t.sorted
  simp [KeyOrder.before_asymm hab] at hba

theorem nodup_keys (t : Table κ ν) : t.keys.Nodup :=
  List.pairwise_map.2 (t.sorted.imp KeyOrder.ne_of_before)

/-! ## Look-ups -/

variable [DecidableEq κ]

def find? (t : Table κ ν) (k : κ) : Option ν := t.entries.lookup k

def contains (t : Table κ ν) (k : κ) : Bool := (t.find? k).isSome

def erase (t : Table κ ν) (k : κ) : Table κ ν := t.filter fun k' _ => k' ≠ k

theorem find?_eq_some_iff (t : Table κ ν) {k : κ} {v : ν} :
    t.find? k = some v ↔ (k, v) ∈ t.entries := by
  obtain ⟨entries, sorted⟩ := t
  induction entries with
  | nil => simp [find?]
  | cons e rest ih =>
    obtain ⟨k', v'⟩ := e
    obtain ⟨head, tail⟩ := List.pairwise_cons.1 sorted
    have ih := ih tail
    simp only [find?, List.lookup_cons, List.mem_cons, Prod.mk.injEq] at ih ⊢
    by_cases hk : k = k'
    · subst hk
      have : (k, v) ∉ rest := fun h => KeyOrder.ne_of_before (head _ h) rfl
      simp [this, eq_comm]
    · simpa [hk, show (k == k') = false by simpa using hk] using ih

@[simp] theorem find?_empty (k : κ) : (empty : Table κ ν).find? k = none := rfl

theorem find?_filter (p : κ → ν → Bool) (t : Table κ ν) (k : κ) :
    (t.filter p).find? k = (t.find? k).filter (p k) := by
  apply Option.ext
  intro v
  simp only [find?_eq_some_iff, filter, List.mem_filter, Option.filter_eq_some_iff]

@[simp] theorem find?_erase (t : Table κ ν) (k k' : κ) :
    (t.erase k).find? k' = if k' = k then none else t.find? k' := by
  rw [erase, find?_filter]
  by_cases h : k' = k
  · simp [h]
  · cases t.find? k' <;> simp [h]

@[simp] theorem find?_insert (t : Table κ ν) (k k' : κ) (v : ν) :
    (t.insert k v).find? k' = if k' = k then some v else t.find? k' := by
  apply Option.ext
  intro w
  rw [find?_eq_some_iff]
  simp only [insert, List.mem_append, List.mem_filter, List.mem_cons, Prod.mk.injEq]
  by_cases h : k' = k
  · subst h
    simp [KeyOrder.irrefl, eq_comm]
  · simp only [h, false_and, false_or, if_false, find?_eq_some_iff, ← and_or_left,
      and_iff_left_iff_imp]
    intro _
    cases h₁ : KeyOrder.before k' k with
    | true => exact .inl rfl
    | false =>
      cases h₂ : KeyOrder.before k k' with
      | true => exact .inr rfl
      | false => exact absurd (KeyOrder.connected h₁ h₂) h

theorem mem_keys_iff (t : Table κ ν) (k : κ) : k ∈ t.keys ↔ t.contains k = true := by
  simp [keys, contains, Option.isSome_iff_exists, find?_eq_some_iff]

theorem keys_insert_perm (t : Table κ ν) (k : κ) (v : ν) :
    (t.insert k v).keys.Perm (k :: t.keys.erase k) := by
  have hnodup : (k :: t.keys.erase k).Nodup :=
    List.nodup_cons.2 ⟨t.nodup_keys.not_mem_erase, t.nodup_keys.erase k⟩
  apply (List.perm_ext_iff_of_nodup (nodup_keys _) hnodup).2
  intro k'
  rw [List.mem_cons, t.nodup_keys.mem_erase_iff, mem_keys_iff, mem_keys_iff, contains, contains,
    find?_insert]
  by_cases h : k' = k <;> simp [h]

/-- An insertion adds an entry, unless there is one for the key already. -/
theorem size_insert (t : Table κ ν) (k : κ) (v : ν) :
    (t.insert k v).size = if t.contains k then t.size else t.size + 1 := by
  have hsize (u : Table κ ν) : u.keys.length = u.size := List.length_map ..
  have hlength := (t.keys_insert_perm k v).length_eq
  rw [List.length_cons, hsize] at hlength
  split
  · rename_i h
    have hmem : k ∈ t.keys := (t.mem_keys_iff k).2 h
    rw [hlength, List.length_erase_of_mem hmem, hsize, Nat.sub_add_cancel]
    exact hsize t ▸ List.length_pos_of_mem hmem
  · rename_i h
    rw [hlength, List.erase_of_not_mem (mt (t.mem_keys_iff k).1 h), hsize]

/-- Tables with the same look-ups are equal. -/
theorem ext_find? {s t : Table κ ν} (h : ∀ k, s.find? k = t.find? k) : s = t :=
  eq_of_mem_iff fun (k, v) => by
    rw [← find?_eq_some_iff, ← find?_eq_some_iff, h]

end Table

end SpriteStage
