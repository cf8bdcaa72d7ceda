import Mathlib.Data.String.Basic
import SpriteStage.Proofs.BoundedMagnitudes
import SpriteStage.Proofs.BuiltSessions

/-!
# Valid JSON

The type of JSON values has room for values that no document spells. A value is valid if its
integers fit 64 bits, its reals are finite, and its objects have their keys in order, each once.
Whatever a text decodes to is valid (`Json.Decoder.isValid_of_json`), and a valid value decodes to
itself (`Json.Decoder.json_ofJson`).
-/

namespace SpriteStage

open Binary

/-! ## Powers of ten -/

theorem Binary.isFinite_neg {φ : Format} (x : Binary φ) : (-x).isFinite = x.isFinite := by
  cases x <;> rfl

/-- A whole number whose units do not exceed the greatest magnitude is at most rounded to it. -/
theorem Binary.exists_ofInt_natCast {φ : Format} (hφ : φ.HasWholes) {k : Nat}
    (hk : k * 2 ^ φ.scale ≤ φ.greatest) :
    ∃ held, (ofInt k : Binary φ) = finite false (φ.round (k * 2 ^ φ.scale) 1) held := by
  have hle : φ.round (k * 2 ^ φ.scale) 1 ≤ φ.greatest :=
    Format.round_le Nat.one_pos hφ.holds_greatest.1 (by omega)
  have hlog := (Format.log2_le_log2 hle).trans_lt hφ.holds_greatest.2
  exact ⟨⟨φ.spacing_dvd_round _ _, hlog⟩, dif_pos hlog⟩

namespace Double

theorem ten_pow_le {n : Nat} (hn : n ≤ greatestTen) :
    10 ^ n * 2 ^ Format.double.scale ≤ Format.double.greatest := by
  have hpow : 10 ^ n ≤ 10 ^ greatestTen := Nat.pow_le_pow_right (by decide) hn
  have hgreatest : 10 ^ greatestTen * 2 ^ Format.double.scale ≤ Format.double.greatest := by
    decide +kernel
  exact (Nat.mul_le_mul_right _ hpow).trans hgreatest

theorem exists_powerOfTen {n : Nat} (hn : n ≤ greatestTen) :
    ∃ units held, powerOfTen n = finite false units held ∧ 2 ^ Format.double.scale ≤ units := by
  obtain ⟨held, heq⟩ := exists_ofInt_natCast Format.double_hasWholes (ten_pow_le hn)
  refine ⟨_, held, (congrArg ofInt (by push_cast; rfl)).trans heq, ?_⟩
  have hone : Format.double.Holds (1 * 2 ^ Format.double.scale) :=
    Format.double_hasWholes.holds Nat.one_le_two_pow
  rw [Nat.one_mul] at hone
  refine Format.le_round Nat.one_pos hone.1 ?_
  rw [Nat.mul_one]
  exact Nat.le_mul_of_pos_left _ (Nat.pow_pos (by decide))

/-- A quotient by at least one is no greater than the dividend. -/
theorem isFinite_div_powerOfTen {x : Double} (hx : x.isFinite = true) {n : Nat}
    (hn : n ≤ greatestTen) : (x / powerOfTen n).isFinite = true := by
  obtain ⟨negative, m, hm, rfl⟩ := exists_finite_of_isFinite hx
  obtain ⟨units, held, heq, hle⟩ := exists_powerOfTen hn
  have hpos : 0 < units := (Nat.two_pow_pos _).trans_le hle
  rw [heq]
  change (if units = 0 then if m = 0 then nan else infinite (negative != false)
    else ofRatio (negative != false) (m * 2 ^ Format.double.scale) units : Double).isFinite = true
  rw [if_neg hpos.ne']
  exact (within_ofRatio hm (Format.round_le hpos hm.1 (Nat.mul_le_mul_left _ hle))).isFinite

theorem isFinite_divideByTens {x : Double} (hx : x.isFinite = true) (n : Nat) :
    (divideByTens x n).isFinite = true := by
  induction x, n using divideByTens.induct with
  | case1 x n hn =>
      rw [divideByTens, if_pos hn]
      exact isFinite_div_powerOfTen hx hn
  | case2 x n hn hzero =>
      rw [divideByTens, if_neg hn, if_pos hzero]
      exact hx
  | case3 x n hn hzero ih =>
      rw [divideByTens, if_neg hn, if_neg hzero]
      exact ih (isFinite_div_powerOfTen hx (Nat.le_refl _))

theorem isFinite_of_scaleByTen? {significand : Nat} {exponent : Int} {x : Double}
    (hsignificand : significand ≤ 2 ^ (64 : Nat)) (h : scaleByTen? significand exponent = some x) :
    x.isFinite = true := by
  have hstart : (ofInt significand : Double).isFinite = true := by
    obtain ⟨_, heq⟩ := exists_ofInt_natCast Format.double_hasWholes (k := significand)
      ((Nat.mul_le_mul_right _ hsignificand).trans (by decide +kernel))
    rw [heq]
    rfl
  unfold scaleByTen? at h
  dsimp only at h
  split_ifs at h with hneg hbound hfinite hzero
  · cases h
    exact isFinite_divideByTens hstart _
  · cases h
    exact hfinite
  · cases h
    exact hstart

end Double

namespace Json

/-! ## Validity -/

/-- An integer of 64 bits, with a sign or without, or a finite real. -/
def Number.IsValid : Number → Prop
  | integer n => -2 ^ (63 : Nat) ≤ n ∧ n < 2 ^ (64 : Nat)
  | real x => x.isFinite = true

instance : DecidablePred Number.IsValid
  | .integer _ => inferInstanceAs (Decidable (_ ∧ _))
  | .real _ => inferInstanceAs (Decidable (_ = _))

inductive IsValid : Json → Prop where
  | null : IsValid null
  | bool (b : Bool) : IsValid (bool b)
  | number {n : Number} : n.IsValid → IsValid (number n)
  | string (s : String) : IsValid (string s)
  | array {items : List Json} : (∀ item ∈ items, IsValid item) → IsValid (array items)
  | object {members : List (String × Json)} : (members.map (·.1)).Pairwise (· < ·) →
      (∀ member ∈ members, IsValid member.2) → IsValid (object members)

theorem isValid_number_iff {n : Number} : (number n).IsValid ↔ n.IsValid :=
  ⟨fun | .number h => h, .number⟩

theorem mem_of_lookup {key : String} {value : Json} {members : List (String × Json)}
    (h : members.lookup key = some value) : (key, value) ∈ members := by
  induction members with
  | nil => cases h
  | cons member members ih =>
      rw [List.lookup_cons] at h
      split at h
      · rename_i hkey
        cases h
        rw [eq_of_beq hkey]
        exact List.mem_cons_self
      · exact List.mem_cons_of_mem _ (ih h)

theorem IsValid.field? {v value : Json} (hv : v.IsValid) {key : String}
    (h : v.field? key = some value) : value.IsValid := by
  cases hv with
  | object hkeys hvalues => exact hvalues _ (mem_of_lookup h)
  | _ => cases h

/-! ## Valid tokens -/

def Scalar.IsValid : Scalar → Prop
  | number n => n.IsValid
  | _ => True

def Token.IsValid : Token → Prop
  | scalar s => s.IsValid
  | _ => True

namespace Numeral

theorem appendDigits_lt (significand : Nat) (ds : List Char) (h : significand < significandBound) :
    (appendDigits significand ds).1 < significandBound := by
  induction ds generalizing significand with
  | nil => exact h
  | cons d ds ih =>
      unfold appendDigits
      dsimp only
      split
      · rename_i hlonger
        exact ih _ hlonger
      · exact h

theorem isFinite_of_real? {n : Numeral} {x : Double} (h : n.real? = some x) :
    x.isFinite = true := by
  have hwhole := appendDigits_lt 0 n.whole (by decide)
  have hall := appendDigits_lt _ (n.fraction.getD []) hwhole
  obtain ⟨magnitude, hmagnitude, rfl⟩ := Option.map_eq_some_iff.1 h
  have hfinite := Double.isFinite_of_scaleByTen? hall.le hmagnitude
  split
  · rwa [isFinite_neg]
  · exact hfinite

theorem isValid_of_value? {n : Numeral} {x : Number} (h : n.value? = some x) : x.IsValid := by
  have hreal (h : n.real?.map Number.real = some x) : x.IsValid := by
    obtain ⟨_, hx, rfl⟩ := Option.map_eq_some_iff.1 h
    exact isFinite_of_real? hx
  unfold value? at h
  dsimp only at h
  split at h
  · split_ifs at h with hnegative hfits hfits
    · cases h
      simp only [Number.IsValid]
      omega
    · exact hreal h
    · cases h
      simp only [Number.IsValid]
      omega
    · exact hreal h
  · exact hreal h

end Numeral

theorem isValid_numberToken (negative : Bool) (c : Char) (cs : List Char) :
    (numberToken negative c cs).1.IsValid := by
  unfold numberToken
  split
  · split
    · rename_i hvalue
      exact Numeral.isValid_of_value? hvalue
    · trivial
  · trivial

theorem isValid_wordToken (word : String) {s : Scalar} (hs : s.IsValid) (cs : List Char) :
    (wordToken word s cs).1.IsValid := by
  unfold wordToken
  split
  · exact hs
  · trivial

theorem isValid_stringToken (cs : List Char) : (stringToken cs).1.IsValid := by
  unfold stringToken
  split <;> trivial

theorem Token.isValid_read (c : Char) (cs : List Char) : (Token.read c cs).1.IsValid := by
  unfold Token.read
  dsimp only
  split
  any_goals trivial
  · exact isValid_stringToken cs
  · exact isValid_wordToken _ (by trivial) cs
  · exact isValid_wordToken _ (by trivial) cs
  · exact isValid_wordToken _ (by trivial) cs
  · split
    · trivial
    · exact isValid_numberToken true _ _
  · exact isValid_numberToken false _ _

theorem Token.isValid_ofText (cs : List Char) : ∀ t ∈ Token.ofText cs, t.IsValid := by
  induction cs using Token.ofText.induct with
  | case1 => simp [Token.ofText]
  | case2 c cs hseparator ih =>
      rw [Token.ofText, if_pos hseparator]
      exact ih
  | case3 c cs hseparator rest hread =>
      rw [Token.ofText, if_neg hseparator, hread]
      simp [Token.IsValid]
  | case4 c cs hseparator t rest hbroken hread ih =>
      have hfirst : t.IsValid := by
        have hvalid := Token.isValid_read c cs
        rwa [hread] at hvalid
      rw [Token.ofText, if_neg hseparator]
      simp only [hread]
      exact List.forall_mem_cons.2 ⟨hfirst, ih⟩

/-! ## Valid documents -/

inductive Document.IsValid : Document → Prop where
  | scalar {s : Scalar} : s.IsValid → IsValid (scalar s)
  | array {items : List Document} {closed : Bool} : (∀ item ∈ items, IsValid item) →
      IsValid (array items closed)
  | object {members : List (Option String × Document)} {closed : Bool} :
      (∀ member ∈ members, IsValid member.2) → IsValid (object members closed)
  | broken : IsValid broken

namespace Document

/-- What was read of an open container is valid. -/
def Frame.IsValid : Frame → Prop
  | array done => ∀ item ∈ done, item.IsValid
  | object done _ => ∀ member ∈ done, member.2.IsValid

theorem Frame.IsValid.push {value : Document} (hvalue : value.IsValid) {frame : Frame}
    (h : frame.IsValid) : (frame.push value).IsValid := by
  cases frame with
  | array done => exact List.forall_mem_cons.2 ⟨hvalue, h⟩
  | object done key => exact List.forall_mem_cons.2 ⟨hvalue, h⟩

theorem Frame.IsValid.toDocument {frame : Frame} (h : frame.IsValid) (closed : Bool) :
    (frame.toDocument closed).IsValid := by
  cases frame with
  | array done => exact .array fun item hitem => h item (List.mem_reverse.1 hitem)
  | object done key => exact .object fun member hmember => h member (List.mem_reverse.1 hmember)

theorem isValid_unfinished {value : Document} (hvalue : value.IsValid) {frames : List Frame}
    (h : ∀ frame ∈ frames, frame.IsValid) : (unfinished value frames).IsValid := by
  induction frames generalizing value with
  | nil => exact hvalue
  | cons frame frames ih =>
      obtain ⟨hframe, hframes⟩ := List.forall_mem_cons.1 h
      exact ih ((hframe.push hvalue).toDocument false) hframes

theorem isValid_breakOff (expectation : Expectation) {frames : List Frame}
    (h : ∀ frame ∈ frames, frame.IsValid) : (breakOff expectation frames).IsValid := by
  unfold breakOff
  split
  any_goals
    obtain ⟨hframe, hframes⟩ := List.forall_mem_cons.1 h
    exact isValid_unfinished (hframe.toDocument false) hframes
  exact isValid_unfinished .broken h

/-- What a string token adds to the document. -/
theorem isValid_content (content : Option String) :
    (scalar (match content with | some s => .string s | none => .unreadable)).IsValid := by
  cases content <;> exact .scalar (by trivial)

/-- A finished value is the document, or goes into the container around it. -/
theorem isValid_finish {value : Document} {outer : List Frame} {tokens : List Token} {r : Reading}
    (hr : r = match outer with
      | [] => ⟨value, !tokens.isEmpty⟩
      | frame :: rest => ofTokens .next (frame.push value :: rest) tokens)
    (hvalue : value.IsValid) (houter : ∀ frame ∈ outer, frame.IsValid)
    (hnext : ∀ frames : List Frame, (∀ frame ∈ frames, frame.IsValid) →
      (ofTokens .next frames tokens).root.IsValid) : r.root.IsValid := by
  subst hr
  cases outer with
  | nil => exact hvalue
  | cons frame rest =>
      obtain ⟨hframe, hrest⟩ := List.forall_mem_cons.1 houter
      exact hnext _ (List.forall_mem_cons.2 ⟨hframe.push hvalue, hrest⟩)

theorem isValid_ofTokens (expectation : Expectation) {frames : List Frame} {tokens : List Token}
    (hframes : ∀ frame ∈ frames, frame.IsValid) (htokens : ∀ t ∈ tokens, t.IsValid) :
    (ofTokens expectation frames tokens).root.IsValid := by
  induction tokens generalizing expectation frames with
  | nil =>
      rw [ofTokens]
      exact isValid_breakOff expectation hframes
  | cons token tokens ih =>
      obtain ⟨htoken, htokens⟩ := List.forall_mem_cons.1 htokens
      have hread (expectation : Expectation) (frames : List Frame)
          (hframes : ∀ frame ∈ frames, frame.IsValid) := ih expectation hframes htokens
      have harray : (Frame.array []).IsValid := fun _ h => absurd h List.not_mem_nil
      have hobject : (Frame.object [] none).IsValid := fun _ h => absurd h List.not_mem_nil
      unfold ofTokens
      dsimp only
      split
      · exact isValid_finish rfl (.scalar htoken) hframes (hread .next)
      · exact isValid_finish rfl (.scalar htoken) hframes (hread .next)
      · exact isValid_finish rfl (isValid_content _) hframes (hread .next)
      · exact isValid_finish rfl (isValid_content _) hframes (hread .next)
      · exact hread .item _ (List.forall_mem_cons.2 ⟨harray, hframes⟩)
      · exact hread .item _ (List.forall_mem_cons.2 ⟨harray, hframes⟩)
      · exact hread .firstKey _ (List.forall_mem_cons.2 ⟨hobject, hframes⟩)
      · exact hread .firstKey _ (List.forall_mem_cons.2 ⟨hobject, hframes⟩)
      · obtain ⟨hframe, houter⟩ := List.forall_mem_cons.1 hframes
        exact isValid_finish rfl (hframe.toDocument true) houter (hread .next)
      · exact hread .value _ hframes
      · exact hread .key _ hframes
      · obtain ⟨hframe, houter⟩ := List.forall_mem_cons.1 hframes
        exact isValid_finish rfl (hframe.toDocument true) houter (hread .next)
      · obtain ⟨hframe, houter⟩ := List.forall_mem_cons.1 hframes
        exact isValid_finish rfl (hframe.toDocument true) houter (hread .next)
      · obtain ⟨hframe, houter⟩ := List.forall_mem_cons.1 hframes
        exact isValid_finish rfl (hframe.toDocument true) houter (hread .next)
      · obtain ⟨hframe, houter⟩ := List.forall_mem_cons.1 hframes
        exact hread .colon _ (List.forall_mem_cons.2 ⟨hframe, houter⟩)
      · obtain ⟨hframe, houter⟩ := List.forall_mem_cons.1 hframes
        exact hread .colon _ (List.forall_mem_cons.2 ⟨hframe, houter⟩)
      · exact hread .value _ hframes
      · exact isValid_breakOff _ hframes

/-- Every number that was read from a text is valid. -/
theorem isValid_ofText (text : String) : (ofText text).root.IsValid :=
  isValid_ofTokens .value (by simp) (Token.isValid_ofText text.toList)

end Document

/-! ## Decoded values -/

theorem mem_of_mem_insertMember {key : String} {value : Json} {member : String × Json}
    {members : List (String × Json)} (h : member ∈ insertMember key value members) :
    member = (key, value) ∨ member ∈ members := by
  induction members with
  | nil => exact .inl (List.mem_singleton.1 h)
  | cons first members ih =>
      unfold insertMember at h
      split_ifs at h with hbefore hsame
      · exact List.mem_cons.1 h
      · exact (List.mem_cons.1 h).imp_right (List.mem_cons_of_mem _)
      · rcases List.mem_cons.1 h with rfl | h
        · exact .inr List.mem_cons_self
        · exact (ih h).imp_right (List.mem_cons_of_mem _)

theorem pairwise_insertMember (key : String) (value : Json) {members : List (String × Json)}
    (h : (members.map (·.1)).Pairwise (· < ·)) :
    ((insertMember key value members).map (·.1)).Pairwise (· < ·) := by
  rw [List.pairwise_map] at h ⊢
  induction members with
  | nil => exact List.pairwise_singleton _ _
  | cons first members ih =>
      obtain ⟨hfirst, hmembers⟩ := List.pairwise_cons.1 h
      unfold insertMember
      split_ifs with hbefore hsame
      · refine List.pairwise_cons.2 ⟨fun member hmember => ?_, h⟩
        rcases List.mem_cons.1 hmember with rfl | hmember
        · exact hbefore
        · exact hbefore.trans (hfirst member hmember)
      · exact List.pairwise_cons.2 ⟨fun member hmember => hsame ▸ hfirst member hmember, hmembers⟩
      · refine List.pairwise_cons.2 ⟨fun member hmember => ?_, ih hmembers⟩
        rcases mem_of_mem_insertMember hmember with rfl | hmember
        · exact lt_of_le_of_ne (not_lt.1 hbefore) (Ne.symm hsame)
        · exact hfirst member hmember

theorem isValid_foldl_insertMember {members : List (String × Json)}
    (h : ∀ member ∈ members, member.2.IsValid) {done : List (String × Json)}
    (hdone : (object done).IsValid) :
    (object (members.foldl (fun done member => insertMember member.1 member.2 done)
      done)).IsValid := by
  induction members generalizing done with
  | nil => exact hdone
  | cons member members ih =>
      obtain ⟨hmember, hmembers⟩ := List.forall_mem_cons.1 h
      cases hdone with
      | object hkeys hvalues =>
          refine ih hmembers (.object (pairwise_insertMember _ _ hkeys) fun other hother => ?_)
          rcases mem_of_mem_insertMember hother with rfl | hother
          · exact hmember
          · exact hvalues other hother

/-- Members may come in any order and repeat a key; their object is valid all the same. -/
theorem isValid_ofMembers {members : List (String × Json)}
    (h : ∀ member ∈ members, member.2.IsValid) : (ofMembers members).IsValid :=
  isValid_foldl_insertMember h (.object List.Pairwise.nil nofun)

namespace Decoder

variable {origin : Origin}

theorem isValid_of_jsonItems {items : List Document} {values : List Json}
    (hitems : ∀ item ∈ items, ∀ {value}, json origin item = .ok value → value.IsValid)
    (h : jsonItems origin items = .ok values) : ∀ value ∈ values, value.IsValid := by
  induction items generalizing values with
  | nil =>
      cases h
      simp
  | cons item items ih =>
      obtain ⟨hitem, hitems⟩ := List.forall_mem_cons.1 hitems
      rw [jsonItems] at h
      obtain ⟨first, hfirst, h⟩ := bind_eq_ok_iff.1 h
      obtain ⟨rest, hrest, h⟩ := bind_eq_ok_iff.1 h
      cases h
      exact List.forall_mem_cons.2 ⟨hitem hfirst, ih hitems hrest⟩

theorem isValid_of_jsonMembers {members : List (Option String × Document)}
    {values : List (String × Json)}
    (hmembers : ∀ member ∈ members, ∀ {value}, json origin member.2 = .ok value → value.IsValid)
    (h : jsonMembers origin members = .ok values) : ∀ value ∈ values, value.2.IsValid := by
  induction members generalizing values with
  | nil =>
      cases h
      simp
  | cons member members ih =>
      obtain ⟨hmember, hrest⟩ := List.forall_mem_cons.1 hmembers
      obtain ⟨_ | key, doc⟩ := member
      · cases h
      · rw [jsonMembers] at h
        obtain ⟨first, hfirst, h⟩ := bind_eq_ok_iff.1 h
        obtain ⟨others, hothers, h⟩ := bind_eq_ok_iff.1 h
        cases h
        exact List.forall_mem_cons.2 ⟨hmember hfirst, ih hrest hothers⟩

/-- A value that is decoded from a valid document is valid. -/
theorem isValid_of_json {doc : Document} (hdoc : doc.IsValid) {value : Json}
    (h : json origin doc = .ok value) : value.IsValid := by
  induction hdoc generalizing origin value with
  | @scalar s hs =>
      cases s <;> cases h <;> constructor
      exact hs
  | @array items closed _ ih =>
      rw [json] at h
      obtain ⟨inner, -, h⟩ := bind_eq_ok_iff.1 h
      obtain ⟨values, hvalues, h⟩ := bind_eq_ok_iff.1 h
      split at h
      · cases h
        exact .array (isValid_of_jsonItems (fun item hitem => ih item hitem) hvalues)
      · cases h
  | @object members closed _ ih =>
      rw [json] at h
      obtain ⟨inner, -, h⟩ := bind_eq_ok_iff.1 h
      obtain ⟨values, hvalues, h⟩ := bind_eq_ok_iff.1 h
      split at h
      · cases h
        exact isValid_ofMembers
          (isValid_of_jsonMembers (fun member hmember => ih member hmember) hvalues)
      · cases h
  | broken => cases h

end Decoder

/-! ## Decoding a value again -/

theorem insertMember_of_forall_lt {key : String} {value : Json} {members : List (String × Json)}
    (h : ∀ member ∈ members, member.1 < key) :
    insertMember key value members = members ++ [(key, value)] := by
  induction members with
  | nil => rfl
  | cons first members ih =>
      obtain ⟨hfirst, hmembers⟩ := List.forall_mem_cons.1 h
      rw [insertMember, if_neg (not_lt.2 hfirst.le), if_neg hfirst.ne', ih hmembers]
      rfl

theorem foldl_insertMember {members done : List (String × Json)}
    (h : (done ++ members).Pairwise fun first second => first.1 < second.1) :
    members.foldl (fun done member => insertMember member.1 member.2 done) done =
      done ++ members := by
  induction members generalizing done with
  | nil => simp
  | cons member members ih =>
      have hlast : ∀ other ∈ done, other.1 < member.1 := fun other hother =>
        (List.pairwise_append.1 h).2.2 other hother member List.mem_cons_self
      rw [List.append_cons] at h
      rw [List.foldl_cons, insertMember_of_forall_lt hlast, ih h, ← List.append_cons]

/-- Members that are in order stay as they are. -/
theorem ofMembers_of_pairwise {members : List (String × Json)}
    (h : (members.map (·.1)).Pairwise (· < ·)) : ofMembers members = object members :=
  congrArg object (foldl_insertMember (List.pairwise_map.1 h))

namespace Decoder

theorem jsonItems_ofItems {items : List Json}
    (h : ∀ item ∈ items, json .value (.ofJson item) = .ok item) :
    jsonItems .value (Document.ofItems items) = .ok items := by
  induction items with
  | nil => rfl
  | cons item items ih =>
      obtain ⟨hitem, hitems⟩ := List.forall_mem_cons.1 h
      rw [Document.ofItems, jsonItems, hitem, ih hitems]
      rfl

theorem jsonMembers_ofMembers {members : List (String × Json)}
    (h : ∀ member ∈ members, json .value (.ofJson member.2) = .ok member.2) :
    jsonMembers .value (Document.ofMembers members) = .ok members := by
  induction members with
  | nil => rfl
  | cons member members ih =>
      obtain ⟨hmember, hmembers⟩ := List.forall_mem_cons.1 h
      rw [Document.ofMembers, jsonMembers, hmember, ih hmembers]
      rfl

/-- A valid value decodes to itself. -/
theorem json_ofJson {value : Json} (h : value.IsValid) :
    json .value (.ofJson value) = .ok value := by
  induction h with
  | null => rfl
  | bool b => rfl
  | number _ => rfl
  | string s => rfl
  | array _ ih =>
      rw [Document.ofJson, json]
      simp only [Origin.enter, pure_bind, jsonItems_ofItems ih]
      rfl
  | object hkeys _ ih =>
      rw [Document.ofJson, json]
      simp only [Origin.enter, pure_bind, jsonMembers_ofMembers ih]
      exact congrArg Except.ok (ofMembers_of_pairwise hkeys)

end Decoder

end Json

end SpriteStage
