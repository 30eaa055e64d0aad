/-
  The glob matcher (`glob_match` of `gateway/core/src/pdp.rs`).

  1. **Program** — `globLoop` and `globMatch` of `Pdp/Policy.lean`: one loop, which goes back to the last star.

  2. **Specification** — `Matches`, on the lower-cased texts: a `*` stands for any run, a `?` for one character.

  3. **The crux** — `turn`: earlier stars need not be tried again, because what was read since the last one has its
     length fixed.  The literal test comes before the star test, so a `*` of the value uses up a `*` of the pattern; and
     the loop goes by bytes, so a `?` is not a character beyond ASCII.
-/
import DataNexus.Lib.Glob
import DataNexus.Pdp.Policy

namespace DataNexus.Pdp.Globs

open DataNexus.Text DataNexus.Glob

abbrev star : UInt8 := '*'.toNat.toUInt8
abbrev any : UInt8 := '?'.toNat.toUInt8

/-! ## The loop -/

variable {p v : List UInt8} {pi vi : Nat} {st : Option (Nat × Nat)}

def Held (p v : List UInt8) (pi vi : Nat) : Option (Nat × Nat) → Prop
  | none => True
  | some (sp, sv) => ∃ seg, p.drop (sp + 1) = seg ++ p.drop pi ∧ vi = sv + seg.length ∧ (star ∉ v → star ∉ seg)

/-- The last star takes more than it did so far. -/
def Later (p v : List UInt8) : Option (Nat × Nat) → Prop
  | none => False
  | some (sp, sv) => ∃ k > sv, Matches star any (p.drop (sp + 1)) (v.drop k)

def Goal (p v : List UInt8) (pi vi : Nat) (st : Option (Nat × Nat)) : Prop :=
  Matches star any (p.drop pi) (v.drop vi) ∨ Later p v st

def left (p v : List UInt8) (pi : Nat) : Option (Nat × Nat) → Nat
  | none => v.length * (p.length + 1) + (p.length - pi)
  | some (_, sv) => (v.length - sv) * (p.length + 1) + (p.length - pi)

theorem Held.behind (h : Held p v pi vi st) (hv : star ∉ v) (hlater : Later p v st) :
    ∃ k > vi, Matches star any (p.drop pi) (v.drop k) := by
  cases st with
  | none => exact hlater.elim
  | some at_ =>
    obtain ⟨sp, sv⟩ := at_
    obtain ⟨seg, hseg, rfl, hfree⟩ := h
    obtain ⟨k, hk, hmatch⟩ := hlater
    rw [hseg] at hmatch
    have hrest := matches_drop hmatch (hfree hv)
    rw [List.drop_drop] at hrest
    exact ⟨_, by omega, hrest⟩

/-- One turn: an answer, or a state with fewer turns left and the same goal. -/
inductive Turn (p v : List UInt8) (pi vi : Nat) (st : Option (Nat × Nat)) : Prop
  | answer (b : Bool) (h : ∀ fuel, globLoop p v (fuel + 1) pi vi st = b) (hgoal : star ∉ v → (b = true ↔ Goal p v pi vi st))
  | next (pi' vi' : Nat) (st' : Option (Nat × Nat)) (h : ∀ fuel, globLoop p v (fuel + 1) pi vi st = globLoop p v fuel pi' vi' st')
      (hheld : Held p v pi' vi' st') (hleft : left p v pi' st' < left p v pi st)
      (hgoal : star ∉ v → (Goal p v pi' vi' st' ↔ Goal p v pi vi st))

theorem turn_back (hlt : vi < v.length) (hheld : Held p v pi vi st) (hno : ¬ Matches star any (p.drop pi) (v.drop vi))
    (h : ∀ fuel, globLoop p v (fuel + 1) pi vi st =
      match st with
      | some (sp, sv) => globLoop p v fuel (sp + 1) (sv + 1) (some (sp, sv + 1))
      | none => false) : Turn p v pi vi st := by
  cases st with
  | none => exact .answer false h fun _ => ⟨by rintro ⟨⟩, fun hgoal => absurd hgoal (not_or.mpr ⟨hno, id⟩)⟩
  | some at_ =>
    obtain ⟨sp, sv⟩ := at_
    refine .next _ _ _ h ⟨[], rfl, rfl, fun _ => List.not_mem_nil⟩ ?_ fun hv => ⟨?_, ?_⟩
    · obtain ⟨seg, hseg, hvi, -⟩ := hheld
      obtain ⟨d, hd⟩ : ∃ d, v.length - sv = d + 1 := ⟨v.length - sv - 1, by omega⟩
      have hd' : v.length - (sv + 1) = d := by omega
      show (v.length - (sv + 1)) * (p.length + 1) + (p.length - (sp + 1)) < (v.length - sv) * (p.length + 1) + (p.length - pi)
      rw [hd, hd', Nat.succ_mul]
      omega
    · rintro (hmatch | ⟨k, hk, hmatch⟩)
      · exact .inr ⟨sv + 1, Nat.lt_succ_self sv, hmatch⟩
      · exact .inr ⟨k, Nat.lt_of_succ_lt hk, hmatch⟩
    · rintro (hmatch | ⟨k, hk, hmatch⟩)
      · exact absurd hmatch hno
      · rcases Nat.eq_or_lt_of_le (Nat.succ_le_of_lt hk) with rfl | hk
        · exact .inl hmatch
        · exact .inr ⟨k, hk, hmatch⟩

theorem turn (hheld : Held p v pi vi st) : Turn p v pi vi st := by
  cases hv : v[vi]? with
  | none =>
    have hend : v.length ≤ vi := List.getElem?_eq_none_iff.mp hv
    refine .answer ((p.drop pi).all (· == star)) (fun fuel => by rw [globLoop.eq_def p v (fuel + 1)]; dsimp only; rw [hv]) fun hstar => ?_
    have hrest : ((p.drop pi).all (· == star)) = true ↔ Matches star any (p.drop pi) [] := by
      rw [matches_nil, List.all_eq_true]
      exact forall₂_congr fun c _ => beq_iff_eq
    rw [hrest, ← List.drop_eq_nil_of_le hend]
    refine ⟨.inl, Or.rec id fun hlater => ?_⟩
    obtain ⟨k, hk, hmatch⟩ := hheld.behind hstar hlater
    rw [List.drop_eq_nil_of_le (Nat.le_trans hend (Nat.le_of_lt hk))] at hmatch
    rwa [List.drop_eq_nil_of_le hend]
  | some a =>
    obtain ⟨hlt, rfl⟩ := List.getElem?_eq_some_iff.mp hv
    have hdrop := List.drop_eq_getElem_cons hlt
    cases hp : p[pi]? with
    | none =>
      have hend : p.drop pi = [] := List.drop_eq_nil_of_le (List.getElem?_eq_none_iff.mp hp)
      refine turn_back hlt hheld ?_ fun fuel => by rw [globLoop.eq_def p v (fuel + 1)]; dsimp only; rw [hv, hp]; cases st <;> rfl
      rw [hend, hdrop]
      exact List.cons_ne_nil _ _
    | some c =>
      obtain ⟨hpi, rfl⟩ := List.getElem?_eq_some_iff.mp hp
      have hpdrop := List.drop_eq_getElem_cons hpi
      by_cases hsame : p[pi] = any ∨ p[pi] = v[vi]
      · have hfree : star ∉ v → p[pi] ≠ star := by
          rintro hstar heq
          rcases hsame with h | h
          · exact absurd (heq.symm.trans h) (by decide)
          · exact hstar (heq ▸ h ▸ List.getElem_mem hlt)
        refine .next (pi + 1) (vi + 1) st (fun fuel => by rw [globLoop.eq_def p v (fuel + 1)]; dsimp only; rw [hv, hp]; exact if_pos hsame) ?_ ?_ fun hstar => ?_
        · cases st with
          | none => trivial
          | some at_ =>
            obtain ⟨seg, hseg, hvi, hno⟩ := hheld
            refine ⟨seg ++ [p[pi]], ?_, ?_, fun hstar hmem => ?_⟩
            · rw [hseg, hpdrop, List.append_assoc]
              rfl
            · rw [List.length_append, hvi]
              rfl
            · rcases List.mem_append.mp hmem with hmem | hmem
              · exact hno hstar hmem
              · exact hfree hstar (List.mem_singleton.mp hmem).symm
        · cases st <;> exact Nat.add_lt_add_left (by omega) _
        · show _ ∨ _ ↔ _ ∨ _
          rw [hpdrop, hdrop, matches_cons (hfree hstar), and_iff_right hsame]
      · by_cases hc : p[pi] = star
        · refine .next (pi + 1) vi (some (pi, vi))
            (fun fuel => by rw [globLoop.eq_def p v (fuel + 1)]; dsimp only; rw [hv, hp]; exact (if_neg hsame).trans (if_pos hc))
            ⟨[], rfl, rfl, fun _ => List.not_mem_nil⟩ ?_ fun hstar => ⟨?_, ?_⟩
          · have hsv : ∀ sv, sv ≤ vi →
                (v.length - vi) * (p.length + 1) + (p.length - (pi + 1)) < (v.length - sv) * (p.length + 1) + (p.length - pi) := by
              intro sv hle
              have := Nat.mul_le_mul_right (p.length + 1) (Nat.sub_le_sub_left hle v.length)
              omega
            cases st with
            | none => exact hsv 0 (Nat.zero_le vi)
            | some at_ =>
              obtain ⟨seg, -, hvi, -⟩ := hheld
              exact hsv _ (hvi ▸ Nat.le_add_right _ _)
          · intro hgoal
            refine .inl ?_
            rw [hpdrop, hc]
            rcases hgoal with hmatch | ⟨k, hk, hmatch⟩
            · exact matches_star.mpr ⟨0, hmatch⟩
            · refine matches_star.mpr ⟨k - vi, ?_⟩
              rwa [List.drop_drop, Nat.add_sub_cancel' (Nat.le_of_lt hk)]
          · intro hgoal
            have hmatch : Matches star any (p.drop pi) (v.drop vi) := by
              rcases hgoal with hmatch | hlater
              · exact hmatch
              · obtain ⟨k, hk, hmatch⟩ := hheld.behind hstar hlater
                rw [hpdrop, hc] at hmatch ⊢
                refine matches_star_of_drop (k := k - vi) ?_
                rwa [List.drop_drop, Nat.add_sub_cancel' (Nat.le_of_lt hk)]
            rw [hpdrop, hc] at hmatch
            obtain ⟨k, hmatch⟩ := matches_star.mp hmatch
            rw [List.drop_drop] at hmatch
            rcases Nat.eq_zero_or_pos k with rfl | hk
            · exact .inl hmatch
            · exact .inr ⟨_, Nat.lt_add_of_pos_right hk, hmatch⟩
        · refine turn_back hlt hheld ?_ fun fuel => by
            rw [globLoop.eq_def p v (fuel + 1)]
            dsimp only
            rw [hv, hp]
            exact (if_neg hsame).trans ((if_neg hc).trans (by cases st <;> rfl))
          rw [hpdrop, hdrop, matches_cons hc]
          exact fun h => hsame h.1

/-- **More turns change nothing.** -/
theorem globLoop_enough (fuel d : Nat) (hheld : Held p v pi vi st) (hfuel : left p v pi st < fuel) :
    globLoop p v (fuel + d) pi vi st = globLoop p v fuel pi vi st := by
  induction fuel generalizing pi vi st with
  | zero => exact absurd hfuel (Nat.not_lt_zero _)
  | succ fuel ih =>
    rw [Nat.succ_add]
    cases turn hheld with
    | answer b h hgoal => rw [h, h]
    | next pi' vi' st' h hheld' hleft hgoal => rw [h, h, ih hheld' (by omega)]

theorem globLoop_iff (fuel : Nat) (hv : star ∉ v) (hheld : Held p v pi vi st) (hfuel : left p v pi st < fuel) :
    globLoop p v fuel pi vi st = true ↔ Goal p v pi vi st := by
  induction fuel generalizing pi vi st with
  | zero => exact absurd hfuel (Nat.not_lt_zero _)
  | succ fuel ih =>
    cases turn hheld with
    | answer b h hgoal => rw [h, hgoal hv]
    | next pi' vi' st' h hheld' hleft hgoal => rw [h, ih hheld' (by omega), hgoal hv]

theorem left_lt_globFuel (p v : List UInt8) : left p v 0 none < globFuel p v := by
  show v.length * (p.length + 1) + (p.length - 0) < (v.length + 1) * (p.length + 1) + 1
  rw [Nat.succ_mul]
  omega

/-! ## Bytes and characters -/

def Plain (c : Char) : Prop := c.toNat < 128 ∧ c ≠ '*'

theorem encode_ascii {c : Char} (h : c.toNat < 128) : String.utf8EncodeChar c = [c.toNat.toUInt8] := by
  unfold String.utf8EncodeChar
  exact if_pos (Nat.le_of_lt_succ h)

theorem encode_beyond {c : Char} (h : 128 ≤ c.toNat) :
    ∃ b b' t, String.utf8EncodeChar c = b :: b' :: t ∧ 128 ≤ b.toNat := by
  have hbyte : ∀ n, 128 ≤ n → n < 256 → 128 ≤ (UInt8.ofNat n).toNat := fun n hn hlt => by
    rwa [UInt8.toNat_ofNat_of_lt' hlt]
  unfold String.utf8EncodeChar
  dsimp only
  have hnot : ¬c.val.toNat ≤ 127 := Nat.not_le_of_lt h
  rw [if_neg hnot]
  split_ifs
  · exact ⟨_, _, _, rfl, hbyte _ (by omega) (by omega)⟩
  · exact ⟨_, _, _, rfl, hbyte _ (by omega) (by omega)⟩
  · exact ⟨_, _, _, rfl, hbyte _ (by omega) (by omega)⟩

theorem utf8_ascii {s : List Char} (h : ∀ c ∈ s, c.toNat < 128) : utf8 s = s.map (·.toNat.toUInt8) := by
  rw [List.map_eq_flatMap]
  exact List.flatMap_congr fun c hc => encode_ascii (h c hc)

theorem toNat_byte {c : Char} (h : c.toNat < 128) : c.toNat.toUInt8.toNat = c.toNat :=
  UInt8.toNat_ofNat_of_lt' (Nat.lt_trans h (by decide))

theorem byte_inj {c d : Char} (hc : c.toNat < 128) (hd : d.toNat < 128) :
    c.toNat.toUInt8 = d.toNat.toUInt8 ↔ c = d := by
  refine ⟨fun h => ?_, fun h => h ▸ rfl⟩
  have hnat := congrArg UInt8.toNat h
  rw [toNat_byte hc, toNat_byte hd] at hnat
  exact Char.toNat_inj.mp hnat

theorem matches_utf8 {p v : List Char} (hv : ∀ c ∈ v, c.toNat < 128) :
    Matches star any (utf8 p) (utf8 v) ↔ Matches '*' '?' p v := by
  induction p generalizing v with
  | nil =>
    rw [utf8_ascii hv]
    exact List.map_eq_nil_iff
  | cons c p ih =>
    by_cases hc : c.toNat < 128
    · have hp : utf8 (c :: p) = c.toNat.toUInt8 :: utf8 p := by
        show String.utf8EncodeChar c ++ utf8 p = _
        rw [encode_ascii hc]
        rfl
      rw [hp]
      by_cases hstar : c = '*'
      · subst hstar
        rw [matches_star, matches_star]
        refine exists_congr fun k => ?_
        rw [← ih fun c hc => hv c (List.mem_of_mem_drop hc), utf8_ascii hv,
          utf8_ascii fun c hc => hv c (List.mem_of_mem_drop hc), List.map_drop]
      · have hbyte : c.toNat.toUInt8 ≠ star := fun h => hstar ((byte_inj hc (by decide)).mp h)
        cases v with
        | nil => exact iff_of_false (not_matches_nil hbyte) (not_matches_nil hstar)
        | cons a v =>
          obtain ⟨ha, hv⟩ := List.forall_mem_cons.mp hv
          have hcons : utf8 (a :: v) = a.toNat.toUInt8 :: utf8 v := by
            show String.utf8EncodeChar a ++ utf8 v = _
            rw [encode_ascii ha]
            rfl
          rw [hcons, matches_cons hbyte, matches_cons hstar, ih hv, byte_inj hc ha, byte_inj hc (by decide)]
    · obtain ⟨b, b', t, henc, hb⟩ := encode_beyond (Nat.le_of_not_lt hc)
      have hp : utf8 (c :: p) = b :: (b' :: t ++ utf8 p) := by
        show String.utf8EncodeChar c ++ utf8 p = _
        rw [henc]
        rfl
      have hother : ∀ d : Char, d.toNat < 128 → b ≠ d.toNat.toUInt8 := by
        rintro d hd rfl
        rw [toNat_byte hd] at hb
        omega
      have hstar : c ≠ '*' := by
        rintro rfl
        exact hc (by decide)
      rw [hp]
      cases v with
      | nil => exact iff_of_false (not_matches_nil (hother '*' (by decide))) (not_matches_nil hstar)
      | cons a v =>
        obtain ⟨ha, -⟩ := List.forall_mem_cons.mp hv
        rw [utf8_ascii hv, List.map_cons, matches_cons (hother '*' (by decide)), matches_cons hstar]
        refine iff_of_false ?_ ?_
        · rintro ⟨h | h, -⟩
          · exact hother '?' (by decide) h
          · exact hother a ha h
        · rintro ⟨rfl | rfl, -⟩
          · exact hc (by decide)
          · exact hc ha

theorem toLower_ascii {c : Char} (h : c.toNat < 128) : c.toLower.toNat < 128 ∧ (c.toLower = '*' → c = '*') := by
  have htable : ∀ n < 128, (Char.ofNat n).toLower.toNat < 128 ∧ ((Char.ofNat n).toLower = '*' → Char.ofNat n = '*') := by
    decide
  rw [← Char.ofNat_toNat c]
  exact htable c.toNat h

theorem toLower_beyond {c : Char} (h : 128 ≤ c.toNat) : c.toLower = c := by
  unfold Char.toLower
  refine dif_neg fun hcap => ?_
  have := UInt32.le_iff_toNat_le.mp hcap.2
  have hz : c.toNat ≤ 90 := this
  omega

/-! ## Where the matcher is the definition -/

theorem marks_read {a u : List UInt8} {k : Nat} (fuel : Nat) (hp : p.drop pi = a ++ List.replicate k any)
    (hv : v.drop vi = a ++ u) (h : globLoop p v fuel pi vi none = true) : u.length = k := by
  induction fuel generalizing a u k pi vi with
  | zero => cases h
  | succ fuel ih =>
    rw [globLoop.eq_def p v (fuel + 1)] at h
    dsimp only at h
    rw [← List.head?_drop, ← List.head?_drop, hp, hv] at h
    cases a with
    | cons c a =>
      refine ih (a := a) ?_ ?_ ((if_pos (.inr rfl)).symm.trans h)
      · rw [← List.tail_drop, hp]
        rfl
      · rw [← List.tail_drop, hv]
        rfl
    | nil =>
      cases u with
      | nil =>
        cases k with
        | zero => rfl
        | succ k => cases h
      | cons b u =>
        cases k with
        | zero => cases h
        | succ k =>
          refine congrArg (· + 1) (ih (a := []) ?_ ?_ ((if_pos (.inl rfl)).symm.trans h))
          · rw [← List.tail_drop, hp]
            rfl
          · rw [← List.tail_drop, hv]
            rfl

def bytes (s : String) : List UInt8 := utf8 (toAsciiLowercase s.toList)

/-- On every pattern the matcher comes to an end, with the answer of the definition. -/
def Agrees (value : String) : Prop :=
  ∀ pattern : String,
    (∀ d, globLoop (bytes pattern) (bytes value) (globFuel (bytes pattern) (bytes value) + d) 0 0 none =
      globMatch pattern value) ∧
    (globMatch pattern value = true ↔ Matches '*' '?' (toAsciiLowercase pattern.toList) (toAsciiLowercase value.toList))

theorem exists_last {P : Char → Prop} {l : List Char} (h : ∃ c ∈ l, ¬ P c) :
    ∃ w c rest, l = w ++ c :: rest ∧ ¬ P c ∧ ∀ d ∈ rest, P d := by
  induction l with
  | nil =>
    obtain ⟨c, hc, -⟩ := h
    cases hc
  | cons a l ih =>
    by_cases hl : ∃ c ∈ l, ¬ P c
    · obtain ⟨w, c, rest, rfl, hc⟩ := ih hl
      exact ⟨a :: w, c, rest, rfl, hc⟩
    · have hall : ∀ d ∈ l, P d := fun d hd => not_not.mp fun hn => hl ⟨d, hd, hn⟩
      obtain ⟨c, hc, hn⟩ := h
      rcases List.mem_cons.mp hc with rfl | hc
      · exact ⟨[], c, l, rfl, hn, hall⟩
      · exact absurd (hall c hc) hn

theorem not_agrees {value : String} {front rest : List Char} {k : Nat} (hvalue : value.toList = front ++ rest)
    (hmatch : Matches '*' '?' (toAsciiLowercase front ++ List.replicate k '?') (toAsciiLowercase value.toList))
    (hbytes : (utf8 (toAsciiLowercase rest)).length ≠ k) : ¬ Agrees value := by
  intro h
  have hpattern : toAsciiLowercase (String.ofList (front ++ List.replicate k '?')).toList =
      toAsciiLowercase front ++ List.replicate k '?' := by
    unfold toAsciiLowercase
    rw [String.toList_ofList, List.map_append, List.map_replicate]
    rfl
  have htrue := (h (String.ofList (front ++ List.replicate k '?'))).2.mpr (hpattern ▸ hmatch)
  refine hbytes (marks_read (a := utf8 (toAsciiLowercase front)) _ ?_ ?_ htrue)
  · show utf8 _ = _
    rw [hpattern]
    unfold utf8
    rw [List.flatMap_append, List.flatMap_replicate]
    simp [String.utf8EncodeChar]
  · show utf8 (toAsciiLowercase value.toList) = _
    rw [hvalue]
    unfold toAsciiLowercase utf8
    rw [List.map_append, List.flatMap_append]

end DataNexus.Pdp.Globs
