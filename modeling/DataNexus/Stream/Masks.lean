/-
  What a mask reveals (`gateway/core/src/obligations.rs`).  The lengths are 64-bit numbers, and `prefix + suffix` is an
  unchecked sum: past `2^64` the partial mask of any text that is not empty overflows.
-/
import DataNexus.Stream.Obligations

namespace DataNexus.Stream

/-- `partial_mask` on 64-bit lengths: `none` is the overflow of `prefix + suffix`. -/
def checkedPartialMask (s : List Char) (keepFirst keepLast : Nat) : Option (List Char) :=
  if s.length ≠ 0 ∧ 2 ^ 64 ≤ keepFirst + keepLast then none else some (partialMask s keepFirst keepLast)

/-- `mask_gateway_value` on 64-bit lengths. -/
def checkedMask (d : Display) (value : GatewayValue) (spec : MaskSpec) : Option GatewayValue :=
  match spec.algorithm with
  | .partialMask => (checkedPartialMask (valueAsDisplay d value).toList spec.prefixLen spec.suffixLen).map
      (.string <| String.ofList ·)
  | _ => some (maskGatewayValue d value spec)

variable {d : Display} {spec : MaskSpec} {s t : List Char} {keepFirst keepLast : Nat}

theorem partialMask_eq (s : List Char) (keepFirst keepLast : Nat) : partialMask s keepFirst keepLast =
    if s.length = 0 then []
    else if keepFirst + keepLast ≥ s.length then List.replicate (max s.length 1) '*'
    else s.take keepFirst ++ List.replicate (s.length - keepFirst - keepLast) '*' ++ s.drop (s.length - keepLast) :=
  rfl

theorem partialMask_congr (hlen : s.length = t.length) (hfirst : s.take keepFirst = t.take keepFirst)
    (hlast : s.drop (s.length - keepLast) = t.drop (t.length - keepLast)) :
    partialMask s keepFirst keepLast = partialMask t keepFirst keepLast := by
  rw [partialMask_eq, partialMask_eq, hlast, hfirst, hlen]

theorem get_partialMask (i : Nat) (hi : i < s.length) : (partialMask s keepFirst keepLast)[i]? =
      if keepFirst + keepLast < s.length ∧ (i < keepFirst ∨ s.length - keepLast ≤ i) then s[i]? else some '*' := by
  rw [partialMask_eq, if_neg (by omega)]
  by_cases hall : keepFirst + keepLast ≥ s.length
  · rw [if_pos hall, if_neg (by omega), List.getElem?_replicate, if_pos (by omega)]
  · have htake : (s.take keepFirst).length = keepFirst := by rw [List.length_take]; omega
    rw [if_neg hall, List.append_assoc]
    by_cases hfirst : i < keepFirst
    · rw [if_pos (by omega), List.getElem?_append_left (by omega), List.getElem?_take_of_lt hfirst]
    · rw [List.getElem?_append_right (by omega), htake]
      by_cases hlast : s.length - keepLast ≤ i
      · rw [if_pos (by omega), List.getElem?_append_right (by rw [List.length_replicate]; omega),
          List.length_replicate, List.getElem?_drop]
        congr 1
        omega
      · rw [if_neg (by omega), List.getElem?_append_left (by rw [List.length_replicate]; omega),
          List.getElem?_replicate, if_pos (by omega)]

theorem length_partialMask : (partialMask s keepFirst keepLast).length = s.length := by
  rw [partialMask_eq]
  split
  · exact Eq.symm ‹_›
  split
  · rw [List.length_replicate]
    omega
  · rw [List.length_append, List.length_append, List.length_take, List.length_replicate, List.length_drop]
    omega

theorem keepPrefixMask_congr (hfirst : s.take keepFirst = t.take keepFirst)
    (hmore : keepFirst < s.length ↔ keepFirst < t.length) :
    keepPrefixMask s keepFirst = keepPrefixMask t keepFirst := by
  have hform : ∀ u : List Char, keepPrefixMask u keepFirst =
      u.take keepFirst ++ (if keepFirst < u.length then "***".toList else []) := by
    intro u
    cases u with
    | nil => rw [List.take_nil]; rfl
    | cons c u =>
      show (c :: u).take (min keepFirst (c :: u).length) ++
        (if min keepFirst (c :: u).length < (c :: u).length then "***".toList else []) = _
      rw [List.take_eq_take_min (i := keepFirst)]
      by_cases h : keepFirst < (c :: u).length
      · rw [if_pos h, if_pos (by omega)]
      · rw [if_neg h, if_neg (by omega)]
  rw [hform, hform, hfirst, ite_cond_congr (propext hmore)]

/-- What the masks with lengths promise about every two values. -/
structure Promised (d : Display) (spec : MaskSpec) : Prop where
  runs : ∀ v, checkedMask d v spec ≠ none
  /-- The partial mask depends on the number of characters and the kept ones. -/
  partialRuns : spec.algorithm = .partialMask → ∀ v w,
    let s := (valueAsDisplay d v).toList
    let t := (valueAsDisplay d w).toList
    s.length = t.length → s.take spec.prefixLen = t.take spec.prefixLen →
      s.drop (s.length - spec.suffixLen) = t.drop (t.length - spec.suffixLen) →
      checkedMask d v spec = checkedMask d w spec
  /-- It has a star at every other position. -/
  stars : spec.algorithm = .partialMask → ∀ v,
    let s := (valueAsDisplay d v).toList
    ∃ masked, checkedMask d v spec = some (.string (String.ofList masked)) ∧ masked.length = s.length ∧
      ∀ i < s.length, masked[i]? =
        if spec.prefixLen + spec.suffixLen < s.length ∧ (i < spec.prefixLen ∨ s.length - spec.suffixLen ≤ i)
        then s[i]? else some '*'
  /-- The prefix mask depends on the first characters and on whether more follow. -/
  prefixRuns : spec.algorithm = .keepPrefix → ∀ v w,
    let s := (valueAsDisplay d v).toList
    let t := (valueAsDisplay d w).toList
    s.take spec.prefixLen = t.take spec.prefixLen → (spec.prefixLen < s.length ↔ spec.prefixLen < t.length) →
      checkedMask d v spec = checkedMask d w spec

/-- A mask keeps its promises exactly when the two lengths of a partial mask have a 64-bit sum. -/
theorem promised_iff (d : Display) (spec : MaskSpec) :
    Promised d spec ↔ (spec.algorithm = .partialMask → spec.prefixLen + spec.suffixLen < 2 ^ 64) := by
  constructor
  · intro h hpartial
    by_contra hsum
    refine h.runs (.boolean true) ?_
    rw [checkedMask, hpartial]
    show (checkedPartialMask "true".toList spec.prefixLen spec.suffixLen).map _ = none
    rw [checkedPartialMask, if_pos ⟨by decide, by omega⟩]
    rfl
  · intro hsum
    have hform : spec.algorithm = .partialMask → ∀ v, checkedMask d v spec = some (.string (String.ofList
        (partialMask (valueAsDisplay d v).toList spec.prefixLen spec.suffixLen))) := by
      intro hpartial v
      have hlt := hsum hpartial
      rw [checkedMask, hpartial]
      show (checkedPartialMask _ _ _).map _ = _
      rw [checkedPartialMask, if_neg (by omega)]
      rfl
    refine ⟨fun v hnone => ?_, fun hpartial v w hlen hfirst hlast => ?_, fun hpartial v => ?_,
      fun hkeep v w hfirst hmore => ?_⟩
    · cases halg : spec.algorithm with
      | partialMask => exact absurd ((hform halg v).symm.trans hnone) (Option.some_ne_none _)
      | _ =>
        rw [checkedMask, halg] at hnone
        exact absurd hnone (Option.some_ne_none _)
    · rw [hform hpartial, hform hpartial, partialMask_congr hlen hfirst hlast]
    · exact ⟨_, hform hpartial v, length_partialMask, get_partialMask⟩
    · have hplain : ∀ u, checkedMask d u spec =
          some (.string (String.ofList (keepPrefixMask (valueAsDisplay d u).toList spec.prefixLen))) := by
        intro u
        rw [checkedMask, hkeep]
        show some (maskGatewayValue d u spec) = _
        rw [maskGatewayValue, hkeep]
      rw [hplain, hplain, keepPrefixMask_congr hfirst hmore]

/-- Two lengths of `2^63` overflow on the text `true`. -/
theorem lengths_overflow :
    ¬ ∀ (d : Display) (spec : MaskSpec), spec.prefixLen < 2 ^ 64 → spec.suffixLen < 2 ^ 64 → Promised d spec := by
  intro h
  refine (h ⟨fun _ => "", fun _ => ""⟩ ⟨"name", .partialMask, "", 2 ^ 63, 2 ^ 63, ""⟩ (by decide) (by decide)).runs
    (.boolean true) ?_
  show (checkedPartialMask "true".toList (2 ^ 63) (2 ^ 63)).map (GatewayValue.string <| String.ofList ·) = none
  rw [checkedPartialMask, if_pos ⟨by decide, by decide⟩]
  rfl

end DataNexus.Stream
