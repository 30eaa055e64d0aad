/-
  Weighted round robin is fair (`RoundRobinWeighted::next`).

  A period has one round for each multiple of the greatest common divisor up to the greatest weight, from the top down;
  a round gives the items that fit, in their order (`schedule`).  `Ahead` says how much of the period is still to
  come; `next` gives the head of that, and begins a new period when nothing is (`ahead_next`).
-/
import Mathlib.Data.List.Count
import Mathlib.Data.List.Rotate
import DataNexus.Discovery.LoadBalance

namespace DataNexus.LoadBalance

open DataNexus.Discovery (Endpoint)

def addAll (items : List Endpoint) : RoundRobinWeighted := items.foldl RoundRobinWeighted.add {}

/-- The answer of the call after `k` calls. -/
def answer (b : RoundRobinWeighted) (k : Nat) : Answer := ((fun b => b.next.2)^[k] b).next.1

/-- The last `r` rounds of a period. -/
def schedule (items : List Endpoint) (g : Nat) : Nat → List Endpoint
  | 0 => []
  | r + 1 => items.filter (fits ((r + 1) * g)) ++ schedule items g r

def Ahead (b : RoundRobinWeighted) (ahead : List Endpoint) : Prop :=
  (b.i = -1 ∧ b.cw = 0 ∧ ahead = []) ∨
    ∃ k r : Nat, b.i = k ∧ b.cw = (r + 1) * b.gcd ∧
      ahead = (b.items.drop (k + 1)).filter (fits b.cw) ++ schedule b.items b.gcd r

variable {b : RoundRobinWeighted} {items ahead : List Endpoint} {e : Endpoint} {g r : Nat}

/-- **A call.**  The head of what is to come, or of the next period. -/
theorem ahead_next (h : b.Kept) (h2 : 2 ≤ b.n) (hi : b.i < b.n) (hg : 0 < b.gcd) {rounds : Nat}
    (hmax : b.maxWeight = (rounds + 1) * b.gcd) (ha : Ahead b ahead) :
    ∃ e rest i cw, (ahead = e :: rest ∨ ahead = [] ∧ schedule b.items b.gcd (rounds + 1) = e :: rest) ∧
      b.next = (.got (some e), { b with i := i, cw := cw }) ∧ i < b.n ∧
        Ahead { b with i := i, cw := cw } rest := by
  have hne : b.maxWeight ≠ 0 := by
    rw [hmax]
    exact Nat.ne_of_gt (Nat.mul_pos (Nat.succ_pos _) hg)
  obtain ⟨hlowered, -, x, hx, hfits⟩ := lowered_fits h hne
  obtain ⟨e, j, cw, hj, hnext, hround⟩ := next_round h.n h2 ⟨h.i.1, hi⟩ hlowered hx hfits
  have hlt := (List.getElem?_eq_some_iff.mp hj).1
  have hn := h.n
  -- the call came to the round of `r`
  have harrived : ∀ r, cw = (r + 1) * b.gcd → Ahead { b with i := (j : Nat), cw := cw }
      ((b.items.drop (j + 1)).filter (fits cw) ++ schedule b.items b.gcd r) :=
    fun r hr => .inr ⟨j, r, rfl, hr, rfl⟩
  rcases hround with ⟨rfl, k, hk, hfilter⟩ | ⟨rfl, hfilter, hover⟩
  · rcases ha with ⟨hfront, -⟩ | ⟨k', r, hk', hr, rfl⟩
    · omega
    · obtain rfl : k' = k := by omega
      rw [hfilter]
      exact ⟨e, _, j, b.cw, .inl rfl, hnext, by omega, harrived r hr⟩
  · have htop : b.cw ≤ b.gcd → ahead = [] → ∃ e' rest, (ahead = e' :: rest ∨
        ahead = [] ∧ schedule b.items b.gcd (rounds + 1) = e' :: rest) ∧ e' = e ∧
          Ahead { b with i := (j : Nat), cw := b.lowered } rest := by
      intro hle hnil
      have hcw : b.lowered = (rounds + 1) * b.gcd := by
        rw [RoundRobinWeighted.lowered, if_pos hle, hmax]
      refine ⟨e, _, .inr ⟨hnil, ?_⟩, rfl, harrived rounds hcw⟩
      rw [schedule, ← hcw, hfilter]
      rfl
    rcases ha with ⟨-, hzero, hnil⟩ | ⟨k, r, hk, hr, hahead⟩
    · obtain ⟨_, rest, hrest, rfl, hnew⟩ := htop (by omega) hnil
      exact ⟨_, rest, j, _, hrest, hnext, by omega, hnew⟩
    · rw [hover k hk, List.nil_append] at hahead
      cases r with
      | zero =>
        obtain ⟨_, rest, hrest, rfl, hnew⟩ := htop (by omega) hahead
        exact ⟨_, rest, j, _, hrest, hnext, by omega, hnew⟩
      | succ r =>
        rw [Nat.add_mul, Nat.one_mul] at hr
        have hpos : 0 < (r + 1) * b.gcd := Nat.mul_pos (Nat.succ_pos r) hg
        have hcw : b.lowered = (r + 1) * b.gcd := by
          rw [RoundRobinWeighted.lowered, if_neg (by omega), hr, Nat.add_sub_cancel]
        refine ⟨e, _, j, _, .inl ?_, hnext, by omega, harrived r hcw⟩
        rw [hahead, schedule, ← hcw, hfilter]
        rfl

/-- **The calls.**  The call after `k` calls gives the item `k` of the schedule, period after period. -/
theorem answer_eq (h : b.Kept) (h2 : 2 ≤ b.n) (hg : 0 < b.gcd) {rounds : Nat}
    (hmax : b.maxWeight = (rounds + 1) * b.gcd) (hstart : Ahead b []) (hi : b.i < b.n) (k : Nat) :
    0 < (schedule b.items b.gcd (rounds + 1)).length ∧ (schedule b.items b.gcd (rounds + 1))[k %
      (schedule b.items b.gcd (rounds + 1)).length]?.map (Answer.got ∘ some) = some (answer b k) := by
  generalize hs : schedule b.items b.gcd (rounds + 1) = s
  -- after `k` calls the state has the items and numbers of the first one, and is `k` items into the schedule
  have hrun : ∀ k, ∃ i cw m, (fun b => b.next.2)^[k] b = { b with i := i, cw := cw } ∧ i < b.n ∧
      ({ b with i := i, cw := cw } : RoundRobinWeighted).Kept ∧ m ≤ s.length ∧ m % s.length = k % s.length ∧
        Ahead { b with i := i, cw := cw } (s.drop m) := by
    intro k
    induction k with
    | zero =>
      refine ⟨b.i, b.cw, s.length, rfl, hi, h, Nat.le_refl _, by rw [Nat.mod_self, Nat.zero_mod], ?_⟩
      rw [List.drop_length]
      exact hstart
    | succ k ih =>
      obtain ⟨i, cw, m, hstate, hi, hkept, hm, hmod, ha⟩ := ih
      obtain ⟨e, rest, i', cw', hhead, hnext, hi', ha'⟩ := ahead_next hkept h2 hi hg hmax ha
      have hkept' := hkept.next.1
      rw [hnext] at hkept'
      have hstep : (fun b => b.next.2)^[k + 1] b = { b with i := i', cw := cw' } := by
        rw [Function.iterate_succ_apply', hstate, hnext]
      rcases hhead with hhead | ⟨hnil, hhead⟩
      · have hlt : m < s.length := by
          by_contra hge
          rw [List.drop_eq_nil_of_le (by omega)] at hhead
          cases hhead
        have hrest : rest = s.drop (m + 1) := by
          rw [← List.tail_drop, hhead]
          rfl
        refine ⟨i', cw', m + 1, hstep, hi', hkept', hlt, ?_, hrest ▸ ha'⟩
        rw [Nat.add_mod, hmod, ← Nat.add_mod]
      · have hlen : m = s.length := by
          have := List.drop_eq_nil_iff.mp hnil
          omega
        have hs' : s = e :: rest := hs.symm.trans hhead
        have hrest : rest = s.drop 1 := by rw [hs']; rfl
        refine ⟨i', cw', 1, hstep, hi', hkept', by rw [hs']; exact Nat.succ_pos _, ?_, hrest ▸ ha'⟩
        rw [hlen, Nat.mod_self] at hmod
        rw [Nat.add_mod, ← hmod, Nat.zero_add, Nat.mod_mod]
  obtain ⟨i, cw, m, hstate, hi, hkept, hm, hmod, ha⟩ := hrun k
  obtain ⟨e, rest, i', cw', hhead, hnext, -⟩ := ahead_next hkept h2 hi hg hmax ha
  have hgiven : answer b k = .got (some e) := by rw [answer, hstate, hnext]
  have hat : s[k % s.length]? = some e := by
    rw [← hmod]
    rcases hhead with hhead | ⟨hnil, hhead⟩
    · have hlt : m < s.length := by
        by_contra hge
        rw [List.drop_eq_nil_of_le (by omega)] at hhead
        cases hhead
      rw [Nat.mod_eq_of_lt hlt, ← List.head?_drop, hhead]
      rfl
    · have hlen : m = s.length := by
        have := List.drop_eq_nil_iff.mp hnil
        omega
      rw [hlen, Nat.mod_self, show s = e :: rest from hs.symm.trans hhead]
      rfl
  refine ⟨?_, by rw [hat, hgiven]; rfl⟩
  have hlt := (List.getElem?_eq_some_iff.mp hat).1
  omega

/-! ## Counting -/

theorem fits_iff (hw : 0 ≤ e.weight) (hg : 0 < g) : fits ((r + 1) * g) e = true ↔ r + 1 ≤ e.weight.toNat / g := by
  rw [fits, decide_eq_true_eq, Nat.le_div_iff_mul_le hg]
  omega

theorem count_schedule (hnodup : items.Nodup) (he : e ∈ items) (hw : 0 ≤ e.weight) (hg : 0 < g) (r : Nat) :
    (schedule items g r).count e = min r (e.weight.toNat / g) := by
  induction r with
  | zero => rw [Nat.zero_min]; rfl
  | succ r ih =>
    rw [schedule, List.count_append, ih]
    by_cases hfits : fits ((r + 1) * g) e = true
    · rw [List.count_filter hfits, List.count_eq_one_of_mem hnodup he]
      have := (fits_iff hw hg).mp hfits
      omega
    · rw [List.count_eq_zero_of_not_mem fun hmem => hfits (List.mem_filter.mp hmem).2]
      have := mt (fits_iff hw hg).mpr hfits
      omega

theorem length_schedule (hw : ∀ e ∈ items, 0 ≤ e.weight) (hg : 0 < g) (r : Nat) :
    (schedule items g r).length = (items.map fun e => min r (e.weight.toNat / g)).sum := by
  induction r with
  | zero => simp [schedule]
  | succ r ih =>
    rw [schedule, List.length_append, ih]
    clear ih
    induction items with
    | nil => rfl
    | cons e items ih =>
      rw [List.forall_mem_cons] at hw
      have hfits := @fits_iff e g r hw.1 hg
      have hrest := ih hw.2
      simp only [List.map_cons, List.sum_cons, List.filter_cons]
      split
      · rename_i hyes
        have := hfits.mp hyes
        rw [List.length_cons]
        omega
      · rename_i hno
        have := mt hfits.mpr hno
        omega

theorem sum_shares (hw : ∀ e ∈ items, 0 ≤ e.weight) (hdvd : ∀ e ∈ items, g ∣ e.weight.toNat) :
    ((items.map fun e => e.weight.toNat / g).sum * g : Nat) = sumOf items := by
  unfold sumOf
  induction items with
  | nil => simp
  | cons e items ih =>
    rw [List.forall_mem_cons] at hw hdvd
    have hshare := Nat.div_mul_cancel hdvd.1
    rw [List.map_cons, List.map_cons, List.sum_cons, List.sum_cons, ← ih hw.2 hdvd.2, Nat.add_mul, hshare]
    have := hw.1
    omega

theorem addAll_spec (items : List Endpoint) (hnodup : (items.map (·.name)).Nodup) :
    (addAll items).items = items ∧ (addAll items).Kept ∧
      ((addAll items).gcd = 0 ∨ (addAll items).i = -1 ∧ (addAll items).cw = 0) := by
  induction items using List.reverseRecOn with
  | nil => exact ⟨rfl, kept_start, .inl rfl⟩
  | append_singleton items e ih =>
    rw [List.map_append, List.nodup_append] at hnodup
    obtain ⟨hitems, hkept, hstart⟩ := ih hnodup.1
    have hadd : addAll (items ++ [e]) = (addAll items).add e := by
      rw [addAll, List.foldl_append]
      rfl
    have hnew : itemExists (addAll items).items e = false := by
      rw [hitems, itemExists, List.any_eq_false]
      intro x hx hname
      exact hnodup.2.2 x.name (List.mem_map_of_mem hx) e.name List.mem_cons_self (beq_iff_eq.mp hname)
    rw [hadd]
    refine ⟨?_, hkept.add e, ?_⟩
    · rw [RoundRobinWeighted.add, if_neg (by rw [hnew]; decide), hitems]
    · rw [RoundRobinWeighted.add, if_neg (by rw [hnew]; decide), RoundRobinWeighted.weigh]
      split
      · exact hstart
      · split
        · exact .inr ⟨rfl, rfl⟩
        · rename_i hgcd
          exact .inr (hstart.resolve_left hgcd)

/-- **Fairness.**  In any stretch of as many calls as there are shares every item is given as often as it has shares. -/
theorem next_fair (items : List Endpoint) (hnodup : (items.map (·.name)).Nodup) (h2 : 2 ≤ items.length)
    (hw : ∀ e ∈ items, 0 ≤ e.weight) (hpos : ∃ e ∈ items, 0 < e.weight) :
    (∀ k, ∃ e ∈ items, 0 < e.weight ∧ answer (addAll items) k = .got (some e)) ∧
      ∀ a, ∀ e ∈ items, ((List.range ((sumOf items).toNat / gcdOf items)).map fun j =>
        answer (addAll items) (a + j)).count (.got (some e)) = e.weight.toNat / gcdOf items := by
  obtain ⟨hitems, hkept, hstart⟩ := addAll_spec items hnodup
  have hgcd : (addAll items).gcd = gcdOf items := by rw [hkept.gcd, hitems]
  have hn : (addAll items).n = items.length := by rw [hkept.n, hitems]
  have hmax : (addAll items).maxWeight = maxOf items := by rw [hkept.maxWeight, hitems]
  obtain ⟨heavy, hheavy, hweight⟩ := hpos
  have hmaxpos : 0 < maxOf items := Nat.lt_of_lt_of_le (by omega) (le_maxOf hheavy)
  have hg : 0 < gcdOf items := Nat.pos_of_ne_zero fun hzero => by
    rw [maxOf_of_gcdOf hzero] at hmaxpos
    omega
  -- the greatest weight is a multiple of the divisor
  obtain ⟨top, htop, htopmax⟩ := exists_maxOf hmaxpos
  obtain ⟨q, hq⟩ := gcdOf_dvd htop
  obtain ⟨rounds, rfl⟩ : ∃ rounds, q = rounds + 1 := by
    refine Nat.exists_eq_succ_of_ne_zero ?_
    rintro rfl
    omega
  have hrounds : maxOf items = (rounds + 1) * gcdOf items := by
    rw [Nat.mul_comm, ← hq, htopmax, Int.toNat_natCast]
  have hfront : (addAll items).i = -1 ∧ (addAll items).cw = 0 := hstart.resolve_left (by omega)
  have hanswer := answer_eq hkept (by omega) (by omega) (by rw [hmax, hgcd]; exact hrounds)
    (.inl ⟨hfront.1, hfront.2, rfl⟩) (by omega)
  rw [hitems, hgcd] at hanswer
  generalize hs : schedule items (gcdOf items) (rounds + 1) = s at hanswer
  have hshare : ∀ e ∈ items, min (rounds + 1) (e.weight.toNat / gcdOf items) = e.weight.toNat / gcdOf items := by
    intro e he
    refine Nat.min_eq_right (Nat.div_le_of_le_mul ?_)
    rw [Nat.mul_comm, ← hrounds]
    exact le_maxOf he
  have hlen : s.length = (sumOf items).toNat / gcdOf items := by
    rw [← hs, length_schedule hw hg, List.map_congr_left hshare, ← sum_shares hw fun e he => gcdOf_dvd he,
      Int.toNat_natCast, Nat.mul_div_cancel _ hg]
  refine ⟨fun k => ?_, fun a e he => ?_⟩
  · obtain ⟨e, hat, hk⟩ := Option.map_eq_some_iff.mp (hanswer k).2
    have hmem : ∀ r, e ∈ schedule items (gcdOf items) r → e ∈ items ∧ 0 < e.weight := by
      intro r
      induction r with
      | zero => exact nofun
      | succ r ih =>
        intro hmem
        rcases List.mem_append.mp hmem with hmem | hmem
        · obtain ⟨hin, hfits⟩ := List.mem_filter.mp hmem
          rw [fits, decide_eq_true_eq] at hfits
          have : 0 < (r + 1) * gcdOf items := Nat.mul_pos (Nat.succ_pos r) hg
          exact ⟨hin, by omega⟩
        · exact ih hmem
    obtain ⟨hin, hwpos⟩ := hmem (rounds + 1) (hs ▸ List.mem_of_getElem? hat)
    exact ⟨e, hin, hwpos, hk.symm⟩
  · have hrotate : ((List.range s.length).map fun j => answer (addAll items) (a + j)) =
        (s.rotate a).map (Answer.got ∘ some) := by
      refine List.ext_getElem (by simp) fun j hj _ => ?_
      have hj' : j < s.length := by simpa using hj
      obtain ⟨e, hat, hk⟩ := Option.map_eq_some_iff.mp (hanswer (a + j)).2
      rw [List.getElem_map, List.getElem_map, List.getElem_range, List.getElem_rotate, ← hk]
      obtain ⟨hlt, rfl⟩ := List.getElem?_eq_some_iff.mp hat
      simp only [Nat.add_comm j a]
    rw [← hlen, hrotate, show Answer.got (some e) = (Answer.got ∘ some) e from rfl,
      List.count_map_of_injective _ (Answer.got ∘ some) (fun x y h => Option.some.inj (Answer.got.inj h)), (s.rotate_perm a).count_eq,
      ← hs, count_schedule (List.Nodup.of_map _ hnodup) he (hw e he) hg, hshare e he]

theorem heavy_and_light : (∀ k, ∃ e ∈ [heavy, light], 0 < e.weight ∧
      answer (addAll [heavy, light]) k = .got (some e)) ∧
    ∀ a, ∀ e ∈ [heavy, light], ((List.range ((sumOf [heavy, light]).toNat / gcdOf [heavy, light])).map fun j =>
      answer (addAll [heavy, light]) (a + j)).count (.got (some e)) = e.weight.toNat / gcdOf [heavy, light] :=
  next_fair [heavy, light] (by decide) (by decide) (by decide) ⟨heavy, by decide, by decide⟩

end DataNexus.LoadBalance
