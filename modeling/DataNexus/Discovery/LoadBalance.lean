/-
  The weighted balancers (`proxy/loadbalance/src/roundrobin_weighted.rs`, `random_weighted.rs`).

  Both keep numbers that are computed from their items.  `balancers_consistent` says which calls maintain them.

  A number that is never negative is a `Nat`.  The loop of `next` is given two turns for each item, which is enough in
  every state that `Kept` describes (`next_round`).  The number that the generator draws is part of the call.  Sums wrap,
  as in a release build.
-/
import DataNexus.Discovery.Reconcile
import DataNexus.Lib.Run
import Mathlib.Algebra.GroupWithZero.Nat
import Mathlib.Algebra.Ring.Int.Defs

namespace DataNexus.LoadBalance

open DataNexus.Run
open DataNexus.Discovery (Endpoint)

inductive Answer where
  | got (endpoint : Option Endpoint)
  | panics
  /-- The loop has not come to an end. -/
  | runsOn
  | done
deriving DecidableEq

/-! ## Weighted round robin -/

structure RoundRobinWeighted where
  items : List Endpoint := []
  n : Nat := 0
  gcd : Nat := 0
  maxWeight : Nat := 0
  i : Int := 0
  cw : Nat := 0

/-- `gcd`.  The second number is a positive weight; `%` by zero panics. -/
def gcd (x y : Nat) : Nat := if 0 < y ∧ 0 < x % y then gcd y (x % y) else y
termination_by y
decreasing_by
  rename_i h
  exact Nat.mod_lt _ h.1

def itemExists (items : List Endpoint) (endpoint : Endpoint) : Bool := items.any (·.name == endpoint.name)

/-- The first part of `RoundRobinWeighted::add`. -/
def RoundRobinWeighted.weigh (b : RoundRobinWeighted) (weight : Int) : RoundRobinWeighted :=
  if weight ≤ 0 then b
  else if b.gcd = 0 then { b with gcd := weight.toNat, maxWeight := weight.toNat, i := -1, cw := 0 }
  else { b with
    gcd := LoadBalance.gcd b.gcd weight.toNat
    maxWeight := if b.maxWeight < weight.toNat then weight.toNat else b.maxWeight }

def RoundRobinWeighted.add (b : RoundRobinWeighted) (endpoint : Endpoint) : RoundRobinWeighted :=
  if itemExists b.items endpoint then b
  else { b.weigh endpoint.weight with items := b.items ++ [endpoint], n := b.n + 1 }

def RoundRobinWeighted.lowered (b : RoundRobinWeighted) : Nat := if b.cw ≤ b.gcd then b.maxWeight else b.cw - b.gcd

/-- One turn of the loop of `RoundRobinWeighted::next`: `none` goes on. -/
def RoundRobinWeighted.turn (b : RoundRobinWeighted) : Option Answer × RoundRobinWeighted :=
  let i := (b.i + 1) % b.n
  let b := { b with i := i, cw := if i = 0 then b.lowered else b.cw }
  if i = 0 ∧ b.cw = 0 then (some (.got none), b)
  else match b.items[i.toNat]? with
    | none => (some .panics, b)
    | some e => (if b.cw ≤ e.weight then some (.got (some e)) else none, b)

/-- The loop of `RoundRobinWeighted::next`. -/
def RoundRobinWeighted.loop : Nat → RoundRobinWeighted → Answer × RoundRobinWeighted
  | 0, b => (.runsOn, b)
  | fuel + 1, b => match b.turn with
    | (some answer, b) => (answer, b)
    | (none, b) => loop fuel b

def RoundRobinWeighted.next (b : RoundRobinWeighted) : Answer × RoundRobinWeighted :=
  if b.n = 0 then (.got none, b) else if b.n = 1 then (.got b.items[0]?, b) else b.loop (2 * b.n)

/-- `remove_item` of both: the first item of that name; `unwrap` panics without one. -/
def removeFrom (items : List Endpoint) (endpoint : Endpoint) : Option (List Endpoint) :=
  if itemExists items endpoint then some (items.eraseP (·.name == endpoint.name)) else none

def RoundRobinWeighted.removeAll : RoundRobinWeighted := { i := -1 }

/-! ## Weighted random choice -/

/-- `RandomWeighted`, without its generator. -/
structure RandomWeighted where
  items : List Endpoint := []
  n : Int := 0
  sumOfWeights : Int := 0

/-- Addition in `i64`. -/
def wrapping (x : Int) : Int := x.bmod (2 ^ 64)

def RandomWeighted.add (b : RandomWeighted) (endpoint : Endpoint) : RandomWeighted :=
  if itemExists b.items endpoint then b
  else ⟨b.items ++ [endpoint], b.n + 1, wrapping (b.sumOfWeights + endpoint.weight)⟩

/-- The loop of `RandomWeighted::next`, and the last item behind it. -/
def RandomWeighted.pick (all : List Endpoint) : List Endpoint → Int → Option Endpoint
  | [], _ => all.getLast?
  | e :: items, randomWeight =>
    let left := wrapping (randomWeight - e.weight)
    if left ≤ 0 then some e else pick all items left

/-- `RandomWeighted::next` for what the generator draws from `0..sum_of_weights`. -/
def RandomWeighted.next (b : RandomWeighted) (draw : Nat) : Answer :=
  if b.n = 0 ∨ b.sumOfWeights ≤ 0 then .got none
  else .got (RandomWeighted.pick b.items b.items (draw % b.sumOfWeights + 1))

/-! ## Calls -/

inductive Act where
  | add (endpoint : Endpoint)
  | removeItem (endpoint : Endpoint)
  | removeAll
  | next (draw : Nat)

def RoundRobinWeighted.step (b : RoundRobinWeighted) : Act → Answer × RoundRobinWeighted
  | .add endpoint => (.done, b.add endpoint)
  | .removeItem endpoint => match removeFrom b.items endpoint with
    | some items => (.done, { b with items := items })
    | none => (.panics, b)
  | .removeAll => (.done, .removeAll)
  | .next _ => b.next

def RandomWeighted.step (b : RandomWeighted) : Act → Answer × RandomWeighted
  | .add endpoint => (.done, b.add endpoint)
  | .removeItem endpoint => match removeFrom b.items endpoint with
    | some items => (.done, { b with items := items })
    | none => (.panics, b)
  | .removeAll => (.done, { b with items := [] })
  | .next draw => (b.next draw, b)

/-! ## The numbers -/

/-- The greatest common divisor of the positive weights. -/
def gcdOf (items : List Endpoint) : Nat := items.foldl (fun g e => Nat.gcd g e.weight.toNat) 0

def maxOf (items : List Endpoint) : Nat := items.foldl (fun m e => max m e.weight.toNat) 0

def sumOf (items : List Endpoint) : Int := (items.map (·.weight)).sum

variable {b : RoundRobinWeighted} {items : List Endpoint} {e : Endpoint}

theorem gcd_eq {x y : Nat} (hy : 0 < y) : gcd x y = Nat.gcd x y := by
  induction y using Nat.strongRecOn generalizing x with
  | _ y ih =>
    rw [gcd, Nat.gcd_comm, Nat.gcd_rec]
    split
    · rename_i h
      rw [ih (x % y) (Nat.mod_lt x hy) h.2, Nat.gcd_comm]
    · rename_i h
      rw [show x % y = 0 by omega, Nat.gcd_zero_left]

theorem le_maxOf (h : e ∈ items) : e.weight.toNat ≤ maxOf items := by
  have hloop : ∀ (items : List Endpoint) (m : Nat), m ≤ items.foldl (fun m e => max m e.weight.toNat) m ∧
      ∀ e ∈ items, e.weight.toNat ≤ items.foldl (fun m e => max m e.weight.toNat) m := by
    intro items
    induction items with
    | nil => exact fun m => ⟨Nat.le_refl m, nofun⟩
    | cons x items ih =>
      intro m
      obtain ⟨hm, hall⟩ := ih (max m x.weight.toNat)
      rw [List.foldl_cons, List.forall_mem_cons]
      exact ⟨by omega, by omega, hall⟩
  exact (hloop items 0).2 e h

theorem exists_maxOf (h : 0 < maxOf items) : ∃ e ∈ items, e.weight = maxOf items := by
  have hloop : ∀ (items : List Endpoint) (m : Nat), items.foldl (fun m e => max m e.weight.toNat) m = m ∨
      ∃ e ∈ items, e.weight.toNat = items.foldl (fun m e => max m e.weight.toNat) m := by
    intro items
    induction items with
    | nil => exact fun m => .inl rfl
    | cons x items ih =>
      intro m
      rw [List.foldl_cons]
      rcases ih (max m x.weight.toNat) with heq | ⟨e, he, heq⟩
      · rcases Nat.le_total m x.weight.toNat with hle | hle
        · exact .inr ⟨x, List.mem_cons_self, by rw [heq]; omega⟩
        · exact .inl (by rw [heq]; omega)
      · exact .inr ⟨e, List.mem_cons_of_mem x he, heq⟩
  rcases hloop items 0 with heq | ⟨e, he, heq⟩
  · rw [maxOf, heq] at h
    omega
  · refine ⟨e, he, ?_⟩
    rw [maxOf, ← heq] at h ⊢
    omega

theorem gcdOf_dvd (h : e ∈ items) : gcdOf items ∣ e.weight.toNat := by
  have hloop : ∀ (items : List Endpoint) (g : Nat), items.foldl (fun g e => Nat.gcd g e.weight.toNat) g ∣ g ∧
      ∀ e ∈ items, items.foldl (fun g e => Nat.gcd g e.weight.toNat) g ∣ e.weight.toNat := by
    intro items
    induction items with
    | nil => exact fun g => ⟨Nat.dvd_refl g, nofun⟩
    | cons x items ih =>
      intro g
      obtain ⟨hg, hall⟩ := ih (Nat.gcd g x.weight.toNat)
      rw [List.foldl_cons, List.forall_mem_cons]
      exact ⟨Nat.dvd_trans hg (Nat.gcd_dvd_left _ _), Nat.dvd_trans hg (Nat.gcd_dvd_right _ _), hall⟩
  exact (hloop items 0).2 e h

/-! ## The loop -/

/-- The item is heavy enough for the current weight. -/
def fits (cw : Nat) (e : Endpoint) : Bool := decide (cw ≤ e.weight)

theorem turn_inside {k : Nat} (hn : b.n = b.items.length) (hi : b.i = k) (hk : b.items[k + 1]? = some e) :
    b.turn = (if fits b.cw e then some (.got (some e)) else none, { b with i := (k + 1 : Nat) }) := by
  have hlt := (List.getElem?_eq_some_iff.mp hk).1
  have hmod : (b.i + 1) % b.n = ((k + 1 : Nat) : Int) := by
    rw [hi, hn]
    exact Int.emod_eq_of_lt (by omega) (by omega)
  have hne : ((k + 1 : Nat) : Int) ≠ 0 := by omega
  unfold RoundRobinWeighted.turn fits
  simp only [hmod, Int.toNat_natCast, hk, hne, false_and, if_false, decide_eq_true_eq]

theorem turn_wrap (hi : b.i = -1 ∨ b.i = b.n - 1) (he : b.items[0]? = some e) :
    b.turn = (if b.lowered = 0 then some (.got none)
      else if fits b.lowered e then some (.got (some e)) else none, { b with i := 0, cw := b.lowered }) := by
  have hlt := (List.getElem?_eq_some_iff.mp he).1
  have hmod : (b.i + 1) % b.n = 0 := by
    rcases hi with hi | hi
    · rw [hi]
      exact Int.zero_emod _
    · rw [hi, Int.sub_add_cancel, Int.emod_self]
  unfold RoundRobinWeighted.turn fits
  simp only [hmod, if_true, true_and, Int.toNat_zero, he, decide_eq_true_eq]
  split <;> rfl

/-- **A sweep.**  From the item `k` on, the first that fits is given, or the last item is reached.  Induction on the
    items behind `k`. -/
theorem sweep (d : List Endpoint) : ∀ (b : RoundRobinWeighted) (k fuel : Nat), b.n = b.items.length → b.i = k →
    k < b.items.length → b.items.drop (k + 1) = d →
    (∃ e j, d.filter (fits b.cw) = e :: (b.items.drop (j + 1)).filter (fits b.cw) ∧ b.items[j]? = some e ∧
      b.loop (fuel + d.length) = (.got (some e), { b with i := (j : Nat) })) ∨
    (d.filter (fits b.cw) = [] ∧ b.loop (fuel + d.length) = { b with i := b.n - 1 }.loop fuel) := by
  induction d with
  | nil =>
    intro b k fuel hn hi hk hd
    have hlast := List.drop_eq_nil_iff.mp hd
    refine .inr ⟨rfl, ?_⟩
    rw [show (b.n : Int) - 1 = b.i by omega]
    rfl
  | cons e d ih =>
    intro b k fuel hn hi hk hd
    have he : b.items[k + 1]? = some e := by
      rw [← List.head?_drop, hd]
      rfl
    have hlt := (List.getElem?_eq_some_iff.mp he).1
    have hrest : b.items.drop (k + 1 + 1) = d := by
      rw [← List.tail_drop, hd]
      rfl
    have hturn := turn_inside hn hi he
    rw [List.length_cons, ← Nat.add_assoc, RoundRobinWeighted.loop, hturn, List.filter_cons]
    cases hfits : fits b.cw e with
    | true =>
      refine .inl ⟨e, k + 1, ?_, he, rfl⟩
      rw [hrest]
      rfl
    | false =>
      have hnext := ih { b with i := (k + 1 : Nat) } (k + 1) fuel hn rfl hlt hrest
      exact hnext

/-- **A round.**  From in front of the first item, one that fits is given if there is one. -/
theorem round (hn : b.n = b.items.length) (hi : b.i = -1 ∨ b.i = b.n - 1) (hcw : b.lowered ≠ 0) {x : Endpoint}
    (hx : x ∈ b.items) (hfits : fits b.lowered x = true) (fuel : Nat) :
    ∃ e j, b.items.filter (fits b.lowered) = e :: (b.items.drop (j + 1)).filter (fits b.lowered) ∧
      b.items[j]? = some e ∧
      b.loop (fuel + b.items.length) = (.got (some e), { b with i := (j : Nat), cw := b.lowered }) := by
  obtain ⟨first, rest, hitems⟩ := List.exists_cons_of_ne_nil (List.ne_nil_of_mem hx)
  have hfirst : b.items[0]? = some first := by rw [hitems]; rfl
  have hlen : b.items.length = rest.length + 1 := by rw [hitems]; rfl
  have hdrop : b.items.drop 1 = rest := by rw [hitems]; rfl
  have hall : b.items.filter (fits b.lowered) = (first :: rest).filter (fits b.lowered) := by rw [hitems]
  rw [hlen, ← Nat.add_assoc, RoundRobinWeighted.loop, turn_wrap hi hfirst, if_neg hcw, hall, List.filter_cons]
  cases hf : fits b.lowered first with
  | true => exact ⟨first, 0, by rw [hdrop]; rfl, hfirst, rfl⟩
  | false =>
    rcases sweep rest { b with i := 0, cw := b.lowered } 0 fuel hn rfl (show 0 < b.items.length by omega) hdrop with
      ⟨e, j, hfilter, hj, hloop⟩ | ⟨hnone, -⟩
    · exact ⟨e, j, hfilter, hj, hloop⟩
    · rw [hitems] at hx
      rcases List.mem_cons.mp hx with rfl | hx
      · rw [hf] at hfits
        cases hfits
      · exact absurd hfits (List.filter_eq_nil_iff.mp hnone x hx)

/-- **A call.**  With at least two items one is given: the next that fits in this round, or the first that fits in the
    next one. -/
theorem next_round (hn : b.n = b.items.length) (h2 : 2 ≤ b.n) (hi : -1 ≤ b.i ∧ b.i < b.n) (hcw : b.lowered ≠ 0)
    {x : Endpoint} (hx : x ∈ b.items) (hfits : fits b.lowered x = true) :
    ∃ e j cw, b.items[j]? = some e ∧ b.next = (.got (some e), { b with i := (j : Nat), cw := cw }) ∧
      ((cw = b.cw ∧ ∃ k : Nat, b.i = k ∧
          (b.items.drop (k + 1)).filter (fits cw) = e :: (b.items.drop (j + 1)).filter (fits cw)) ∨
        (cw = b.lowered ∧ b.items.filter (fits cw) = e :: (b.items.drop (j + 1)).filter (fits cw) ∧
          ∀ k : Nat, b.i = k → (b.items.drop (k + 1)).filter (fits b.cw) = [])) := by
  unfold RoundRobinWeighted.next
  rw [if_neg (by omega), if_neg (by omega)]
  have hwrap := fun (i : Int) (hi' : i = -1 ∨ i = b.n - 1) (fuel : Nat) =>
    @round { b with i := i } hn hi' hcw x hx hfits fuel
  by_cases hfront : b.i = -1
  · obtain ⟨e, j, hfilter, hj, hloop⟩ := hwrap b.i (.inl hfront) b.n
    rw [← hn, ← Nat.two_mul] at hloop
    exact ⟨e, j, b.lowered, hj, hloop, .inr ⟨rfl, hfilter, fun k hk => by omega⟩⟩
  · obtain ⟨k, hk⟩ := Int.eq_ofNat_of_zero_le (show 0 ≤ b.i by omega)
    have hlen : (b.items.drop (k + 1)).length = b.n - (k + 1) := by rw [List.length_drop, hn]
    have hfuel : 2 * b.n = (k + 1 + b.items.length) + (b.items.drop (k + 1)).length := by omega
    rw [hfuel]
    rcases sweep _ b k (k + 1 + b.items.length) hn hk (by omega) rfl with ⟨e, j, hfilter, hj, hloop⟩ | ⟨hnone, hloop⟩
    · exact ⟨e, j, b.cw, hj, hloop, .inl ⟨rfl, k, hk, hfilter⟩⟩
    · obtain ⟨e, j, hfilter, hj, hround⟩ := hwrap (b.n - 1) (.inr rfl) (k + 1)
      refine ⟨e, j, b.lowered, hj, hloop.trans hround, .inr ⟨rfl, hfilter, fun k' hk' => ?_⟩⟩
      obtain rfl : k' = k := by omega
      exact hnone

/-! ## Calls of the round robin -/

/-- The numbers of the round robin are those of its items. -/
structure RoundRobinWeighted.Consistent (b : RoundRobinWeighted) : Prop where
  n : b.n = b.items.length
  gcd : b.gcd = gcdOf b.items
  maxWeight : b.maxWeight = maxOf b.items

/-- What the calls keep, as long as nothing is removed. -/
structure RoundRobinWeighted.Kept (b : RoundRobinWeighted) : Prop extends b.Consistent where
  i : -1 ≤ b.i ∧ (b.i < b.n ∨ b.i = 0)
  cw : b.cw ≤ b.maxWeight

theorem gcdOf_concat (items : List Endpoint) (e : Endpoint) :
    gcdOf (items ++ [e]) = Nat.gcd (gcdOf items) e.weight.toNat := by
  rw [gcdOf, List.foldl_append]
  rfl

theorem maxOf_concat (items : List Endpoint) (e : Endpoint) :
    maxOf (items ++ [e]) = max (maxOf items) e.weight.toNat := by
  rw [maxOf, List.foldl_append]
  rfl

theorem maxOf_of_gcdOf (h : gcdOf items = 0) : maxOf items = 0 := by
  by_contra hne
  obtain ⟨e, he, hmax⟩ := exists_maxOf (Nat.pos_of_ne_zero hne)
  have hdvd := gcdOf_dvd he
  rw [h, Nat.zero_dvd] at hdvd
  omega

theorem RoundRobinWeighted.Kept.moved (h : b.Kept) {i : Int} {cw : Nat} (hi : -1 ≤ i ∧ (i < b.n ∨ i = 0))
    (hcw : cw ≤ b.maxWeight) : ({ b with i := i, cw := cw } : RoundRobinWeighted).Kept :=
  ⟨⟨h.n, h.gcd, h.maxWeight⟩, hi, hcw⟩

theorem kept_start : ({} : RoundRobinWeighted).Kept := ⟨⟨rfl, rfl, rfl⟩, by decide, Nat.le_refl 0⟩

theorem RoundRobinWeighted.Kept.add (h : b.Kept) (e : Endpoint) : (b.add e).Kept := by
  have hi := h.i
  have hcw := h.cw
  unfold RoundRobinWeighted.add RoundRobinWeighted.weigh
  split
  · exact h
  have hn : b.n + 1 = (b.items ++ [e]).length := by
    rw [List.length_append, h.n]
    rfl
  have hi' : -1 ≤ b.i ∧ (b.i < ((b.n + 1 : Nat) : Int) ∨ b.i = 0) := by omega
  split
  · refine ⟨⟨hn, ?_, ?_⟩, hi', hcw⟩
    · rw [gcdOf_concat, show e.weight.toNat = 0 by omega, Nat.gcd_zero_right]
      exact h.gcd
    · rw [maxOf_concat, show e.weight.toNat = 0 by omega, Nat.max_zero]
      exact h.maxWeight
  split
  · rename_i hgcd
    have hzero : gcdOf b.items = 0 := h.gcd.symm.trans hgcd
    refine ⟨⟨hn, ?_, ?_⟩, ⟨Int.le_refl _, .inl ?_⟩, Nat.zero_le _⟩
    · rw [gcdOf_concat, hzero, Nat.gcd_zero_left]
    · rw [maxOf_concat, maxOf_of_gcdOf hzero, Nat.zero_max]
    · exact Int.lt_of_lt_of_le (show (-1 : Int) < 0 by decide) (Int.natCast_nonneg _)
  · refine ⟨⟨hn, ?_, ?_⟩, hi', ?_⟩
    · show LoadBalance.gcd b.gcd e.weight.toNat = gcdOf (b.items ++ [e])
      rw [gcdOf_concat, ← h.gcd, gcd_eq (by omega)]
    · show (if b.maxWeight < e.weight.toNat then e.weight.toNat else b.maxWeight) = maxOf (b.items ++ [e])
      rw [maxOf_concat, ← h.maxWeight]
      split <;> omega
    · show b.cw ≤ if b.maxWeight < e.weight.toNat then e.weight.toNat else b.maxWeight
      split <;> omega

/-- The answer is an item, or none where no item has a positive weight. -/
def Answer.Fine (items : List Endpoint) : Answer → Prop
  | .got (some e) => e ∈ items
  | .got none => ∀ e ∈ items, e.weight ≤ 0
  | .done => True
  | _ => False

theorem next_weightless (h : b.Kept) (h2 : 2 ≤ b.n) (hmax : b.maxWeight = 0) :
    (b.next.2).Kept ∧ b.next.1.Fine b.items := by
  have hcw := h.cw
  have hi := h.i
  have hn := h.n
  obtain ⟨first, hfirst⟩ : ∃ e, b.items[0]? = some e := ⟨_, List.getElem?_eq_getElem (by omega)⟩
  have hlight : ∀ e ∈ b.items, e.weight ≤ 0 := by
    intro e he
    have hle := le_maxOf he
    rw [← h.maxWeight, hmax] at hle
    omega
  have hlowered : b.lowered = 0 := by
    unfold RoundRobinWeighted.lowered
    rw [if_pos (by omega), hmax]
  have hend : ∀ fuel, ({ b with i := b.n - 1 } : RoundRobinWeighted).loop (fuel + 1) =
      (.got none, { b with i := 0, cw := 0 }) := by
    intro fuel
    have hturn := @turn_wrap { b with i := b.n - 1 } first (.inr rfl) hfirst
    rw [RoundRobinWeighted.loop, hturn, show ({ b with i := b.n - 1 } : RoundRobinWeighted).lowered = 0 from hlowered]
    rfl
  have hstop : ({ b with i := 0, cw := 0 } : RoundRobinWeighted).Kept := h.moved ⟨by decide, .inr rfl⟩ (Nat.zero_le _)
  unfold RoundRobinWeighted.next
  rw [if_neg (by omega), if_neg (by omega)]
  by_cases hfront : b.i = -1
  · have hturn := turn_wrap (.inl hfront) hfirst
    rw [show 2 * b.n = 2 * b.n - 1 + 1 by omega, RoundRobinWeighted.loop, hturn, hlowered]
    exact ⟨hstop, hlight⟩
  · obtain ⟨k, hk⟩ := Int.eq_ofNat_of_zero_le (show 0 ≤ b.i by omega)
    have hlen : (b.items.drop (k + 1)).length = b.n - (k + 1) := by rw [List.length_drop, hn]
    rw [show 2 * b.n = (k + b.n + 1) + (b.items.drop (k + 1)).length by omega]
    rcases sweep _ b k (k + b.n + 1) hn hk (by omega) rfl with ⟨e, j, -, hj, hloop⟩ | ⟨-, hloop⟩
    · have hlt := (List.getElem?_eq_some_iff.mp hj).1
      rw [hloop]
      exact ⟨h.moved ⟨by omega, .inl (by omega)⟩ hcw, List.mem_of_getElem? hj⟩
    · rw [hloop, hend]
      exact ⟨hstop, hlight⟩

theorem lowered_fits (h : b.Kept) (hmax : b.maxWeight ≠ 0) :
    b.lowered ≠ 0 ∧ b.lowered ≤ b.maxWeight ∧ ∃ x ∈ b.items, fits b.lowered x = true := by
  have hcw := h.cw
  obtain ⟨x, hx, hweight⟩ := exists_maxOf (show 0 < maxOf b.items by rw [← h.maxWeight]; omega)
  rw [← h.maxWeight] at hweight
  have hle : b.lowered ≠ 0 ∧ b.lowered ≤ b.maxWeight := by
    unfold RoundRobinWeighted.lowered
    split <;> omega
  refine ⟨hle.1, hle.2, x, hx, ?_⟩
  unfold fits
  rw [decide_eq_true_eq, hweight]
  omega

theorem RoundRobinWeighted.Kept.next (h : b.Kept) : (b.next.2).Kept ∧ b.next.1.Fine b.items := by
  have hn := h.n
  have hi := h.i
  by_cases h0 : b.n = 0
  · rw [RoundRobinWeighted.next, if_pos h0]
    refine ⟨h, fun e he => ?_⟩
    rw [List.eq_nil_of_length_eq_zero (hn.symm.trans h0)] at he
    cases he
  by_cases h1 : b.n = 1
  · rw [RoundRobinWeighted.next, if_neg h0, if_pos h1, List.getElem?_eq_getElem (show 0 < b.items.length by omega)]
    exact ⟨h, List.getElem_mem _⟩
  by_cases hmax : b.maxWeight = 0
  · exact next_weightless h (by omega) hmax
  · obtain ⟨hcw, hle, x, hx, hfits⟩ := lowered_fits h hmax
    obtain ⟨e, j, cw, hj, hnext, hround⟩ := next_round hn (by omega) (by omega) hcw hx hfits
    have hlt := (List.getElem?_eq_some_iff.mp hj).1
    have hcw' : cw ≤ b.maxWeight := by
      rcases hround with ⟨rfl, -⟩ | ⟨rfl, -⟩
      · exact h.cw
      · exact hle
    rw [hnext]
    exact ⟨h.moved ⟨by omega, .inl (by omega)⟩ hcw', List.mem_of_getElem? hj⟩

/-! ## Sequences of calls -/

/-- The call is one of the sequences in question: what is removed is there. -/
def Act.Present (items : List Endpoint) : Act → Prop
  | .removeItem endpoint => itemExists items endpoint = true
  | _ => True

def RoundRobinWeighted.Owes (b : RoundRobinWeighted) (a : Act) : Prop :=
  a.Present b.items → (b.step a).2.Consistent ∧ (b.step a).1.Fine b.items

/-- The calls with which the round robin stays consistent. -/
def RoundRobinWeighted.Harmless (b : RoundRobinWeighted) : Act → Prop
  | .removeItem endpoint => itemExists b.items endpoint = false
  | _ => True

/-- The numbers of the random choice are those of its items. -/
structure RandomWeighted.Consistent (b : RandomWeighted) : Prop where
  n : b.n = b.items.length
  sumOfWeights : b.sumOfWeights = sumOf b.items

def RandomWeighted.Owes (b : RandomWeighted) (a : Act) : Prop :=
  a.Present b.items → (b.step a).2.Consistent ∧ (b.step a).1.Fine b.items

/-- The calls with which the random choice stays consistent: no removal, sums that fit, a positive sum of weights. -/
def RandomWeighted.Harmless (b : RandomWeighted) : Act → Prop
  | .add e => itemExists b.items e = true ∨ -2 ^ 63 ≤ sumOf b.items + e.weight ∧ sumOf b.items + e.weight < 2 ^ 63
  | .removeItem endpoint => itemExists b.items endpoint = false
  | .removeAll => b.items = []
  | .next _ => 0 < sumOf b.items ∨ ∀ e ∈ b.items, e.weight ≤ 0

theorem removeFrom_cases (items : List Endpoint) (endpoint : Endpoint) :
    (itemExists items endpoint = false ∧ removeFrom items endpoint = none) ∨
      (itemExists items endpoint = true ∧ ∃ left, removeFrom items endpoint = some left ∧
        left.length + 1 = items.length) := by
  unfold removeFrom
  cases h : itemExists items endpoint with
  | false => exact .inl ⟨rfl, rfl⟩
  | true =>
    refine .inr ⟨rfl, _, rfl, ?_⟩
    obtain ⟨e, he, hname⟩ := List.any_eq_true.mp h
    rw [List.length_eraseP_of_mem he hname]
    have := List.length_pos_of_mem he
    omega

theorem RoundRobinWeighted.Kept.step (h : b.Kept) (a : Act) : (b.Owes a ↔ b.Harmless a) ∧
    (b.Harmless a → (b.step a).2.Kept) := by
  cases a with
  | add e => exact ⟨iff_of_true (fun _ => ⟨(h.add e).toConsistent, trivial⟩) trivial, fun _ => h.add e⟩
  | next draw => exact ⟨iff_of_true (fun _ => ⟨h.next.1.toConsistent, h.next.2⟩) trivial, fun _ => h.next.1⟩
  | removeAll =>
    have hempty : RoundRobinWeighted.removeAll.Kept := ⟨⟨rfl, rfl, rfl⟩, by decide, Nat.le_refl 0⟩
    exact ⟨iff_of_true (fun _ => ⟨hempty.toConsistent, trivial⟩) trivial, fun _ => hempty⟩
  | removeItem e =>
    simp only [Owes, Harmless, RoundRobinWeighted.step]
    rcases removeFrom_cases b.items e with ⟨hno, hnone⟩ | ⟨hyes, left, hleft, hlen⟩
    · rw [hnone]
      exact ⟨iff_of_true (fun hpresent => by rw [Act.Present, hno] at hpresent; cases hpresent) hno, fun _ => h⟩
    · rw [hleft]
      refine ⟨iff_of_false (fun howes => ?_) (by rw [hyes]; decide), fun hno => by rw [hyes] at hno; cases hno⟩
      have hcount : b.n = left.length := (howes hyes).1.n
      have hn := h.n
      omega

theorem wrapping_eq_self {x : Int} : wrapping x = x ↔ -2 ^ 63 ≤ x ∧ x < 2 ^ 63 := by
  unfold wrapping Int.bmod
  dsimp only
  split <;> omega

theorem sumOf_concat (items : List Endpoint) (e : Endpoint) : sumOf (items ++ [e]) = sumOf items + e.weight := by
  simp [sumOf]

theorem pick_mem (all : List Endpoint) (hne : all ≠ []) (items : List Endpoint) (hsub : items ⊆ all) (r : Int) :
    ∃ e ∈ all, RandomWeighted.pick all items r = some e := by
  induction items generalizing r with
  | nil => exact ⟨all.getLast hne, List.getLast_mem hne, List.getLast?_eq_some_getLast hne⟩
  | cons e items ih =>
    rw [List.cons_subset] at hsub
    unfold RandomWeighted.pick
    dsimp only
    split
    · exact ⟨e, hsub.1, rfl⟩
    · exact ih hsub.2 _

theorem RandomWeighted.Consistent.step {b : RandomWeighted} (h : b.Consistent) (a : Act) :
    (b.Owes a ↔ b.Harmless a) ∧ (b.Harmless a → (b.step a).2.Consistent) := by
  have hn := h.n
  have hsum := h.sumOfWeights
  cases a with
  | add e =>
    simp only [Owes, Harmless, RandomWeighted.step, RandomWeighted.add]
    cases hexists : itemExists b.items e with
    | true => exact ⟨iff_of_true (fun _ => ⟨h, trivial⟩) (.inl rfl), fun _ => h⟩
    | false =>
      have hiff : RandomWeighted.Consistent ⟨b.items ++ [e], b.n + 1, wrapping (b.sumOfWeights + e.weight)⟩ ↔
          -2 ^ 63 ≤ sumOf b.items + e.weight ∧ sumOf b.items + e.weight < 2 ^ 63 := by
        rw [← wrapping_eq_self, ← sumOf_concat, sumOf_concat, ← hsum]
        constructor
        · intro hc
          exact hc.sumOfWeights.trans (by rw [sumOf_concat, hsum])
        · intro hfits
          refine ⟨?_, hfits.trans (by rw [sumOf_concat, hsum])⟩
          rw [List.length_append, hn]
          rfl
      rw [or_iff_right (by decide), ← hiff]
      exact ⟨⟨fun howes => (howes trivial).1, fun hc _ => ⟨hc, trivial⟩⟩, id⟩
  | removeItem e =>
    simp only [Owes, Harmless, RandomWeighted.step]
    rcases removeFrom_cases b.items e with ⟨hno, hnone⟩ | ⟨hyes, left, hleft, hlen⟩
    · rw [hnone]
      exact ⟨iff_of_true (fun hpresent => by rw [Act.Present, hno] at hpresent; cases hpresent) hno, fun _ => h⟩
    · rw [hleft]
      refine ⟨iff_of_false (fun howes => ?_) (by rw [hyes]; decide), fun hno => by rw [hyes] at hno; cases hno⟩
      have hcount : b.n = left.length := (howes hyes).1.n
      omega
  | removeAll =>
    simp only [Owes, Harmless, RandomWeighted.step]
    have hiff : RandomWeighted.Consistent { b with items := [] } ↔ b.items = [] := by
      constructor
      · intro hc
        have hzero : b.n = ([] : List Endpoint).length := hc.n
        exact List.eq_nil_of_length_eq_zero (by simpa [hzero] using hn.symm)
      · intro hempty
        rw [← hempty]
        exact h
    rw [← hiff]
    exact ⟨⟨fun howes => (howes trivial).1, fun hc _ => ⟨hc, trivial⟩⟩, id⟩
  | next draw =>
    simp only [Owes, Harmless, RandomWeighted.step, RandomWeighted.next]
    refine ⟨?_, fun _ => h⟩
    split
    · rename_i hnone
      have hlow : ¬0 < sumOf b.items ∨ b.items = [] := by
        rcases hnone with hzero | hle
        · exact .inr (List.eq_nil_of_length_eq_zero (by simpa [hzero] using hn.symm))
        · exact .inl (by omega)
      rcases hlow with hlow | hempty
      · exact ⟨fun howes => .inr (howes trivial).2, fun hor _ => ⟨h, (or_iff_right hlow).mp hor⟩⟩
      · rw [hempty]
        exact iff_of_true (fun _ => ⟨h, nofun⟩) (.inr nofun)
    · rename_i hsome
      obtain ⟨hne, hpos⟩ := not_or.mp hsome
      have hitems : b.items ≠ [] := by
        intro hempty
        rw [hempty] at hn
        exact hne hn
      obtain ⟨e, he, hpick⟩ := pick_mem b.items hitems b.items (List.Subset.refl _) (draw % b.sumOfWeights + 1)
      rw [hpick]
      exact iff_of_true (fun _ => ⟨h, he⟩) (.inl (by omega))

/-- **Consistency.**  Over any sequence of calls a balancer keeps its numbers and gives what it should exactly when
    every call is harmless. -/
theorem balancers_consistent (as : List Act) : ((∀ e ∈ entries RoundRobinWeighted.step {} as, e.pre.Owes e.act) ↔
      Meets RoundRobinWeighted.step RoundRobinWeighted.Harmless {} as) ∧
    ((∀ e ∈ entries RandomWeighted.step {} as, e.pre.Owes e.act) ↔
      Meets RandomWeighted.step RandomWeighted.Harmless {} as) :=
  ⟨forall_entries_iff_meets RoundRobinWeighted.Kept (fun _ a h => (h.step a).1) (fun _ a h => (h.step a).2) kept_start,
    forall_entries_iff_meets RandomWeighted.Consistent (fun _ a h => (h.step a).1) (fun _ a h => (h.step a).2)
      ⟨rfl, rfl⟩⟩

def heavy : Endpoint := ⟨"mysql", 1, "a", "db", "root", "root", "127.0.0.1:3307"⟩

def light : Endpoint := ⟨"mysql", 0, "b", "db", "root", "root", "127.0.0.1:3308"⟩

/-- Once an item is removed, the other number of items is still counted with, and the index runs past the end. -/
theorem removed_item_is_counted : ¬ ∀ (as : List Act), (∀ e ∈ entries RoundRobinWeighted.step {} as, e.pre.Owes e.act) ∧
      ∀ e ∈ entries RandomWeighted.step {} as, e.pre.Owes e.act := by
  intro h
  have hlast := (h [.add heavy, .add light, .next 0, .removeItem light, .next 0]).1 _ (last_mem_entries
    RoundRobinWeighted.step {} [.add heavy, .add light, .next 0, .removeItem light] (.next 0)) trivial
  have hpanics : ((final RoundRobinWeighted.step {} [.add heavy, .add light, .next 0, .removeItem light]).step
      (.next 0)).1 = .panics := by decide
  rw [Entry.pre, hpanics] at hlast
  exact hlast.2

end DataNexus.LoadBalance
