/-
  When the healthy replicas are kept, for every order in which the reports are iterated.

  1. **One bad address.**  All removals are at one index and take the stretch behind it: right when the endpoints with
     that address stand there and the removals are as many as they (`Stretch`).

  2. **Several bad addresses.**  There is always an order that goes wrong: one that ends with an index other than `0`, one
     that ends with a refresh, or else an ascending or a descending one (`ascending_or_descending_ne_filter`).

  `keeps_healthy_iff` puts these together.
-/
import DataNexus.Discovery.Touches

namespace DataNexus.Discovery

open DataNexus.Removal

/-! ## The removals of a run -/

/-- The indices that one look at the lag removes. -/
def lagRemovals (mha : MasterHighAvailability) (rw : ReadWriteEndpoint) (st : Statuses)
    (lagKeys : List String) : List Nat :=
  (lagKeys.filter (st.lagging mha)).map rw.idx

/-- The indices that one entry of the pings removes, when a look at the lag removes `lagged`. -/
def pingRemovals (rw : ReadWriteEndpoint) (st : Statuses) (lagged : List Nat) (addr : String) : List Nat :=
  match st.ping addr with
  | .pingOk => lagged
  | .pingNotOk => [rw.idx addr]

/-- The indices that one entry of the connections removes, when the pings remove `pinged`. -/
def connectRemovals (rw : ReadWriteEndpoint) (st : Statuses) (pinged : List Nat) (addr : String) : List Nat :=
  match st.connect addr with
  | .connected => pinged
  | .disconnected => [rw.idx addr]

section
variable {mha : MasterHighAvailability} {rw : ReadWriteEndpoint} {st : Statuses}

theorem removals_flatMap {α : Type} (f : α → List Touch) (xs : List α) :
    removals (xs.flatMap f) = xs.flatMap fun x => removals (f x) := by
  induction xs with
  | nil => rfl
  | cons x xs ih => rw [List.flatMap_cons, List.flatMap_cons, removals_append, ih]

theorem removals_lagTouches (lagKeys : List String) :
    removals (lagTouches mha rw st lagKeys) = lagRemovals mha rw st lagKeys := by
  unfold lagTouches lagRemovals Statuses.lagging
  cases mha.replicationLagEnabled with
  | false => simp [removals]
  | true =>
    cases st.lag with
    | none => simp [removals]
    | some lag =>
      rw [if_pos rfl]
      induction lagKeys with
      | nil => rfl
      | cons addr lagKeys ih =>
        cases hlat : (lag addr).isLatency with
        | true => simpa [removals, hlat] using ih
        | false => simpa [removals, hlat] using ih

theorem removals_touches (connectKeys pingKeys lagKeys : List String) :
    removals (touches mha rw st connectKeys pingKeys lagKeys) = connectKeys.flatMap (connectRemovals rw st
        (pingKeys.flatMap (pingRemovals rw st (lagRemovals mha rw st lagKeys)))) := by
  unfold touches
  rw [removals_flatMap]
  refine congrArg (List.flatMap · connectKeys) (funext fun c => ?_)
  unfold connectTouches connectRemovals
  cases st.connect c with
  | disconnected => rfl
  | connected =>
    show removals (pingKeys.flatMap _) = _
    rw [removals_flatMap]
    refine congrArg (List.flatMap · pingKeys) (funext fun p => ?_)
    unfold pingTouches pingRemovals
    cases st.ping p with
    | pingNotOk => rfl
    | pingOk => exact removals_lagTouches lagKeys

def Statuses.lagSeen (st : Statuses) (mha : MasterHighAvailability) (rw : ReadWriteEndpoint) : Prop :=
  mha.replicationLagEnabled = true ∧ st.lag.isSome = true ∧
    (∃ addr ∈ rw.addrs, st.connect addr = .connected) ∧ ∃ addr ∈ rw.addrs, st.ping addr = .pingOk

variable {connectKeys pingKeys lagKeys : List String} {p : String → Bool} {a b good : String} {ts : List Touch}
  {xs : List Endpoint}

theorem of_refresh_mem (hc : OrderOf rw.addrs connectKeys) (hp : OrderOf rw.addrs pingKeys)
    (hl : OrderOf rw.addrs lagKeys) {addr : String}
    (h : .refresh addr ∈ touches mha rw st connectKeys pingKeys lagKeys) :
    addr ∈ rw.addrs ∧ st.lagging mha addr = false ∧ st.lagSeen mha rw := by
  obtain ⟨c, hcin, h⟩ := List.mem_flatMap.mp h
  unfold connectTouches at h
  cases hcs : st.connect c with
  | disconnected =>
    rw [hcs] at h
    simp at h
  | connected =>
    rw [hcs] at h
    obtain ⟨p, hpin, h⟩ := List.mem_flatMap.mp h
    unfold pingTouches at h
    cases hps : st.ping p with
    | pingNotOk =>
      rw [hps] at h
      simp at h
    | pingOk =>
      rw [hps] at h
      simp only [lagTouches] at h
      split at h
      · rename_i henabled
        cases hst : st.lag with
        | none =>
          rw [hst] at h
          simp at h
        | some lag =>
          rw [hst] at h
          obtain ⟨a, hain, ha⟩ := List.mem_map.mp h
          split at ha
          · cases ha
          · rename_i hlat
            cases ha
            refine ⟨(hl.2 addr).mp hain, ?_, henabled, by rw [hst]; rfl, ⟨c, (hc.2 c).mp hcin, hcs⟩,
              ⟨p, (hp.2 p).mp hpin, hps⟩⟩
            simp [Statuses.lagging, hst, hlat]
      · simp at h

theorem exists_kept {addr : String} (hin : addr ∈ rw.addrs) (h : st.healthy mha addr = true) :
    ∃ e ∈ rw.read.filter fun e => st.healthy mha e.addr, e.addr = addr := by
  obtain ⟨e, he, rfl⟩ := List.mem_map.mp hin
  exact ⟨e, List.mem_filter.mpr ⟨he, h⟩, rfl⟩

/-! ## One bad address -/

/-- How many addresses are reported with a status. -/
def ReadWriteEndpoint.count (rw : ReadWriteEndpoint) (p : String → Bool) : Nat := rw.addrs.dedup.countP p

/-- How often an address is taken out: once if disconnected, else once per peer that does not answer or lags. -/
def Statuses.removalsOf (st : Statuses) (mha : MasterHighAvailability) (rw : ReadWriteEndpoint) (addr : String) : Nat :=
  (if st.connect addr = .disconnected then 1 else 0) +
    rw.count (fun a => st.connect a == .connected) *
      ((if st.ping addr = .pingNotOk then 1 else 0) +
        rw.count (fun a => st.ping a == .pingOk) * (if st.lagging mha addr then 1 else 0))

/-- One address is to be taken out: its endpoints stand together, as many as the removals, and it lags if that is asked. -/
structure Stretch (mha : MasterHighAvailability) (rw : ReadWriteEndpoint) (st : Statuses) (addr : String) :
    Prop where
  bad : st.healthy mha addr = false
  parts : ∃ pre bad post, rw.read = pre ++ bad ++ post ∧ (∀ e ∈ pre ++ post, st.healthy mha e.addr = true) ∧
    (∀ e ∈ bad, e.addr = addr) ∧ bad ≠ [] ∧ bad.length = st.removalsOf mha rw addr
  lagging : st.lagSeen mha rw → st.lagging mha addr = true

theorem flatMap_replicate {p : String → Bool} {a b i : Nat} {f : String → List Nat} {keys : List String}
    (ht : ∀ k ∈ keys, p k = true → f k = List.replicate a i) (hf : ∀ k ∈ keys, p k = false → f k = List.replicate b i) :
    keys.flatMap f = List.replicate (keys.countP (fun k => !p k) * b + keys.countP p * a) i := by
  induction keys with
  | nil => simp
  | cons k keys ih =>
    have hrest := ih (fun k' hk' => ht k' (List.mem_cons_of_mem k hk'))
      (fun k' hk' => hf k' (List.mem_cons_of_mem k hk'))
    cases hk : p k with
    | true =>
      rw [List.flatMap_cons, ht k List.mem_cons_self hk, hrest, List.replicate_append_replicate]
      congr 1
      simp only [List.countP_cons, hk, Bool.not_true, if_true, Nat.add_mul]
      simp
      omega
    | false =>
      rw [List.flatMap_cons, hf k List.mem_cons_self hk, hrest, List.replicate_append_replicate]
      congr 1
      simp only [List.countP_cons, hk, Bool.not_false, if_true, Nat.add_mul]
      simp
      omega

theorem countP_single {keys : List String} {addr : String} (hnodup : keys.Nodup) (hin : addr ∈ keys)
    (honly : ∀ a ∈ keys, p a = true → a = addr) : keys.countP p = if p addr then 1 else 0 := by
  cases hp : p addr with
  | false =>
    rw [if_neg (by simp), List.countP_eq_zero]
    intro a ha hpa
    have := honly a ha hpa
    subst this
    rw [hp] at hpa
    cases hpa
  | true =>
    rw [if_pos rfl, ← List.count_eq_one_of_mem hnodup hin]
    refine List.countP_congr fun a ha => ?_
    constructor
    · intro hpa
      simpa using honly a ha hpa
    · intro heq
      have : a = addr := by simpa using heq
      subst this
      exact hp

theorem OrderOf.perm {addrs keys : List String} (h : OrderOf addrs keys) : keys.Perm addrs.dedup := by
  refine (List.perm_ext_iff_of_nodup h.1 (List.nodup_dedup addrs)).mpr fun addr => ?_
  rw [h.2, List.mem_dedup]

theorem orderOf_of_perm {addrs keys : List String} (h : keys.Perm addrs.dedup) : OrderOf addrs keys :=
  ⟨h.nodup_iff.mpr (List.nodup_dedup addrs), fun addr => by rw [h.mem_iff, List.mem_dedup]⟩

/-- **One bad address.**  All removals are at its index, and they are `removalsOf` in number. -/
theorem removals_single {addr : String} (hin : addr ∈ rw.addrs)
    (honly : ∀ a ∈ rw.addrs, st.healthy mha a = false → a = addr) (hc : OrderOf rw.addrs connectKeys)
    (hp : OrderOf rw.addrs pingKeys) (hl : OrderOf rw.addrs lagKeys) :
    removals (touches mha rw st connectKeys pingKeys lagKeys) =
      List.replicate (st.removalsOf mha rw addr) (rw.idx addr) := by
  have hbad : ∀ a ∈ rw.addrs, st.connect a = .disconnected ∨ st.ping a = .pingNotOk ∨ st.lagging mha a = true →
      a = addr := by
    intro a ha hor
    refine honly a ha ?_
    unfold Statuses.healthy
    rcases hor with h | h | h <;> simp [h]
  -- one look at the lag
  have hlag : lagRemovals mha rw st lagKeys =
      List.replicate (if st.lagging mha addr then 1 else 0) (rw.idx addr) := by
    have hcount : lagKeys.countP (st.lagging mha) = if st.lagging mha addr then 1 else 0 :=
      countP_single hl.1 ((hl.2 addr).mpr hin) fun a ha hla => hbad a ((hl.2 a).mp ha) (.inr (.inr hla))
    rw [List.eq_replicate_iff, ← hcount]
    refine ⟨by simp [lagRemovals, List.countP_eq_length_filter], ?_⟩
    intro i hi
    obtain ⟨a, ha, rfl⟩ := List.mem_map.mp hi
    obtain ⟨hain, hla⟩ := List.mem_filter.mp ha
    rw [hbad a ((hl.2 a).mp hain) (.inr (.inr hla))]
  -- the pings, once through
  have hping : pingKeys.flatMap (pingRemovals rw st (lagRemovals mha rw st lagKeys)) =
      List.replicate ((if st.ping addr = .pingNotOk then 1 else 0) +
        rw.count (fun a => st.ping a == .pingOk) * (if st.lagging mha addr then 1 else 0)) (rw.idx addr) := by
    have hnot : pingKeys.countP (fun a => !(st.ping a == .pingOk)) =
        if (!(st.ping addr == .pingOk)) = true then 1 else 0 := by
      refine countP_single hp.1 ((hp.2 addr).mpr hin) fun a ha hpa => hbad a ((hp.2 a).mp ha) (.inr (.inl ?_))
      cases hs : st.ping a with
      | pingOk => simp [hs] at hpa
      | pingNotOk => rfl
    rw [flatMap_replicate (p := fun a => st.ping a == .pingOk) (a := if st.lagging mha addr then 1 else 0) (b := 1)
      (i := rw.idx addr)]
    · rw [hnot, hp.perm.countP_eq]
      congr 1
      unfold ReadWriteEndpoint.count
      cases st.ping addr <;> simp
    · intro a ha hpa
      have hok : st.ping a = .pingOk := by simpa using hpa
      unfold pingRemovals
      rw [hok]
      exact hlag
    · intro a ha hpa
      cases hs : st.ping a with
      | pingOk => simp [hs] at hpa
      | pingNotOk =>
        unfold pingRemovals
        rw [hs, hbad a ((hp.2 a).mp ha) (.inr (.inl hs))]
        rfl
  rw [removals_touches, hping]
  have hnot : connectKeys.countP (fun a => !(st.connect a == .connected)) =
      if (!(st.connect addr == .connected)) = true then 1 else 0 := by
    refine countP_single hc.1 ((hc.2 addr).mpr hin) fun a ha hca => hbad a ((hc.2 a).mp ha) (.inl ?_)
    cases hs : st.connect a with
    | connected => simp [hs] at hca
    | disconnected => rfl
  rw [flatMap_replicate (p := fun a => st.connect a == .connected) (b := 1) (i := rw.idx addr)
    (a := (if st.ping addr = .pingNotOk then 1 else 0) +
      rw.count (fun a => st.ping a == .pingOk) * (if st.lagging mha addr then 1 else 0))]
  · rw [hnot, hc.perm.countP_eq]
    congr 1
    unfold Statuses.removalsOf ReadWriteEndpoint.count
    cases st.connect addr <;> simp
  · intro a ha hca
    have hok : st.connect a = .connected := by simpa using hca
    unfold connectRemovals
    rw [hok]
  · intro a ha hca
    cases hs : st.connect a with
    | connected => simp [hs] at hca
    | disconnected =>
      unfold connectRemovals
      rw [hs, hbad a ((hc.2 a).mp ha) (.inl hs)]
      rfl

theorem idx_of_parts {addr : String} {pre bad post : List Endpoint} (hsplit : rw.read = pre ++ bad ++ post)
    (hpre : ∀ e ∈ pre, e.addr ≠ addr) (hbad : ∀ e ∈ bad, e.addr = addr) (hne : bad ≠ []) :
    rw.idx addr = pre.length := by
  obtain ⟨b, bad, rfl⟩ := List.exists_cons_of_ne_nil hne
  have hb := hbad b List.mem_cons_self
  unfold ReadWriteEndpoint.idx
  rw [hsplit, List.append_assoc, List.findIdx_append, if_neg]
  · simp [List.findIdx_cons, hb]
  · intro hlt
    obtain ⟨e, he, hea⟩ := List.findIdx_lt_length.mp hlt
    exact hpre e he (by simpa using hea)

theorem runTouches_of_stretch {addr : String} (h : Stretch mha rw st addr) (hc : OrderOf rw.addrs connectKeys)
    (hp : OrderOf rw.addrs pingKeys) (hl : OrderOf rw.addrs lagKeys) :
    runTouches (touches mha rw st connectKeys pingKeys lagKeys) rw.read =
      some (rw.read.filter fun e => st.healthy mha e.addr) := by
  obtain ⟨pre, bad, post, hsplit, hgood, hbad, hne, hlen⟩ := h.parts
  have honly : ∀ a ∈ rw.addrs, st.healthy mha a = false → a = addr := by
    intro a ha hunhealthy
    obtain ⟨e, he, rfl⟩ := List.mem_map.mp ha
    rw [hsplit, List.append_assoc] at he
    by_cases hein : e ∈ bad
    · exact hbad e hein
    · have : e ∈ pre ++ post := by
        simp only [List.mem_append] at he ⊢
        tauto
      rw [hgood e this] at hunhealthy
      cases hunhealthy
  have hpre : ∀ e ∈ pre, e.addr ≠ addr := by
    rintro e he rfl
    have := hgood e (List.mem_append_left post he)
    rw [h.bad] at this
    cases this
  have hin : addr ∈ rw.addrs := by
    obtain ⟨b, bad, rfl⟩ := List.exists_cons_of_ne_nil hne
    refine List.mem_map.mpr ⟨b, ?_, hbad b List.mem_cons_self⟩
    rw [hsplit]
    simp
  have hkept : (rw.read.filter fun e => st.healthy mha e.addr) = pre ++ post := by
    rw [hsplit, List.filter_append, List.filter_append,
      List.filter_eq_self.mpr fun e he => hgood e (List.mem_append_left post he),
      List.filter_eq_self.mpr fun e he => hgood e (List.mem_append_right pre he),
      List.filter_eq_nil_iff.mpr fun e he => by rw [hbad e he, h.bad]; simp, List.append_nil]
  refine (runTouches_eq_some_iff ?_).mpr ?_
  · intro a ha
    obtain ⟨hain, hlagging, hseen⟩ := of_refresh_mem hc hp hl ha
    refine exists_kept hain ?_
    cases hhealthy : st.healthy mha a with
    | true => rfl
    | false =>
      have hlag := h.lagging hseen
      rw [← honly a hain hhealthy, hlagging] at hlag
      cases hlag
  · rw [removals_single hin honly hc hp hl, idx_of_parts hsplit hpre hbad hne, ← hlen, hkept]
    refine ⟨fits_replicate ?_, ?_⟩
    · rw [hsplit]
      simp
    · rw [hsplit]
      exact cut_replicate_append pre bad post

theorem runTouches_of_healthy (h : ∀ e ∈ rw.read, st.healthy mha e.addr = true)
    (hc : OrderOf rw.addrs connectKeys) (hp : OrderOf rw.addrs pingKeys) (hl : OrderOf rw.addrs lagKeys) :
    runTouches (touches mha rw st connectKeys pingKeys lagKeys) rw.read =
      some (rw.read.filter fun e => st.healthy mha e.addr) := by
  have haddrs : ∀ a ∈ rw.addrs, st.healthy mha a = true := by
    intro a ha
    obtain ⟨e, he, rfl⟩ := List.mem_map.mp ha
    exact h e he
  refine (runTouches_eq_some_iff ?_).mpr ?_
  · intro a ha
    have hain := (of_refresh_mem hc hp hl ha).1
    exact exists_kept hain (haddrs a hain)
  · have hnone : removals (touches mha rw st connectKeys pingKeys lagKeys) = [] := by
      have hlag : lagRemovals mha rw st lagKeys = [] := by
        unfold lagRemovals
        rw [List.filter_eq_nil_iff.mpr, List.map_nil]
        intro a ha
        simp [(Statuses.healthy_iff.mp (haddrs a ((hl.2 a).mp ha))).2.2]
      rw [removals_touches, List.flatMap_eq_nil_iff]
      intro c hcin
      unfold connectRemovals
      rw [(Statuses.healthy_iff.mp (haddrs c ((hc.2 c).mp hcin))).1]
      show pingKeys.flatMap _ = []
      rw [List.flatMap_eq_nil_iff]
      intro p hpin
      unfold pingRemovals
      rw [(Statuses.healthy_iff.mp (haddrs p ((hp.2 p).mp hpin))).2.1]
      exact hlag
    rw [hnone, List.filter_eq_self.mpr h]
    exact ⟨trivial, rfl⟩

/-! ## Orders of the reports -/

theorem exists_order_ending {addrs : List String} {addr : String} (h : addr ∈ addrs) :
    ∃ front, OrderOf addrs (front ++ [addr]) := by
  refine ⟨addrs.dedup.erase addr, orderOf_of_perm ?_⟩
  exact List.perm_append_comm.trans (List.perm_cons_erase (List.mem_dedup.mpr h)).symm

/-- The addresses that pass a test, by their index. -/
def ReadWriteEndpoint.sorted (rw : ReadWriteEndpoint) (p : String → Bool) : List String :=
  (rw.addrs.dedup.filter p).insertionSort fun a b => rw.idx a ≤ rw.idx b

theorem mem_sorted {addr : String} : addr ∈ rw.sorted p ↔ addr ∈ rw.addrs ∧ p addr = true := by
  unfold ReadWriteEndpoint.sorted
  rw [List.mem_insertionSort, List.mem_filter, List.mem_dedup]

theorem orderOf_sorted (rw : ReadWriteEndpoint) (p : String → Bool) :
    OrderOf rw.addrs (rw.sorted p ++ rw.addrs.dedup.filter fun a => !p a) ∧
      OrderOf rw.addrs ((rw.sorted p).reverse ++ rw.addrs.dedup.filter fun a => !p a) := by
  have hperm : (rw.sorted p ++ rw.addrs.dedup.filter fun a => !p a).Perm rw.addrs.dedup :=
    ((List.perm_insertionSort _ _).append_right _).trans (List.filter_append_perm p _)
  exact ⟨orderOf_of_perm hperm, orderOf_of_perm (((List.reverse_perm _).append_right _).trans hperm)⟩

theorem idx_injective (ha : a ∈ rw.addrs) (hb : b ∈ rw.addrs) (h : rw.idx a = rw.idx b) : a = b := by
  have hat : ∀ c ∈ rw.addrs, ∃ e, rw.read[rw.idx c]? = some e ∧ e.addr = c := by
    intro c hc
    obtain ⟨hlt, heq, -⟩ := List.findIdx?_eq_some_iff_getElem.mp (findIdx?_addr hc)
    exact ⟨_, List.getElem?_eq_getElem hlt, by simpa using heq⟩
  obtain ⟨e, he, rfl⟩ := hat a ha
  obtain ⟨e', he', rfl⟩ := hat b hb
  rw [h, he'] at he
  cases he
  rfl

theorem sorted_ascending (rw : ReadWriteEndpoint) (p : String → Bool) : ((rw.sorted p).map rw.idx).Pairwise (· < ·) := by
  have hle : (rw.sorted p).Pairwise fun a b => rw.idx a ≤ rw.idx b :=
    haveI : Std.Total fun a b : String => rw.idx a ≤ rw.idx b := ⟨fun a b => Nat.le_total _ _⟩
    haveI : IsTrans String fun a b => rw.idx a ≤ rw.idx b := ⟨fun a b c => Nat.le_trans⟩
    List.pairwise_insertionSort _ _
  have hnodup : (rw.sorted p).Nodup := (List.perm_insertionSort _ _).nodup_iff.mpr ((List.nodup_dedup _).filter p)
  rw [List.pairwise_map]
  refine ((List.Pairwise.and_mem.mp hle).and hnodup).imp ?_
  rintro a b ⟨⟨ha, hb, hab⟩, hne⟩
  refine Nat.lt_of_le_of_ne hab fun heq => hne ?_
  exact idx_injective (mem_sorted.mp ha).1 (mem_sorted.mp hb).1 heq

theorem exists_two_sorted {p : String → Bool} {a b : String} (ha : a ∈ rw.addrs) (hb : b ∈ rw.addrs)
    (hpa : p a = true) (hpb : p b = true) (hne : a ≠ b) : ∃ i j is, (rw.sorted p).map rw.idx = i :: j :: is := by
  have hina : a ∈ rw.sorted p := mem_sorted.mpr ⟨ha, hpa⟩
  have hinb : b ∈ rw.sorted p := mem_sorted.mpr ⟨hb, hpb⟩
  cases hs : rw.sorted p with
  | nil =>
    rw [hs] at hina
    cases hina
  | cons c cs =>
    cases cs with
    | nil =>
      rw [hs] at hina hinb
      exact absurd ((List.mem_singleton.mp hina).trans (List.mem_singleton.mp hinb).symm) hne
    | cons d ds => exact ⟨rw.idx c, rw.idx d, ds.map rw.idx, rfl⟩

/-! ## Several bad addresses -/

theorem idx_eq_zero_of_run {i : Nat} (h : runTouches (ts ++ [.remove i]) xs = some []) : i = 0 := by
  rw [runTouches_append] at h
  obtain ⟨ys, -, hlast⟩ := Option.bind_eq_some_iff.mp h
  have hremove : vecRemove ys i = some [] := by
    have hlast' : (vecRemove ys i).bind some = some [] := hlast
    rwa [Option.bind_fun_some] at hlast'
  unfold vecRemove at hremove
  split at hremove
  · rename_i hlt
    cases hnil : ys.eraseIdx i with
    | cons y zs =>
      rw [hnil] at hremove
      cases hremove
    | nil =>
      have := List.length_eraseIdx_of_lt hlt
      rw [hnil] at this
      simp at this
      omega
  · cases hremove

theorem mem_of_run_refresh {addr : String} {ys : List Endpoint}
    (h : runTouches (ts ++ [.refresh addr]) xs = some ys) (hnodup : ys.Nodup) (hne : ys ≠ []) :
    ∃ e ∈ ys, e.addr = addr := by
  rw [runTouches_append] at h
  obtain ⟨zs, -, hlast⟩ := Option.bind_eq_some_iff.mp h
  have hrefresh : (if zs.any (·.addr == addr) then zs else zs ++ zs) = ys := by
    have hlast' : (Touch.run zs (.refresh addr)).bind some = some ys := hlast
    rw [Option.bind_fun_some] at hlast'
    exact Option.some.inj hlast'
  split at hrefresh
  · rename_i hany
    subst hrefresh
    obtain ⟨e, he, hea⟩ := List.any_eq_true.mp hany
    exact ⟨e, he, by simpa using hea⟩
  · subst hrefresh
    cases zs with
    | nil => exact absurd rfl hne
    | cons z zs =>
      rw [List.nodup_append] at hnodup
      exact absurd rfl (hnodup.2.2 z List.mem_cons_self z List.mem_cons_self)

theorem touches_end_remove {addr : String} (hbad : st.healthy mha addr = false) (front pfront lfront : List String) :
    ∃ ts, touches mha rw st (front ++ [addr]) (pfront ++ [addr]) (lfront ++ [addr]) =
      ts ++ [.remove (rw.idx addr)] := by
  have hlast : ∃ ts, connectTouches mha rw st (pfront ++ [addr]) (lfront ++ [addr]) addr =
      ts ++ [.remove (rw.idx addr)] := by
    unfold connectTouches
    cases hc : st.connect addr with
    | disconnected => exact ⟨[], rfl⟩
    | connected =>
      have hping : ∃ ts, pingTouches mha rw st (lfront ++ [addr]) addr = ts ++ [.remove (rw.idx addr)] := by
        unfold pingTouches
        cases hp : st.ping addr with
        | pingNotOk => exact ⟨[], rfl⟩
        | pingOk =>
          have hlag : st.lagging mha addr = true := by
            simpa [Statuses.healthy, hc, hp] using hbad
          unfold Statuses.lagging at hlag
          rw [Bool.and_eq_true] at hlag
          obtain ⟨lag, hst, hlat⟩ : ∃ lag, st.lag = some lag ∧ (lag addr).isLatency = true := by
            cases hst : st.lag with
            | none => simp [hst] at hlag
            | some lag => exact ⟨lag, rfl, by simpa [hst] using hlag.2⟩
          refine ⟨lfront.map fun a => if (lag a).isLatency then .remove (rw.idx a) else .refresh a, ?_⟩
          show lagTouches mha rw st (lfront ++ [addr]) = _
          unfold lagTouches
          rw [if_pos hlag.1, hst]
          simp [hlat]
      obtain ⟨ts, hts⟩ := hping
      refine ⟨pfront.flatMap (pingTouches mha rw st (lfront ++ [addr])) ++ ts, ?_⟩
      show (pfront ++ [addr]).flatMap _ = _
      rw [List.flatMap_append, List.flatMap_singleton, hts, List.append_assoc]
  obtain ⟨ts, hts⟩ := hlast
  refine ⟨front.flatMap (connectTouches mha rw st (pfront ++ [addr]) (lfront ++ [addr])) ++ ts, ?_⟩
  unfold touches
  rw [List.flatMap_append, List.flatMap_singleton, hts, List.append_assoc]

/-- In every order of the reports, the touches leave these endpoints. -/
def Leaves (mha : MasterHighAvailability) (rw : ReadWriteEndpoint) (st : Statuses) (kept : List Endpoint) : Prop :=
  ∀ connectKeys pingKeys lagKeys, OrderOf rw.addrs connectKeys → OrderOf rw.addrs pingKeys → OrderOf rw.addrs lagKeys →
    runTouches (touches mha rw st connectKeys pingKeys lagKeys) rw.read = some kept

/-- If the report on the lag is looked at, it shows what is not healthy. -/
def LagShown (mha : MasterHighAvailability) (rw : ReadWriteEndpoint) (st : Statuses) : Prop :=
  st.lagSeen mha rw → ∀ a ∈ rw.addrs, st.healthy mha a = false → st.lagging mha a = true

theorem eq_of_none_healthy (hrun : Leaves mha rw st [])
    (ha : a ∈ rw.addrs) (hb : b ∈ rw.addrs) (hbada : st.healthy mha a = false)
    (hbadb : st.healthy mha b = false) : a = b := by
  have hzero : ∀ c ∈ rw.addrs, st.healthy mha c = false → rw.idx c = 0 := by
    intro c hc hbad
    obtain ⟨front, horder⟩ := exists_order_ending hc
    obtain ⟨ts, hts⟩ := touches_end_remove hbad front front front
    have hr := hrun _ _ _ horder horder horder
    rw [hts] at hr
    exact idx_eq_zero_of_run hr
  exact idx_injective ha hb ((hzero a ha hbada).trans (hzero b hb hbadb).symm)

theorem lagging_of_seen {kept : List Endpoint} (hkept : kept = rw.read.filter fun e => st.healthy mha e.addr)
    (hnodup : kept.Nodup) (hrun : Leaves mha rw st kept)
    {bad : String} (hg : good ∈ rw.addrs) (hgood : st.healthy mha good = true) (hb : bad ∈ rw.addrs)
    (hbad : st.healthy mha bad = false) (henabled : mha.replicationLagEnabled = true)
    {lag : String → ReplicationLagResponseInner} (hst : st.lag = some lag) : st.lagging mha bad = true := by
  cases hlag : st.lagging mha bad with
  | true => rfl
  | false =>
    exfalso
    have hlat : (lag bad).isLatency = false := by simpa [Statuses.lagging, henabled, hst] using hlag
    obtain ⟨hconnected, hpinged, -⟩ := Statuses.healthy_iff.mp hgood
    obtain ⟨front, horder⟩ := exists_order_ending hg
    obtain ⟨lfront, hlorder⟩ := exists_order_ending hb
    -- connections and pings end with the good address, the report on the lag with the bad one
    have hend : ∃ ts, touches mha rw st (front ++ [good]) (front ++ [good]) (lfront ++ [bad]) =
        ts ++ [.refresh bad] := by
      refine ⟨front.flatMap (connectTouches mha rw st (front ++ [good]) (lfront ++ [bad])) ++
        (front.flatMap (pingTouches mha rw st (lfront ++ [bad])) ++
          lfront.map fun a => if (lag a).isLatency then .remove (rw.idx a) else .refresh a), ?_⟩
      have hlast : connectTouches mha rw st (front ++ [good]) (lfront ++ [bad]) good =
          front.flatMap (pingTouches mha rw st (lfront ++ [bad])) ++
            (lfront.map (fun a => if (lag a).isLatency then .remove (rw.idx a) else .refresh a) ++
              [.refresh bad]) := by
        unfold connectTouches
        rw [hconnected]
        show (front ++ [good]).flatMap _ = _
        rw [List.flatMap_append, List.flatMap_singleton]
        congr 1
        unfold pingTouches lagTouches
        rw [hpinged, if_pos henabled, hst]
        simp [hlat]
      unfold touches
      rw [List.flatMap_append, List.flatMap_singleton, hlast]
      simp only [List.append_assoc]
    obtain ⟨ts, hts⟩ := hend
    have hr := hrun _ _ _ horder horder hlorder
    rw [hts] at hr
    obtain ⟨e, he, heg⟩ := exists_kept hg hgood
    have hne : kept ≠ [] := by
      rw [hkept]
      exact List.ne_nil_of_mem he
    obtain ⟨e', he', hea⟩ := mem_of_run_refresh hr hnodup hne
    rw [hkept] at he'
    have := (List.mem_filter.mp he').2
    rw [hea, hbad] at this
    cases this

/-- A run that keeps the healthy replicas leaves what its removals leave, if what is not healthy lags whenever the
    report on the lag is looked at. -/
theorem cut_of_run (hlag : LagShown mha rw st)
    (hc : OrderOf rw.addrs connectKeys) (hp : OrderOf rw.addrs pingKeys) (hl : OrderOf rw.addrs lagKeys)
    (hrun : runTouches (touches mha rw st connectKeys pingKeys lagKeys) rw.read =
      some (rw.read.filter fun e => st.healthy mha e.addr)) :
    Fits (removals (touches mha rw st connectKeys pingKeys lagKeys)) rw.read.length ∧
      cut (removals (touches mha rw st connectKeys pingKeys lagKeys)) rw.read =
        rw.read.filter fun e => st.healthy mha e.addr := by
  refine (runTouches_eq_some_iff ?_).mp hrun
  intro a ha
  obtain ⟨hain, hlagging, hseen⟩ := of_refresh_mem hc hp hl ha
  refine exists_kept hain ?_
  cases hhealthy : st.healthy mha a with
  | true => rfl
  | false =>
    rw [hlag hseen a hain hhealthy] at hlagging
    cases hlagging

theorem filter_sorted (rw : ReadWriteEndpoint) (p : String → Bool) :
    (rw.sorted p ++ rw.addrs.dedup.filter fun a => !p a).filter p = rw.sorted p ∧
      ((rw.sorted p).reverse ++ rw.addrs.dedup.filter fun a => !p a).filter p = (rw.sorted p).reverse := by
  have hrest : (rw.addrs.dedup.filter fun a => !p a).filter p = [] := by
    rw [List.filter_filter, List.filter_eq_nil_iff]
    intro a ha
    simp
  have hself : (rw.sorted p).filter p = rw.sorted p := List.filter_eq_self.mpr fun a ha => (mem_sorted.mp ha).2
  constructor
  · rw [List.filter_append, hrest, hself, List.append_nil]
  · rw [List.filter_append, hrest, List.filter_reverse, hself, List.append_nil]

/-- The blocks of a run: one for each ping that is looked at, one for each disconnected address. -/
def blocks (rw : ReadWriteEndpoint) (st : Statuses) (connectKeys pingKeys : List String) (lagged : List Nat) :
    List (List Nat) :=
  connectKeys.flatMap fun c =>
    match st.connect c with
    | .connected => pingKeys.map (pingRemovals rw st lagged)
    | .disconnected => [[rw.idx c]]

theorem blocks_flatten (connectKeys pingKeys : List String) (lagged : List Nat) :
    (blocks rw st connectKeys pingKeys lagged).flatten =
      connectKeys.flatMap (connectRemovals rw st (pingKeys.flatMap (pingRemovals rw st lagged))) := by
  unfold blocks
  induction connectKeys with
  | nil => rfl
  | cons c connectKeys ih =>
    rw [List.flatMap_cons, List.flatMap_cons, List.flatten_append, ih]
    congr 1
    unfold connectRemovals
    cases st.connect c with
    | connected => exact (List.flatMap_def).symm
    | disconnected => rfl

theorem blocks_reverse (connectKeys pingKeys : List String) (lagged : List Nat) :
    (blocks rw st connectKeys pingKeys lagged).map List.reverse =
      blocks rw st connectKeys pingKeys lagged.reverse := by
  unfold blocks
  rw [List.map_flatMap]
  refine congrArg (List.flatMap · connectKeys) (funext fun c => ?_)
  cases st.connect c with
  | disconnected => rfl
  | connected =>
    show (pingKeys.map (pingRemovals rw st lagged)).map List.reverse = _
    rw [List.map_map]
    refine congrArg (List.map · pingKeys) (funext fun p => ?_)
    show (pingRemovals rw st lagged p).reverse = _
    unfold pingRemovals
    cases st.ping p <;> rfl

theorem blocks_ascending {lagged : List Nat} (h : lagged.Pairwise (· < ·)) (connectKeys pingKeys : List String) :
    ∀ b ∈ blocks rw st connectKeys pingKeys lagged, b.Pairwise (· < ·) := by
  intro b hb
  obtain ⟨c, -, hb⟩ := List.mem_flatMap.mp hb
  cases hc : st.connect c with
  | disconnected =>
    rw [hc] at hb
    obtain rfl := List.mem_singleton.mp hb
    exact List.pairwise_singleton _ _
  | connected =>
    rw [hc] at hb
    obtain ⟨p, -, rfl⟩ := List.mem_map.mp hb
    unfold pingRemovals
    cases st.ping p with
    | pingOk => exact h
    | pingNotOk => exact List.pairwise_singleton _ _

/-- Two addresses that lag, next to a healthy one: looking at the lag upwards and downwards cannot both be right. -/
theorem eq_of_lagging (hlag : LagShown mha rw st)
    (hrun : Leaves mha rw st (rw.read.filter fun e => st.healthy mha e.addr)) (hg : good ∈ rw.addrs)
    (hgood : st.healthy mha good = true) (ha : a ∈ rw.addrs) (hb : b ∈ rw.addrs) (hla : st.lagging mha a = true)
    (hlb : st.lagging mha b = true) : a = b := by
  by_contra hne
  obtain ⟨front, horder⟩ := exists_order_ending hg
  obtain ⟨hup, hdown⟩ := orderOf_sorted rw (st.lagging mha)
  obtain ⟨hfup, hfdown⟩ := filter_sorted rw (st.lagging mha)
  obtain ⟨i, j, is, hK⟩ := exists_two_sorted ha hb hla hlb hne
  have hasc := sorted_ascending rw (st.lagging mha)
  obtain ⟨hconnected, hpinged, -⟩ := Statuses.healthy_iff.mp hgood
  -- the blocks end with the look at the lag that the healthy address leads to
  have hend : ∀ L, blocks rw st (front ++ [good]) (front ++ [good]) L =
      (blocks rw st front (front ++ [good]) L ++ front.map (pingRemovals rw st L)) ++ [L] := by
    intro L
    have hlast : pingRemovals rw st L good = L := by
      unfold pingRemovals
      rw [hpinged]
    have hgoodBlocks : blocks rw st [good] (front ++ [good]) L = front.map (pingRemovals rw st L) ++ [L] := by
      unfold blocks
      rw [List.flatMap_singleton, hconnected]
      show (front ++ [good]).map _ = _
      rw [List.map_append, List.map_singleton, hlast]
    rw [List.append_assoc, ← hgoodBlocks]
    exact List.flatMap_append
  obtain ⟨hfits, hcut⟩ := cut_of_run hlag horder horder hup (hrun _ _ _ horder horder hup)
  obtain ⟨-, hcut'⟩ := cut_of_run hlag horder horder hdown (hrun _ _ _ horder horder hdown)
  rw [removals_touches, ← blocks_flatten] at hfits hcut hcut'
  have hLup : lagRemovals mha rw st (rw.sorted (st.lagging mha) ++
      rw.addrs.dedup.filter fun a => !st.lagging mha a) = i :: j :: is := by
    unfold lagRemovals
    rw [hfup, hK]
  have hLdown : lagRemovals mha rw st ((rw.sorted (st.lagging mha)).reverse ++
      rw.addrs.dedup.filter fun a => !st.lagging mha a) = (i :: j :: is).reverse := by
    unfold lagRemovals
    rw [hfdown, List.map_reverse, hK]
  rw [hK] at hasc
  have hblocks : ∀ blk ∈ blocks rw st (front ++ [good]) (front ++ [good]) (i :: j :: is),
      blk.Pairwise (· < ·) := blocks_ascending hasc _ _
  rw [hLup, hend, List.flatten_append, List.flatten_singleton] at hfits hcut
  rw [hLdown, ← blocks_reverse, hend, List.map_append, List.flatten_append] at hcut'
  rw [hend] at hblocks
  exact ascending_or_descending_ne_filter (fun b' hb' => hblocks b' (List.mem_append_left _ hb')) hasc hfits hcut
    (by simpa using hcut')

theorem flatMap_pingRemovals (rw : ReadWriteEndpoint) (hoff : ∀ a, st.lagging mha a = false) (pingKeys lagKeys : List String) :
    pingKeys.flatMap (pingRemovals rw st (lagRemovals mha rw st lagKeys)) =
      (pingKeys.filter fun a => st.ping a == .pingNotOk).map rw.idx := by
  have hnone : lagRemovals mha rw st lagKeys = [] := by
    unfold lagRemovals
    rw [List.filter_eq_nil_iff.mpr, List.map_nil]
    intro a ha
    simp [hoff a]
  rw [hnone]
  induction pingKeys with
  | nil => rfl
  | cons p pingKeys ih =>
    rw [List.flatMap_cons, ih]
    unfold pingRemovals
    cases hp : st.ping p with
    | pingOk => simp [hp]
    | pingNotOk => simp [hp]

theorem eq_of_pingNotOk (hoff : ∀ a, st.lagging mha a = false) (hseen : ¬ st.lagSeen mha rw)
    (hrun : Leaves mha rw st (rw.read.filter fun e => st.healthy mha e.addr)) (hg : good ∈ rw.addrs)
    (hgood : st.healthy mha good = true) (ha : a ∈ rw.addrs) (hb : b ∈ rw.addrs) (hpa : st.ping a = .pingNotOk)
    (hpb : st.ping b = .pingNotOk) : a = b := by
  by_contra hne
  obtain ⟨front, horder⟩ := exists_order_ending hg
  obtain ⟨hup, hdown⟩ := orderOf_sorted rw fun a => st.ping a == .pingNotOk
  obtain ⟨hfup, hfdown⟩ := filter_sorted rw fun a => st.ping a == .pingNotOk
  obtain ⟨i, j, is, hK⟩ := exists_two_sorted (p := fun a => st.ping a == .pingNotOk) ha hb (by simp [hpa])
    (by simp [hpb]) hne
  have hasc := sorted_ascending rw fun a => st.ping a == .pingNotOk
  have hconnected := (Statuses.healthy_iff.mp hgood).1
  have hpings := flatMap_pingRemovals rw hoff
  -- the blocks: what a connected address leads to, or one index
  have hend : ∀ M, ((front ++ [good]).flatMap (connectRemovals rw st M)) =
      (front.map (connectRemovals rw st M)).flatten ++ M := by
    intro M
    have hlast : connectRemovals rw st M good = M := by
      unfold connectRemovals
      rw [hconnected]
    rw [List.flatMap_append, List.flatMap_singleton, hlast, List.flatMap_def]
  obtain ⟨hfits, hcut⟩ := cut_of_run (fun h => absurd h hseen) horder hup horder (hrun _ _ _ horder hup horder)
  obtain ⟨-, hcut'⟩ := cut_of_run (fun h => absurd h hseen) horder hdown horder (hrun _ _ _ horder hdown horder)
  rw [removals_touches, hpings, hend, hfup, hK] at hfits hcut
  rw [removals_touches, hpings, hend, hfdown, List.map_reverse, hK] at hcut'
  rw [hK] at hasc
  have hblocks : ∀ blk ∈ front.map (connectRemovals rw st (i :: j :: is)), blk.Pairwise (· < ·) := by
    intro blk hblk
    obtain ⟨c, -, rfl⟩ := List.mem_map.mp hblk
    unfold connectRemovals
    cases st.connect c with
    | connected => exact hasc
    | disconnected => exact List.pairwise_singleton _ _
  refine ascending_or_descending_ne_filter hblocks hasc hfits hcut ?_
  rw [← hcut', List.map_map]
  congr 2
  refine congrArg List.flatten (List.map_congr_left fun c hc => ?_)
  show (connectRemovals rw st (i :: j :: is) c).reverse = _
  unfold connectRemovals
  cases st.connect c <;> rfl

theorem eq_of_disconnected (hseen : ¬ st.lagSeen mha rw)
    (hrun : Leaves mha rw st (rw.read.filter fun e => st.healthy mha e.addr)) (ha : a ∈ rw.addrs) (hb : b ∈ rw.addrs)
    (hca : st.connect a = .disconnected) (hcb : st.connect b = .disconnected) : a = b := by
  by_contra hne
  let p : String → Bool := fun a => st.connect a == .disconnected
  obtain ⟨i, j, is, hK⟩ := exists_two_sorted (p := p) ha hb (by simp [p, hca]) (by simp [p, hcb]) hne
  have hasc := sorted_ascending rw p
  obtain ⟨hup, hdown⟩ := orderOf_sorted rw p
  have hd := orderOf_dedup rw.addrs
  -- the connected addresses first, the disconnected ones behind them
  have hback : ∀ keys : List String, OrderOf rw.addrs (keys ++ rw.addrs.dedup.filter fun a => !p a) →
      OrderOf rw.addrs ((rw.addrs.dedup.filter fun a => !p a) ++ keys) :=
    fun keys h => orderOf_of_perm (List.perm_append_comm.trans h.perm)
  have hsorted : ∀ keys : List String, (∀ c ∈ keys, c ∈ rw.sorted p) → ∀ M,
      keys.flatMap (connectRemovals rw st M) = keys.map rw.idx := by
    intro keys hkeys M
    induction keys with
    | nil => rfl
    | cons c keys ih =>
      have hc : st.connect c = .disconnected := by
        simpa [p] using (mem_sorted.mp (hkeys c List.mem_cons_self)).2
      rw [List.flatMap_cons, ih fun c' hc' => hkeys c' (List.mem_cons_of_mem c hc')]
      unfold connectRemovals
      rw [hc]
      rfl
  obtain ⟨hfits, hcut⟩ := cut_of_run (fun h => absurd h hseen) (hback _ hup) hd hd
    (hrun _ _ _ (hback _ hup) hd hd)
  obtain ⟨-, hcut'⟩ := cut_of_run (fun h => absurd h hseen) (hback _ hdown) hd hd
    (hrun _ _ _ (hback _ hdown) hd hd)
  rw [removals_touches, List.flatMap_append, hsorted (rw.sorted p) fun c hc => hc, hK] at hfits hcut
  rw [removals_touches, List.flatMap_append, hsorted (rw.sorted p).reverse fun c hc => List.mem_reverse.mp hc,
    List.map_reverse, hK] at hcut'
  rw [hK] at hasc
  exact last_ascending_or_descending_ne_filter hasc hfits hcut hcut'

/-- A disconnected address and one that does not answer pings, next to a healthy one, when the lag is not looked
    at and there are no others. -/
theorem eq_of_disconnected_pingNotOk (hoff : ∀ a, st.lagging mha a = false) (hseen : ¬ st.lagSeen mha rw)
    (hrun : Leaves mha rw st (rw.read.filter fun e => st.healthy mha e.addr)) (hg : good ∈ rw.addrs)
    (hgood : st.healthy mha good = true) (ha : a ∈ rw.addrs) (hb : b ∈ rw.addrs)
    (hca : st.connect a = .disconnected) (hpb : st.ping b = .pingNotOk)
    (hpings : ∀ c ∈ rw.addrs, st.ping c = .pingNotOk → c = b) : a = b := by
  by_contra hne
  obtain ⟨hconnected, hpinged, -⟩ := Statuses.healthy_iff.mp hgood
  have hd := orderOf_dedup rw.addrs
  have hidx : rw.idx a ≠ rw.idx b := fun h => hne (idx_injective ha hb h)
  -- the pings take out `b`
  have hM : rw.addrs.dedup.flatMap (pingRemovals rw st (lagRemovals mha rw st rw.addrs.dedup)) = [rw.idx b] := by
    rw [flatMap_pingRemovals rw hoff, List.map_eq_singleton_iff]
    refine ⟨b, ?_, rfl⟩
    rw [← List.perm_singleton]
    refine (List.perm_ext_iff_of_nodup ((List.nodup_dedup _).filter _) (List.nodup_singleton b)).mpr fun c => ?_
    rw [List.mem_filter, List.mem_dedup, List.mem_singleton]
    constructor
    · rintro ⟨hc, hpc⟩
      exact hpings c hc (by simpa using hpc)
    · rintro rfl
      exact ⟨hb, by simp [hpb]⟩
  -- the reports on the connections end with `good` and `a`, in either order
  have hga : good ≠ a := by
    rintro rfl
    rw [hconnected] at hca
    cases hca
  obtain ⟨rest, hrest⟩ : ∃ rest, (good :: a :: rest).Perm rw.addrs.dedup := by
    refine ⟨(rw.addrs.dedup.erase good).erase a, ?_⟩
    have hin : a ∈ rw.addrs.dedup.erase good := (List.mem_erase_of_ne hga.symm).mpr (List.mem_dedup.mpr ha)
    exact (((List.perm_cons_erase hin).symm.cons good).trans (List.perm_cons_erase (List.mem_dedup.mpr hg)).symm)
  have horder : OrderOf rw.addrs (rest ++ [good, a]) := orderOf_of_perm (List.perm_append_comm.trans hrest)
  have horder' : OrderOf rw.addrs (rest ++ [a, good]) :=
    orderOf_of_perm ((List.perm_append_comm.trans (List.Perm.swap good a rest)).trans hrest)
  obtain ⟨hfits, hcut⟩ := cut_of_run (fun h => absurd h hseen) horder hd hd (hrun _ _ _ horder hd hd)
  obtain ⟨hfits', hcut'⟩ := cut_of_run (fun h => absurd h hseen) horder' hd hd (hrun _ _ _ horder' hd hd)
  have hremoveGood : connectRemovals rw st [rw.idx b] good = [rw.idx b] := by
    unfold connectRemovals
    rw [hconnected]
  have hremoveA : connectRemovals rw st [rw.idx b] a = [rw.idx a] := by
    unfold connectRemovals
    rw [hca]
  rw [removals_touches, hM, List.flatMap_append, List.flatMap_cons, List.flatMap_singleton, hremoveGood,
    hremoveA] at hfits hcut
  rw [removals_touches, hM, List.flatMap_append, List.flatMap_cons, List.flatMap_singleton, hremoveGood,
    hremoveA] at hfits' hcut'
  have hpair : ∀ k l : Nat, k < l → [k, l].Pairwise (· < ·) := fun k l h => by simp [h]
  rcases Nat.lt_or_gt_of_ne hidx with hlt | hgt
  · exact last_ascending_or_descending_ne_filter (hpair _ _ hlt) hfits' hcut' hcut
  · exact last_ascending_or_descending_ne_filter (hpair _ _ hgt) hfits hcut hcut'

/-- **Several bad addresses.**  Whoever keeps the healthy replicas in every order has one address to take out. -/
theorem eq_of_bad (hlag : LagShown mha rw st)
    (hrun : Leaves mha rw st (rw.read.filter fun e => st.healthy mha e.addr)) (ha : a ∈ rw.addrs) (hb : b ∈ rw.addrs)
    (hbada : st.healthy mha a = false) (hbadb : st.healthy mha b = false) : a = b := by
  by_cases hgood : ∃ good ∈ rw.addrs, st.healthy mha good = true
  · obtain ⟨good, hg, hgood⟩ := hgood
    obtain ⟨hconnected, hpinged, -⟩ := Statuses.healthy_iff.mp hgood
    by_cases hon : mha.replicationLagEnabled = true ∧ st.lag.isSome = true
    · -- the report on the lag is looked at, and both lag
      have hseen : st.lagSeen mha rw := ⟨hon.1, hon.2, ⟨good, hg, hconnected⟩, ⟨good, hg, hpinged⟩⟩
      exact eq_of_lagging hlag hrun hg hgood ha hb (hlag hseen a ha hbada) (hlag hseen b hb hbadb)
    · have hseen : ¬ st.lagSeen mha rw := fun h => hon ⟨h.1, h.2.1⟩
      have hoff : ∀ c, st.lagging mha c = false := by
        intro c
        unfold Statuses.lagging
        cases henabled : mha.replicationLagEnabled with
        | false => rfl
        | true =>
          cases hst : st.lag with
          | none => rfl
          | some lag => exact absurd ⟨henabled, by rw [hst]; rfl⟩ hon
      have hwhy : ∀ c, st.healthy mha c = false → st.connect c = .disconnected ∨ st.ping c = .pingNotOk := by
        intro c hbad
        unfold Statuses.healthy at hbad
        cases hc : st.connect c with
        | disconnected => exact .inl rfl
        | connected =>
          cases hp : st.ping c with
          | pingNotOk => exact .inr rfl
          | pingOk => simp [hc, hp, hoff c] at hbad
      have hpings : ∀ c ∈ rw.addrs, ∀ d ∈ rw.addrs, st.ping c = .pingNotOk → st.ping d = .pingNotOk → c = d :=
        fun c hc d hd => eq_of_pingNotOk hoff hseen hrun hg hgood hc hd
      rcases hwhy a hbada with hca | hpa <;> rcases hwhy b hbadb with hcb | hpb
      · exact eq_of_disconnected hseen hrun ha hb hca hcb
      · exact eq_of_disconnected_pingNotOk hoff hseen hrun hg hgood ha hb hca hpb
          fun c hc hpc => hpings c hc b hb hpc hpb
      · exact (eq_of_disconnected_pingNotOk hoff hseen hrun hg hgood hb ha hcb hpa
          fun c hc hpc => hpings c hc a ha hpc hpa).symm
      · exact hpings a ha b hb hpa hpb
  · have hnone : (rw.read.filter fun e => st.healthy mha e.addr) = [] := by
      rw [List.filter_eq_nil_iff]
      intro e he hhealthy
      exact hgood ⟨e.addr, List.mem_map_of_mem he, hhealthy⟩
    rw [hnone] at hrun
    exact eq_of_none_healthy hrun ha hb hbada hbadb

theorem stretch_of_run (hlag : LagShown mha rw st)
    (hrun : Leaves mha rw st (rw.read.filter fun e => st.healthy mha e.addr))
    {addr : String} (hin : addr ∈ rw.addrs) (hbad : st.healthy mha addr = false) : Stretch mha rw st addr := by
  have honly : ∀ a ∈ rw.addrs, st.healthy mha a = false → a = addr :=
    fun a ha hbada => eq_of_bad hlag hrun ha hin hbada hbad
  have hd := orderOf_dedup rw.addrs
  obtain ⟨hfits, hcut⟩ := cut_of_run hlag hd hd hd (hrun _ _ _ hd hd hd)
  rw [removals_single hin honly hd hd hd] at hfits hcut
  rw [cut_replicate hfits] at hcut
  -- `pre`, `bad`, `post`: before the index, the removals from it on, and the rest
  obtain ⟨i, hi⟩ : ∃ i, rw.idx addr = i := ⟨_, rfl⟩
  obtain ⟨r, hr⟩ : ∃ r, st.removalsOf mha rw addr = r := ⟨_, rfl⟩
  rw [hi, hr] at hfits hcut
  have hsplit : rw.read = rw.read.take i ++ (rw.read.drop i).take r ++ rw.read.drop (i + r) := by
    rw [List.append_assoc, ← List.drop_drop, List.take_append_drop, List.take_append_drop]
  have hgood : ∀ e ∈ rw.read.take i ++ rw.read.drop (i + r), st.healthy mha e.addr = true := by
    intro e he
    rw [hcut] at he
    exact (List.mem_filter.mp he).2
  have hmiddle : ((rw.read.drop i).take r).filter (fun e => st.healthy mha e.addr) = [] := by
    have hfilter := hcut
    rw [hsplit, List.filter_append, List.filter_append, ← hsplit,
      List.filter_eq_self.mpr fun e he => hgood e (List.mem_append_left _ he),
      List.filter_eq_self.mpr fun e he => hgood e (List.mem_append_right _ he)] at hfilter
    have hlen := congrArg List.length hfilter
    simp only [List.length_append] at hlen
    exact List.length_eq_zero_iff.mp (by omega)
  have hbadOnly : ∀ e ∈ (rw.read.drop i).take r, e.addr = addr := by
    intro e he
    have hein : e ∈ rw.read := by
      rw [hsplit]
      exact List.mem_append_left _ (List.mem_append_right _ he)
    refine honly e.addr (List.mem_map_of_mem hein) ?_
    cases hh : st.healthy mha e.addr with
    | false => rfl
    | true => exact absurd hh (List.filter_eq_nil_iff.mp hmiddle e he)
  have hne : (rw.read.drop i).take r ≠ [] := by
    intro hnil
    obtain ⟨e, he, rfl⟩ := List.mem_map.mp hin
    rw [hsplit, hnil, List.append_nil] at he
    rw [hgood e he] at hbad
    cases hbad
  refine ⟨hbad, ⟨_, _, _, hsplit, hgood, hbadOnly, hne, ?_⟩, fun hseen => hlag hseen addr hin hbad⟩
  rw [hr, List.length_take, List.length_drop]
  rcases Nat.eq_zero_or_pos r with hzero | hpos
  · omega
  · have := le_of_fits_replicate hfits hpos
    omega

variable (mha rw st) in
/-- The loops keep exactly the healthy replicas iff none of them is configured twice and either all are healthy or one
    address is to be taken out whose endpoints are a stretch as long as the removals. -/
theorem keeps_healthy_iff : KeepsHealthy mha rw st ↔ (rw.read.filter fun e => st.healthy mha e.addr).Nodup ∧
      ((∀ e ∈ rw.read, st.healthy mha e.addr = true) ∨ ∃ addr, Stretch mha rw st addr) := by
  rw [keepsHealthy_iff_touches]
  constructor
  · rintro ⟨hnodup, hrun⟩
    refine ⟨hnodup, ?_⟩
    by_cases hall : ∀ e ∈ rw.read, st.healthy mha e.addr = true
    · exact .inl hall
    · right
      obtain ⟨e, he, hbad⟩ : ∃ e ∈ rw.read, st.healthy mha e.addr = false := by
        by_contra hnone
        refine hall fun e he => ?_
        cases hh : st.healthy mha e.addr with
        | true => rfl
        | false => exact absurd ⟨e, he, hh⟩ hnone
      have hlag : st.lagSeen mha rw → ∀ a ∈ rw.addrs, st.healthy mha a = false → st.lagging mha a = true := by
        rintro ⟨henabled, hsome, ⟨c, hc, hconnected⟩, ⟨p, hp, hpinged⟩⟩ a ha hbada
        obtain ⟨lag, hst⟩ := Option.isSome_iff_exists.mp hsome
        by_cases hgood : ∃ good ∈ rw.addrs, st.healthy mha good = true
        · obtain ⟨good, hg, hgood⟩ := hgood
          exact lagging_of_seen rfl hnodup hrun hg hgood ha hbada henabled hst
        · -- no replica is healthy, so there is one address, which is connected and answers pings
          have hbadAll : ∀ b ∈ rw.addrs, st.healthy mha b = false := by
            intro b hb
            cases hh : st.healthy mha b with
            | false => rfl
            | true => exact absurd ⟨b, hb, hh⟩ hgood
          have hnone : (rw.read.filter fun e => st.healthy mha e.addr) = [] := by
            rw [List.filter_eq_nil_iff]
            intro e he
            rw [hbadAll e.addr (List.mem_map_of_mem he)]
            simp
          rw [hnone] at hrun
          have hca := eq_of_none_healthy hrun hc ha (hbadAll c hc) hbada
          have hpa := eq_of_none_healthy hrun hp ha (hbadAll p hp) hbada
          rw [hca] at hconnected
          rw [hpa] at hpinged
          cases hl : st.lagging mha a with
          | true => rfl
          | false =>
            rw [Statuses.healthy_iff.mpr ⟨hconnected, hpinged, hl⟩] at hbada
            cases hbada
      exact ⟨e.addr, stretch_of_run hlag hrun (List.mem_map_of_mem he) hbad⟩
  · rintro ⟨hnodup, hall | ⟨addr, hstretch⟩⟩
    · exact ⟨hnodup, fun connectKeys pingKeys lagKeys hc hp hl => runTouches_of_healthy hall hc hp hl⟩
    · exact ⟨hnodup, fun connectKeys pingKeys lagKeys hc hp hl => runTouches_of_stretch hstretch hc hp hl⟩

end

def testReplicas : ReadWriteEndpoint where
  read := [⟨"mysql", 1, "r1", "db", "root", "root", "127.0.0.1:3308"⟩,
    ⟨"mysql", 1, "r2", "db", "root", "root", "127.0.0.1:3309"⟩]
  readwrite := [⟨"mysql", 1, "p", "db", "root", "root", "127.0.0.1:3307"⟩]

/-- A replica that is down takes the other one with it: it is taken out as disconnected and as not answering. -/
theorem one_down_empties :
    ¬ KeepsHealthy ⟨false, false⟩ testReplicas
      ⟨fun addr => if addr = "127.0.0.1:3308" then .disconnected else .connected,
        fun addr => if addr = "127.0.0.1:3308" then .pingNotOk else .pingOk, none⟩ := by
  intro h
  have haddrs : OrderOf testReplicas.addrs ["127.0.0.1:3308", "127.0.0.1:3309"] :=
    ⟨by decide, fun addr => by simp [ReadWriteEndpoint.addrs, testReplicas]⟩
  obtain ⟨curr', hrun, -, hread, -⟩ := h
    ⟨[("127.0.0.1:3308", .disconnected), ("127.0.0.1:3309", .connected)], []⟩
    ⟨[("127.0.0.1:3308", .pingNotOk), ("127.0.0.1:3309", .pingOk)], []⟩ none testReplicas
    ⟨_, haddrs, rfl⟩ ⟨_, haddrs, rfl⟩ trivial rfl
  cases hrun
  revert hread
  decide

end DataNexus.Discovery
