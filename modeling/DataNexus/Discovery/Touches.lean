/-
  What the monitor loop does to the read list (`change_read_if_necessary`).

  A replica should be read from exactly while it accepts connections, answers pings and does not lag (`healthy`).
  The loops take it out by its index in the CONFIGURED list, once per connected replica, and append the current list to
  itself when a replica that does not lag is no longer in it.

  1. **Touches.**  A sequence of removals and refreshes, in the order of the reports (`keepsHealthy_iff_touches`).

  2. **Removals.**  As long as no refresh doubles the list, only the removals count, and these are `Removal.cut`
     (`runTouches_eq_some_iff`).
-/
import DataNexus.Discovery.Reconcile
import Mathlib.Data.List.Dedup
import Mathlib.Data.List.Sort

namespace DataNexus.Discovery

open DataNexus.Removal

/-! ## Statuses, and what should be kept -/

/-- The statuses of the configured endpoints; `lag` is `none` while no report on the lag has come in. -/
structure Statuses where
  connect : String → ConnectStatus
  ping : String → PingStatus
  lag : Option (String → ReplicationLagResponseInner)

/-- The replica is reported to lag, and lag is looked at. -/
def Statuses.lagging (st : Statuses) (mha : MasterHighAvailability) (addr : String) : Bool :=
  mha.replicationLagEnabled && st.lag.any fun lag => (lag addr).isLatency

def Statuses.healthy (st : Statuses) (mha : MasterHighAvailability) (addr : String) : Bool :=
  st.connect addr == .connected && st.ping addr == .pingOk && !st.lagging mha addr

variable {st : Statuses} {mha : MasterHighAvailability} {rw : ReadWriteEndpoint} {lagKeys : List String}
  {xs ys : List Endpoint} {ts : List Touch}

theorem Statuses.healthy_iff {addr : String} : st.healthy mha addr = true ↔
      st.connect addr = .connected ∧ st.ping addr = .pingOk ∧ st.lagging mha addr = false := by
  simp [Statuses.healthy, and_assoc]

def ReadWriteEndpoint.addrs (rw : ReadWriteEndpoint) : List String := rw.read.map (·.addr)

/-- An order in which a map with these keys is iterated. -/
def OrderOf (addrs keys : List String) : Prop := keys.Nodup ∧ ∀ addr, addr ∈ keys ↔ addr ∈ addrs

/-- The entries of a report that gives each of the addresses its status, in some order. -/
def Reports {σ : Type} (addrs : List String) (status : String → σ) (entries : List (String × σ)) : Prop :=
  ∃ keys, OrderOf addrs keys ∧ entries = keys.map fun addr => (addr, status addr)

def ReportsLag (addrs : List String) :
    Option (String → ReplicationLagResponseInner) → Option ReplicationLagMonitorResponse → Prop
  | none, none => True
  | some status, some response => Reports addrs status response.latency
  | _, _ => False

/-- The current read list becomes the healthy replicas in the configured order; nothing else changes. -/
def KeepsHealthy (mha : MasterHighAvailability) (rw : ReadWriteEndpoint) (st : Statuses) : Prop :=
  ∀ connect ping lag curr, Reports rw.addrs st.connect connect.read → Reports rw.addrs st.ping ping.read →
    ReportsLag rw.addrs st.lag lag → curr.read = rw.read →
    ∃ curr', changeReadIfNecessary mha rw (some connect) (some ping) lag curr = some curr' ∧
      curr'.readwrite = curr.readwrite ∧
      curr'.read = rw.read.filter (fun e => st.healthy mha e.addr) ∧ curr'.read.Nodup

/-! ## Touches -/

/-- What the loops do to the read list, one at a time. -/
inductive Touch where
  /-- `read.remove(i)`. -/
  | remove (i : Nat)
  /-- The list is appended to itself if the address is not in it. -/
  | refresh (addr : String)

def Touch.run (xs : List Endpoint) : Touch → Option (List Endpoint)
  | .remove i => vecRemove xs i
  | .refresh addr => some (if xs.any (·.addr == addr) then xs else xs ++ xs)

def runTouches (ts : List Touch) (xs : List Endpoint) : Option (List Endpoint) := ts.foldlM Touch.run xs

/-- The index of an address in the configured list. -/
def ReadWriteEndpoint.idx (rw : ReadWriteEndpoint) (addr : String) : Nat := rw.read.findIdx (·.addr == addr)

/-- The touches of `change_read_by_lag`, for a report iterated along `lagKeys`. -/
def lagTouches (mha : MasterHighAvailability) (rw : ReadWriteEndpoint) (st : Statuses) (lagKeys : List String) :
    List Touch :=
  if mha.replicationLagEnabled then
    match st.lag with
    | some lag => lagKeys.map fun addr => if (lag addr).isLatency then .remove (rw.idx addr) else .refresh addr
    | none => []
  else []

/-- The touches for one entry of the report on the pings. -/
def pingTouches (mha : MasterHighAvailability) (rw : ReadWriteEndpoint) (st : Statuses) (lagKeys : List String)
    (addr : String) : List Touch :=
  match st.ping addr with
  | .pingOk => lagTouches mha rw st lagKeys
  | .pingNotOk => [.remove (rw.idx addr)]

/-- The touches for one entry of the report on the connections. -/
def connectTouches (mha : MasterHighAvailability) (rw : ReadWriteEndpoint) (st : Statuses)
    (pingKeys lagKeys : List String) (addr : String) : List Touch :=
  match st.connect addr with
  | .connected => pingKeys.flatMap (pingTouches mha rw st lagKeys)
  | .disconnected => [.remove (rw.idx addr)]

/-- All touches of `change_read_if_necessary`. -/
def touches (mha : MasterHighAvailability) (rw : ReadWriteEndpoint) (st : Statuses)
    (connectKeys pingKeys lagKeys : List String) : List Touch :=
  connectKeys.flatMap (connectTouches mha rw st pingKeys lagKeys)

theorem runTouches_append (ts us : List Touch) (xs : List Endpoint) :
    runTouches (ts ++ us) xs = (runTouches ts xs).bind (runTouches us) := List.foldlM_append

theorem findIdx?_addr {addr : String} (h : addr ∈ rw.addrs) :
    rw.read.findIdx? (·.addr == addr) = some (rw.idx addr) := by
  obtain ⟨e, he, hea⟩ := List.mem_map.mp h
  rw [List.findIdx?_eq_some_iff_findIdx_eq]
  exact ⟨List.findIdx_lt_length_of_exists ⟨e, he, by simpa using hea⟩, rfl⟩

theorem removeRead_eq {curr : ReadWriteEndpoint} {addr : String} (h : addr ∈ rw.addrs) : removeRead rw addr curr =
      (runTouches [.remove (rw.idx addr)] curr.read).map fun read => { curr with read := read } := by
  unfold removeRead
  rw [findIdx?_addr h]
  show (vecRemove curr.read (rw.idx addr)).bind _ = _
  show _ = ((vecRemove curr.read (rw.idx addr)).bind some).map _
  cases vecRemove curr.read (rw.idx addr) <;> rfl

theorem foldlM_eq_touches {ε : Type} {body : ReadWriteEndpoint → ε → Option ReadWriteEndpoint}
    {touch : ε → List Touch} {entries : List ε} (hbody : ∀ entry ∈ entries, ∀ curr, body curr entry =
      (runTouches (touch entry) curr.read).map fun read => { curr with read := read })
    (curr : ReadWriteEndpoint) :
    entries.foldlM body curr =
      (runTouches (entries.flatMap touch) curr.read).map fun read => { curr with read := read } := by
  induction entries generalizing curr with
  | nil => rfl
  | cons entry entries ih =>
    rw [List.foldlM_cons, List.flatMap_cons, runTouches_append, hbody entry List.mem_cons_self]
    cases hfirst : runTouches (touch entry) curr.read with
    | none => rfl
    | some read =>
      show entries.foldlM body { curr with read := read } = _
      rw [ih (fun e he => hbody e (List.mem_cons_of_mem entry he))]
      rfl

theorem changeReadByLag_eq {lag : Option ReplicationLagMonitorResponse} (horder : OrderOf rw.addrs lagKeys)
    (hlag : lag = st.lag.map fun status => ⟨lagKeys.map fun addr => (addr, status addr)⟩) (curr : ReadWriteEndpoint) :
    changeReadByLag mha rw lag curr =
      (runTouches (lagTouches mha rw st lagKeys) curr.read).map fun read => { curr with read := read } := by
  subst hlag
  unfold changeReadByLag lagTouches
  cases mha.replicationLagEnabled with
  | false => rfl
  | true =>
    cases hst : st.lag with
    | none => rfl
    | some status =>
      show (lagKeys.map fun addr => (addr, status addr)).foldlM (changeReadByLagEntry rw) curr = _
      show _ = (runTouches (lagKeys.map fun addr =>
        if (status addr).isLatency then Touch.remove (rw.idx addr) else Touch.refresh addr) curr.read).map _
      rw [List.foldlM_map, List.map_eq_flatMap]
      refine foldlM_eq_touches ?_ curr
      intro addr haddr curr
      have hin : addr ∈ rw.addrs := (horder.2 addr).mp haddr
      unfold changeReadByLagEntry
      cases hlat : (status addr).isLatency with
      | true => exact removeRead_eq hin
      | false =>
        -- found or not, nothing panics
        refine (if_pos rfl).trans ?_
        dsimp only
        cases hfind : curr.read.find? (·.addr == addr) with
        | some e =>
          have hfound := List.find?_some hfind
          have hany : curr.read.any (·.addr == addr) = true :=
            List.any_eq_true.mpr ⟨e, List.mem_of_find?_eq_some hfind, hfound⟩
          show some curr = some _
          rw [if_pos hany]
        | none =>
          have hany : ¬ curr.read.any (·.addr == addr) = true := by
            rw [List.any_eq_true]
            rintro ⟨e, he, hea⟩
            exact List.find?_eq_none.mp hfind e he hea
          show some { curr with read := curr.read ++ curr.read } = some _
          rw [if_neg hany]

theorem changeReadIfNecessary_eq {connect : ConnectMonitorResponse} {ping : PingMonitorResponse}
    {lag : Option ReplicationLagMonitorResponse} {connectKeys pingKeys : List String}
    (hc : OrderOf rw.addrs connectKeys) (hconnect : connect.read = connectKeys.map fun addr => (addr, st.connect addr))
    (hp : OrderOf rw.addrs pingKeys) (hping : ping.read = pingKeys.map fun addr => (addr, st.ping addr))
    (hl : OrderOf rw.addrs lagKeys)
    (hlag : lag = st.lag.map fun status => ⟨lagKeys.map fun addr => (addr, status addr)⟩) (curr : ReadWriteEndpoint) :
    changeReadIfNecessary mha rw (some connect) (some ping) lag curr =
      (runTouches (touches mha rw st connectKeys pingKeys lagKeys) curr.read).map
        fun read => { curr with read := read } := by
  show connect.read.foldlM (changeReadByConnect mha rw (some ping) lag) curr = _
  rw [hconnect, List.foldlM_map]
  refine foldlM_eq_touches ?_ curr
  intro addr haddr curr
  unfold changeReadByConnect connectTouches
  cases st.connect addr with
  | disconnected => exact removeRead_eq ((hc.2 addr).mp haddr)
  | connected =>
    show ping.read.foldlM (changeReadByPing mha rw lag) curr = _
    rw [hping, List.foldlM_map]
    refine foldlM_eq_touches ?_ curr
    intro addr haddr curr
    unfold changeReadByPing pingTouches
    cases st.ping addr with
    | pingNotOk => exact removeRead_eq ((hp.2 addr).mp haddr)
    | pingOk => exact changeReadByLag_eq hl hlag curr

theorem orderOf_dedup (addrs : List String) : OrderOf addrs addrs.dedup :=
  ⟨List.nodup_dedup addrs, fun _ => List.mem_dedup⟩

theorem keepsHealthy_iff_touches : KeepsHealthy mha rw st ↔ (rw.read.filter fun e => st.healthy mha e.addr).Nodup ∧
      ∀ connectKeys pingKeys lagKeys, OrderOf rw.addrs connectKeys → OrderOf rw.addrs pingKeys →
        OrderOf rw.addrs lagKeys → runTouches (touches mha rw st connectKeys pingKeys lagKeys) rw.read =
          some (rw.read.filter fun e => st.healthy mha e.addr) := by
  constructor
  · intro hkeeps
    have hrun : ∀ connectKeys pingKeys lagKeys, OrderOf rw.addrs connectKeys → OrderOf rw.addrs pingKeys →
        OrderOf rw.addrs lagKeys → runTouches (touches mha rw st connectKeys pingKeys lagKeys) rw.read =
          some (rw.read.filter fun e => st.healthy mha e.addr) ∧
          (rw.read.filter fun e => st.healthy mha e.addr).Nodup := by
      intro connectKeys pingKeys lagKeys hc hp hl
      have hreported : ReportsLag rw.addrs st.lag
          (st.lag.map fun status => ⟨lagKeys.map fun addr => (addr, status addr)⟩) := by
        cases st.lag with
        | none => trivial
        | some status => exact ⟨lagKeys, hl, rfl⟩
      obtain ⟨curr', hrun, -, hread, hnodup⟩ := hkeeps ⟨connectKeys.map fun addr => (addr, st.connect addr), []⟩
        ⟨pingKeys.map fun addr => (addr, st.ping addr), []⟩ _ rw ⟨connectKeys, hc, rfl⟩ ⟨pingKeys, hp, rfl⟩
        hreported rfl
      rw [changeReadIfNecessary_eq hc rfl hp rfl hl rfl] at hrun
      obtain ⟨read, hread', rfl⟩ := Option.map_eq_some_iff.mp hrun
      have heq : read = rw.read.filter fun e => st.healthy mha e.addr := hread
      rw [heq] at hread' hnodup
      exact ⟨hread', hnodup⟩
    have hd := orderOf_dedup rw.addrs
    exact ⟨(hrun _ _ _ hd hd hd).2, fun connectKeys pingKeys lagKeys hc hp hl => (hrun _ _ _ hc hp hl).1⟩
  · rintro ⟨hnodup, hrun⟩ connect ping lag curr ⟨connectKeys, hc, hconnect⟩ ⟨pingKeys, hp, hping⟩ hlag hcurr
    obtain ⟨lagKeys, hl, hlag⟩ : ∃ lagKeys, OrderOf rw.addrs lagKeys ∧
        lag = st.lag.map fun status => ⟨lagKeys.map fun addr => (addr, status addr)⟩ := by
      cases hst : st.lag with
      | none =>
        rw [hst] at hlag
        cases lag with
        | none => exact ⟨_, orderOf_dedup rw.addrs, rfl⟩
        | some response => exact hlag.elim
      | some status =>
        rw [hst] at hlag
        cases lag with
        | none => exact hlag.elim
        | some response =>
          obtain ⟨lagKeys, hl, hentries⟩ := hlag
          refine ⟨lagKeys, hl, ?_⟩
          show some response = some ⟨lagKeys.map fun addr => (addr, status addr)⟩
          rw [← hentries]
    refine ⟨{ curr with read := rw.read.filter fun e => st.healthy mha e.addr }, ?_, rfl, rfl, hnodup⟩
    rw [changeReadIfNecessary_eq hc hconnect hp hping hl hlag, hcurr, hrun _ _ _ hc hp hl]
    rfl

/-! ## Removals -/

/-- The indices at which a sequence of touches removes. -/
def removals (ts : List Touch) : List Nat :=
  ts.flatMap fun
    | .remove i => [i]
    | .refresh _ => []

theorem removals_append (ts us : List Touch) : removals (ts ++ us) = removals ts ++ removals us := List.flatMap_append

theorem run_subset {t : Touch} (h : t.run xs = some ys) : ys ⊆ xs := by
  intro e he
  cases t with
  | remove i =>
    simp only [Touch.run, vecRemove] at h
    split at h
    · cases h
      exact (List.eraseIdx_sublist xs i).subset he
    · cases h
  | refresh addr =>
    simp only [Touch.run, Option.some.injEq] at h
    subst h
    split at he
    · exact he
    · exact (List.mem_append.mp he).elim id id

theorem runTouches_subset (h : runTouches ts xs = some ys) : ys ⊆ xs := by
  induction ts generalizing xs with
  | nil =>
    cases h
    exact fun e he => he
  | cons t ts ih =>
    obtain ⟨zs, hfirst, hrest⟩ := Option.bind_eq_some_iff.mp h
    exact fun e he => run_subset hfirst (ih hrest he)

/-- **Removals.**  If every refreshed address is in the list at the end, the list is what the removals left. -/
theorem runTouches_eq_some_iff (hrefresh : ∀ addr, .refresh addr ∈ ts → ∃ e ∈ ys, e.addr = addr) :
    runTouches ts xs = some ys ↔ Fits (removals ts) xs.length ∧ cut (removals ts) xs = ys := by
  induction ts generalizing xs with
  | nil =>
    show some xs = some ys ↔ True ∧ xs = ys
    simp
  | cons t ts ih =>
    have hrest : ∀ addr, .refresh addr ∈ ts → ∃ e ∈ ys, e.addr = addr :=
      fun addr h => hrefresh addr (List.mem_cons_of_mem t h)
    show (t.run xs).bind (runTouches ts) = some ys ↔ _
    cases t with
    | remove i =>
      show (vecRemove xs i).bind (runTouches ts) = some ys ↔
        (i < xs.length ∧ Fits (removals ts) (xs.length - 1)) ∧ cut (removals ts) (xs.eraseIdx i) = ys
      unfold vecRemove
      by_cases hi : i < xs.length
      · rw [if_pos hi]
        show runTouches ts (xs.eraseIdx i) = some ys ↔ _
        rw [ih hrest, List.length_eraseIdx_of_lt hi]
        simp [hi]
      · rw [if_neg hi]
        simp [hi]
    | refresh addr =>
      obtain ⟨e, he, hea⟩ := hrefresh addr List.mem_cons_self
      show runTouches ts (if xs.any (·.addr == addr) then xs else xs ++ xs) = some ys ↔ _
      by_cases hany : xs.any (·.addr == addr) = true
      · rw [if_pos hany]
        exact ih hrest
      · rw [if_neg hany]
        -- the address is not in the list any more, so it is not in the list at the end
        have hgone : e ∉ xs := by
          intro hex
          exact hany (List.any_eq_true.mpr ⟨e, hex, by simpa using hea⟩)
        constructor
        · intro hrun
          have hin := runTouches_subset hrun he
          exact absurd ((List.mem_append.mp hin).elim id id) hgone
        · rintro ⟨-, hcut⟩
          have hcut' : cut (removals ts) xs = ys := hcut
          rw [← hcut'] at he
          exact absurd ((cut_sublist _ xs).subset he) hgone

end DataNexus.Discovery
