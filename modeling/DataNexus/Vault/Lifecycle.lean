/-
  The life of a lease (`gateway/core/src/vault.rs`): issued, renewed, revoked, pruned, written to the file and read back.

  The calls answer from memory and ignore the result of `persist`, so a file whose last write failed is behind the answers.

  1. **History** — the `ledger` records what the answers said; `saved` is the ledger at the last successful write.

  2. **Invariant** (`Consistent`) — from the current clock reading on, a lease is valid exactly when the ledger says so, and
     a lease of the file by `saved` (`Agrees`).

  3. **One step** (`lawful_iff`) — it leaves the answers true exactly when it meets `Careful`: a file that is read back is
     not behind in what is valid from now on, and a new id is not that of a revoked lease.

  A sealed file is read by its own key only.  An operation carries the time since the last reading of the clock.
-/
import DataNexus.Lib.Run
import DataNexus.Vault.Store
import Mathlib.Logic.Function.Basic

namespace DataNexus.Vault

open DataNexus.Run DataNexus.State

/-! ## The file and its key -/

variable {K : Type}

/-- The file on disk: what it holds and the key that seals it. -/
structure Disk (K : Type) where
  sealedWith : Option K
  file : VaultFile

/-- `decode_vault_file`. -/
def Disk.decode [DecidableEq K] (disk : Disk K) (key : Option K) : Option VaultFile :=
  match disk.sealedWith with
  | none => some disk.file
  | some k => if key = some k then some disk.file else none

inductive Status where
  | live (expires : Nat)
  | revoked
deriving DecidableEq

abbrev Ledger := String → Option Status

/-- The lease is not revoked, and the time is at most its last expiry. -/
def LiveAt (ledger : Ledger) (id : String) (now : Nat) : Prop :=
  ∃ expires, ledger id = some (.live expires) ∧ now ≤ expires

/-- A process with its vault.  Without a path there is no file. -/
structure Process (K : Type) where
  store : VaultStore
  key : Option K
  disk : Option (Disk K)
  /-- The last reading of the clock. -/
  clock : Nat
  /-- History: what the answers said. -/
  ledger : Ledger
  /-- History: the ledger at the last write of the file. -/
  saved : Ledger
  /-- History: the ids of the leases that were revoked. -/
  revoked : String → Bool

def Process.start (onFile : Bool) (key : Option K) : Process K where
  store := VaultStore.new
  key := key
  disk := if onFile then some ⟨key, VaultStore.new.toFile key.isSome⟩ else none
  clock := 0
  ledger := fun _ => none
  saved := fun _ => none
  revoked := fun _ => false

/-! ## Steps -/

/-- What can happen.  The clock reading in a call is the time since the last reading. -/
inductive Event (K : Type) where
  /-- A call; `written` is whether its write of the file succeeded. -/
  | call (op : Op) (written : Bool)
  /-- `persist`. -/
  | persist (written : Bool)
  /-- The store is opened on the file again, with this key. -/
  | reload (key : Option K)

/-- The clock, a `u64`, after so many milliseconds. -/
def reading (clock elapsed : Nat) : Nat := saturate (clock + elapsed)

def Op.after (clock : Nat) : Op → Op
  | .issueLease elapsed req => .issueLease (reading clock elapsed) req
  | .revoke elapsed id by' => .revoke (reading clock elapsed) id by'
  | .renew elapsed id ttl => .renew (reading clock elapsed) id ttl
  | .pruneExpired elapsed => .pruneExpired (reading clock elapsed)
  | .setProjects projects => .setProjects projects
  | .ensureDefaultProjects services => .ensureDefaultProjects services

def clockAfter (clock : Nat) : Op → Nat
  | .issueLease elapsed _ => reading clock elapsed
  | .revoke elapsed _ _ => reading clock elapsed
  | .renew elapsed _ _ => reading clock elapsed
  | .pruneExpired elapsed => reading clock elapsed
  | .setProjects _ => clock
  | .ensureDefaultProjects _ => clock

def ledgerAfter (ledger : Ledger) : Op → Answer → Ledger
  | .issueLease _ _, .issued lease =>
    Function.update ledger lease.leaseId (some (.live lease.expiresAtUnixMs))
  | .renew _ id _, .result (.ok lease) => Function.update ledger id (some (.live lease.expiresAtUnixMs))
  | .revoke _ id _, .result (.ok _) => Function.update ledger id (some .revoked)
  | _, _ => ledger

/-- The ids of the leases that were revoked, after a call. -/
def revokedAfter (revoked : String → Bool) : Op → Answer → String → Bool
  | .revoke _ id _, .result (.ok _) => Function.update revoked id true
  | _, _ => revoked

/-- `persist`: nothing without a path, and nothing when the write fails. -/
def Process.persist (p : Process K) (written : Bool) : Process K :=
  match p.disk with
  | none => p
  | some _ =>
    if written then
      { p with disk := some ⟨p.key, p.store.toFile p.key.isSome⟩, saved := p.ledger }
    else p

/-- A call and, where the call ends with it, `persist`.  The result of `persist` is not looked at. -/
def Process.call (p : Process K) (op : Op) (written : Bool) : Answer × Process K :=
  let result := exec p.store (op.after p.clock)
  let p' := { p with
    store := result.2
    clock := clockAfter p.clock op
    ledger := ledgerAfter p.ledger op result.1
    revoked := revokedAfter p.revoked op result.1 }
  (result.1, if persists op result.1 then p'.persist written else p')

/-- `load_from_disk` into a fresh store, which replaces the live one unless the file cannot be read. -/
def Process.reload [DecidableEq K] (p : Process K) (key : Option K) : Process K :=
  match p.disk with
  | none => p
  | some disk =>
    match disk.decode key with
    | none => p
    | some file => { p with store := VaultStore.load key.isSome file, key := key }

def live [DecidableEq K] (p : Process K) : Event K → Answer × Process K
  | .call op written => p.call op written
  | .persist written => (.done, p.persist written)
  | .reload key => (.done, p.reload key)

/-! ## What a step should leave -/

/-- The answers are true of the store, at this and every later time. -/
structure Lawful (p : Process K) : Prop where
  /-- A lease is valid exactly while it is not revoked and the clock is at most its last expiry. -/
  valid : ∀ id now, p.clock ≤ now → ((p.store.getValidLease id now).isSome = true ↔ LiveAt p.ledger id now)
  byToken : ∀ values token now lease, p.store.Lists values → p.clock ≤ now →
    getValidLeaseByToken values token now = some lease → LiveAt p.ledger lease.leaseId now
  /-- Credentials are handed out for valid leases only. -/
  identity : ∀ id now credentials, p.clock ≤ now → p.store.backendIdentity id now = some credentials →
    LiveAt p.ledger id now
  /-- A lease that was revoked is returned by none of the three, nor are its credentials. -/
  revoked : ∀ id now, p.revoked id = true → p.clock ≤ now →
    p.store.getValidLease id now = none ∧ p.store.backendIdentity id now = none ∧
      ∀ values token lease, p.store.Lists values →
        getValidLeaseByToken values token now = some lease → lease.leaseId ≠ id

/-- The step does not read back a file that is behind in what is valid from now on, does not hand out the id of
    a revoked lease again, and does not renew one that came back expired. -/
def Careful [DecidableEq K] (p : Process K) : Event K → Prop
  | .call (.issueLease elapsed _) _ => p.revoked (leaseId (reading p.clock elapsed) p.store.seq) = false
  | .call (.renew _ id _) _ => p.revoked id = true →
    ∀ lease, p.store.getLease id = some lease → lease.revoked = true
  | .call _ _ => True
  | .persist _ => True
  | .reload key => ∀ disk, p.disk = some disk → (disk.decode key).isSome = true →
    ∀ id now, p.clock ≤ now → (LiveAt p.saved id now ↔ LiveAt p.ledger id now)

/-! ## Validity through `get_lease` -/

/-- From `clock` on, exactly the leases that the ledger says are valid. -/
def Agrees (store : VaultStore) (ledger : Ledger) (clock : Nat) : Prop :=
  ∀ id now, clock ≤ now → ((∃ lease, store.getLease id = some lease ∧ isActive lease now = true) ↔ LiveAt ledger id now)

theorem isActive_iff {lease : VaultLease} {now : Nat} :
    isActive lease now = true ↔ lease.revoked = false ∧ now ≤ lease.expiresAtUnixMs := by
  simp [isActive]

theorem getValidLease_isSome_iff (store : VaultStore) (id : String) (now : Nat) :
    (store.getValidLease id now).isSome = true ↔
      ∃ lease, store.getLease id = some lease ∧ isActive lease now = true := by
  unfold VaultStore.getValidLease VaultStore.getLease
  cases hget : store.leases.lookup id with
  | none => simp
  | some r =>
    cases hactive : isActive r.lease now with
    | true => simp [hactive]
    | false => simp [hactive]

theorem backendIdentity_some {store : VaultStore} {id : String} {now : Nat} {credentials : String × String}
    (h : store.backendIdentity id now = some credentials) :
    ∃ lease, store.getLease id = some lease ∧ isActive lease now = true := by
  unfold VaultStore.backendIdentity at h
  unfold VaultStore.getLease
  cases hget : store.leases.lookup id with
  | none =>
    simp only [hget] at h
    cases h
  | some r =>
    simp only [hget] at h
    cases hactive : isActive r.lease now with
    | true => exact ⟨r.lease, rfl, hactive⟩
    | false =>
      rw [hactive] at h
      cases h

theorem getLease_insert (store : VaultStore) (id i : String) (r : LeaseRecord) :
    VaultStore.getLease { store with leases := store.leases.insert id r } i =
      if i = id then some r.lease else store.getLease i := by
  unfold VaultStore.getLease
  by_cases hi : i = id
  · rw [if_pos hi, hi]
    show ((store.leases.insert id r).lookup id).map _ = _
    rw [AList.lookup_insert]
    rfl
  · rw [if_neg hi]
    show ((store.leases.insert id r).lookup i).map _ = _
    rw [AList.lookup_insert_ne hi]

theorem Agrees.mono {store : VaultStore} {ledger : Ledger} {clock clock' : Nat} (h : Agrees store ledger clock)
    (hle : clock ≤ clock') : Agrees store ledger clock' :=
  fun id now hnow => h id now (hle.trans hnow)

theorem Agrees.congr {store store' : VaultStore} {ledger : Ledger} {clock : Nat}
    (h : Agrees store ledger clock) (hsame : ∀ id, store'.getLease id = store.getLease id) :
    Agrees store' ledger clock := by
  intro id now hnow
  rw [hsame id]
  exact h id now hnow

variable {r : LeaseRecord} {p : Process K}

/-- An unrevoked lease is filed under `id`, and the answer says until when it is valid. -/
theorem agrees_live {store : VaultStore} {ledger : Ledger} {clock : Nat} (h : Agrees store ledger clock)
    (hrev : r.lease.revoked = false) (id : String) : Agrees { store with leases := store.leases.insert id r }
      (Function.update ledger id (some (.live r.lease.expiresAtUnixMs))) clock := by
  intro i now hnow
  rw [getLease_insert]
  unfold LiveAt
  by_cases hi : i = id
  · rw [if_pos hi, hi, Function.update_self]
    constructor
    · rintro ⟨lease, hlease, hactive⟩
      cases hlease
      exact ⟨_, rfl, (isActive_iff.mp hactive).2⟩
    · rintro ⟨expires, hexp, hle⟩
      cases hexp
      exact ⟨_, rfl, isActive_iff.mpr ⟨hrev, hle⟩⟩
  · rw [if_neg hi, Function.update_of_ne hi]
    exact h i now hnow

theorem agrees_revoked {store : VaultStore} {ledger : Ledger} {clock : Nat} (h : Agrees store ledger clock)
    (hrev : r.lease.revoked = true) (id : String) :
    Agrees { store with leases := store.leases.insert id r } (Function.update ledger id (some .revoked))
      clock := by
  intro i now hnow
  rw [getLease_insert]
  unfold LiveAt
  by_cases hi : i = id
  · rw [if_pos hi, hi, Function.update_self]
    constructor
    · rintro ⟨lease, hlease, hactive⟩
      cases hlease
      rw [(isActive_iff.mp hactive).1] at hrev
      cases hrev
    · rintro ⟨expires, hexp, _⟩
      cases hexp
  · rw [if_neg hi, Function.update_of_ne hi]
    exact h i now hnow

theorem agrees_pruned {store : VaultStore} {ledger : Ledger} {clock : Nat} (h : Agrees store ledger clock) :
    Agrees (store.pruneExpired clock).2 ledger clock := by
  intro id now hnow
  rw [← h id now hnow]
  unfold VaultStore.getLease
  constructor
  · rintro ⟨lease, hget, hactive⟩
    obtain ⟨r, hr, hlease⟩ := Option.map_eq_some_iff.mp hget
    exact ⟨lease, Option.map_eq_some_iff.mpr ⟨r, lookup_pruneExpired hr, hlease⟩, hactive⟩
  · rintro ⟨lease, hget, hactive⟩
    obtain ⟨r, hr, hlease⟩ := Option.map_eq_some_iff.mp hget
    -- active later, hence active now, hence kept
    have hkeep : isActive r.lease clock = true := by
      rw [hlease, isActive_iff]
      obtain ⟨hrev, hle⟩ := isActive_iff.mp hactive
      exact ⟨hrev, hnow.trans hle⟩
    have hmem : (⟨id, r⟩ : Sigma fun _ : String => LeaseRecord) ∈
        (store.pruneExpired clock).2.leases.entries :=
      List.mem_filter.mpr ⟨AList.mem_lookup_iff.mp hr, hkeep⟩
    exact ⟨lease, Option.map_eq_some_iff.mpr ⟨r, AList.mem_lookup_iff.mpr hmem, hlease⟩, hactive⟩

/-! ## What one call says and does -/

theorem le_reading {clock : Nat} (h : clock ≤ 2 ^ 64 - 1) (elapsed : Nat) : clock ≤ reading clock elapsed := by
  unfold reading saturate
  omega

theorem reading_le (clock elapsed : Nat) : reading clock elapsed ≤ 2 ^ 64 - 1 := by
  unfold reading saturate
  omega

theorem clockAfter_spec {clock : Nat} (h : clock ≤ 2 ^ 64 - 1) (op : Op) :
    clock ≤ clockAfter clock op ∧ clockAfter clock op ≤ 2 ^ 64 - 1 := by
  cases op with
  | issueLease elapsed req => exact ⟨le_reading h elapsed, reading_le clock elapsed⟩
  | revoke elapsed id by' => exact ⟨le_reading h elapsed, reading_le clock elapsed⟩
  | renew elapsed id ttl => exact ⟨le_reading h elapsed, reading_le clock elapsed⟩
  | pruneExpired elapsed => exact ⟨le_reading h elapsed, reading_le clock elapsed⟩
  | setProjects projects => exact ⟨le_refl _, h⟩
  | ensureDefaultProjects services => exact ⟨le_refl _, h⟩

/-- **Step lemma.**  After a call the leases that are valid are the ones that its answer says are. -/
theorem agrees_exec {store : VaultStore} {ledger : Ledger} {clock : Nat} (h : Agrees store ledger clock)
    (hclock : clock ≤ 2 ^ 64 - 1) (op : Op) :
    Agrees (exec store (op.after clock)).2 (ledgerAfter ledger op (exec store (op.after clock)).1)
      (clockAfter clock op) := by
  have hlater := h.mono (clockAfter_spec hclock op).1
  cases op with
  | issueLease elapsed req =>
    have hrev : (freshLease (reading clock elapsed) store.seq req).lease.revoked = false := rfl
    exact agrees_live hlater hrev (leaseId (reading clock elapsed) store.seq)
  | revoke elapsed id by' =>
    have hcases := update_cases store id (revokeRecord id by' (reading clock elapsed))
    rcases hcases with ⟨e, hexec⟩ | ⟨r, r', hget, hok, hexec⟩
    · have hexec' : exec store (Op.after clock (.revoke elapsed id by')) = _ := hexec
      rw [hexec']
      exact hlater
    · have hexec' : exec store (Op.after clock (.revoke elapsed id by')) = _ := hexec
      rw [hexec']
      exact agrees_revoked hlater (revokeRecord_ok hok) id
  | renew elapsed id ttl =>
    have hcases := update_cases store id (renewRecord id ttl (reading clock elapsed))
    rcases hcases with ⟨e, hexec⟩ | ⟨r, r', hget, hok, hexec⟩
    · have hexec' : exec store (Op.after clock (.renew elapsed id ttl)) = _ := hexec
      rw [hexec']
      exact hlater
    · have hexec' : exec store (Op.after clock (.renew elapsed id ttl)) = _ := hexec
      rw [hexec']
      exact agrees_live hlater (renewRecord_ok hok).2 id
  | pruneExpired elapsed => exact agrees_pruned hlater
  | setProjects projects => exact hlater
  | ensureDefaultProjects services =>
    refine hlater.congr ?_
    intro id
    show (exec store (.ensureDefaultProjects services)).2.getLease id = _
    simp only [exec]
    split <;> rfl

/-! ## The file -/

theorem getLease_decoded [DecidableEq K] {store : VaultStore} (h : Filed store) {disk : Disk K} {key : Option K}
    {file : VaultFile} (hfile : disk.file = store.toFile disk.sealedWith.isSome)
    (hread : disk.decode key = some file) (id : String) :
    (VaultStore.load key.isSome file).getLease id = store.getLease id := by
  unfold Disk.decode at hread
  cases hseal : disk.sealedWith with
  | none =>
    -- a plain file has no sealed rows, so the key makes no difference
    rw [hseal] at hread hfile
    cases hread
    rw [hfile]
    have hplain : VaultStore.load key.isSome (store.toFile false) =
        VaultStore.load false (store.toFile false) := by
      cases key <;> rfl
    show (VaultStore.load key.isSome (store.toFile false)).getLease id = _
    rw [hplain]
    exact getLease_load_toFile h false id
  | some k =>
    rw [hseal] at hread hfile
    have hread' : (if key = some k then some disk.file else none) = some file := hread
    by_cases hkey : key = some k
    · rw [if_pos hkey] at hread'
      cases hread'
      rw [hkey, hfile]
      exact getLease_load_toFile h true id
    · rw [if_neg hkey] at hread'
      cases hread'

/-! ## The invariant -/

/-- The store and the file agree with the answers. -/
structure Consistent (p : Process K) : Prop where
  filed : Filed p.store
  clock_le : p.clock ≤ 2 ^ 64 - 1
  agrees : Agrees p.store p.ledger p.clock
  revoked : ∀ id, p.revoked id = true → p.ledger id = some .revoked
  disk : ∀ d, p.disk = some d → ∃ s, Filed s ∧ d.file = s.toFile d.sealedWith.isSome ∧ Agrees s p.saved p.clock

theorem agrees_new : Agrees VaultStore.new (fun _ => none) 0 := by
  intro id now _
  constructor
  · rintro ⟨lease, hlease, _⟩
    cases hlease
  · rintro ⟨expires, hexp, _⟩
    cases hexp

theorem filed_new : Filed VaultStore.new := by
  intro id r hget
  cases hget

theorem consistent_start (onFile : Bool) (key : Option K) : Consistent (Process.start onFile key) where
  filed := filed_new
  clock_le := Nat.zero_le _
  agrees := agrees_new
  revoked := by
    intro id h
    cases h
  disk := by
    intro d hd
    unfold Process.start at hd
    cases onFile with
    | false => cases hd
    | true =>
      cases hd
      exact ⟨VaultStore.new, filed_new, rfl, agrees_new⟩

theorem consistent_persist (h : Consistent p) (written : Bool) : Consistent (p.persist written) := by
  unfold Process.persist
  cases hdisk : p.disk with
  | none => exact h
  | some d0 =>
    cases written with
    | false => exact h
    | true =>
      refine ⟨h.filed, h.clock_le, h.agrees, h.revoked, ?_⟩
      intro d hd
      cases hd
      exact ⟨p.store, h.filed, rfl, h.agrees⟩

theorem revoked_call [DecidableEq K] (h : Consistent p) {op : Op} {written : Bool}
    (hok : Careful p (.call op written)) (id : String)
    (hrev : revokedAfter p.revoked op (exec p.store (op.after p.clock)).1 id = true) :
    ledgerAfter p.ledger op (exec p.store (op.after p.clock)).1 id = some .revoked := by
  cases op with
  | issueLease elapsed req =>
    have hne : id ≠ leaseId (reading p.clock elapsed) p.store.seq := by
      intro heq
      have hfree : p.revoked (leaseId (reading p.clock elapsed) p.store.seq) = false := hok
      rw [← heq] at hfree
      have hheld : p.revoked id = true := hrev
      rw [hfree] at hheld
      cases hheld
    exact (Function.update_of_ne hne _ _).trans (h.revoked id hrev)
  | revoke elapsed id0 by' =>
    have hcases := update_cases p.store id0 (revokeRecord id0 by' (reading p.clock elapsed))
    rcases hcases with ⟨e, hexec⟩ | ⟨r, r', hget, hrec, hexec⟩
    · have hexec' : exec p.store (Op.after p.clock (.revoke elapsed id0 by')) = _ := hexec
      rw [hexec'] at hrev ⊢
      exact h.revoked id hrev
    · have hexec' : exec p.store (Op.after p.clock (.revoke elapsed id0 by')) = _ := hexec
      rw [hexec'] at hrev ⊢
      by_cases hid : id = id0
      · subst hid
        exact Function.update_self _ _ _
      · have hbefore : p.revoked id = true := (Function.update_of_ne hid _ _).symm.trans hrev
        exact (Function.update_of_ne hid _ _).trans (h.revoked id hbefore)
  | renew elapsed id0 ttl =>
    have hcases := update_cases p.store id0 (renewRecord id0 ttl (reading p.clock elapsed))
    rcases hcases with ⟨e, hexec⟩ | ⟨r, r', hget, hrec, hexec⟩
    · have hexec' : exec p.store (Op.after p.clock (.renew elapsed id0 ttl)) = _ := hexec
      rw [hexec'] at hrev ⊢
      exact h.revoked id hrev
    · have hexec' : exec p.store (Op.after p.clock (.renew elapsed id0 ttl)) = _ := hexec
      rw [hexec'] at hrev ⊢
      have hne : id ≠ id0 := by
        rintro rfl
        have hflag : r.lease.revoked = true := hok hrev r.lease (by unfold VaultStore.getLease; rw [hget]; rfl)
        rw [(renewRecord_ok hrec).1] at hflag
        cases hflag
      exact (Function.update_of_ne hne _ _).trans (h.revoked id hrev)
  | pruneExpired elapsed => exact h.revoked id hrev
  | setProjects projects => exact h.revoked id hrev
  | ensureDefaultProjects services => exact h.revoked id hrev

/-- **Step lemma.**  A careful step keeps the invariant. -/
theorem consistent_live [DecidableEq K] (h : Consistent p) {event : Event K} (hok : Careful p event) :
    Consistent (live p event).2 := by
  cases event with
  | call op written =>
    have hclock := clockAfter_spec h.clock_le op
    let p' : Process K := { p with
      store := (exec p.store (op.after p.clock)).2
      clock := clockAfter p.clock op
      ledger := ledgerAfter p.ledger op (exec p.store (op.after p.clock)).1
      revoked := revokedAfter p.revoked op (exec p.store (op.after p.clock)).1 }
    have hafter : Consistent p' := by
      refine ⟨filed_exec p.store _ h.filed, hclock.2, agrees_exec h.agrees h.clock_le op, revoked_call h hok, ?_⟩
      intro d hd
      obtain ⟨s, hfiled, hfile, hagrees⟩ := h.disk d hd
      exact ⟨s, hfiled, hfile, hagrees.mono hclock.1⟩
    show Consistent (if persists op (exec p.store (op.after p.clock)).1 then p'.persist written else p')
    split
    · exact consistent_persist hafter written
    · exact hafter
  | persist written => exact consistent_persist h written
  | reload key =>
    show Consistent (p.reload key)
    unfold Process.reload
    cases hdisk : p.disk with
    | none => exact h
    | some disk =>
      cases hread : disk.decode key with
      | none =>
        simp only [hread]
        exact h
      | some file =>
        simp only [hread]
        obtain ⟨s, hfiled, hfile, hagrees⟩ := h.disk disk hdisk
        have hsame : ∀ id now, p.clock ≤ now → (LiveAt p.saved id now ↔ LiveAt p.ledger id now) :=
          hok disk hdisk (by rw [hread]; rfl)
        refine ⟨filedById_readRows _ _, h.clock_le, ?_, h.revoked, ?_⟩
        · refine Agrees.congr ?_ (getLease_decoded hfiled hfile hread)
          intro id now hnow
          exact (hagrees id now hnow).trans (hsame id now hnow)
        · intro d hd
          exact h.disk d (hdisk.trans hd)

theorem lawful_of_consistent (h : Consistent p) : Lawful p := by
  have hvalid : ∀ id now, p.clock ≤ now →
      ((p.store.getValidLease id now).isSome = true ↔ LiveAt p.ledger id now) := by
    intro id now hnow
    rw [getValidLease_isSome_iff]
    exact h.agrees id now hnow
  have htoken : ∀ values token now lease, p.store.Lists values → p.clock ≤ now →
      getValidLeaseByToken values token now = some lease → LiveAt p.ledger lease.leaseId now := by
    intro values token now lease hlist hnow hfound
    obtain ⟨id, r, hget, hlease, _, hactive⟩ := getValidLeaseByToken_some hlist hfound
    have hid : lease.leaseId = id := by
      rw [← hlease]
      exact h.filed id r hget
    rw [hid, ← h.agrees id now hnow]
    exact ⟨lease, by unfold VaultStore.getLease; rw [hget, ← hlease]; rfl, hactive⟩
  have hidentity : ∀ id now credentials, p.clock ≤ now →
      p.store.backendIdentity id now = some credentials → LiveAt p.ledger id now := by
    intro id now credentials hnow hsome
    exact (h.agrees id now hnow).mp (backendIdentity_some hsome)
  refine ⟨hvalid, htoken, hidentity, ?_⟩
  intro id now hrev hnow
  -- the ledger says revoked, so nothing is live under this id
  have hdead : ¬ LiveAt p.ledger id now := by
    rintro ⟨expires, hexp, _⟩
    rw [h.revoked id hrev] at hexp
    cases hexp
  refine ⟨?_, ?_, ?_⟩
  · have hnone := mt (hvalid id now hnow).mp hdead
    exact Option.not_isSome_iff_eq_none.mp hnone
  · cases hsome : p.store.backendIdentity id now with
    | none => rfl
    | some credentials => exact absurd (hidentity id now credentials hnow hsome) hdead
  · rintro values token lease hlist hfound rfl
    exact hdead (htoken values token now lease hlist hnow hfound)

@[simp] theorem persist_store (p : Process K) (written : Bool) : (p.persist written).store = p.store := by
  unfold Process.persist
  repeat' split
  all_goals rfl

@[simp] theorem persist_clock (p : Process K) (written : Bool) : (p.persist written).clock = p.clock := by
  unfold Process.persist
  repeat' split
  all_goals rfl

@[simp] theorem persist_revoked (p : Process K) (written : Bool) : (p.persist written).revoked = p.revoked := by
  unfold Process.persist
  repeat' split
  all_goals rfl

theorem live_call [DecidableEq K] (p : Process K) (op : Op) (written : Bool) :
    (live p (.call op written)).2.store = (exec p.store (op.after p.clock)).2 ∧
      (live p (.call op written)).2.clock = clockAfter p.clock op ∧ (live p (.call op written)).2.revoked =
        revokedAfter p.revoked op (exec p.store (op.after p.clock)).1 := by
  simp only [live, Process.call]
  split
  · exact ⟨persist_store _ _, persist_clock _ _, persist_revoked _ _⟩
  · exact ⟨rfl, rfl, rfl⟩

theorem not_lawful_of_filed [DecidableEq K] {op : Op} {written : Bool} {id : String}
    (hrev : revokedAfter p.revoked op (exec p.store (op.after p.clock)).1 id = true)
    (hleases : (exec p.store (op.after p.clock)).2.leases = p.store.leases.insert id r)
    (hflag : r.lease.revoked = false) (hexp : clockAfter p.clock op ≤ r.lease.expiresAtUnixMs) :
    ¬ Lawful (live p (.call op written)).2 := by
  intro hlawful
  obtain ⟨hstore, hclock, hrevoked⟩ := live_call p op written
  have hnone := (hlawful.revoked id (clockAfter p.clock op) (by rw [hrevoked]; exact hrev)
    (by rw [hclock])).1
  have hsome : ((live p (.call op written)).2.store.getValidLease id (clockAfter p.clock op)).isSome = true := by
    rw [getValidLease_isSome_iff, hstore]
    refine ⟨r.lease, ?_, isActive_iff.mpr ⟨hflag, hexp⟩⟩
    unfold VaultStore.getLease
    rw [hleases, AList.lookup_insert]
    rfl
  rw [hnone] at hsome
  cases hsome

theorem le_expiry {clock elapsed : Nat} (ttl : Nat) :
    reading clock elapsed ≤ saturate (reading clock elapsed + saturate (ttl * 1000)) := by
  unfold reading saturate
  omega

/-- **One step.**  The answers are true after a step exactly when it meets the condition. -/
theorem lawful_iff [DecidableEq K] (h : Consistent p) (event : Event K) :
    Lawful (live p event).2 ↔ Careful p event := by
  refine ⟨?_, fun hok => lawful_of_consistent (consistent_live h hok)⟩
  intro hlawful
  cases event with
  | call op written =>
    cases op with
    | issueLease elapsed req =>
      show p.revoked (leaseId (reading p.clock elapsed) p.store.seq) = false
      by_contra hrev
      rw [Bool.not_eq_false] at hrev
      have hafter : revokedAfter p.revoked (.issueLease elapsed req)
          (exec p.store ((Op.issueLease elapsed req).after p.clock)).1
            (leaseId (reading p.clock elapsed) p.store.seq) = true := hrev
      exact not_lawful_of_filed hafter rfl rfl (le_expiry req.ttlSecs) hlawful
    | renew elapsed id ttl =>
      intro hrev lease hget
      by_contra hflag
      rw [Bool.not_eq_true] at hflag
      obtain ⟨r, hlookup, hlease⟩ := Option.map_eq_some_iff.mp hget
      subst hlease
      obtain ⟨r', hok, hflag', hexp, _⟩ := renewRecord_unrevoked hflag id ttl (reading p.clock elapsed)
      have hexec : exec p.store (Op.after p.clock (.renew elapsed id ttl)) = _ := update_ok hlookup hok
      refine not_lawful_of_filed ?_ (by rw [hexec]) hflag' ?_ hlawful
      · rw [hexec]
        exact hrev
      · rw [hexp]
        exact le_expiry (max ttl 1)
    | revoke elapsed id by' => trivial
    | pruneExpired elapsed => trivial
    | setProjects projects => trivial
    | ensureDefaultProjects services => trivial
  | persist written => trivial
  | reload key =>
    intro disk hdisk hread id now hnow
    obtain ⟨file, hfile⟩ := Option.isSome_iff_exists.mp hread
    obtain ⟨s, hfiled, hwritten, hagrees⟩ := h.disk disk hdisk
    have hpost : (live p (.reload key)).2 =
        { p with store := VaultStore.load key.isSome file, key := key } := by
      show p.reload key = _
      unfold Process.reload
      simp only [hdisk, hfile]
    rw [hpost] at hlawful
    -- what was loaded is valid by `saved`, and by the ledger if the answers stay true
    have hvalid := hlawful.valid id now hnow
    rw [getValidLease_isSome_iff, getLease_decoded hfiled hwritten hfile id] at hvalid
    exact (hagrees id now hnow).symm.trans hvalid

/-- **Lease lifecycle.**  Along every run the answers stay true iff every step meets the condition. -/
theorem lifecycle_iff [DecidableEq K] (onFile : Bool) (key : Option K) (events : List (Event K)) :
    (∀ e ∈ entries live (Process.start onFile key) events, Lawful (live e.pre e.act).2) ↔
      Meets live Careful (Process.start onFile key) events :=
  forall_entries_iff_meets Consistent (P := fun p event => Lawful (live p event).2)
    (fun _ event h => lawful_iff h event) (fun _ _ h hok => consistent_live h hok)
    (consistent_start onFile key)

def tenMinutes : LeaseRequest :=
  ⟨"demo", "dev", 600, "orders", "ep1", "mysql", "127.0.0.1:3306", none, "root", "secret-pass"⟩

/-- A revocation whose write failed is undone when the store is opened on its file again. -/
theorem failed_write_revives : ¬ ∀ (onFile : Bool) (key : Option String) (events : List (Event String)),
      ∀ e ∈ entries live (Process.start onFile key) events, Lawful (live e.pre e.act).2 := by
  intro h
  let before : List (Event String) :=
    [.call (.issueLease 1000 tenMinutes) true, .call (.revoke 1 "lease-1000-1" (some "admin")) false]
  have hlast := h true none (before ++ [.reload none]) _
    (last_mem_entries live (Process.start true none) before (.reload none))
  have hnone := (hlast.revoked "lease-1000-1" 1002 (by decide) (by decide)).1
  exact absurd hnone (by decide +kernel)

end DataNexus.Vault
