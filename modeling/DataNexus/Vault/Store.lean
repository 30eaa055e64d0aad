/-
  The vault of endpoint credentials (`gateway/core/src/vault.rs`).

  A lease stands for the password of an endpoint for a short time; the public record (`VaultLease`) carries everything but
  the password, which stays in the record of the store (`LeaseRecord`).  With an encryption key the file holds the
  passwords, without one only the public records.

  Choices, as for the ticket store: the map is an association list, the clock is an argument, `seq` is a `Nat`, the file is
  the value it decodes to.  `LeaseRecord` and `SealedLeaseRecord` are one structure.  `zeroize` empties the password.
-/
import DataNexus.State.Rows

namespace DataNexus.Vault

open DataNexus.Text DataNexus.State

/-! ## Records -/

structure ProjectEnv where
  name : String
  environment : String
  service : String
  description : String
deriving DecidableEq

structure VaultLease where
  leaseId : String
  project : String
  environment : String
  service : String
  endpoint : String
  protocol : String
  address : String
  database : Option String
  username : String
  issuedAtUnixMs : Nat
  expiresAtUnixMs : Nat
  accessToken : String
  revoked : Bool
  revokedAtUnixMs : Option Nat
  revokedBy : Option String
deriving DecidableEq

/-- `LeaseRecord`, and the row of a sealed file. -/
structure LeaseRecord where
  lease : VaultLease
  backendPassword : String
  backendUsername : String
deriving DecidableEq

/-- `IssueVaultLeaseRequest` (its `issued_by` is not read by the store) with the endpoint it is for. -/
structure LeaseRequest where
  project : String
  environment : String
  ttlSecs : Nat
  service : String
  endpoint : String
  protocol : String
  address : String
  database : Option String
  username : String
  password : String
deriving DecidableEq

/-- `u64::saturating_add` / `u64::saturating_mul`. -/
def saturate (n : Nat) : Nat := min n (2 ^ 64 - 1)

def simpleNonce (seed : Nat) : Nat := (seed * 0x9e3779b97f4a7c15 % 2 ^ 64) ^^^ 0xdeadbeef

/-! ## The store -/

structure VaultStore where
  leases : AList (fun _ : String => LeaseRecord)
  projects : List ProjectEnv
  seq : Nat

def VaultStore.new : VaultStore := ⟨∅, [], 1⟩

def VaultStore.getLease (store : VaultStore) (leaseId : String) : Option VaultLease :=
  (store.leases.lookup leaseId).map (·.lease)

/-- `format!("lease-{}-{}", now, seq)`. -/
def leaseId (now seq : Nat) : String := "lease-" ++ toString now ++ "-" ++ toString seq

inductive Answer where
  /-- `issue_lease` returned this lease. -/
  | issued (lease : VaultLease)
  /-- `revoke` or `renew` returned this result. -/
  | result (r : Except String VaultLease)
  /-- `prune_expired` removed this many. -/
  | pruned (removed : Nat)
  /-- `set_projects` or `ensure_default_projects_from_services` returned. -/
  | done
deriving DecidableEq

/-- The record `issue_lease` files. -/
def freshLease (now seq : Nat) (req : LeaseRequest) : LeaseRecord where
  lease :=
    { leaseId := leaseId now seq
      project := req.project
      environment := req.environment
      service := req.service
      endpoint := req.endpoint
      protocol := req.protocol
      address := req.address
      database := req.database
      username := req.username
      issuedAtUnixMs := now
      expiresAtUnixMs := saturate (now + saturate (req.ttlSecs * 1000))
      accessToken := "pvt-" ++ toString (simpleNonce now)
      revoked := false
      revokedAtUnixMs := none
      revokedBy := none }
  backendPassword := req.password
  backendUsername := req.username

def VaultStore.issueLease (store : VaultStore) (now : Nat) (req : LeaseRequest) : Answer × VaultStore :=
  let record := freshLease now store.seq req
  (.issued record.lease, { store with
    leases := store.leases.insert record.lease.leaseId record, seq := store.seq + 1 })

def isActive (lease : VaultLease) (now : Nat) : Bool := !lease.revoked && lease.expiresAtUnixMs ≥ now

def VaultStore.getValidLease (store : VaultStore) (leaseId : String) (now : Nat) : Option VaultLease :=
  match store.leases.lookup leaseId with
  | none => none
  | some record => if !isActive record.lease now then none else some record.lease

/-- `VaultStore::get_valid_lease_by_token`, over the values of the map in the order in which they come. -/
def getValidLeaseByToken (values : List LeaseRecord) (token : String) (now : Nat) : Option VaultLease :=
  (values.find? fun r => r.lease.accessToken == token && isActive r.lease now).map (·.lease)

/-- `values` lists the values of the map.  A `HashMap` promises no order. -/
def VaultStore.Lists (store : VaultStore) (values : List LeaseRecord) : Prop :=
  values.Perm (store.leases.entries.map (·.2))

def VaultStore.backendIdentity (store : VaultStore) (leaseId : String) (now : Nat) : Option (String × String) :=
  match store.leases.lookup leaseId with
  | none => none
  | some record =>
    if !isActive record.lease now then none
    else if record.backendPassword = "" then none
    else some (record.backendUsername, record.backendPassword)

/-- The shape shared by `revoke` and `renew`: `get_mut` the record, check it, change it in place. -/
def VaultStore.update (store : VaultStore) (leaseId : String)
    (change : LeaseRecord → Except String LeaseRecord) : Answer × VaultStore :=
  match store.leases.lookup leaseId with
  | none => (.result (.error ("lease '" ++ leaseId ++ "' not found")), store)
  | some record =>
    match change record with
    | .error e => (.result (.error e), store)
    | .ok record' =>
      (.result (.ok record'.lease), { store with leases := store.leases.insert leaseId record' })

/-- The check and the assignments of `revoke`. -/
def revokeRecord (leaseId : String) (revokedBy : Option String) (now : Nat) (record : LeaseRecord) :
    Except String LeaseRecord :=
  if record.lease.revoked then .error ("lease '" ++ leaseId ++ "' already revoked")
  else .ok { record with
    lease := { record.lease with
      revoked := true
      revokedAtUnixMs := some now
      revokedBy := revokedBy
      accessToken := "revoked-" ++ record.lease.leaseId
      expiresAtUnixMs := now }
    backendPassword := "" }

def VaultStore.revoke (store : VaultStore) (now : Nat) (leaseId : String) (revokedBy : Option String) :
    Answer × VaultStore :=
  store.update leaseId (revokeRecord leaseId revokedBy now)

/-- The check and the assignments of `renew`. -/
def renewRecord (leaseId : String) (ttlSecs now : Nat) (record : LeaseRecord) : Except String LeaseRecord :=
  if record.lease.revoked then .error ("lease '" ++ leaseId ++ "' is revoked")
  else
    let ttl := max ttlSecs 1
    .ok { record with
      lease := { record.lease with
        expiresAtUnixMs := saturate (now + saturate (ttl * 1000))
        accessToken := "pvt-" ++ toString (simpleNonce (now ^^^ ttl)) } }

def VaultStore.renew (store : VaultStore) (now : Nat) (leaseId : String) (ttlSecs : Nat) : Answer × VaultStore :=
  store.update leaseId (renewRecord leaseId ttlSecs now)

def VaultStore.pruneExpired (store : VaultStore) (now : Nat) : Answer × VaultStore :=
  let kept := store.leases.entries.filter fun entry => isActive entry.2.lease now
  (.pruned (store.leases.entries.length - kept.length), { store with
    leases := ⟨kept, List.NodupKeys.sublist List.filter_sublist store.leases.nodupKeys⟩ })

/-- The projects `ensure_default_projects_from_services` adds, `i` being the position of the service. -/
def defaultProjects : Nat → List String → List ProjectEnv
  | _, [] => []
  | i, svc :: services =>
    ⟨if i = 0 then "default" else svc, "dev", svc, "auto project for service " ++ svc⟩ ::
      defaultProjects (i + 1) services

inductive Op where
  | issueLease (now : Nat) (req : LeaseRequest)
  | revoke (now : Nat) (leaseId : String) (revokedBy : Option String)
  | renew (now : Nat) (leaseId : String) (ttlSecs : Nat)
  | pruneExpired (now : Nat)
  | setProjects (projects : List ProjectEnv)
  | ensureDefaultProjects (services : List String)

def exec (store : VaultStore) : Op → Answer × VaultStore
  | .issueLease now req => store.issueLease now req
  | .revoke now id by' => store.revoke now id by'
  | .renew now id ttl => store.renew now id ttl
  | .pruneExpired now => store.pruneExpired now
  | .setProjects projects => (.done, { store with projects := projects })
  | .ensureDefaultProjects services =>
    (.done, if store.projects.isEmpty then
      { store with projects := defaultProjects 0 services } else store)

/-- The calls that end with `persist`. -/
def persists : Op → Answer → Bool
  | .issueLease _ _, _ => true
  | .revoke _ _ _, .result (.ok _) => true
  | .renew _ _ _, .result (.ok _) => true
  | .pruneExpired _, .pruned removed => removed > 0
  | .setProjects _, _ => true
  | _, _ => false

/-! ## The file -/

structure VaultFile where
  projects : List ProjectEnv
  leases : List VaultLease
  sealedLeases : List LeaseRecord
deriving DecidableEq

/-- `write_file_locked`.  Sorting by the time of issue and taking the public part commute. -/
def VaultStore.toFile (store : VaultStore) (encrypted : Bool) : VaultFile :=
  let rows := writeRows (·.lease.issuedAtUnixMs) store.leases
  if encrypted then ⟨store.projects, [], rows⟩
  else ⟨store.projects, rows.map (·.lease), []⟩

/-- The rows that `load_from_disk` files: the sealed ones, or the public ones with no credentials. -/
def VaultFile.rows (file : VaultFile) (encrypted : Bool) : List LeaseRecord :=
  if encrypted && !file.sealedLeases.isEmpty then file.sealedLeases
  else file.leases.map fun lease => ⟨lease, "", ""⟩

/-- `load_from_disk` of a file that is there. -/
def VaultStore.load (encrypted : Bool) (file : VaultFile) : VaultStore :=
  let rows := readRows (·.lease.leaseId) (file.rows encrypted)
  ⟨rows.1, file.projects, rows.2⟩

/-! ## What one call does -/

theorem update_cases (store : VaultStore) (id : String) (change : LeaseRecord → Except String LeaseRecord) :
    (∃ e, store.update id change = (.result (.error e), store)) ∨
    (∃ r r', store.leases.lookup id = some r ∧ change r = .ok r' ∧ store.update id change =
        (.result (.ok r'.lease), { store with leases := store.leases.insert id r' })) := by
  unfold VaultStore.update
  cases hget : store.leases.lookup id with
  | none => exact Or.inl ⟨_, rfl⟩
  | some r =>
    cases hc : change r with
    | error e => exact Or.inl ⟨e, by simp only [hc]⟩
    | ok r' => exact Or.inr ⟨r, r', rfl, hc, by simp only [hc]⟩

variable {by' : Option String} {r r' : LeaseRecord} {ttl : Nat}

theorem revokeRecord_id {id : String} {now : Nat} (h : revokeRecord id by' now r = .ok r') :
    r'.lease.leaseId = r.lease.leaseId := by
  unfold revokeRecord at h
  split at h
  · cases h
  · cases h
    rfl

theorem renewRecord_id {id : String} {now : Nat} (h : renewRecord id ttl now r = .ok r') :
    r'.lease.leaseId = r.lease.leaseId := by
  unfold renewRecord at h
  split at h
  · cases h
  · cases h
    rfl

theorem update_ok {store : VaultStore} {id : String} {change : LeaseRecord → Except String LeaseRecord}
    (hget : store.leases.lookup id = some r) (hok : change r = .ok r') : store.update id change =
      (.result (.ok r'.lease), { store with leases := store.leases.insert id r' }) := by
  unfold VaultStore.update
  simp only [hget, hok]

theorem revokeRecord_ok {id : String} {now : Nat} (h : revokeRecord id by' now r = .ok r') :
    r'.lease.revoked = true := by
  unfold revokeRecord at h
  split at h
  · cases h
  · cases h
    rfl

/-- `renew` goes through for an unrevoked lease, expired or not: a new expiry and a new token. -/
theorem renewRecord_unrevoked (hrev : r.lease.revoked = false) (id : String) (ttl now : Nat) :
    ∃ r', renewRecord id ttl now r = .ok r' ∧ r'.lease.revoked = false ∧
      r'.lease.expiresAtUnixMs = saturate (now + saturate (max ttl 1 * 1000)) ∧
      r'.lease.accessToken = "pvt-" ++ toString (simpleNonce (now ^^^ max ttl 1)) := by
  unfold renewRecord
  rw [if_neg (by rw [hrev]; decide)]
  exact ⟨_, rfl, hrev, rfl, rfl⟩

theorem renewRecord_ok {id : String} {now : Nat} (h : renewRecord id ttl now r = .ok r') :
    r.lease.revoked = false ∧ r'.lease.revoked = false := by
  unfold renewRecord at h
  split at h
  · cases h
  · rename_i hrev
    rw [Bool.not_eq_true] at hrev
    cases h
    exact ⟨hrev, hrev⟩

/-- The ways in which a call can change the leases. -/
inductive Change (store : VaultStore) (op : Op) : Prop
  | kept (h : (exec store op).2.leases = store.leases) (hseq : (exec store op).2.seq = store.seq)
      (hout : ∀ lease, (exec store op).1 ≠ .issued lease)
  /-- `issue_lease` filed a fresh record. -/
  | issued (now : Nat) (req : LeaseRequest) (hop : op = .issueLease now req)
  /-- `revoke` or `renew` changed the record under `id`. -/
  | updated (id : String) (r r' : LeaseRecord) (hget : store.leases.lookup id = some r)
      (hid : r'.lease.leaseId = r.lease.leaseId)
      (h : (exec store op).2.leases = store.leases.insert id r')
      (hseq : (exec store op).2.seq = store.seq)
      (hout : (exec store op).1 = .result (.ok r'.lease)) (hsaves : persists op (exec store op).1 = true)
  /-- `prune_expired` dropped records. -/
  | pruned (now : Nat) (hop : op = .pruneExpired now)

/-- **Inversion.**  Every call changes the leases in one of these ways. -/
theorem exec_cases (store : VaultStore) (op : Op) : Change store op := by
  cases op with
  | issueLease now req => exact .issued now req rfl
  | revoke now id by' =>
    rcases update_cases store id (revokeRecord id by' now) with ⟨e, h⟩ | ⟨r, r', hget, hok, h⟩
    · have hexec : exec store (.revoke now id by') = (.result (.error e), store) := h
      exact .kept (by rw [hexec]) (by rw [hexec]) (by rw [hexec]; nofun)
    · have hexec : exec store (.revoke now id by') =
          (.result (.ok r'.lease), { store with leases := store.leases.insert id r' }) := h
      exact .updated id r r' hget (revokeRecord_id hok) (by rw [hexec]) (by rw [hexec])
        (by rw [hexec]) (by rw [hexec]; rfl)
  | renew now id ttl =>
    rcases update_cases store id (renewRecord id ttl now) with ⟨e, h⟩ | ⟨r, r', hget, hok, h⟩
    · have hexec : exec store (.renew now id ttl) = (.result (.error e), store) := h
      exact .kept (by rw [hexec]) (by rw [hexec]) (by rw [hexec]; nofun)
    · have hexec : exec store (.renew now id ttl) =
          (.result (.ok r'.lease), { store with leases := store.leases.insert id r' }) := h
      exact .updated id r r' hget (renewRecord_id hok) (by rw [hexec]) (by rw [hexec])
        (by rw [hexec]) (by rw [hexec]; rfl)
  | pruneExpired now => exact .pruned now rfl
  | setProjects projects => exact .kept rfl rfl (by nofun)
  | ensureDefaultProjects services =>
    refine .kept ?_ ?_ (by nofun)
    · simp only [exec]
      split <;> rfl
    · simp only [exec]
      split <;> rfl

theorem mem_lists {store : VaultStore} {values : List LeaseRecord} (h : store.Lists values) :
    r ∈ values ↔ ∃ id, store.leases.lookup id = some r := by
  rw [h.mem_iff, List.mem_map]
  constructor
  · rintro ⟨entry, hentry, rfl⟩
    exact ⟨entry.1, AList.mem_lookup_iff.mpr hentry⟩
  · rintro ⟨id, hid⟩
    exact ⟨⟨id, r⟩, AList.mem_lookup_iff.mp hid, rfl⟩

theorem getValidLeaseByToken_some {store : VaultStore} {values : List LeaseRecord} (h : store.Lists values)
    {token : String} {now : Nat} {lease : VaultLease} (hfound : getValidLeaseByToken values token now = some lease) :
    ∃ id r, store.leases.lookup id = some r ∧ r.lease = lease ∧ lease.accessToken = token ∧
      isActive lease now = true := by
  obtain ⟨r, hr, hlease⟩ := Option.map_eq_some_iff.mp hfound
  have htest := List.find?_some hr
  rw [Bool.and_eq_true, beq_iff_eq] at htest
  obtain ⟨id, hid⟩ := (mem_lists h).mp (List.mem_of_find?_eq_some hr)
  subst hlease
  exact ⟨id, r, hid, rfl, htest.1, htest.2⟩

theorem lookup_pruneExpired {store : VaultStore} {now : Nat} {id : String}
    (h : (store.pruneExpired now).2.leases.lookup id = some r) : store.leases.lookup id = some r := by
  have hin : (⟨id, r⟩ : Sigma fun _ : String => LeaseRecord) ∈
      (store.pruneExpired now).2.leases.entries :=
    AList.mem_lookup_iff.mp (Option.mem_def.mpr h)
  exact Option.mem_def.mp (AList.mem_lookup_iff.mpr (List.mem_filter.mp hin).1)

def Filed (store : VaultStore) : Prop := FiledById (·.lease.leaseId) store.leases

/-- **Step lemma.**  Every call files records under their own ids. -/
theorem filed_exec (store : VaultStore) (op : Op) (h : Filed store) : Filed (exec store op).2 := by
  cases exec_cases store op with
  | kept hleases hseq hout =>
    unfold Filed
    rw [hleases]
    exact h
  | issued now req hop =>
    subst hop
    exact filedById_insert h rfl
  | updated id r r' hget hid hleases hseq hout hsaves =>
    unfold Filed
    rw [hleases]
    exact filedById_insert h (hid.trans (h id r hget))
  | pruned now hop =>
    subst hop
    intro id r hget
    exact h id r (lookup_pruneExpired hget)

/-! ## Reading the file back -/

theorem trailingNumber_leaseId (now seq : Nat) : trailingNumber (leaseId now seq) = some seq := by
  refine trailingNumber_dashed ("lease-".toList ++ Nat.toDigits 10 now) ?_
  simp [leaseId]

theorem leaseId_injective {now now' seq seq' : Nat} (h : leaseId now seq = leaseId now' seq') :
    now = now' ∧ seq = seq' := by
  have hl := congrArg String.toList h
  simp only [leaseId, String.toList_append, Nat.toString_eq_ofList_toDigits,
    String.toList_ofList, List.append_assoc] at hl
  exact dashed_injective (by simpa using List.append_cancel_left hl)

theorem rows_toFile (store : VaultStore) (encrypted : Bool) : (store.toFile encrypted).rows encrypted =
      (writeRows (·.lease.issuedAtUnixMs) store.leases).map
        (if encrypted then fun r => r else fun r => ⟨r.lease, "", ""⟩) := by
  cases encrypted with
  | false => simp [VaultStore.toFile, VaultFile.rows]
  | true =>
    simp only [VaultStore.toFile, VaultFile.rows, Bool.true_and, if_true, List.map_id']
    cases hrows : writeRows (·.lease.issuedAtUnixMs) store.leases with
    | nil => rfl
    | cons row rows => rfl

theorem getLease_load_toFile {store : VaultStore} (h : Filed store) (encrypted : Bool) (id : String) :
    (VaultStore.load encrypted (store.toFile encrypted)).getLease id = store.getLease id := by
  have hkeep : ∀ r : LeaseRecord,
      ((if encrypted then fun r => r else fun r => ⟨r.lease, "", ""⟩) r : LeaseRecord).lease =
        r.lease := by
    intro r
    cases encrypted <;> rfl
  unfold VaultStore.getLease VaultStore.load
  simp only
  rw [rows_toFile, lookup_readRows_map (nodup_writeRows h) fun r => by rw [hkeep r],
    lookup_readRows_writeRows h id, Option.map_map]
  refine congrArg (Option.map · _) ?_
  funext r
  exact hkeep r

end DataNexus.Vault
