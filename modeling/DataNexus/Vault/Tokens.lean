/-
  Access tokens of the vault (`issue_lease`, `renew` and `get_valid_lease_by_token` of `gateway/core/src/vault.rs`).

  A token is made from a seed: the clock reading of `issue_lease`, or the reading mixed with the time to live in `renew`.

  1. **Seeds** — `tokenOf_eq_iff`: two tokens are equal exactly when their seeds are the same 64-bit number.

  2. **One call** — `grants` says which lease a call gives a token to, and from which seed.

  3. **Runs** — a history variable keeps the seed of each lease's token.  A call leaves the tokens telling the leases apart
     exactly when no unrevoked lease carries a token from its seed (`identifies_iff`, `tokens_identify_iff`).
-/
import DataNexus.Lib.Run
import DataNexus.Vault.Store
import Mathlib.Data.LawfulXor.Basic
import Mathlib.Data.Nat.ModEq

namespace DataNexus.Vault

open DataNexus.Run DataNexus.State

/-! ## Tokens and seeds -/

/-- `format!("pvt-{}", simple_nonce(seed))`. -/
def tokenOf (seed : Nat) : String := "pvt-" ++ toString (simpleNonce seed)

variable {a b ttl seed : Nat} {i : String} {r : LeaseRecord} {s : Tracked}

theorem simpleNonce_eq_iff : simpleNonce a = simpleNonce b ↔ a ≡ b [MOD 2 ^ 64] := by
  unfold simpleNonce
  constructor
  · intro h
    have hmul : a * 0x9e3779b97f4a7c15 % 2 ^ 64 = b * 0x9e3779b97f4a7c15 % 2 ^ 64 :=
      (xor_left_involutive (0xdeadbeef : ℕ)).injective h
    exact Nat.ModEq.cancel_right_of_coprime (by decide) hmul
  · intro h
    have hmul : a * 0x9e3779b97f4a7c15 % 2 ^ 64 = b * 0x9e3779b97f4a7c15 % 2 ^ 64 := Nat.ModEq.mul_right _ h
    rw [hmul]

/-- **Tokens are seeds.**  Two tokens are equal exactly when they are made from the same 64-bit seed. -/
theorem tokenOf_eq_iff : tokenOf a = tokenOf b ↔ a ≡ b [MOD 2 ^ 64] := by
  rw [← simpleNonce_eq_iff]
  constructor
  · intro h
    have hl := congrArg String.toList h
    simp only [tokenOf, String.toList_append, Nat.toString_eq_ofList_toDigits, String.toList_ofList] at hl
    exact Text.toDigits_injective (List.append_cancel_left hl)
  · intro h
    show "pvt-" ++ toString (simpleNonce a) = "pvt-" ++ toString (simpleNonce b)
    rw [h]

/-! ## Who holds a token -/

/-- An unrevoked lease is filed under `id` and carries `token`. -/
def Holds (store : VaultStore) (id token : String) : Prop :=
  ∃ r, store.leases.lookup id = some r ∧ r.lease.revoked = false ∧ r.lease.accessToken = token

def TokensDiffer (store : VaultStore) : Prop := ∀ i j token, Holds store i token → Holds store j token → i = j

theorem revoked_of_isActive {lease : VaultLease} {now : Nat} (h : isActive lease now = true) :
    lease.revoked = false := by
  unfold isActive at h
  rw [Bool.and_eq_true, Bool.not_eq_true'] at h
  exact h.1

theorem isActive_zero {lease : VaultLease} (h : lease.revoked = false) : isActive lease 0 = true := by
  simp [isActive, h]

/-- The lease that a call gives a token to, and the seed of the token. -/
def grants (store : VaultStore) : Op → Option (String × Nat)
  | .issueLease now _ => some (leaseId now store.seq, now)
  | .renew now id ttl =>
    match store.leases.lookup id with
    | none => none
    | some r => if r.lease.revoked then none else some (id, now ^^^ max ttl 1)
  | _ => none

theorem renew_of_grants {store : VaultStore} {now : Nat} {id id' : String}
    (h : grants store (.renew now id ttl) = some (id', seed)) :
    id' = id ∧ seed = now ^^^ max ttl 1 ∧ ∃ r r', store.leases.lookup id = some r ∧
      r.lease.revoked = false ∧ r'.lease.revoked = false ∧ r'.lease.accessToken = tokenOf seed ∧
      exec store (.renew now id ttl) =
        (.result (.ok r'.lease), { store with leases := store.leases.insert id r' }) := by
  unfold grants at h
  cases hget : store.leases.lookup id with
  | none =>
    simp only [hget] at h
    cases h
  | some r =>
    simp only [hget] at h
    cases hrev : r.lease.revoked with
    | true =>
      rw [hrev] at h
      cases h
    | false =>
      rw [hrev] at h
      have hpair := Prod.mk.inj (Option.some.inj h)
      obtain ⟨hid, hseed⟩ := hpair
      subst hid hseed
      obtain ⟨r', hok, hrev', _, htoken⟩ := renewRecord_unrevoked hrev id ttl now
      exact ⟨rfl, rfl, r, r', rfl, hrev, hrev', htoken, update_ok hget hok⟩

/-- **Step lemma.**  The call that gives out a token gives it to one lease, and the others keep theirs. -/
theorem holds_of_grants {store : VaultStore} {op : Op} {id : String} (h : grants store op = some (id, seed))
    (i token : String) : Holds (exec store op).2 i token ↔
      (i = id ∧ token = tokenOf seed) ∨ (i ≠ id ∧ Holds store i token) := by
  -- both calls file one unrevoked record with the new token
  have hfiled : ∃ r', r'.lease.revoked = false ∧ r'.lease.accessToken = tokenOf seed ∧
      (exec store op).2.leases = store.leases.insert id r' := by
    cases op with
    | issueLease now req =>
      obtain ⟨hid, hseed⟩ := Prod.mk.inj (Option.some.inj h)
      subst hid hseed
      exact ⟨freshLease now store.seq req, rfl, rfl, rfl⟩
    | renew now id0 ttl =>
      obtain ⟨hid, hseed, r, r', hget, hrev, hrev', htoken, hexec⟩ := renew_of_grants h
      subst hid
      exact ⟨r', hrev', htoken, by rw [hexec]⟩
    | revoke now id0 by' => cases h
    | pruneExpired now => cases h
    | setProjects projects => cases h
    | ensureDefaultProjects services => cases h
  obtain ⟨r', hrev, htoken, hleases⟩ := hfiled
  unfold Holds
  rw [hleases]
  by_cases hi : i = id
  · subst hi
    rw [AList.lookup_insert]
    constructor
    · rintro ⟨r, hr, hrev0, htoken0⟩
      cases hr
      exact Or.inl ⟨rfl, htoken0.symm.trans htoken⟩
    · rintro (⟨_, rfl⟩ | ⟨hne, _⟩)
      · exact ⟨r', rfl, hrev, htoken⟩
      · exact absurd rfl hne
  · rw [AList.lookup_insert_ne hi]
    constructor
    · intro hold
      exact Or.inr ⟨hi, hold⟩
    · rintro (⟨heq, _⟩ | ⟨_, hold⟩)
      · exact absurd heq hi
      · exact hold

/-- **Step lemma.**  The other calls hand out no token. -/
theorem holds_of_not_grants {store : VaultStore} {op : Op} (h : grants store op = none) {token : String}
    (hheld : Holds (exec store op).2 i token) : Holds store i token := by
  cases op with
  | issueLease now req => cases h
  | renew now id ttl =>
    rcases update_cases store id (renewRecord id ttl now) with ⟨e, hexec⟩ | ⟨r, r', hget, hok, hexec⟩
    · have hsame : (exec store (.renew now id ttl)).2 = store := congrArg Prod.snd hexec
      rw [hsame] at hheld
      exact hheld
    · -- a renewal that went through gave out a token
      unfold grants at h
      simp only [hget] at h
      rw [(renewRecord_ok hok).1] at h
      cases h
  | revoke now id by' =>
    rcases update_cases store id (revokeRecord id by' now) with ⟨e, hexec⟩ | ⟨r, r', hget, hok, hexec⟩
    · have hsame : (exec store (.revoke now id by')).2 = store := congrArg Prod.snd hexec
      rw [hsame] at hheld
      exact hheld
    · have hleases : (exec store (.revoke now id by')).2.leases = store.leases.insert id r' :=
        congrArg (fun out => out.2.leases) hexec
      obtain ⟨r0, hget0, hrev0, htoken0⟩ := hheld
      rw [hleases] at hget0
      by_cases hi : i = id
      · subst hi
        rw [AList.lookup_insert] at hget0
        cases hget0
        rw [revokeRecord_ok hok] at hrev0
        cases hrev0
      · rw [AList.lookup_insert_ne hi] at hget0
        exact ⟨r0, hget0, hrev0, htoken0⟩
  | pruneExpired now =>
    obtain ⟨r0, hget0, hrest⟩ := hheld
    exact ⟨r0, lookup_pruneExpired hget0, hrest⟩
  | setProjects projects => exact hheld
  | ensureDefaultProjects services =>
    have hleases : (exec store (.ensureDefaultProjects services)).2.leases = store.leases := by
      simp only [exec]
      split <;> rfl
    obtain ⟨r0, hget0, hrest⟩ := hheld
    exact ⟨r0, by rw [← hleases]; exact hget0, hrest⟩

/-! ## Numbers of leases -/

/-- Every lease carries a number below the counter. -/
def Numbered (store : VaultStore) : Prop :=
  ∀ i r, store.leases.lookup i = some r → ∃ now n, i = leaseId now n ∧ n < store.seq

theorem lookup_fresh {store : VaultStore} (h : Numbered store) (now : Nat) :
    store.leases.lookup (leaseId now store.seq) = none := by
  cases hget : store.leases.lookup (leaseId now store.seq) with
  | none => rfl
  | some r =>
    obtain ⟨now', n, heq, hlt⟩ := h _ r hget
    obtain ⟨_, hn⟩ := leaseId_injective heq
    omega

theorem numbered_exec {store : VaultStore} (op : Op) (h : Numbered store) : Numbered (exec store op).2 := by
  intro i r hget
  cases exec_cases store op with
  | kept hleases hseq hout =>
    rw [hleases] at hget
    rw [hseq]
    exact h i r hget
  | issued now req hop =>
    subst hop
    by_cases hi : i = leaseId now store.seq
    · exact ⟨now, store.seq, hi, Nat.lt_succ_self _⟩
    · have hold : store.leases.lookup i = some r := (AList.lookup_insert_ne hi).symm.trans hget
      obtain ⟨now', n, heq, hlt⟩ := h i r hold
      exact ⟨now', n, heq, Nat.lt_succ_of_lt hlt⟩
  | updated id r0 r' hget0 hid hleases hseq hout hsaves =>
    rw [hseq]
    by_cases hi : i = id
    · subst hi
      exact h i r0 hget0
    · rw [hleases, AList.lookup_insert_ne hi] at hget
      exact h i r hget
  | pruned now hop =>
    subst hop
    exact h i r (lookup_pruneExpired hget)

/-! ## Runs -/

/-- The store, and for each lease the seed of its token (history). -/
structure Tracked where
  store : VaultStore
  seeds : String → Nat

def Tracked.new : Tracked := ⟨VaultStore.new, fun _ => 0⟩

def seedsAfter (s : Tracked) (op : Op) : String → Nat :=
  match grants s.store op with
  | some (id, seed) => Function.update s.seeds id seed
  | none => s.seeds

def track (s : Tracked) (op : Op) : Answer × Tracked := ((exec s.store op).1, ⟨(exec s.store op).2, seedsAfter s op⟩)

/-- No unrevoked lease carries a token from the seed that the call uses. -/
def Unclaimed (s : Tracked) (op : Op) : Prop :=
  ∀ id seed, grants s.store op = some (id, seed) →
    ∀ i r, s.store.leases.lookup i = some r → r.lease.revoked = false → ¬ s.seeds i ≡ seed [MOD 2 ^ 64]

/-- After the call, access tokens identify leases. -/
structure Identifies (s : Tracked) (op : Op) : Prop where
  /-- Two leases that are valid at the same time have different tokens. -/
  differ : ∀ t i j ri rj, (exec s.store op).2.leases.lookup i = some ri →
    (exec s.store op).2.leases.lookup j = some rj → isActive ri.lease t = true →
    isActive rj.lease t = true → ri.lease.accessToken = rj.lease.accessToken → i = j
  /-- The token of a valid lease finds that lease. -/
  found : ∀ t i r values, (exec s.store op).2.leases.lookup i = some r → isActive r.lease t = true →
    (exec s.store op).2.Lists values → getValidLeaseByToken values r.lease.accessToken t = some r.lease
  /-- The token from before a renewal is no longer accepted. -/
  replaced : ∀ t now id ttl r lease values, op = .renew now id ttl → s.store.leases.lookup id = some r →
    (exec s.store op).1 = .result (.ok lease) → (exec s.store op).2.Lists values →
    getValidLeaseByToken values r.lease.accessToken t = none

/-- The invariant: tokens tell the unrevoked leases apart and are made from the seeds on record. -/
structure Coherent (s : Tracked) : Prop where
  differ : TokensDiffer s.store
  seeded : ∀ i token, Holds s.store i token → token = tokenOf (s.seeds i)
  numbered : Numbered s.store

theorem coherent_new : Coherent Tracked.new where
  differ := by
    rintro i j token ⟨r, hr, _⟩ _
    cases hr
  seeded := by
    rintro i token ⟨r, hr, _⟩
    cases hr
  numbered := by
    intro i r hr
    cases hr

theorem tokensDiffer_iff {store : VaultStore} : TokensDiffer store ↔
    ∀ t i j ri rj, store.leases.lookup i = some ri → store.leases.lookup j = some rj →
      isActive ri.lease t = true → isActive rj.lease t = true →
      ri.lease.accessToken = rj.lease.accessToken → i = j := by
  constructor
  · intro h t i j ri rj hi hj hai haj htoken
    exact h i j _ ⟨ri, hi, revoked_of_isActive hai, htoken⟩ ⟨rj, hj, revoked_of_isActive haj, rfl⟩
  · rintro h i j token ⟨ri, hi, hri, hti⟩ ⟨rj, hj, hrj, htj⟩
    exact h 0 i j ri rj hi hj (isActive_zero hri) (isActive_zero hrj) (hti.trans htj.symm)

theorem found_of_tokensDiffer {store : VaultStore} (h : TokensDiffer store) {values : List LeaseRecord}
    (hlist : store.Lists values) {t : Nat} (hget : store.leases.lookup i = some r)
    (hactive : isActive r.lease t = true) : getValidLeaseByToken values r.lease.accessToken t = some r.lease := by
  cases hfound : getValidLeaseByToken values r.lease.accessToken t with
  | none =>
    -- the lease itself passes the test
    have hnone := Option.map_eq_none_iff.mp hfound
    have hfail := List.find?_eq_none.mp hnone r ((mem_lists hlist).mpr ⟨i, hget⟩)
    rw [beq_self_eq_true, hactive] at hfail
    exact absurd rfl hfail
  | some lease =>
    obtain ⟨j, rj, hj, hlease, htoken, hact⟩ := getValidLeaseByToken_some hlist hfound
    subst hlease
    have hij : i = j := tokensDiffer_iff.mp h t i j r rj hget hj hactive hact htoken.symm
    subst hij
    rw [hget] at hj
    cases hj
    rfl

theorem refused_of_not_held {store : VaultStore} {token : String} (h : ∀ i, ¬ Holds store i token)
    {values : List LeaseRecord} (hlist : store.Lists values) (t : Nat) :
    getValidLeaseByToken values token t = none := by
  cases hfound : getValidLeaseByToken values token t with
  | none => rfl
  | some lease =>
    obtain ⟨j, rj, hj, hlease, htoken, hact⟩ := getValidLeaseByToken_some hlist hfound
    subst hlease
    exact absurd ⟨rj, hj, revoked_of_isActive hact, htoken⟩ (h j)

theorem not_held_of_unclaimed (hs : Coherent s) {op : Op} (hok : Unclaimed s op) {id : String}
    (hgrant : grants s.store op = some (id, seed)) (i : String) : ¬ Holds s.store i (tokenOf seed) := by
  rintro ⟨r, hr, hrev, htoken⟩
  have hseed : tokenOf seed = tokenOf (s.seeds i) := hs.seeded i _ ⟨r, hr, hrev, htoken⟩
  exact hok id seed hgrant i r hr hrev (tokenOf_eq_iff.mp hseed.symm)

/-- **Step lemma.**  A call that meets the condition keeps the invariant. -/
theorem coherent_track {op : Op} (hs : Coherent s) (hok : Unclaimed s op) : Coherent (track s op).2 := by
  have hnum : Numbered (exec s.store op).2 := numbered_exec op hs.numbered
  cases hgrant : grants s.store op with
  | none =>
    refine ⟨?_, ?_, hnum⟩
    · intro i j token hi hj
      exact hs.differ i j token (holds_of_not_grants hgrant hi) (holds_of_not_grants hgrant hj)
    · intro i token hi
      have hseeds : (track s op).2.seeds = s.seeds := by
        show seedsAfter s op = s.seeds
        simp only [seedsAfter, hgrant]
      rw [hseeds]
      exact hs.seeded i token (holds_of_not_grants hgrant hi)
  | some grant =>
    obtain ⟨id, seed⟩ := grant
    have hfree := not_held_of_unclaimed hs hok hgrant
    refine ⟨?_, ?_, hnum⟩
    · intro i j token hi hj
      rcases (holds_of_grants hgrant i token).mp hi with ⟨hii, hti⟩ | ⟨hii, hi0⟩
      · rcases (holds_of_grants hgrant j token).mp hj with ⟨hjj, htj⟩ | ⟨hjj, hj0⟩
        · exact hii.trans hjj.symm
        · exact absurd (hti ▸ hj0) (hfree j)
      · rcases (holds_of_grants hgrant j token).mp hj with ⟨hjj, htj⟩ | ⟨hjj, hj0⟩
        · exact absurd (htj ▸ hi0) (hfree i)
        · exact hs.differ i j token hi0 hj0
    · intro i token hi
      have hseeds : (track s op).2.seeds = Function.update s.seeds id seed := by
        show seedsAfter s op = _
        simp only [seedsAfter, hgrant]
      rw [hseeds]
      rcases (holds_of_grants hgrant i token).mp hi with ⟨hii, hti⟩ | ⟨hii, hi0⟩
      · rw [hii, Function.update_self]
        exact hti
      · rw [Function.update_of_ne hii]
        exact hs.seeded i token hi0

theorem grants_of_renewed {store : VaultStore} {now : Nat} {id : String} {lease : VaultLease}
    (hget : store.leases.lookup id = some r) (h : (exec store (.renew now id ttl)).1 = .result (.ok lease)) :
    r.lease.revoked = false ∧ grants store (.renew now id ttl) = some (id, now ^^^ max ttl 1) := by
  have hrev : r.lease.revoked = false := by
    rcases update_cases store id (renewRecord id ttl now) with ⟨e, hexec⟩ | ⟨r0, r', hget0, hok, hexec⟩
    · have hexec' : exec store (.renew now id ttl) = _ := hexec
      rw [hexec'] at h
      cases h
    · rw [hget] at hget0
      cases hget0
      exact (renewRecord_ok hok).1
  refine ⟨hrev, ?_⟩
  unfold grants
  simp only [hget, hrev]
  rfl

/-- **One call.**  The condition is exact: the call leaves tokens that identify leases iff it meets it. -/
theorem identifies_iff (hs : Coherent s) (op : Op) : Identifies s op ↔ Unclaimed s op := by
  constructor
  · intro h id seed hgrant i r hget hrev hseed
    -- the lease under `i` held the new token before the call
    have hheld : Holds s.store i (tokenOf seed) := by
      refine ⟨r, hget, hrev, ?_⟩
      rw [hs.seeded i r.lease.accessToken ⟨r, hget, hrev, rfl⟩]
      exact tokenOf_eq_iff.mpr hseed
    have hnew : Holds (exec s.store op).2 id (tokenOf seed) := (holds_of_grants hgrant id _).mpr (Or.inl ⟨rfl, rfl⟩)
    by_cases hi : i = id
    · -- it is the renewed lease itself: its token was not replaced
      subst hi
      cases op with
      | issueLease now req =>
        obtain ⟨hid, _⟩ := Prod.mk.inj (Option.some.inj hgrant)
        rw [← hid, lookup_fresh hs.numbered] at hget
        cases hget
      | renew now id0 ttl =>
        obtain ⟨hid, _, r0, r', hget0, _, hrev', htoken', hexec⟩ := renew_of_grants hgrant
        subst hid
        obtain ⟨rnew, hrnew, hrevnew, htokennew⟩ := hnew
        have hout : (exec s.store (.renew now i ttl)).1 = .result (.ok r'.lease) := by rw [hexec]
        have hnone := h.replaced 0 now i ttl r r'.lease _ rfl hget hout (List.Perm.refl _)
        have hsome := h.found 0 i rnew _ hrnew (isActive_zero hrevnew) (List.Perm.refl _)
        have hsame : r.lease.accessToken = rnew.lease.accessToken := by
          obtain ⟨r1, hr1, _, htok1⟩ := hheld
          rw [hget] at hr1
          cases hr1
          exact htok1.trans htokennew.symm
        rw [hsame, hsome] at hnone
        cases hnone
      | revoke now id0 by' => cases hgrant
      | pruneExpired now => cases hgrant
      | setProjects projects => cases hgrant
      | ensureDefaultProjects services => cases hgrant
    · have hstill : Holds (exec s.store op).2 i (tokenOf seed) :=
        (holds_of_grants hgrant i _).mpr (Or.inr ⟨hi, hheld⟩)
      exact hi (tokensDiffer_iff.mpr h.differ i id _ hstill hnew)
  · intro hok
    have hpost : TokensDiffer (exec s.store op).2 := (coherent_track hs hok).differ
    refine ⟨tokensDiffer_iff.mp hpost, ?_, ?_⟩
    · intro t i r values hget hactive hlist
      exact found_of_tokensDiffer hpost hlist hget hactive
    · intro t now id ttl r lease values hop hget hout hlist
      subst hop
      obtain ⟨hrev, hgrant⟩ := grants_of_renewed hget hout
      have hold : Holds s.store id r.lease.accessToken := ⟨r, hget, hrev, rfl⟩
      refine refused_of_not_held ?_ hlist t
      intro i hi
      rcases (holds_of_grants hgrant i _).mp hi with ⟨hii, hti⟩ | ⟨hii, hi0⟩
      · -- the renewed lease carries the new token, which nobody held
        exact not_held_of_unclaimed hs hok hgrant id (hti ▸ hold)
      · exact hii (hs.differ i id _ hi0 hold)

/-- **Access tokens identify leases** after every call of a run iff every token is made from a seed that no
    unrevoked lease's token was made from. -/
theorem tokens_identify_iff (ops : List Op) : (∀ e ∈ entries track Tracked.new ops, Identifies e.pre e.act) ↔
      Meets track Unclaimed Tracked.new ops :=
  forall_entries_iff_meets Coherent (fun _ op hs => identifies_iff hs op)
    (fun _ _ hs hok => coherent_track hs hok) coherent_new

def demoRequest : LeaseRequest :=
  ⟨"demo", "dev", 600, "orders", "ep1", "mysql", "127.0.0.1:3306", none, "root", "secret-pass"⟩

/-- Two leases that are issued in the same millisecond share their token. -/
theorem same_millisecond_shares_token :
    ¬ ∀ ops : List Op, ∀ e ∈ entries track Tracked.new ops, Identifies e.pre e.act := by
  intro h
  have hlast := h [.issueLease 1000 demoRequest, .issueLease 1000 demoRequest] _
    (last_mem_entries track Tracked.new [.issueLease 1000 demoRequest] (.issueLease 1000 demoRequest))
  have hij := hlast.differ 1000 "lease-1000-1" "lease-1000-2" (freshLease 1000 1 demoRequest)
    (freshLease 1000 2 demoRequest) (by decide) (by decide) (by decide) (by decide) rfl
  exact absurd hij (by decide)

end DataNexus.Vault
