/-
  Installing the ticket store and the vault again (`install_ticket_store`, `install_vault_store`).

  A configuration reload calls both functions with the configured backend, path and key.  They build a fresh
  store and copy its map and its counter over the live one (`reconfigure_from`).  Both stores are instances of
  the store of `Lib/Reload.lean`, so what survives a reload is settled there once:

  * `reload_keeps_live_state` — in a run of careful steps every unexpired ticket and lease survives each reload
    as it was, and no id is issued twice;
  * `memory_reload_forgets` — with the memory backend a reload simply empties the store.
-/
import DataNexus.Lib.Reload
import DataNexus.Tickets.File
import DataNexus.Vault.Store

namespace DataNexus.State

open DataNexus.Text DataNexus.Run DataNexus.Reload
open DataNexus.Tickets (Ticket TicketStore TicketFile)
open DataNexus.Vault (VaultLease VaultStore VaultFile)

/-! ## The configuration -/

/-- `char::is_ascii_hexdigit`. -/
def isHexDigit (c : Char) : Bool := c.isDigit || ('a' ≤ c && c ≤ 'f') || ('A' ≤ c && c ≤ 'F')

/-- `parse_encrypt_key`.  The key is kept as its 64 digits. -/
def parseEncryptKey (hex : String) : Except String (Option (List Char)) :=
  let hex := trim hex.toList
  if hex.isEmpty then .ok none
  else if byteLength hex ≠ 64 ∨ !hex.all isHexDigit then
    .error "encrypt key must be empty or 64 hex characters (32-byte AES key)"
  else .ok (some hex)

/-- The `match` on the backend name. -/
def parseBackend (what backend : String) : Except String Setup :=
  let name := toAsciiLowercase (trim backend.toList)
  if name = "memory".toList ∨ name = [] then .ok .memory
  else if name = "file".toList then .ok .file
  else .error (what ++ " store backend '" ++ String.ofList name ++
    "' not supported (use memory or file)")

/-- What `install_ticket_store` and `install_vault_store` make of their arguments: first the key, then the backend. -/
def configure (what backend encryptKeyHex : String) : Except String (Setup × Option (List Char)) :=
  match parseEncryptKey encryptKeyHex with
  | .error e => .error e
  | .ok key => (parseBackend what backend).map fun setup => (setup, key)

def setupOf (what backend encryptKeyHex : String) : Setup :=
  match configure what backend encryptKeyHex with
  | .ok (setup, _) => setup
  | .error _ => .refused

def encrypts (what backend encryptKeyHex : String) : Bool :=
  match configure what backend encryptKeyHex with
  | .ok (_, key) => key.isSome
  | .error _ => false

/-! ## The ticket store -/

/-- The clock reading in the id that a call of the ticket store handed out. -/
def ticketStamp : Tickets.Op → Tickets.Answer → Option Nat
  | .issue now _, .issued _ => some now
  | _, _ => none

theorem get_of_not_persists {store : TicketStore} {op : Tickets.Op}
    (h : Tickets.persists op (Tickets.exec store op).1 = false) (id : String) :
    (Tickets.exec store op).2.get id = store.get id := by
  cases op with
  | issue now req =>
    rcases Tickets.issue_cases store now req with hc | ⟨fp, sample, hc⟩
    · simp only [Tickets.exec, hc]
      rfl
    · simp only [Tickets.exec, hc, Tickets.persists] at h
      cases h
  | approve now id' by' =>
    rcases Tickets.approve_cases store now id' by' with ⟨e, hc⟩ | ⟨a, t, t', hget, hok, hc⟩
    · simp only [Tickets.exec, hc]
    · simp only [Tickets.exec, hc, Tickets.persists] at h
      cases h
  | reject id' by' reason =>
    rcases Tickets.reject_cases store id' by' reason with ⟨e, hc⟩ | ⟨r, t, t', hget, hok, hc⟩
    · simp only [Tickets.exec, hc]
    · simp only [Tickets.exec, hc, Tickets.persists] at h
      cases h
  | revoke id' by' reason =>
    rcases Tickets.reject_cases store id' by' reason with ⟨e, hc⟩ | ⟨r, t, t', hget, hok, hc⟩
    · simp only [Tickets.exec, TicketStore.revoke, hc]
    · simp only [Tickets.exec, TicketStore.revoke, hc, Tickets.persists] at h
      cases h
  | pruneExpired now =>
    -- nothing was removed, so the filter kept every entry
    have hzero : store.inner.entries.length -
        (store.inner.entries.filter fun entry => !entry.2.isExpired now).length = 0 :=
      Nat.eq_zero_of_not_pos (of_decide_eq_false h)
    have hle := List.length_filter_le (fun entry => !entry.2.isExpired now) store.inner.entries
    have hall : (store.inner.entries.filter fun entry => !entry.2.isExpired now) =
        store.inner.entries :=
      List.filter_sublist.eq_of_length (by omega)
    show List.dlookup id (store.inner.entries.filter fun entry => !entry.2.isExpired now) = _
    rw [hall]
    rfl
  | consume now id' subject sql ty =>
    rcases Tickets.consume_cases store now id' subject sql ty with
      hc | ⟨e, hc⟩ | ⟨fp, t, t', hfp, hget, hok, hc⟩
    · simp only [Tickets.exec, hc]
    · simp only [Tickets.exec, hc]
    · simp only [Tickets.exec, hc, Tickets.persists] at h
      cases h

theorem filedById_exec (store : TicketStore) (op : Tickets.Op)
    (h : FiledById Ticket.id store.inner) : FiledById Ticket.id (Tickets.exec store op).2.inner := by
  intro id t hget
  cases Tickets.exec_cases store op id with
  | kept hk hc => exact h id t (hk.symm.trans hget)
  | issued now req fp sample hop hid hk =>
    cases hk.symm.trans hget
    exact hid.symm
  | approved t0 t' now approver by' hop hget0 hok hk =>
    cases hk.symm.trans hget
    rw [(Tickets.approveTicket_ok hok).2.2.2.2]
    exact h id t0 hget0
  | rejected t0 t' rejector reason hget0 hok hk hc =>
    cases hk.symm.trans hget
    rw [(Tickets.rejectTicket_ok hok).2.2]
    exact h id t0 hget0
  | dropped now hop hk => cases hk.symm.trans hget
  | spent t0 t' now subject sql fp ty hop hfp hget0 hok hk =>
    cases hk.symm.trans hget
    rw [(Tickets.consumeTicket_ok hok).2.2.2.2.2.2]
    exact h id t0 hget0

theorem issued_of_get {store : TicketStore} {op : Tickets.Op} {id : String}
    (h : (Tickets.exec store op).2.get id ≠ none) : store.get id ≠ none ∨
      ∃ now, ticketStamp op (Tickets.exec store op).1 = some now ∧ id = Tickets.ticketId now store.seq := by
  cases Tickets.exec_cases store op id with
  | kept hk hc => exact Or.inl (hk ▸ h)
  | issued now req fp sample hop hid hk =>
    subst hop
    rcases Tickets.issue_cases store now req with hc | ⟨fp', sample', hc⟩
    · refine Or.inl ?_
      simp only [Tickets.exec, hc] at h
      exact h
    · refine Or.inr ⟨now, ?_, hid⟩
      simp only [Tickets.exec, hc]
      rfl
  | approved t0 t' now approver by' hop hget0 hok hk =>
    exact Or.inl (by rw [hget0]; exact Option.some_ne_none _)
  | rejected t0 t' rejector reason hget0 hok hk hc =>
    exact Or.inl (by rw [hget0]; exact Option.some_ne_none _)
  | dropped now hop hk => exact absurd hk h
  | spent t0 t' now subject sql fp ty hop hfp hget0 hok hk =>
    exact Or.inl (by rw [hget0]; exact Option.some_ne_none _)

variable {t : Ticket} {setup : Setup}

theorem ticketStamp_issued {store : TicketStore} {op : Tickets.Op} (h : (Tickets.exec store op).1 = .issued t) :
    ∃ now, ticketStamp op (Tickets.exec store op).1 = some now ∧ t.id = Tickets.ticketId now store.seq := by
  obtain ⟨now, req, hop, hid, _⟩ := Tickets.issues_spec (t := t) h
  subst hop
  exact ⟨now, by rw [h]; rfl, hid⟩

theorem seq_of_ticketStamp (store : TicketStore) (op : Tickets.Op) (now : Nat)
    (h : ticketStamp op (Tickets.exec store op).1 = some now) : (Tickets.exec store op).2.seq = store.seq + 1 := by
  cases op with
  | issue now' req =>
    rcases Tickets.issue_cases store now' req with hc | ⟨fp, sample, hc⟩ <;> simp only [Tickets.exec, hc]
  | approve now' id by' => cases h
  | reject id by' reason => cases h
  | revoke id by' reason => cases h
  | pruneExpired now' => cases h
  | consume now' id subject sql ty =>
    cases hout : (Tickets.exec store (.consume now' id subject sql ty)).1 <;> (rw [hout] at h; cases h)

/-- The ticket store as a store that can be installed again. -/
def ticketKeeper : Keeper TicketStore Tickets.Op Tickets.Answer TicketFile Ticket where
  new := TicketStore.new
  exec := Tickets.exec
  get := TicketStore.get
  seq := TicketStore.seq
  empty := ⟨[]⟩
  toFile := TicketStore.toFile
  load := TicketStore.load
  saves := Tickets.persists
  issued := ticketStamp
  mkId := Tickets.ticketId
  expired now t := t.isExpired now
  Inv store := FiledById Ticket.id store.inner
  inv_new := by intro id t h; cases h
  inv_exec := filedById_exec
  inv_load f := filedById_readRows Ticket.id f.tickets
  get_new _ := rfl
  get_empty _ := rfl
  get_load_toFile store h id := Tickets.get_load_toFile h id
  get_unsaved store op h id := get_of_not_persists h id
  seq_le := Tickets.seq_le_exec
  seq_issued := seq_of_ticketStamp
  mkId_injective _ _ _ _ h := Tickets.ticketId_injective h
  get_exec _ _ _ _ h := issued_of_get h
  lt_seq_load f now n h := trailingNumber_lt_of_lookup Ticket.id h (Tickets.trailingNumber_ticketId now n)

/-! ## The vault -/

/-- The clock reading in the id that a call of the vault handed out. -/
def leaseStamp : Vault.Op → Vault.Answer → Option Nat
  | .issueLease now _, .issued _ => some now
  | _, _ => none

theorem getLease_congr {store store' : VaultStore} (h : store'.leases = store.leases) (id : String) :
    store'.getLease id = store.getLease id := by
  unfold VaultStore.getLease
  rw [h]

theorem getLease_of_not_persists {store : VaultStore} {op : Vault.Op}
    (h : Vault.persists op (Vault.exec store op).1 = false) (id : String) :
    (Vault.exec store op).2.getLease id = store.getLease id := by
  cases Vault.exec_cases store op with
  | kept hleases hseq hout => exact getLease_congr hleases id
  | issued now req hop =>
    subst hop
    cases h
  | updated id' r r' hget hid hleases hseq hout hsaves =>
    rw [hsaves] at h
    cases h
  | pruned now hop =>
    subst hop
    have hzero : store.leases.entries.length -
        (store.leases.entries.filter fun entry => Vault.isActive entry.2.lease now).length = 0 :=
      Nat.eq_zero_of_not_pos (of_decide_eq_false h)
    have hle := List.length_filter_le
      (fun entry => Vault.isActive entry.2.lease now) store.leases.entries
    have hall : (store.leases.entries.filter fun entry => Vault.isActive entry.2.lease now) =
        store.leases.entries :=
      List.filter_sublist.eq_of_length (by omega)
    show (List.dlookup id
      (store.leases.entries.filter fun entry => Vault.isActive entry.2.lease now)).map _ = _
    rw [hall]
    rfl

theorem leaseIssued_of_getLease {store : VaultStore} {op : Vault.Op} {id : String}
    (h : (Vault.exec store op).2.getLease id ≠ none) : store.getLease id ≠ none ∨
      ∃ now, leaseStamp op (Vault.exec store op).1 = some now ∧ id = Vault.leaseId now store.seq := by
  cases Vault.exec_cases store op with
  | kept hleases hseq hout =>
    rw [getLease_congr hleases id] at h
    exact Or.inl h
  | issued now req hop =>
    subst hop
    by_cases hid : id = Vault.leaseId now store.seq
    · exact Or.inr ⟨now, rfl, hid⟩
    · refine Or.inl ?_
      intro hnone
      refine h ?_
      have hsame : (store.leases.insert (Vault.leaseId now store.seq)
          (Vault.freshLease now store.seq req)).lookup id = store.leases.lookup id :=
        AList.lookup_insert_ne hid
      show ((store.leases.insert _ _).lookup id).map _ = none
      rw [show (Vault.freshLease now store.seq req).lease.leaseId = Vault.leaseId now store.seq from rfl, hsame]
      exact hnone
  | updated id' r r' hget hid hleases hseq hout hsaves =>
    refine Or.inl ?_
    unfold VaultStore.getLease at h ⊢
    rw [hleases] at h
    by_cases heq : id = id'
    · subst heq
      rw [hget]
      exact Option.some_ne_none _
    · rw [AList.lookup_insert_ne heq] at h
      exact h
  | pruned now hop =>
    subst hop
    refine Or.inl ?_
    intro hnone
    unfold VaultStore.getLease at h hnone
    obtain ⟨lease, hlease⟩ := Option.ne_none_iff_exists'.mp h
    obtain ⟨r, hr, _⟩ := Option.map_eq_some_iff.mp hlease
    rw [Vault.lookup_pruneExpired hr] at hnone
    cases hnone

theorem seq_le_vaultExec (store : VaultStore) (op : Vault.Op) : store.seq ≤ (Vault.exec store op).2.seq := by
  cases Vault.exec_cases store op with
  | kept hleases hseq hout => exact hseq.symm.le
  | issued now req hop =>
    subst hop
    exact Nat.le_succ _
  | updated id r r' hget hid hleases hseq hout hsaves => exact hseq.symm.le
  | pruned now hop =>
    subst hop
    exact le_refl _

theorem leaseStamp_issued {store : VaultStore} {op : Vault.Op} {lease : VaultLease}
    (h : (Vault.exec store op).1 = .issued lease) : ∃ now, leaseStamp op (Vault.exec store op).1 = some now ∧
        lease.leaseId = Vault.leaseId now store.seq := by
  cases Vault.exec_cases store op with
  | kept hleases hseq hout => exact absurd h (hout lease)
  | issued now req hop =>
    subst hop
    cases h
    exact ⟨now, rfl, rfl⟩
  | updated id r r' hget hid hleases hseq hout hsaves =>
    rw [h] at hout
    cases hout
  | pruned now hop =>
    subst hop
    cases h

theorem seq_of_leaseStamp (store : VaultStore) (op : Vault.Op) (now : Nat)
    (h : leaseStamp op (Vault.exec store op).1 = some now) : (Vault.exec store op).2.seq = store.seq + 1 := by
  cases Vault.exec_cases store op with
  | kept hleases hseq hout =>
    unfold leaseStamp at h
    split at h
    · rename_i now' req lease hout'
      exact absurd hout' (hout lease)
    · cases h
  | issued now' req hop =>
    subst hop
    rfl
  | updated id r r' hget hid hleases hseq hout hsaves =>
    rw [hout] at h
    unfold leaseStamp at h
    split at h
    · rename_i heq
      cases heq
    · cases h
  | pruned now' hop =>
    subst hop
    cases h

/-- The vault as a store that can be installed again; `encrypted` is whether there is a key. -/
def vaultKeeper (encrypted : Bool) : Keeper VaultStore Vault.Op Vault.Answer VaultFile VaultLease where
  new := VaultStore.new
  exec := Vault.exec
  get := VaultStore.getLease
  seq := VaultStore.seq
  empty := ⟨[], [], []⟩
  toFile store := store.toFile encrypted
  load := VaultStore.load encrypted
  saves := Vault.persists
  issued := leaseStamp
  mkId := Vault.leaseId
  expired now lease := lease.expiresAtUnixMs < now
  Inv := Vault.Filed
  inv_new := by intro id r h; cases h
  inv_exec := Vault.filed_exec
  inv_load f := filedById_readRows _ _
  get_new _ := rfl
  get_empty _ := by cases encrypted <;> rfl
  get_load_toFile store h id := Vault.getLease_load_toFile h encrypted id
  get_unsaved store op h id := getLease_of_not_persists h id
  seq_le := seq_le_vaultExec
  seq_issued := seq_of_leaseStamp
  mkId_injective _ _ _ _ h := Vault.leaseId_injective h
  get_exec _ _ _ _ h := leaseIssued_of_getLease h
  lt_seq_load f now n h := by
    refine trailingNumber_lt_of_lookup _ ?_ (Vault.trailingNumber_leaseId now n)
    intro hnone
    refine h ?_
    show ((readRows _ _).1.lookup _).map _ = none
    rw [hnone]
    rfl

/-! ## Reloads -/

/-- Over the run, every re-installation leaves every unexpired ticket as it was, and no two issued tickets have
    the same id. -/
def TicketsKept (setup : Setup) (disk : Option TicketFile) (acts : List (Act Tickets.Op TicketFile)) : Prop :=
  (∀ e ∈ entries (step ticketKeeper setup) (start ticketKeeper setup disk) acts,
    ∀ now readable, e.act = .install now readable → ∀ id t, e.pre.store.get id = some t →
      t.isExpired now = false → e.post.store.get id = some t) ∧
  (entries (step ticketKeeper setup) (start ticketKeeper setup disk) acts).Pairwise
    (fun e e' => ∀ t t', e.out = some (.issued t) → e'.out = some (.issued t') → t.id ≠ t'.id)

def LeasesKept (encrypted : Bool) (setup : Setup) (disk : Option VaultFile)
    (acts : List (Act Vault.Op VaultFile)) : Prop :=
  (∀ e ∈ entries (step (vaultKeeper encrypted) setup) (start (vaultKeeper encrypted) setup disk) acts,
    ∀ now readable, e.act = .install now readable → ∀ id lease, e.pre.store.getLease id = some lease →
      ¬ lease.expiresAtUnixMs < now → e.post.store.getLease id = some lease) ∧
  (entries (step (vaultKeeper encrypted) setup) (start (vaultKeeper encrypted) setup disk) acts).Pairwise
    (fun e e' => ∀ lease lease', e.out = some (.issued lease) → e'.out = some (.issued lease') →
      lease.leaseId ≠ lease'.leaseId)

theorem handsOut_ticket {p : Process TicketStore TicketFile} {acts : List (Act Tickets.Op TicketFile)}
    {e : Entry (Process TicketStore TicketFile) (Act Tickets.Op TicketFile) (Option Tickets.Answer)}
    (he : e ∈ entries (step ticketKeeper setup) p acts) (hout : e.out = some (.issued t)) :
    HandsOut ticketKeeper t.id e := by
  rw [(entry_eq he).1] at hout
  cases hact : e.act with
  | call op written =>
    rw [hact] at hout
    obtain ⟨now, hstamp, hid⟩ := ticketStamp_issued (Option.some.inj hout)
    exact ⟨op, written, now, hact, hstamp, hid⟩
  | install now readable =>
    rw [hact] at hout
    cases hout
  | foreign disk =>
    rw [hact] at hout
    cases hout

theorem handsOut_lease {encrypted : Bool} {p : Process VaultStore VaultFile} {acts : List (Act Vault.Op VaultFile)}
    {e : Entry (Process VaultStore VaultFile) (Act Vault.Op VaultFile) (Option Vault.Answer)}
    (he : e ∈ entries (step (vaultKeeper encrypted) setup) p acts) {lease : VaultLease}
    (hout : e.out = some (.issued lease)) : HandsOut (vaultKeeper encrypted) lease.leaseId e := by
  rw [(entry_eq he).1] at hout
  cases hact : e.act with
  | call op written =>
    rw [hact] at hout
    obtain ⟨now, hstamp, hid⟩ := leaseStamp_issued (Option.some.inj hout)
    exact ⟨op, written, now, hact, hstamp, hid⟩
  | install now readable =>
    rw [hact] at hout
    cases hout
  | foreign disk =>
    rw [hact] at hout
    cases hout

/-- **Reload.**  In every run of careful steps a reload leaves every unexpired ticket and lease as it was, and no id is
    issued twice. -/
theorem reload_keeps_live_state (backend key : String) :
    (∀ disk acts, Meets (step ticketKeeper (setupOf "ticket" backend key))
        (Careful ticketKeeper (setupOf "ticket" backend key))
        (start ticketKeeper (setupOf "ticket" backend key) disk) acts →
      TicketsKept (setupOf "ticket" backend key) disk acts) ∧
    (∀ disk acts, Meets (step (vaultKeeper (encrypts "vault" backend key)) (setupOf "vault" backend key))
        (Careful (vaultKeeper (encrypts "vault" backend key)) (setupOf "vault" backend key))
        (start (vaultKeeper (encrypts "vault" backend key)) (setupOf "vault" backend key) disk) acts →
      LeasesKept (encrypts "vault" backend key) (setupOf "vault" backend key) disk acts) := by
  constructor
  · intro disk acts hok
    refine ⟨?_, ?_⟩
    · intro e he now readable hact id t hget hlive
      exact reinstall_keeps hok he hact hget hlive
    · refine (ids_differ hok).imp_of_mem ?_
      intro e e' he he' hdiffer t t' hout hout'
      exact hdiffer t.id t'.id (handsOut_ticket he hout) (handsOut_ticket he' hout')
  · intro disk acts hok
    refine ⟨?_, ?_⟩
    · intro e he now readable hact id lease hget hlive
      exact reinstall_keeps hok he hact hget (decide_eq_false hlive)
    · refine (ids_differ hok).imp_of_mem ?_
      intro e e' he he' hdiffer lease lease' hout hout'
      exact hdiffer lease.leaseId lease'.leaseId (handsOut_lease he hout) (handsOut_lease he' hout')

/-- A request for a ticket with a minute to live. -/
def minuteTicket : Tickets.IssueTicketRequest where
  subjectId := "root"
  sql := "DELETE FROM t"
  ticketType := "high_risk"
  ttlSecs := 60
  maxUses := 1
  note := none
  issuedBy := some "admin"
  dualControl := false

/-- A request for a lease with a minute to live. -/
def minuteLease : Vault.LeaseRequest where
  project := "demo"
  environment := "dev"
  ttlSecs := 60
  service := "svc"
  endpoint := "db"
  protocol := "postgresql"
  address := "db:5432"
  database := none
  username := "app"
  password := "secret"

def ticketReload : List (Act Tickets.Op TicketFile) :=
  [.call (.issue 1 minuteTicket) true, .install 2 true, .call (.issue 3 minuteTicket) true]

def leaseReload : List (Act Vault.Op VaultFile) :=
  [.call (.issueLease 1 minuteLease) true, .install 2 true, .call (.issueLease 3 minuteLease) true]

/-- With the file backend that is a careful run. -/
theorem file_reload_keeps : TicketsKept (setupOf "ticket" "file" "") none ticketReload ∧
      LeasesKept (encrypts "vault" "file" "") (setupOf "vault" "file" "") none leaseReload := by
  have hticket : setupOf "ticket" "file" "" = .file := by decide
  have hvault : setupOf "vault" "file" "" = .file := by decide
  refine ⟨(reload_keeps_live_state "file" "").1 none ticketReload ?_,
    (reload_keeps_live_state "file" "").2 none leaseReload ?_⟩
  · rw [hticket]
    refine meets_cons ⟨fun _ => rfl, fun now _ => Nat.zero_le now⟩ (meets_cons (by nofun)
      (meets_cons ⟨fun _ => rfl, fun now _ => ?_⟩ meets_nil))
    refine Nat.le_trans (m := 0) ?_ (Nat.zero_le now)
    decide +kernel
  · rw [hvault]
    refine meets_cons ⟨fun _ => rfl, fun now _ => Nat.zero_le now⟩ (meets_cons (by nofun)
      (meets_cons ⟨fun _ => rfl, fun now _ => ?_⟩ meets_nil))
    refine Nat.le_trans (m := 0) ?_ (Nat.zero_le now)
    decide +kernel

/-- **The memory backend.**  The reload drops an unexpired ticket and an unexpired lease. -/
theorem memory_reload_forgets : ¬ TicketsKept (setupOf "ticket" "memory" "") none ticketReload ∧
      ¬ LeasesKept (encrypts "vault" "memory" "") (setupOf "vault" "memory" "") none leaseReload := by
  have hticket : setupOf "ticket" "memory" "" = .memory := by decide
  have hvault : setupOf "vault" "memory" "" = .memory := by decide
  constructor
  · rintro ⟨hkept, _⟩
    rw [hticket] at hkept
    have hgone := hkept _ (List.mem_cons_of_mem _ List.mem_cons_self) 2 true rfl "tkt-1-1"
      (Tickets.freshTicket 1 1 minuteTicket "delete from t" "DELETE FROM t")
      (by decide) (by decide)
    cases hgone
  · rintro ⟨hkept, _⟩
    rw [hvault] at hkept
    have hgone := hkept _ (List.mem_cons_of_mem _ List.mem_cons_self) 2 true rfl "lease-1-1"
      (Vault.freshLease 1 1 minuteLease).lease (by decide) (by decide)
    cases hgone

end DataNexus.State
