/-
  The file backend of the ticket store (`with_file`, `load_from_disk`, `persist`).

  A file-backed store reads the file ONCE, when it is opened, and works on its own map from then on; every
  call that changes the map rewrites the whole file from it.

  A file is the value it decodes to: encoding (`serde_json`, and AES-GCM when a key is set) is undone by
  decoding with the same key.  A file that cannot be read or decoded is an error of the call that reads it.
-/
import DataNexus.State.Rows
import DataNexus.Tickets.Runs

namespace DataNexus.Tickets

open DataNexus.Text DataNexus.Run DataNexus.State

structure TicketFile where
  tickets : List Ticket
deriving DecidableEq

/-- `write_file_locked`: the whole map, newest first. -/
def TicketStore.toFile (store : TicketStore) : TicketFile := ⟨writeRows (·.issuedAtUnixMs) store.inner⟩

/-- `load_from_disk` of a file that is there. -/
def TicketStore.load (file : TicketFile) : TicketStore :=
  let rows := readRows (·.id) file.tickets
  ⟨rows.1, rows.2⟩

/-- `with_file`: the store, and the file afterwards.  A missing file is created empty. -/
def TicketStore.withFile (file : Option TicketFile) : TicketStore × TicketFile :=
  match file with
  | none => (TicketStore.new, ⟨[]⟩)
  | some content => (TicketStore.load content, content)

/-- The calls that end with `persist`: those that changed the map. -/
def persists : Op → Answer → Bool
  | .issue _ _, .issued _ => true
  | .approve _ _ _, .result (.ok _) => true
  | .reject _ _ _, .result (.ok _) => true
  | .revoke _ _ _, .result (.ok _) => true
  | .pruneExpired _, .pruned removed => removed > 0
  | .consume _ _ _ _ _, .result (.ok _) => true
  | _, _ => false

theorem trailingNumber_ticketId (now seq : Nat) : trailingNumber (ticketId now seq) = some seq := by
  refine trailingNumber_dashed ("tkt-".toList ++ Nat.toDigits 10 now) ?_
  simp [ticketId]

/-- A file written by a store: different ticket ids, uses within `max_uses`, active under dual control only approved. -/
structure SoundFile (file : TicketFile) : Prop where
  nodup : (file.tickets.map (·.id)).Nodup
  bounded : ∀ t ∈ file.tickets, t.uses ≤ t.maxUses
  approved : ∀ t ∈ file.tickets, t.dualControl = true → t.status = .active → t.approvedBy ≠ none
  numbered : ∀ t ∈ file.tickets, ∃ now seq, t.id = ticketId now seq

theorem soundFile_empty : SoundFile ⟨[]⟩ := by
  refine ⟨List.nodup_nil, ?_, ?_, ?_⟩ <;> (intro t h; cases h)

theorem Sound.filedById {store : TicketStore} (hs : Sound store) : FiledById Ticket.id store.inner :=
  fun id t h => hs.filed id t h

theorem soundFile_toFile {store : TicketStore} (hs : Sound store) : SoundFile store.toFile := by
  refine ⟨nodup_writeRows hs.filedById, ?_, ?_, ?_⟩
  · intro t ht
    obtain ⟨id, hget⟩ := mem_writeRows.mp ht
    exact hs.bounded id t hget
  · intro t ht
    obtain ⟨id, hget⟩ := mem_writeRows.mp ht
    exact hs.approved id t hget
  · intro t ht
    obtain ⟨id, hget⟩ := mem_writeRows.mp ht
    obtain ⟨now, seq, hid, _⟩ := hs.numbered id t hget
    exact ⟨now, seq, (hs.filed id t hget).trans hid⟩

theorem get_load {file : TicketFile} (hf : SoundFile file) (id : String) (t : Ticket) :
    (TicketStore.load file).get id = some t ↔ t ∈ file.tickets ∧ t.id = id :=
  lookup_readRows hf.nodup id t

theorem sound_load {file : TicketFile} (hf : SoundFile file) : Sound (TicketStore.load file) := by
  refine sound_of_tickets ?_
  intro id t hget
  obtain ⟨hmem, hid⟩ := (get_load hf id t).mp hget
  refine ⟨hid, hf.bounded t hmem, hf.approved t hmem, ?_⟩
  obtain ⟨now, seq, hseq⟩ := hf.numbered t hmem
  refine ⟨now, seq, hid.symm.trans hseq, ?_⟩
  have hheld : (readRows Ticket.id file.tickets).1.lookup id ≠ none := by
    show (TicketStore.load file).get id ≠ none
    rw [hget]
    exact Option.some_ne_none t
  have hnumber : trailingNumber id = some seq := by
    rw [← hid, hseq, trailingNumber_ticketId]
  exact trailingNumber_lt_of_lookup Ticket.id hheld hnumber

theorem get_load_toFile {store : TicketStore} (h : FiledById Ticket.id store.inner) (id : String) :
    (TicketStore.load store.toFile).get id = store.get id :=
  lookup_readRows_writeRows h id

end DataNexus.Tickets
