/-
  Rows of the state files (`load_from_disk` and `write_file_locked` of `gateway/core/src/ticket.rs` and `vault.rs`).

  A row is filed under its id, and the counter starts above the largest number at the end of an id; `readRows` is that
  loop for any row type.

  * `lookup_readRows_writeRows` — reading back what was written gives the same map;
  * `trailingNumber_lt_of_lookup` — the counter is above the number of every id in the file.

  Numbers have no upper bound here.  Among rows of one millisecond the rows are written in the order of the map.
-/
import DataNexus.Lib.Text
import Mathlib.Data.List.AList
import Mathlib.Data.List.Sort

namespace DataNexus.State

open DataNexus.Text

/-! ## Rows of a state file -/

variable {R : Type}

/-- `id.rsplit('-').next().and_then(|s| s.parse::<u64>().ok())`. -/
def trailingNumber (id : String) : Option Nat :=
  let digits := match lastSegment '-' id.toList with
    | '+' :: rest => rest
    | s => s
  digitsValue digits

/-- `max_seq = max_seq.max(n + 1)`, for an id that ends in a number. -/
def bumpSeq (maxSeq : Nat) (id : String) : Nat :=
  match trailingNumber id with
  | some n => max maxSeq (n + 1)
  | none => maxSeq

/-- One turn of the loop of `load_from_disk`: file the row, raise `max_seq`. -/
def fileRow (idOf : R → String) (acc : AList (fun _ : String => R) × Nat) (row : R) :
    AList (fun _ : String => R) × Nat :=
  (acc.1.insert (idOf row) row, bumpSeq acc.2 (idOf row))

/-- The loop over the rows of the file: the map and `max_seq`. -/
def readRows (idOf : R → String) (rows : List R) : AList (fun _ : String => R) × Nat := rows.foldl (fileRow idOf) (∅, 1)

def writeRows (issuedAt : R → Nat) (map : AList (fun _ : String => R)) : List R :=
  (map.entries.map (·.2)).mergeSort fun a b => decide (issuedAt b ≤ issuedAt a)

/-- A map that files each row under its own id. -/
def FiledById (idOf : R → String) (map : AList (fun _ : String => R)) : Prop :=
  ∀ id row, map.lookup id = some row → idOf row = id

variable {idOf : R → String} {map : AList (fun _ : String => R)} {issuedAt : R → Nat} {n : Nat}

theorem filedById_insert {id : String} {row : R} (hmap : FiledById idOf map) (hrow : idOf row = id) :
    FiledById idOf (map.insert id row) := by
  intro id' row' h
  by_cases hid : id' = id
  · subst hid
    rw [AList.lookup_insert] at h
    cases h
    exact hrow
  · rw [AList.lookup_insert_ne hid] at h
    exact hmap id' row' h

theorem mem_writeRows {row : R} : row ∈ writeRows issuedAt map ↔ ∃ id, map.lookup id = some row := by
  unfold writeRows
  rw [List.mem_mergeSort, List.mem_map]
  constructor
  · rintro ⟨entry, hentry, rfl⟩
    exact ⟨entry.1, AList.mem_lookup_iff.mpr hentry⟩
  · rintro ⟨id, hid⟩
    exact ⟨⟨id, row⟩, AList.mem_lookup_iff.mp hid, rfl⟩

theorem nodup_writeRows (hfiled : FiledById idOf map) : ((writeRows issuedAt map).map idOf).Nodup := by
  have hkeys : (map.entries.map (·.2)).map idOf = map.keys := by
    show _ = map.entries.map Sigma.fst
    rw [List.map_map]
    refine List.map_congr_left ?_
    intro entry hentry
    exact hfiled entry.1 entry.2 (AList.mem_lookup_iff.mpr hentry)
  have hperm : ((writeRows issuedAt map).map idOf).Perm map.keys := by
    rw [← hkeys]
    exact (List.mergeSort_perm _ _).map idOf
  exact hperm.nodup_iff.mpr (AList.keys_nodup map)

theorem lookup_foldl_rows (idOf : R → String) (rows : List R) :
    ∀ (acc : AList (fun _ : String => R) × Nat), (rows.map idOf).Nodup → ∀ id row,
    (rows.foldl (fileRow idOf) acc).1.lookup id = some row ↔
      (row ∈ rows ∧ idOf row = id) ∨ (id ∉ rows.map idOf ∧ acc.1.lookup id = some row) := by
  induction rows with
  | nil => intro acc _ id row; simp
  | cons first rows ih =>
    intro acc hnodup id row
    rw [List.map_cons, List.nodup_cons] at hnodup
    rw [List.foldl_cons, ih _ hnodup.2 id row]
    simp only [fileRow]
    by_cases hid : id = idOf first
    · -- the first row is the only one under this id
      subst hid
      simp only [AList.lookup_insert, List.map_cons, List.mem_cons, not_true_eq_false,
        false_and, or_false, Option.some.injEq, hnodup.1, not_false_eq_true, true_and]
      constructor
      · rintro (⟨hmem, heq⟩ | rfl)
        · exact ⟨Or.inr hmem, heq⟩
        · exact ⟨Or.inl rfl, rfl⟩
      · rintro ⟨rfl | hmem, heq⟩
        · exact Or.inr rfl
        · exact Or.inl ⟨hmem, heq⟩
    · rw [AList.lookup_insert_ne hid]
      simp only [List.map_cons, List.mem_cons, hid, false_or]
      constructor
      · rintro (⟨hmem, heq⟩ | h)
        · exact Or.inl ⟨Or.inr hmem, heq⟩
        · exact Or.inr h
      · rintro (⟨rfl | hmem, heq⟩ | h)
        · exact absurd heq.symm hid
        · exact Or.inl ⟨hmem, heq⟩
        · exact Or.inr h

theorem lookup_readRows {rows : List R} (hnodup : (rows.map idOf).Nodup) (id : String) (row : R) :
    (readRows idOf rows).1.lookup id = some row ↔ row ∈ rows ∧ idOf row = id := by
  unfold readRows
  rw [lookup_foldl_rows idOf rows (∅, 1) hnodup id row]
  simp

/-- **Round trip.**  Reading back what was written gives the same map. -/
theorem lookup_readRows_writeRows (hfiled : FiledById idOf map) (id : String) :
    (readRows idOf (writeRows issuedAt map)).1.lookup id = map.lookup id := by
  refine Option.ext ?_
  intro row
  rw [lookup_readRows (nodup_writeRows hfiled), mem_writeRows]
  constructor
  · rintro ⟨⟨id', hid'⟩, heq⟩
    rw [← heq, hfiled id' row hid']
    exact hid'
  · intro h
    exact ⟨⟨id, h⟩, hfiled id row h⟩

theorem lookup_readRows_map {rows : List R} (hnodup : (rows.map idOf).Nodup) {g : R → R}
    (hg : ∀ row, idOf (g row) = idOf row) (id : String) :
    (readRows idOf (rows.map g)).1.lookup id = ((readRows idOf rows).1.lookup id).map g := by
  have hnodup' : ((rows.map g).map idOf).Nodup := by
    have hsame : (rows.map g).map idOf = rows.map idOf := by
      rw [List.map_map]
      exact List.map_congr_left fun row _ => hg row
    rw [hsame]
    exact hnodup
  refine Option.ext ?_
  intro row
  rw [lookup_readRows hnodup', Option.map_eq_some_iff]
  constructor
  · rintro ⟨hmem, hid⟩
    obtain ⟨row0, hmem0, rfl⟩ := List.mem_map.mp hmem
    exact ⟨row0, (lookup_readRows hnodup id row0).mpr ⟨hmem0, (hg row0).symm.trans hid⟩, rfl⟩
  · rintro ⟨row0, hget, rfl⟩
    obtain ⟨hmem0, hid⟩ := (lookup_readRows hnodup id row0).mp hget
    exact ⟨List.mem_map_of_mem hmem0, (hg row0).trans hid⟩

theorem filedById_readRows (idOf : R → String) (rows : List R) : FiledById idOf (readRows idOf rows).1 := by
  have key : ∀ (rest : List R) (acc : AList (fun _ : String => R) × Nat), FiledById idOf acc.1 →
      FiledById idOf (rest.foldl (fileRow idOf) acc).1 := by
    intro rest
    induction rest with
    | nil => intro acc h; exact h
    | cons first rest ih =>
      intro acc h
      rw [List.foldl_cons]
      exact ih (fileRow idOf acc first) (filedById_insert h rfl)
  exact key rows (∅, 1) (by intro id row h; cases h)

/-! ## The counter of a file -/

theorem le_bumpSeq (maxSeq : Nat) (id : String) : maxSeq ≤ bumpSeq maxSeq id := by
  unfold bumpSeq
  split <;> omega

theorem lt_bumpSeq {id : String} (h : trailingNumber id = some n) (maxSeq : Nat) : n < bumpSeq maxSeq id := by
  simp only [bumpSeq, h]
  omega

theorem trailingNumber_lt_of_lookup (idOf : R → String) {rows : List R} {id : String}
    (hheld : (readRows idOf rows).1.lookup id ≠ none) (hn : trailingNumber id = some n) :
    n < (readRows idOf rows).2 := by
  have key : ∀ (rest : List R) (acc : AList (fun _ : String => R) × Nat),
      (acc.1.lookup id ≠ none → n < acc.2) →
      (rest.foldl (fileRow idOf) acc).1.lookup id ≠ none →
      n < (rest.foldl (fileRow idOf) acc).2 := by
    intro rest
    induction rest with
    | nil => intro acc hacc h; exact hacc h
    | cons first rest ih =>
      intro acc hacc h
      rw [List.foldl_cons] at h ⊢
      refine ih (fileRow idOf acc first) ?_ h
      intro hheld'
      by_cases hid : id = idOf first
      · subst hid
        exact lt_bumpSeq hn acc.2
      · have hold : acc.1.lookup id ≠ none := by
          rw [show (fileRow idOf acc first).1 = acc.1.insert (idOf first) first from rfl,
            AList.lookup_insert_ne hid] at hheld'
          exact hheld'
        exact lt_of_lt_of_le (hacc hold) (le_bumpSeq acc.2 (idOf first))
  exact key rows (∅, 1) (fun h => absurd rfl h) hheld

theorem digitsValue_toDigits (n : Nat) : digitsValue (Nat.toDigits 10 n) = some n := by
  have hdigits : (Nat.toDigits 10 n).all Char.isDigit = true :=
    List.all_eq_true.mpr fun c hc => Nat.isDigit_of_mem_toDigits (by decide) (by decide) hc
  have hne : (Nat.toDigits 10 n).isEmpty = false := by simp
  simp only [digitsValue, hne, hdigits, Nat.ofDigitChars_ten_toDigits]
  rfl

theorem lastSegment_dashed (front : List Char) (seq : Nat) :
    lastSegment '-' (front ++ '-' :: Nat.toDigits 10 seq) = Nat.toDigits 10 seq := by
  unfold lastSegment
  have hrev : (front ++ '-' :: Nat.toDigits 10 seq).reverse =
      (Nat.toDigits 10 seq).reverse ++ '-' :: front.reverse := by simp
  rw [hrev, List.takeWhile_append_of_pos]
  · simp
  · intro c hc
    have hmem : c ∈ Nat.toDigits 10 seq := List.mem_reverse.mp hc
    have hne : c ≠ '-' := by
      rintro rfl
      exact dash_notMem_toDigits seq hmem
    simpa using hne

theorem trailingNumber_dashed {id : String} (front : List Char) {seq : Nat}
    (h : id.toList = front ++ '-' :: Nat.toDigits 10 seq) : trailingNumber id = some seq := by
  unfold trailingNumber
  rw [h, lastSegment_dashed]
  -- no numeral starts with a plus sign
  have hplus : ∀ rest, Nat.toDigits 10 seq ≠ '+' :: rest := by
    intro rest heq
    have hd : Char.isDigit '+' = true :=
      Nat.isDigit_of_mem_toDigits (b := 10) (n := seq) (by decide) (by decide) (by simp [heq])
    exact absurd hd (by decide)
  split
  · rename_i rest heq
    exact absurd heq (hplus rest)
  · exact digitsValue_toDigits seq

end DataNexus.State
