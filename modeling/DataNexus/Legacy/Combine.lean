/-
  How the answers of the shards become one answer (`runtime/gateway/src/server/executor.rs`).

  The merged stream reads one packet of every shard, and if the first of them is an OK or an ERR it is the answer; the
  others were read and are not looked at.

  * `answer_of_first` — the first shard decides what kind of answer the client gets;
  * `combined_iff` — when an answer is honest about all shards: an error of any shard is shown, and the affected rows of a
    write add up.

  What is done with result sets (`get_columns`, `get_rows`) is a parameter: it answers rows or fails.
-/
import Mathlib.Algebra.BigOperators.Group.List.Basic
import Mathlib.Algebra.GroupWithZero.Nat

namespace DataNexus.Legacy

/-! ## Packets of the shards -/

/-- What a shard answers a statement with.  `R` stands for the rest of a result set. -/
inductive Response (R : Type) where
  | ok (affectedRows : Nat)
  | err (message : String)
  | resultSet (rest : R)
deriving DecidableEq

inductive Reply (R Rows E : Type) where
  /-- A packet of a shard, as it is. -/
  | packet (response : Response R)
  | rows (rows : Rows)
  /-- The command failed; the connection loop sends error 2002. -/
  | failed (error : E)
  | nothing
deriving DecidableEq

variable {R Rows E : Type}

/-- `get_shard_one_data`: the first packet there is, with its position. -/
def getShardOneData {α : Type} (data : Option (List (Option (Except E α)))) : Except E (Option (Nat × α)) :=
  match data with
  | none => .ok none
  | some data =>
    -- get one first is_some
    let data : Option (Nat × Except E α) := data.zipIdx.findSome? fun entry => entry.1.map fun item => (entry.2, item)
    match data with
    | some (idx, .ok packet) => .ok (some (idx, packet))
    | some (_, .error e) => .error e
    | none => .ok none

/-- `MergeStream::next` before the rows: one packet of every shard. -/
def nextHeaders (responses : List (Response R)) : Option (List (Option (Except E (Response R)))) :=
  some (responses.map fun response => some (.ok response))

/-- `handle_shard_resultset`.  `merge` is what is made of the result sets. -/
def handleShardResultset (merge : List (Response R) → Except E Rows) (responses : List (Response R)) :
    Reply R Rows E :=
  match getShardOneData (nextHeaders responses) with
  | .error e => .failed e
  | .ok none => .nothing
  | .ok (some (_, .ok affectedRows)) => .packet (.ok affectedRows)
  | .ok (some (_, .err message)) => .packet (.err message)
  | .ok (some (_, .resultSet _)) =>
    match merge responses with
    | .error e => .failed e
    | .ok rows => .rows rows

/-! ## Honest answers -/

def Response.affected : Response R → Nat
  | .ok affectedRows => affectedRows
  | _ => 0

def Response.isOk : Response R → Bool
  | .ok _ => true
  | _ => false

def Response.isErr : Response R → Bool
  | .err _ => true
  | _ => false

def Reply.isError : Reply R Rows E → Bool
  | .packet (.err _) => true
  | .failed _ => true
  | _ => false

/-- The answer tells what happened on all shards. -/
structure Honest (responses : List (Response R)) (reply : Reply R Rows E) : Prop where
  /-- If a shard failed, the client sees an error. -/
  error : (∃ response ∈ responses, response.isErr = true) → reply.isError = true
  /-- A write that went through on all shards affected as many rows as these say together. -/
  affected : (∀ response ∈ responses, response.isOk = true) →
    reply = .packet (.ok (responses.map Response.affected).sum)

/-- The first shard's answer covers the others: it shows the error if one of them failed, and the rows of a write
    were affected by it alone. -/
structure Covers (merge : List (Response R) → Except E Rows) (first : Response R) (rest : List (Response R)) :
    Prop where
  error : (∃ response ∈ rest, response.isErr = true) → first.isErr = true ∨
    ∃ r e, first = .resultSet r ∧ merge (first :: rest) = .error e
  affected : first.isOk = true → (∀ response ∈ rest, response.isOk = true) → ∀ response ∈ rest, response.affected = 0

/-- **The first shard decides.** -/
theorem answer_of_first (merge : List (Response R) → Except E Rows) (first : Response R) (rest : List (Response R)) :
    handleShardResultset merge (first :: rest) =
      match first with
      | .ok affectedRows => .packet (.ok affectedRows)
      | .err message => .packet (.err message)
      | .resultSet _ =>
        match merge (first :: rest) with
        | .error e => .failed e
        | .ok rows => .rows rows := by
  have hone : getShardOneData (nextHeaders (E := E) (first :: rest)) = .ok (some (0, first)) := rfl
  unfold handleShardResultset
  rw [hone]
  cases first with
  | ok affectedRows => rfl
  | err message => rfl
  | resultSet r => rfl

theorem isError_iff (merge : List (Response R) → Except E Rows) (first : Response R) (rest : List (Response R)) :
    (handleShardResultset merge (first :: rest)).isError = true ↔ first.isErr = true ∨
      ∃ r e, first = .resultSet r ∧ merge (first :: rest) = .error e := by
  rw [answer_of_first]
  cases first with
  | ok affectedRows =>
    constructor
    · intro h
      cases h
    · rintro (h | ⟨r, e, h, _⟩) <;> cases h
  | err message => exact ⟨fun _ => Or.inl rfl, fun _ => rfl⟩
  | resultSet r =>
    cases hmerge : merge (.resultSet r :: rest) with
    | error e => exact ⟨fun _ => Or.inr ⟨r, e, rfl, rfl⟩, fun _ => rfl⟩
    | ok rows =>
      constructor
      · intro h
        cases h
      · rintro (h | ⟨r', e, _, h⟩)
        · cases h
        · cases h

theorem sum_affected_iff (n : Nat) (rest : List (Response R)) :
    n = n + (rest.map Response.affected).sum ↔ ∀ response ∈ rest, response.affected = 0 := by
  rw [left_eq_add, List.sum_eq_zero_iff_forall_eq_nat]
  exact List.forall_mem_map

/-- **Combined outcomes.**  The client's answer is honest about all shards iff the first shard's answer covers the
    others. -/
theorem combined_iff (merge : List (Response R) → Except E Rows) (first : Response R) (rest : List (Response R)) :
    Honest (first :: rest) (handleShardResultset merge (first :: rest)) ↔ Covers merge first rest := by
  have hshown := isError_iff merge first rest
  constructor
  · intro h
    refine ⟨?_, ?_⟩
    · rintro ⟨response, hin, herr⟩
      exact hshown.mp (h.error ⟨response, List.mem_cons_of_mem _ hin, herr⟩)
    · intro hfirst hrest
      have hall : ∀ response ∈ first :: rest, response.isOk = true := by
        intro response hin
        rcases List.mem_cons.mp hin with rfl | hin
        · exact hfirst
        · exact hrest response hin
      have hreply := h.affected hall
      rw [answer_of_first] at hreply
      cases first with
      | ok affectedRows =>
        rw [List.map_cons, List.sum_cons] at hreply
        exact (sum_affected_iff affectedRows rest).mp (Response.ok.inj (Reply.packet.inj hreply))
      | err message => cases hfirst
      | resultSet r => cases hfirst
  · intro h
    refine ⟨?_, ?_⟩
    · rintro ⟨response, hin, herr⟩
      refine hshown.mpr ?_
      rcases List.mem_cons.mp hin with rfl | hin
      · exact Or.inl herr
      · exact h.error ⟨response, hin, herr⟩
    · intro hall
      have hfirst := hall first List.mem_cons_self
      rw [answer_of_first]
      cases first with
      | ok affectedRows =>
        have hzero := h.affected hfirst fun response hin => hall response (List.mem_cons_of_mem _ hin)
        rw [List.map_cons, List.sum_cons]
        exact congrArg (fun n => Reply.packet (.ok n)) ((sum_affected_iff affectedRows rest).mpr hzero)
      | err message => cases hfirst
      | resultSet r => cases hfirst

/-- An error of the second shard is dropped behind the OK of the first. -/
theorem second_error_dropped : ¬ ∀ (merge : List (Response Unit) → Except Unit Unit) (first : Response Unit)
      (rest : List (Response Unit)), Honest (first :: rest) (handleShardResultset merge (first :: rest)) := by
  intro h
  have hshown := (h (fun _ => .ok ()) (.ok 1) [.err "Duplicate entry"]).error
    ⟨.err "Duplicate entry", by decide, rfl⟩
  exact absurd hshown (by decide)

end DataNexus.Legacy
