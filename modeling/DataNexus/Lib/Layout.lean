/-
  Readers that walk along a message.

  A `Reader` reads an item at an offset of a message and says where the next one begins.  `Exact r write Ok mean` says
  what it accepts: it answers `b` exactly where the layout `write a` of an item `a` stands that is `Ok`, and then `b` is
  what `a` means.  An item may have other items of the same meaning.

  * `Exact.times` — a loop that reads a number of items accepts exactly the layouts of that many items;
  * `at_append` — a layout of two parts stands where the first stands, and behind it the second;
  * `Exact.unique` — what is read back has a layout that tells where it ends.
-/
import Mathlib.Data.List.Basic

namespace DataNexus.Layout

variable {σ ε α β : Type*}

/-- Reads at an offset: the item and the offset behind it. -/
abbrev Reader (σ ε β : Type*) := List σ → Nat → Except ε (β × Nat)

def At (msg : List σ) (off : Nat) (bytes : List σ) : Prop := bytes <+: msg.drop off

/-- What a reader accepts, and what it answers. -/
def Exact (r : Reader σ ε β) (write : α → List σ) (Ok : α → Prop) (mean : α → β) : Prop :=
  ∀ msg off b off', r msg off = .ok (b, off') ↔
    ∃ a, Ok a ∧ At msg off (write a) ∧ b = mean a ∧ off' = off + (write a).length

def Never (e : ε) (r : Reader σ ε β) : Prop := ∀ msg off, r msg off ≠ .error e

theorem at_nil (msg : List σ) (off : Nat) : At msg off [] := List.nil_prefix

variable {msg xs ys : List σ} {as : List α} {r : Nat → Reader σ ε β}

theorem at_append {off : Nat} : At msg off (xs ++ ys) ↔ At msg off xs ∧ At msg (off + xs.length) ys := by
  unfold At
  rw [← List.drop_drop]
  constructor
  · rintro ⟨rest, hrest⟩
    rw [List.append_assoc] at hrest
    refine ⟨⟨_, hrest⟩, ?_⟩
    rw [← hrest, List.drop_left]
    exact ⟨rest, rfl⟩
  · rintro ⟨⟨tail, htail⟩, hys⟩
    rw [← htail, List.drop_left] at hys
    obtain ⟨rest, rfl⟩ := hys
    rw [← htail]
    exact ⟨rest, List.append_assoc _ _ _⟩

theorem eq_of_at {bytes : List σ} (h : At msg 0 bytes) (hlen : bytes.length = msg.length) : bytes = msg :=
  List.IsPrefix.eq_of_length h hlen

theorem at_self (msg : List σ) : At msg 0 msg := List.prefix_rfl

/-! ## Loops -/

/-- `n` items in a row; the reader is told the position of each, beginning with `i`. -/
def times (r : Nat → Reader σ ε β) : Nat → Nat → Reader σ ε (List β)
  | _, 0 => fun _ off => .ok ([], off)
  | i, n + 1 => fun msg off =>
    match r i msg off with
    | .error e => .error e
    | .ok (b, off') =>
      match times r (i + 1) n msg off' with
      | .error e => .error e
      | .ok (bs, off'') => .ok (b :: bs, off'')

theorem times_succ (r : Nat → Reader σ ε β) (i n : Nat) (msg : List σ) (off : Nat) :
    times r i (n + 1) msg off = match r i msg off with
      | .error e => .error e
      | .ok (b, off') =>
        match times r (i + 1) n msg off' with
        | .error e => .error e
        | .ok (bs, off'') => .ok (b :: bs, off'') := rfl

def OkFrom (Ok : Nat → α → Prop) : Nat → List α → Prop
  | _, [] => True
  | i, a :: as => Ok i a ∧ OkFrom Ok (i + 1) as

def meanFrom (mean : Nat → α → β) : Nat → List α → List β
  | _, [] => []
  | i, a :: as => mean i a :: meanFrom mean (i + 1) as

theorem okFrom_const {Ok : α → Prop} (i : Nat) : OkFrom (fun _ => Ok) i as ↔ ∀ a ∈ as, Ok a := by
  induction as generalizing i with
  | nil => simp [OkFrom]
  | cons a as ih => rw [OkFrom, ih, List.forall_mem_cons]

theorem meanFrom_const (mean : α → β) (i : Nat) (as : List α) : meanFrom (fun _ => mean) i as = as.map mean := by
  induction as generalizing i with
  | nil => rfl
  | cons a as ih => exact congrArg (mean a :: ·) (ih (i + 1))

/-- **A loop accepts exactly the layouts of that many items.** -/
theorem Exact.times {write : α → List σ} {Ok : Nat → α → Prop} {mean : Nat → α → β}
    (h : ∀ i, Exact (r i) write (Ok i) (mean i)) (i n : Nat) :
    Exact (times r i n) (·.flatMap write) (fun as => as.length = n ∧ OkFrom Ok i as) (meanFrom mean i) := by
  induction n generalizing i with
  | zero =>
    intro msg off bs off'
    constructor
    · intro hok
      obtain ⟨rfl, rfl⟩ := Prod.mk.inj (Except.ok.inj hok)
      exact ⟨[], ⟨rfl, trivial⟩, at_nil msg off, rfl, rfl⟩
    · rintro ⟨as, ⟨hlen, -⟩, -, rfl, rfl⟩
      obtain rfl := List.length_eq_zero_iff.mp hlen
      rfl
  | succ n ih =>
    intro msg off bs off'
    rw [times_succ]
    constructor
    · intro hok
      cases hr : r i msg off with
      | error e =>
        rw [hr] at hok
        cases hok
      | ok p =>
        obtain ⟨b, off₁⟩ := p
        rw [hr] at hok
        dsimp only at hok
        obtain ⟨a, hOk, hat, rfl, rfl⟩ := (h i msg off b off₁).mp hr
        cases hrest : Layout.times r (i + 1) n msg (off + (write a).length) with
        | error e =>
          rw [hrest] at hok
          cases hok
        | ok q =>
          obtain ⟨bs', off₂⟩ := q
          rw [hrest] at hok
          obtain ⟨rfl, rfl⟩ := Prod.mk.inj (Except.ok.inj hok)
          obtain ⟨as, ⟨hlen, hOks⟩, hats, rfl, rfl⟩ := (ih (i + 1) msg _ bs' off₂).mp hrest
          refine ⟨a :: as, ⟨by rw [List.length_cons, hlen], hOk, hOks⟩, ?_, rfl, ?_⟩
          · exact at_append.mpr ⟨hat, hats⟩
          · show _ = off + ((a :: as).flatMap write).length
            rw [List.flatMap_cons, List.length_append, Nat.add_assoc]
    · rintro ⟨as, ⟨hlen, hOks⟩, hats, rfl, rfl⟩
      cases as with
      | nil => cases hlen
      | cons a as =>
        obtain ⟨hat, hats'⟩ := at_append.mp hats
        have hfirst := (h i msg off _ _).mpr ⟨a, hOks.1, hat, rfl, rfl⟩
        have hrest := (ih (i + 1) msg (off + (write a).length) _ _).mpr
          ⟨as, ⟨Nat.succ.inj hlen, hOks.2⟩, hats', rfl, rfl⟩
        have hlength : off + ((a :: as).flatMap write).length =
            off + (write a).length + (as.flatMap write).length := by
          rw [List.flatMap_cons, List.length_append, Nat.add_assoc]
        rw [hfirst]
        dsimp only
        rw [hrest, hlength]
        rfl

theorem Never.times {e : ε} (h : ∀ i, Never e (r i)) (i n : Nat) : Never e (times r i n) := by
  induction n generalizing i with
  | zero => exact fun _ _ => nofun
  | succ n ih =>
    intro msg off hfail
    rw [times_succ] at hfail
    cases hr : r i msg off with
    | error e' =>
      rw [hr] at hfail
      exact h i msg off (hr.trans (congrArg Except.error (Except.error.inj hfail)))
    | ok p =>
      rw [hr] at hfail
      dsimp only at hfail
      cases hrest : Layout.times r (i + 1) n msg p.2 with
      | error e' =>
        rw [hrest] at hfail
        exact ih (i + 1) msg p.2 (hrest.trans (congrArg Except.error (Except.error.inj hfail)))
      | ok q =>
        rw [hrest] at hfail
        cases hfail

theorem forall_of_okFrom {Ok : Nat → α → Prop} {P : α → Prop} (h : ∀ i a, Ok i a → P a) {i : Nat}
    (hOk : OkFrom Ok i as) : ∀ a ∈ as, P a := by
  induction as generalizing i with
  | nil => nofun
  | cons a as ih => exact List.forall_mem_cons.mpr ⟨h i a hOk.1, ih hOk.2⟩

/-! ## Layouts that tell where they end -/

def Unique (write : α → List σ) (Ok : α → Prop) : Prop :=
  ∀ a b xs ys, Ok a → Ok b → write a ++ xs = write b ++ ys → a = b ∧ xs = ys

/-- **What is read back has a layout that tells where it ends.** -/
theorem Exact.unique {r : Reader σ ε α} {write : α → List σ} {Ok : α → Prop} (h : Exact r write Ok id) :
    Unique write Ok := by
  intro a b xs ys ha hb heq
  have hread := (h (write a ++ xs) 0 _ _).mpr ⟨a, ha, List.prefix_append _ _, rfl, rfl⟩
  have hread' := (h (write a ++ xs) 0 _ _).mpr ⟨b, hb, heq ▸ List.prefix_append _ _, rfl, rfl⟩
  rw [hread] at hread'
  obtain ⟨hab, -⟩ := Prod.mk.inj (Except.ok.inj hread')
  obtain rfl : a = b := hab
  exact ⟨rfl, List.append_cancel_left heq⟩

theorem Unique.flatMap {write : α → List σ} {Ok : α → Prop} (h : Unique write Ok) {bs : List α}
    (hlen : as.length = bs.length) (has : ∀ a ∈ as, Ok a) (hbs : ∀ b ∈ bs, Ok b)
    (heq : as.flatMap write ++ xs = bs.flatMap write ++ ys) : as = bs ∧ xs = ys := by
  induction as generalizing bs with
  | nil =>
    obtain rfl := List.length_eq_zero_iff.mp hlen.symm
    exact ⟨rfl, heq⟩
  | cons a as ih =>
    cases bs with
    | nil => cases hlen
    | cons b bs =>
      rw [List.forall_mem_cons] at has hbs
      rw [List.flatMap_cons, List.flatMap_cons, List.append_assoc, List.append_assoc] at heq
      obtain ⟨rfl, hrest⟩ := h a b _ _ has.1 hbs.1 heq
      obtain ⟨rfl, htail⟩ := ih (Nat.succ.inj hlen) has.2 hbs.2 hrest
      exact ⟨rfl, htail⟩

end DataNexus.Layout
