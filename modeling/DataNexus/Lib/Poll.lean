/-
  Sources that are polled for windows.

  A consumer asks a source for up to `n` items and gets a window, the word that there are no more, or an
  error.  A source is free in how it answers: it may give fewer items than asked for, more of them, or an
  empty window, and the answer may depend on `n`.

  `Source` is the tree of all answers; every path through it is finite, so a loop that polls until the end
  is a structural recursion.  `Yields s xs` says that the source is the sequence `xs`: no poll fails, and
  however it is polled, the windows cut `xs` into consecutive pieces.
-/
import Mathlib.Data.List.Basic

namespace DataNexus.Poll

universe u v

variable {ε : Type u} {α : Type v}

/-- A source: what it answers to a request for `n` items, and the source that is left then. -/
inductive Source (ε : Type u) (α : Type v) where
  | ended
  | live (answer : Nat → Except ε (Option (List α))) (next : Nat → Source ε α)

namespace Source

def poll : Source ε α → Nat → Except ε (Option (List α)) × Source ε α
  | .ended, _ => (.ok none, .ended)
  | .live answer next, n => (answer n, next n)

/-- The source is the sequence `xs`. -/
def Yields : Source ε α → List α → Prop
  | .ended, xs => xs = []
  | .live answer next, xs => ∀ n, 0 < n →
    match answer n with
    | .error _ => False
    | .ok none => xs = [] ∧ (next n).Yields []
    | .ok (some chunk) => ∃ rest, xs = chunk ++ rest ∧ (next n).Yields rest

def Full : Source ε α → Prop
  | .ended => True
  | .live answer next => ∀ n, 0 < n → answer n ≠ .ok (some []) ∧ (next n).Full

/-- The windows of a list, one by one, whatever is asked for. -/
def ofWindows : List (List α) → Source ε α
  | [] => .ended
  | chunk :: rest => .live (fun _ => .ok (some chunk)) fun _ => ofWindows rest

/-- Poll until the end: was there anything left? -/
def drain (window : Nat) : Source ε α → Except ε Bool
  | .ended => .ok false
  | .live answer next =>
    match answer window with
    | .error e => .error e
    | .ok none => .ok false
    | .ok (some chunk) =>
      match (next window).drain window with
      | .error e => .error e
      | .ok more => .ok (!chunk.isEmpty || more)

variable {s : Source ε α} {xs : List α} {n window : Nat}

theorem Yields.poll_cases (h : s.Yields xs) (hn : 0 < n) :
    ((s.poll n).1 = .ok none ∧ xs = [] ∧ (s.poll n).2.Yields []) ∨
      ∃ chunk rest, (s.poll n).1 = .ok (some chunk) ∧ xs = chunk ++ rest ∧ (s.poll n).2.Yields rest := by
  cases s with
  | ended => exact .inl ⟨rfl, h, rfl⟩
  | live answer next =>
    have hanswer := h n hn
    show (answer n = .ok none ∧ _) ∨ ∃ chunk rest, answer n = .ok (some chunk) ∧ _
    cases hpoll : answer n with
    | error e =>
      rw [hpoll] at hanswer
      exact hanswer.elim
    | ok window =>
      rw [hpoll] at hanswer
      cases window with
      | none => exact .inl ⟨rfl, hanswer.1, hanswer.2⟩
      | some chunk =>
        obtain ⟨rest, hxs, hrest⟩ := hanswer
        exact .inr ⟨chunk, rest, rfl, hxs, hrest⟩

theorem yields_ofWindows (windows : List (List α)) : (ofWindows windows : Source ε α).Yields windows.flatten := by
  induction windows with
  | nil => rfl
  | cons chunk rest ih => exact fun n _ => ⟨rest.flatten, rfl, ih⟩

theorem full_ofWindows {windows : List (List α)} (h : ∀ chunk ∈ windows, chunk ≠ []) :
    (ofWindows windows : Source ε α).Full := by
  induction windows with
  | nil => trivial
  | cons chunk rest ih =>
    intro n _
    refine ⟨?_, ih fun c hc => h c (List.mem_cons_of_mem _ hc)⟩
    intro hempty
    exact h chunk List.mem_cons_self (Option.some.inj (Except.ok.inj hempty))

theorem Full.poll (h : s.Full) (hn : 0 < n) : (s.poll n).1 ≠ .ok (some []) ∧ (s.poll n).2.Full := by
  cases s with
  | ended => exact ⟨nofun, trivial⟩
  | live answer next => exact h n hn

theorem Yields.drain_eq (h : s.Yields xs) (hwindow : 0 < window) : s.drain window = .ok (!xs.isEmpty) := by
  induction s generalizing xs with
  | ended =>
    obtain rfl : xs = [] := h
    rfl
  | live answer next ih =>
    rcases h.poll_cases hwindow with ⟨hpoll, rfl, hnext⟩ | ⟨chunk, rest, hpoll, rfl, hrest⟩
    · have hanswer : answer window = .ok none := hpoll
      rw [drain, hanswer]
      rfl
    · have hanswer : answer window = .ok (some chunk) := hpoll
      have hmore : (next window).drain window = .ok (!rest.isEmpty) := ih window hrest
      rw [drain, hanswer]
      dsimp only
      rw [hmore]
      cases chunk <;> rfl

end Source

end DataNexus.Poll
