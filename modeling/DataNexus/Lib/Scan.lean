/-
  Scanners: a step reads something from the front of the input, and the scan repeats it.

  A step answers what it emits, the state after it and the rest of the input, which is no longer than what followed
  (`Advances`), so fuel for every symbol is enough.

  * `tokens_cons` unfolds the scan by one step, `Reads.tokens_eq` by several;
  * `tokens_eq_flatMap` compares two scanners: if what the second reads in ONE step the first reads in several, emitting
    `expand` of it, then so do the scans.  The steps have to agree on plain tokens only.
-/
import Mathlib.Data.List.Basic

namespace DataNexus.Scan

variable {σ α τ : Type*}

/-- One step: what is emitted, the state after it, and the rest. -/
abbrev Step (σ α τ : Type*) := σ → α → List α → List τ × σ × List α

def scan (step : Step σ α τ) : Nat → σ → List α → List τ
  | 0, _, _ => []
  | _ + 1, _, [] => []
  | fuel + 1, s, a :: rest => (step s a rest).1 ++ scan step fuel (step s a rest).2.1 (step s a rest).2.2

def tokens (step : Step σ α τ) (s : σ) (input : List α) : List τ := scan step input.length s input

/-- Every step consumes its symbol, and puts nothing back. -/
def Advances (step : Step σ α τ) : Prop := ∀ s a rest, (step s a rest).2.2.length ≤ rest.length

variable {step : Step σ α τ}

theorem scan_nil (fuel : Nat) (s : σ) : scan step fuel s [] = [] := by
  cases fuel with
  | zero => rfl
  | succ fuel => rfl

variable {s s' : σ} {input : List α} {σ' τ' : Type*}

theorem scan_fuel (h : Advances step) {k : Nat} (hk : input.length ≤ k) :
    scan step k s input = tokens step s input := by
  unfold tokens
  generalize hn : input.length = n at hk ⊢
  induction n using Nat.strongRecOn generalizing k s input with
  | ind n ih =>
    cases input with
    | nil => rw [scan_nil, scan_nil]
    | cons a rest =>
      rw [List.length_cons] at hn
      obtain ⟨k, rfl⟩ : ∃ j, k = j + 1 := ⟨k - 1, by omega⟩
      obtain ⟨n, rfl⟩ : ∃ j, n = j + 1 := ⟨n - 1, by omega⟩
      have hrest := h s a rest
      have hshort : (step s a rest).2.2.length < n + 1 := by omega
      have hmore := ih _ hshort (k := k) (s := (step s a rest).2.1) rfl (by omega)
      have hless := ih _ hshort (k := n) (s := (step s a rest).2.1) rfl (by omega)
      rw [scan, scan, hmore, hless]

theorem tokens_nil (s : σ) : tokens step s [] = [] := rfl

theorem tokens_cons (h : Advances step) (s : σ) (a : α) (rest : List α) : tokens step s (a :: rest) =
      (step s a rest).1 ++ tokens step (step s a rest).2.1 (step s a rest).2.2 := by
  rw [← scan_fuel h (h s a rest)]
  rfl

theorem forall_tokens (h : Advances step) {P : τ → Prop} (hstep : ∀ s a rest, ∀ t ∈ (step s a rest).1, P t) {s : σ}
    {input : List α} {t : τ} (ht : t ∈ tokens step s input) : P t := by
  generalize hn : input.length = n
  induction n using Nat.strongRecOn generalizing s input with
  | ind n ih =>
    cases input with
    | nil => cases ht
    | cons a rest =>
      rw [tokens_cons h] at ht
      rw [List.length_cons] at hn
      have hrest := h s a rest
      rcases List.mem_append.mp ht with ht | ht
      · exact hstep s a rest t ht
      · exact ih _ (by omega) ht rfl

theorem flatMap_tokens (h : Advances step) {text : τ → List α}
    (hstep : ∀ s a rest, (step s a rest).1.flatMap text ++ (step s a rest).2.2 = a :: rest) (s : σ) (input : List α) :
    (tokens step s input).flatMap text = input := by
  generalize hn : input.length = n
  induction n using Nat.strongRecOn generalizing s input with
  | ind n ih =>
    cases input with
    | nil => rfl
    | cons a rest =>
      rw [List.length_cons] at hn
      have hrest := h s a rest
      rw [tokens_cons h, List.flatMap_append, ih _ (by omega) _ _ rfl, hstep]

/-- A scanner gets from one place in the input to another, emitting these tokens. -/
inductive Reads (step : Step σ α τ) : σ → List α → List τ → σ → List α → Prop where
  | done (s : σ) (input : List α) : Reads step s input [] s input
  | next {s s' : σ} {a : α} {rest rest' : List α} {out : List τ}
      (h : Reads step (step s a rest).2.1 (step s a rest).2.2 out s' rest') :
      Reads step s (a :: rest) ((step s a rest).1 ++ out) s' rest'

theorem Reads.one (s : σ) (a : α) (rest : List α) :
    Reads step s (a :: rest) (step s a rest).1 (step s a rest).2.1 (step s a rest).2.2 := by
  have h : Reads step s (a :: rest) _ _ _ := .next (.done (step s a rest).2.1 (step s a rest).2.2)
  rw [List.append_nil] at h
  exact h

theorem Reads.trans {s'' : σ} {input' input'' : List α} {out out' : List τ}
    (h : Reads step s input out s' input') (h' : Reads step s' input' out' s'' input'') :
    Reads step s input (out ++ out') s'' input'' := by
  induction h with
  | done s input => exact h'
  | next _ ih =>
    rw [List.append_assoc]
    exact .next (ih h')

theorem Reads.tokens_eq (h : Advances step) {rest : List α} {out : List τ}
    (hreads : Reads step s input out s' rest) : tokens step s input = out ++ tokens step s' rest := by
  induction hreads with
  | done s input => rfl
  | next _ ih => rw [tokens_cons h, ih, List.append_assoc]

/-- **Two scanners.**  One step of the second is several of the first. -/
theorem tokens_eq_flatMap {step' : Step σ' α τ'} (h : Advances step) (h' : Advances step')
    {Same : σ → σ' → Prop} {Plain : τ' → Prop} {expand : τ' → List τ}
    (hsim : ∀ s s' a rest, Same s s' → (∀ t ∈ (step' s' a rest).1, Plain t) →
      ∃ s'', Reads step s (a :: rest) ((step' s' a rest).1.flatMap expand) s'' (step' s' a rest).2.2 ∧
        Same s'' (step' s' a rest).2.1) {s' : σ'} (hsame : Same s s')
    (hplain : ∀ t ∈ tokens step' s' input, Plain t) :
    tokens step s input = (tokens step' s' input).flatMap expand := by
  generalize hn : input.length = n
  induction n using Nat.strongRecOn generalizing s s' input with
  | ind n ih =>
    cases input with
    | nil => rfl
    | cons a rest =>
      rw [tokens_cons h'] at hplain ⊢
      rw [List.length_cons] at hn
      obtain ⟨s'', hreads, hsame'⟩ := hsim s s' a rest hsame fun t ht => hplain t (List.mem_append_left _ ht)
      have hshort : (step' s' a rest).2.2.length < n := by
        have := h' s' a rest
        omega
      rw [hreads.tokens_eq h, List.flatMap_append,
        ih _ hshort hsame' (fun t ht => hplain t (List.mem_append_right _ ht)) rfl]

/-- **An alarm.**  The scans need to agree only up to the first token of the second that makes the first raise an
alarm. -/
theorem mem_tokens_of_first {step' : Step σ' α τ'} (h : Advances step) (h' : Advances step')
    {Same : σ → σ' → Prop} {Plain : τ' → Prop} {expand : τ' → List τ} {stop : τ' → Bool} {alarm : τ}
    (hsim : ∀ s s' a rest, Same s s' → (∀ t ∈ (step' s' a rest).1, Plain t) →
      ∃ s'', Reads step s (a :: rest) ((step' s' a rest).1.flatMap expand) s'' (step' s' a rest).2.2 ∧
        Same s'' (step' s' a rest).2.1)
    (halarm : ∀ s s' a rest, Same s s' → (∃ t ∈ (step' s' a rest).1, stop t = true) → alarm ∈ (step s a rest).1)
    {s' : σ'} (hsame : Same s s') (hplain : ∀ t ∈ (tokens step' s' input).takeWhile fun t => !stop t, Plain t)
    (hstop : ∃ t ∈ tokens step' s' input, stop t = true) : alarm ∈ tokens step s input := by
  generalize hn : input.length = n
  induction n using Nat.strongRecOn generalizing s s' input with
  | ind n ih =>
    cases input with
    | nil =>
      obtain ⟨t, ht, _⟩ := hstop
      cases ht
    | cons a rest =>
      rw [tokens_cons h'] at hplain hstop
      rw [List.length_cons] at hn
      by_cases hnow : ∃ t ∈ (step' s' a rest).1, stop t = true
      · rw [tokens_cons h]
        exact List.mem_append_left _ (halarm s s' a rest hsame hnow)
      · have hgo : ∀ t ∈ (step' s' a rest).1, (!stop t) = true := by
          intro t ht
          rw [Bool.not_eq_true', ← Bool.not_eq_true]
          exact fun hs => hnow ⟨t, ht, hs⟩
        rw [List.takeWhile_append_of_pos hgo] at hplain
        obtain ⟨s'', hreads, hsame'⟩ := hsim s s' a rest hsame fun t ht => hplain t (List.mem_append_left _ ht)
        have hlater : ∃ t ∈ tokens step' (step' s' a rest).2.1 (step' s' a rest).2.2, stop t = true := by
          obtain ⟨t, ht, hs⟩ := hstop
          rcases List.mem_append.mp ht with ht | ht
          · exact absurd ⟨t, ht, hs⟩ hnow
          · exact ⟨t, ht, hs⟩
        have hshort : (step' s' a rest).2.2.length < n := by
          have := h' s' a rest
          omega
        rw [hreads.tokens_eq h]
        exact List.mem_append_right _
          (ih _ hshort hsame' (fun t ht => hplain t (List.mem_append_right _ ht)) hlater rfl)

theorem takeWhile_append_of_stop {p : α → Bool} {rest : List α}
    (hrest : ∀ a, rest.head? = some a → p a = false) (front : List α) :
    (front ++ rest).takeWhile p = front.takeWhile p ∧ (front ++ rest).dropWhile p = front.dropWhile p ++ rest := by
  induction front with
  | nil =>
    cases rest with
    | nil => exact ⟨rfl, rfl⟩
    | cons a rest =>
      have ha : ¬p a = true := by
        rw [hrest a rfl]
        exact Bool.false_ne_true
      exact ⟨List.takeWhile_cons_of_neg ha, List.dropWhile_cons_of_neg ha⟩
  | cons a front ih =>
    cases ha : p a with
    | true =>
      rw [List.cons_append, List.takeWhile_cons_of_pos ha, List.takeWhile_cons_of_pos ha,
        List.dropWhile_cons_of_pos ha, List.dropWhile_cons_of_pos ha, ih.1, ih.2]
      exact ⟨rfl, rfl⟩
    | false =>
      have ha' : ¬p a = true := by
        rw [ha]
        exact Bool.false_ne_true
      rw [List.cons_append, List.takeWhile_cons_of_neg ha', List.takeWhile_cons_of_neg ha',
        List.dropWhile_cons_of_neg ha', List.dropWhile_cons_of_neg ha']
      exact ⟨rfl, rfl⟩

theorem head_dropWhile {p : α → Bool} {l : List α} {a : α} (h : (l.dropWhile p).head? = some a) : p a = false := by
  have hstop := List.head?_dropWhile_not p l
  rw [h] at hstop
  exact hstop

end DataNexus.Scan
