/-
  Computations that may fail, as equations between results.

  A chain of `?` in a program is a bind in `Except`.  The rules here say what a successful run of a bind, of a
  `mapM` and of a `foldlM` consists of, so that a proof takes such a run apart (and puts one together) without
  unfolding the monad.
-/
import Mathlib.Data.List.Basic
import Mathlib.Data.List.Forall2

namespace DataNexus.Fallible

variable {ε α β γ : Type}

variable {x : Except ε α} {f : α → Except ε β} {b : β} {a : α} {as : List α} {bs : List β}

theorem bind_eq_ok : (x >>= f) = .ok b ↔ ∃ a, x = .ok a ∧ f a = .ok b := by
  cases x with
  | ok a => exact ⟨fun h => ⟨a, rfl, h⟩, fun ⟨_, h, hf⟩ => Except.ok.inj h ▸ hf⟩
  | error e => exact ⟨nofun, nofun⟩

theorem bind_eq_error {e : ε} : (x >>= f) = .error e ↔ x = .error e ∨ ∃ a, x = .ok a ∧ f a = .error e := by
  cases x with
  | ok a => exact ⟨fun h => .inr ⟨a, rfl, h⟩, fun h => h.elim nofun fun ⟨_, h, hf⟩ => Except.ok.inj h ▸ hf⟩
  | error e =>
    exact ⟨fun h => .inl (congrArg _ (Except.error.inj h)), fun h => h.elim (congrArg _ <| Except.error.inj ·) nofun⟩

@[simp] theorem ok_bind (a : α) (f : α → Except ε β) : (Except.ok a >>= f) = f a := rfl

theorem pure_eq_ok {b : α} : (pure a : Except ε α) = .ok b ↔ a = b := ⟨Except.ok.inj, congrArg _⟩

theorem map_eq_ok {f : α → β} : x.map f = .ok b ↔ ∃ a, x = .ok a ∧ f a = b := by
  cases x with
  | ok a => exact ⟨fun h => ⟨a, rfl, Except.ok.inj h⟩, fun ⟨_, h, hf⟩ => Except.ok.inj h ▸ congrArg _ hf⟩
  | error e => exact ⟨nofun, nofun⟩

theorem mapM_congr {g : α → Except ε β} (h : ∀ a ∈ as, f a = g a) : as.mapM f = as.mapM g := by
  induction as with
  | nil => rfl
  | cons a as ih =>
    rw [List.forall_mem_cons] at h
    rw [List.mapM_cons, List.mapM_cons, h.1, ih h.2]

/-- A `mapM` goes through iff every element does, and gives their results in order. -/
theorem mapM_eq_ok : as.mapM f = .ok bs ↔ List.Forall₂ (fun a b => f a = .ok b) as bs := by
  induction as generalizing bs with
  | nil =>
    rw [List.mapM_nil, pure_eq_ok, List.forall₂_nil_left_iff, eq_comm]
  | cons a as ih =>
    rw [List.mapM_cons, bind_eq_ok, List.forall₂_cons_left_iff]
    constructor
    · rintro ⟨b, hb, h⟩
      obtain ⟨bs', hbs, h⟩ := bind_eq_ok.mp h
      exact ⟨b, bs', hb, ih.mp hbs, (pure_eq_ok.mp h).symm⟩
    · rintro ⟨b, bs', hb, hbs, h⟩
      refine ⟨b, hb, bind_eq_ok.mpr ⟨bs', ih.mpr hbs, ?_⟩⟩
      rw [pure_eq_ok, h]

theorem exists_mapM_eq_ok : (∃ bs, as.mapM f = .ok bs) ↔ ∀ a ∈ as, ∃ b, f a = .ok b := by
  induction as with
  | nil =>
    rw [List.mapM_nil]
    constructor
    · intro _ a ha
      cases ha
    · intro _
      exact ⟨[], rfl⟩
  | cons a as ih =>
    rw [List.forall_mem_cons, ← ih]
    constructor
    · rintro ⟨bs, h⟩
      obtain ⟨b, bs', hb, hbs, -⟩ := List.forall₂_cons_left_iff.mp (mapM_eq_ok.mp h)
      exact ⟨⟨b, hb⟩, bs', mapM_eq_ok.mpr hbs⟩
    · rintro ⟨⟨b, hb⟩, bs, hbs⟩
      exact ⟨b :: bs, mapM_eq_ok.mpr (.cons hb (mapM_eq_ok.mp hbs))⟩

theorem mem_of_mapM (h : as.mapM f = .ok bs) : b ∈ bs ↔ ∃ a ∈ as, f a = .ok b := by
  rw [mapM_eq_ok] at h
  induction h with
  | nil => simp
  | cons hab _ ih =>
    rename_i a b' as bs _
    constructor
    · intro hb
      rcases List.mem_cons.mp hb with rfl | hb
      · exact ⟨a, List.mem_cons_self, hab⟩
      · obtain ⟨a', ha', h'⟩ := ih.mp hb
        exact ⟨a', List.mem_cons_of_mem _ ha', h'⟩
    · rintro ⟨a', ha', h'⟩
      rcases List.mem_cons.mp ha' with rfl | ha'
      · rw [h'] at hab
        cases hab
        exact List.mem_cons_self
      · exact List.mem_cons_of_mem _ (ih.mpr ⟨a', ha', h'⟩)

theorem mem_flatten_of_mapM {f : α → Except ε (List β)} {bss : List (List β)} (h : as.mapM f = .ok bss) :
    b ∈ bss.flatten ↔ ∃ a ∈ as, ∃ bs, f a = .ok bs ∧ b ∈ bs := by
  rw [List.mem_flatten]
  constructor
  · rintro ⟨bs, hbs, hb⟩
    obtain ⟨a, ha, hf⟩ := (mem_of_mapM h).mp hbs
    exact ⟨a, ha, bs, hf, hb⟩
  · rintro ⟨a, ha, bs, hf, hb⟩
    exact ⟨bs, (mem_of_mapM h).mpr ⟨a, ha, hf⟩, hb⟩

theorem mapM_eq_ok_iff {P : α → Prop} {g : α → β} (h : ∀ a ∈ as, ∀ b, f a = .ok b ↔ P a ∧ b = g a) :
    as.mapM f = .ok bs ↔ (∀ a ∈ as, P a) ∧ bs = as.map g := by
  induction as generalizing bs with
  | nil =>
    rw [List.mapM_nil, pure_eq_ok, eq_comm]
    simp
  | cons a as ih =>
    rw [List.forall_mem_cons] at h
    rw [List.mapM_cons, bind_eq_ok, List.forall_mem_cons, List.map_cons]
    constructor
    · rintro ⟨b, hb, hbs⟩
      obtain ⟨bs', hbs', hcons⟩ := bind_eq_ok.mp hbs
      obtain ⟨ha, rfl⟩ := (h.1 b).mp hb
      obtain ⟨has, rfl⟩ := (ih h.2).mp hbs'
      exact ⟨⟨ha, has⟩, (pure_eq_ok.mp hcons).symm⟩
    · rintro ⟨⟨ha, has⟩, rfl⟩
      refine ⟨g a, (h.1 _).mpr ⟨ha, rfl⟩, bind_eq_ok.mpr ⟨as.map g, (ih h.2).mpr ⟨has, rfl⟩, rfl⟩⟩

theorem mapM_bind_mapM_eq_ok {g : β → Except ε γ} {cs : List γ} : (as.mapM f >>= fun bs => bs.mapM g) = .ok cs ↔
      List.Forall₂ (fun a c => ∃ b, f a = .ok b ∧ g b = .ok c) as cs := by
  rw [bind_eq_ok]
  simp only [mapM_eq_ok]
  constructor
  · rintro ⟨bs, hf, hg⟩
    induction hf generalizing cs with
    | nil =>
      cases hg
      exact .nil
    | cons hab _ ih =>
      cases hg with
      | cons hbc hg => exact .cons ⟨_, hab, hbc⟩ (ih hg)
  · intro h
    induction h with
    | nil => exact ⟨[], .nil, .nil⟩
    | cons hac _ ih =>
      obtain ⟨b, hab, hbc⟩ := hac
      obtain ⟨bs, hf, hg⟩ := ih
      exact ⟨b :: bs, .cons hab hf, .cons hbc hg⟩

theorem foldlM_invariant {α β : Type*} {f : β → α → Option β} {xs : List α} (Inv : β → Prop)
    (hstep : ∀ x ∈ xs, ∀ b b', Inv b → f b x = some b' → Inv b') {b b' : β} (h0 : Inv b)
    (h : xs.foldlM f b = some b') : Inv b' := by
  induction xs generalizing b with
  | nil =>
    cases h
    exact h0
  | cons x xs ih =>
    obtain ⟨c, hc, hrest⟩ := Option.bind_eq_some_iff.mp h
    exact ih (fun y hy => hstep y (List.mem_cons_of_mem x hy)) (hstep x List.mem_cons_self b c h0 hc) hrest

theorem toOption_eq_some : x.toOption = some a ↔ x = .ok a := by
  cases x with
  | ok b => simp [Except.toOption]
  | error e => simp [Except.toOption]

theorem exists_of_mem_mapM {f : α → Option β} (h : as.mapM f = some bs) (hb : b ∈ bs) : ∃ a ∈ as, f a = some b := by
  induction as generalizing bs with
  | nil =>
    cases h
    cases hb
  | cons a as ih =>
    rw [List.mapM_cons] at h
    obtain ⟨first, hfirst, h⟩ := Option.bind_eq_some_iff.mp h
    obtain ⟨rest, hrest, h⟩ := Option.bind_eq_some_iff.mp h
    cases h
    rcases List.mem_cons.mp hb with rfl | hb
    · exact ⟨a, List.mem_cons_self, hfirst⟩
    · obtain ⟨a', ha', hf⟩ := ih hrest hb
      exact ⟨a', List.mem_cons_of_mem a ha', hf⟩

end DataNexus.Fallible
