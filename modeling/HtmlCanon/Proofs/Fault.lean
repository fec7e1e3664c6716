import HtmlCanon.Rule.Fault
import Mathlib.Data.List.Forall2

/-!
# What a step can fail with

Steps that may fail are run one after the other. What a run can fail with is what its steps can
fail with.

* `bind_eq_ok`, `bind_eq_error` : what two steps in a row give.
* `mapM_eq_ok`, `foldlM_keeps` : what a run over a list gives, and what it preserves.
* `FailsOnly.bind`, `FailsOnly.foldlM` : a property of the faults of all steps is one of the faults
  of a run.
* `FailsFirst.bind`, `FailsFirst.mapM`, `FailsFirst.foldlM` : a run fails with the first fault of its
  steps, and it succeeds when none of them has any.
-/

namespace HtmlCanon

variable {ε α β : Type}

/-! ### Steps in a row -/

theorem pure_eq_ok {a b : α} : (pure a : Except ε α) = .ok b ↔ a = b := by
  simp [pure, Except.pure]

theorem pure_ne_error {a : α} {e : ε} : (pure a : Except ε α) ≠ .error e := by
  simp [pure, Except.pure]

theorem throw_eq_error {e e' : ε} : (throw e : Except ε α) = .error e' ↔ e = e' := by
  simp [throw, throwThe, MonadExceptOf.throw]

theorem throw_ne_ok {e : ε} {a : α} : (throw e : Except ε α) ≠ .ok a := by
  simp [throw, throwThe, MonadExceptOf.throw]

/-- A step succeeds when it yields something. -/
theorem eq_ok_of_toOption {x : Except ε α} {a : α} (h : x.toOption = some a) : x = .ok a := by
  cases x with
  | error e => cases h
  | ok b => exact congrArg Except.ok (Option.some.inj h)

theorem exists_ok_of_toOption {x : Except ε α} (h : x.toOption.isSome = true) : ∃ a, x = .ok a := by
  cases x with
  | error e => cases h
  | ok a => exact ⟨a, rfl⟩

/-- Two steps succeed when the first does and, with what it gives, the second. -/
theorem bind_eq_ok {x : Except ε α} {f : α → Except ε β} {b : β} :
    x >>= f = .ok b ↔ ∃ a, x = .ok a ∧ f a = .ok b := by
  cases x <;> simp [bind, Except.bind]

/-- Two steps fail when the first does, or it succeeds and the second fails. -/
theorem bind_eq_error {x : Except ε α} {f : α → Except ε β} {e : ε} :
    x >>= f = .error e ↔ x = .error e ∨ ∃ a, x = .ok a ∧ f a = .error e := by
  cases x <;> simp [bind, Except.bind]

/-- **A run over a list** succeeds when each of its steps does. -/
theorem mapM_eq_ok {f : α → Except ε β} {as : List α} {bs : List β} :
    as.mapM f = .ok bs ↔ List.Forall₂ (fun a b => f a = .ok b) as bs := by
  induction as generalizing bs with
  | nil =>
    rw [List.mapM_nil, pure_eq_ok, List.forall₂_nil_left_iff]
    exact eq_comm
  | cons a as ih =>
    rw [List.mapM_cons, bind_eq_ok, List.forall₂_cons_left_iff]
    refine exists_congr fun b => ?_
    constructor
    · rintro ⟨hb, h⟩
      obtain ⟨cs, hcs, h⟩ := bind_eq_ok.1 h
      exact ⟨cs, hb, ih.1 hcs, (pure_eq_ok.1 h).symm⟩
    · rintro ⟨cs, hb, hcs, rfl⟩
      exact ⟨hb, bind_eq_ok.2 ⟨cs, ih.2 hcs, rfl⟩⟩

/-- **What every step keeps, a run of them keeps.** -/
theorem foldlM_keeps {P : β → Prop} {f : β → α → Except ε β} {as : List α}
    (hf : ∀ a ∈ as, ∀ b b', P b → f b a = .ok b' → P b') {b b' : β} (hb : P b)
    (h : as.foldlM f b = .ok b') : P b' := by
  induction as generalizing b with
  | nil => exact pure_eq_ok.1 h ▸ hb
  | cons a as ih =>
    rw [List.foldlM_cons] at h
    obtain ⟨c, hc, h⟩ := bind_eq_ok.1 h
    exact ih (fun a' ha' => hf a' (List.mem_cons_of_mem a ha')) (hf a List.mem_cons_self b c hb hc) h

/-! ### The faults of a run -/

/-- Whether every fault that a step can fail with has a property. -/
def FailsOnly (P : ε → Prop) (x : Except ε α) : Prop := ∀ e, x = .error e → P e

namespace FailsOnly

variable {P : ε → Prop}

theorem ok {x : Except ε α} {a : α} (h : x = .ok a) : FailsOnly P x := by
  intro e he
  rw [h] at he
  cases he

theorem pure (a : α) : FailsOnly P (Pure.pure a) := fun _ h => absurd h pure_ne_error

theorem throw {e : ε} (h : P e) : FailsOnly P (throw e : Except ε α) := by
  intro e' he
  obtain rfl := throw_eq_error.1 he
  exact h

/-- **Two steps in a row** fail as one of them does. -/
theorem bind {x : Except ε α} {f : α → Except ε β} (hx : FailsOnly P x)
    (hf : ∀ a, x = .ok a → FailsOnly P (f a)) : FailsOnly P (x >>= f) := by
  intro e he
  rcases bind_eq_error.1 he with h | ⟨a, ha, h⟩
  · exact hx e h
  · exact hf a ha e h

/-- **A run over a list** fails as one of its steps does. -/
theorem foldlM {f : β → α → Except ε β} (hf : ∀ b a, FailsOnly P (f b a)) (b : β) (as : List α) :
    FailsOnly P (as.foldlM f b) := by
  induction as generalizing b with
  | nil => exact pure b
  | cons a as ih =>
    rw [List.foldlM_cons]
    exact (hf b a).bind fun c _ => ih c

end FailsOnly

/-! ### The first fault of a run -/

/-- The fault that a step fails with, if it fails. -/
def faultOf : Except ε α → Option ε
  | .error e => some e
  | .ok _ => none

/-- Whether a step fails with the first of some faults, and succeeds if there are none. -/
def FailsFirst : List ε → Except ε α → Prop
  | [], x => ∃ a, x = .ok a
  | e :: _, x => x = .error e

namespace FailsFirst

variable {es fs : List ε}

theorem pure (a : α) : FailsFirst [] (Pure.pure a : Except ε α) := ⟨a, rfl⟩

/-- The fault of a step is the first one that it has. -/
theorem eq_error_iff {x : Except ε α} (h : FailsFirst es x) {e : ε} :
    x = .error e ↔ es.head? = some e := by
  cases es with
  | nil =>
    obtain ⟨a, rfl⟩ := h
    simp
  | cons e' es =>
    rw [show x = .error e' from h]
    simp

/-- A single step fails with its own fault. -/
theorem self (x : Except ε α) : FailsFirst (faultOf x).toList x := by
  cases x with
  | error e => rfl
  | ok a => exact ⟨a, rfl⟩

/-- **Two steps in a row**: the faults of the first come before those of the second. -/
theorem bind {x : Except ε α} {f : α → Except ε β} (hx : FailsFirst es x)
    (hf : ∀ a, x = .ok a → FailsFirst fs (f a)) : FailsFirst (es ++ fs) (x >>= f) := by
  cases es with
  | nil =>
    obtain ⟨a, rfl⟩ := hx
    exact hf a rfl
  | cons e es =>
    rw [show x = .error e from hx]
    rfl

/-- A step after which nothing can fail. -/
theorem map {x : Except ε α} (hx : FailsFirst es x) (g : α → β) :
    FailsFirst es (x >>= fun a => Pure.pure (g a)) := by
  rw [← List.append_nil es]
  exact hx.bind fun a _ => pure (g a)

/-- **The same step on every item of a list.** -/
theorem mapM {F : α → List ε} {f : α → Except ε β} {as : List α}
    (h : ∀ a ∈ as, FailsFirst (F a) (f a)) : FailsFirst (as.flatMap F) (as.mapM f) := by
  induction as with
  | nil => exact pure []
  | cons a as ih =>
    rw [List.flatMap_cons, List.mapM_cons]
    refine (h a List.mem_cons_self).bind fun b _ => ?_
    exact (ih fun a' ha' => h a' (List.mem_cons_of_mem _ ha')).map _

/-- **A run over a list** whose steps fail alike, whatever was there before. -/
theorem foldlM {F : α → List ε} {f : β → α → Except ε β} (h : ∀ b a, FailsFirst (F a) (f b a))
    (b : β) (as : List α) : FailsFirst (as.flatMap F) (as.foldlM f b) := by
  induction as generalizing b with
  | nil => exact pure b
  | cons a as ih =>
    rw [List.flatMap_cons, List.foldlM_cons]
    exact (h b a).bind fun c _ => ih c

end FailsFirst

end HtmlCanon
