import Mathlib.Data.List.Basic
set_option autoImplicit false

/-!
Postconditions of computations that return a value or an error: what holds of the value and what
holds of the error. Nothing here depends on what the values or the errors are.
-/

namespace ExceptPost

variable {ε α β γ δ : Type}

def Post (r : Except ε α) (Q : α → Prop) (X : ε → Prop) : Prop :=
  match r with
  | .ok a => Q a
  | .error e => X e

section Rules

variable {Q : α → Prop} {X : ε → Prop}

@[simp] theorem post_ok {a : α} : Post (.ok a : Except ε α) Q X ↔ Q a := Iff.rfl

@[simp] theorem post_error {e : ε} : Post (.error e : Except ε α) Q X ↔ X e := Iff.rfl

@[simp] theorem post_pure {a : α} : Post (pure a : Except ε α) Q X ↔ Q a := Iff.rfl

@[simp] theorem post_throw {e : ε} : Post (throw e : Except ε α) Q X ↔ X e := Iff.rfl

theorem post_mono {Q' : α → Prop} {X' : ε → Prop} {r : Except ε α} (h : Post r Q X)
    (hQ : ∀ a, Q a → Q' a) (hX : ∀ e, X e → X' e) : Post r Q' X' := by
  cases r with
  | ok a => exact hQ a h
  | error e => exact hX e h

theorem post_self {r : Except ε α} (h : Post r Q X) : Post r (fun a => Q a ∧ r = .ok a) X := by
  cases r with
  | ok a => exact ⟨h, rfl⟩
  | error e => exact h

theorem post_seq {Q' : β → Prop} {r : Except ε α} {f : α → Except ε β} (h : Post r Q X)
    (hf : ∀ a, Q a → Post (f a) Q' X) : Post (r >>= f) Q' X := by
  cases r with
  | ok a => exact hf a h
  | error e => exact h

theorem post_ite {c : Prop} [Decidable c] {r s : Except ε α} (hr : c → Post r Q X)
    (hs : ¬ c → Post s Q X) : Post (if c then r else s) Q X := by
  by_cases h : c
  · rw [if_pos h]
    exact hr h
  · rw [if_neg h]
    exact hs h

theorem post_mapError {X' : δ → Prop} {g : ε → δ} {r : Except ε α} (h : Post r Q X)
    (hX : ∀ e, X e → X' (g e)) : Post (r.mapError g) Q X' := by
  cases r with
  | ok a => exact h
  | error e => exact hX e h

theorem post_forM {P : β → Prop} {f : β → Except ε Unit} (xs : List β)
    (hf : ∀ x ∈ xs, Post (f x) (fun _ => P x) X) :
    Post (xs.forM f) (fun _ => ∀ x ∈ xs, P x) X := by
  induction xs with
  | nil => exact fun x hx => (List.not_mem_nil hx).elim
  | cons x xs ih =>
    refine post_seq (hf x List.mem_cons_self) (fun _ hx => ?_)
    refine post_mono (ih (fun y hy => hf y (List.mem_cons_of_mem _ hy))) ?_ (fun _ h => h)
    intro _ hxs y hy
    rcases List.mem_cons.mp hy with rfl | hy
    · exact hx
    · exact hxs y hy

theorem post_mapM {P : β → Prop} {f : β → Except ε γ} (xs : List β)
    (hf : ∀ x ∈ xs, Post (f x) (fun _ => P x) X) :
    Post (xs.mapM f) (fun _ => ∀ x ∈ xs, P x) X := by
  induction xs with
  | nil => exact fun x hx => (List.not_mem_nil hx).elim
  | cons x xs ih =>
    rw [List.mapM_cons]
    refine post_seq (hf x List.mem_cons_self) (fun _ hx => ?_)
    refine post_seq (ih (fun y hy => hf y (List.mem_cons_of_mem _ hy))) (fun _ hxs y hy => ?_)
    rcases List.mem_cons.mp hy with rfl | hy
    · exact hx
    · exact hxs y hy

theorem Post.of_ok {r : Except ε α} {a : α} (h : Post r Q X) (hr : r = .ok a) : Q a := by
  rw [hr] at h
  exact h

theorem seq_ok {r : Except ε α} {f : α → Except ε β} {b : β} (h : (r >>= f) = .ok b) :
    ∃ a, r = .ok a ∧ f a = .ok b := by
  cases r with
  | ok a => exact ⟨a, rfl, h⟩
  | error e => cases h

theorem mapError_ok {g : ε → δ} {r : Except ε α} {a : α} (h : r.mapError g = .ok a) :
    r = .ok a := by
  cases r with
  | ok b => exact congrArg Except.ok (Except.ok.inj h)
  | error e => cases h

theorem forM_ok {f : β → Except ε Unit} {xs : List β} (h : xs.forM f = .ok ()) :
    ∀ x ∈ xs, f x = .ok () := by
  induction xs with
  | nil => exact fun x hx => (List.not_mem_nil hx).elim
  | cons x xs ih =>
    obtain ⟨⟨⟩, hx, hxs⟩ := seq_ok (show (f x >>= fun _ => xs.forM f) = .ok () from h)
    intro y hy
    rcases List.mem_cons.mp hy with rfl | hy
    · exact hx
    · exact ih hxs y hy

theorem Post.of_error {r : Except ε α} {e : ε} (h : Post r Q X) (hr : r = .error e) : X e := by
  rw [hr] at h
  exact h

end Rules

end ExceptPost
