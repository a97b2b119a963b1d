import PicoDualCore.AtomicProgram
set_option autoImplicit false

namespace AtomicProgram

namespace Proc

variable {σ ι ε α β : Type}

def Alone (s t : σ) : Prop := t = s

def Spent (clock : σ → Nat) (d : Nat) (s t : σ) : Prop :=
  clock s ≤ clock t ∧ clock t ≤ clock s + d

def Takes (A : ι → Prop) (clock : σ → Nat) (d : Nat) (P : α → Prop) (p : Proc σ ι ε α) : Prop :=
  ∀ s, p.wp A Alone (fun _ t => Spent clock d s t) (fun a t => P a ∧ Spent clock d s t)
    (fun _ t => Spent clock d s t) s

section Takes

variable {A : ι → Prop} {clock : σ → Nat} {d w : Nat} {P : α → Prop} {s t u : σ}

theorem Spent.refl : Spent clock d s s := ⟨Nat.le_refl _, Nat.le_add_right _ _⟩

theorem Spent.trans (h : Spent clock d s t) (h' : Spent clock w t u) :
    Spent clock (d + w) s u := by
  obtain ⟨h₁, h₂⟩ := h
  obtain ⟨h₁', h₂'⟩ := h'
  exact ⟨Nat.le_trans h₁ h₁', by omega⟩

theorem Spent.mono (h : Spent clock d s t) (hd : d ≤ w) : Spent clock w s t :=
  ⟨h.1, by have := h.2; omega⟩

theorem takes_pure {a : α} (h : P a) : Takes (ε := ε) A clock d P (pure a) :=
  fun _ => ⟨h, Spent.refl⟩

theorem takes_throw {e : ε} : Takes A clock d P (throw e : Proc σ ι ε α) := fun _ => Spent.refl

theorem takes_mono {P' : α → Prop} {p : Proc σ ι ε α} (h : Takes A clock d P p) (hd : d ≤ w)
    (hP : ∀ a, P a → P' a) : Takes A clock w P' p :=
  fun s => wp_mono (h s) (fun _ _ hG => hG.mono hd) (fun a _ hQ => ⟨hP a hQ.1, hQ.2.mono hd⟩)
    (fun _ _ hX => hX.mono hd)

theorem takes_seq {Q : β → Prop} {p : Proc σ ι ε α} {f : α → Proc σ ι ε β}
    (hp : Takes A clock d P p) (hf : ∀ a, P a → Takes A clock w Q (f a)) :
    Takes A clock (d + w) Q (p >>= f) := by
  intro s
  refine (wp_seq _ _ _).mpr (wp_mono (hp s) (fun _ _ hG => hG.mono (Nat.le_add_right _ _)) ?_
    (fun _ _ hX => hX.mono (Nat.le_add_right _ _)))
  rintro a t ⟨ha, ht⟩
  exact wp_mono (hf a ha t) (fun _ _ hG => ht.trans hG) (fun _ _ hQ => ⟨hQ.1, ht.trans hQ.2⟩)
    (fun _ _ hX => ht.trans hX)

theorem takes_then {Q : β → Prop} {p : Proc σ ι ε α} {f : α → Proc σ ι ε β}
    (hp : Takes A clock 0 P p) (hf : ∀ a, P a → Takes A clock d Q (f a)) :
    Takes A clock d Q (p >>= f) := by
  have h := takes_seq hp hf
  rwa [Nat.zero_add] at h

theorem takes_ite {c : Prop} [Decidable c] {p q : Proc σ ι ε α} (hp : c → Takes A clock d P p)
    (hq : ¬ c → Takes A clock d P q) : Takes A clock d P (if c then p else q) := by
  by_cases h : c
  · rw [if_pos h]
    exact hp h
  · rw [if_neg h]
    exact hq h

theorem takes_handle {p : Proc σ ι ε α} {h : ε → Proc σ ι ε α} (hp : Takes A clock d P p)
    (hh : ∀ e, Takes A clock w P (h e)) : Takes A clock (d + w) P (p.handle h) := by
  intro s
  refine (wp_handle _ _ _).mpr (wp_mono (hp s) (fun _ _ hG => hG.mono (Nat.le_add_right _ _))
    (fun _ _ hQ => ⟨hQ.1, hQ.2.mono (Nat.le_add_right _ _)⟩) ?_)
  intro e t ht
  exact wp_mono (hh e t) (fun _ _ hG => ht.trans hG) (fun _ _ hQ => ⟨hQ.1, ht.trans hQ.2⟩)
    (fun _ _ hX => ht.trans hX)

theorem takes_finish {p : Proc σ ι ε α} {c : Proc σ ι ε Unit} (hp : Takes A clock d P p)
    (hc : Takes A clock w (fun _ => True) c) : Takes A clock (d + w) P (p.finish c) := by
  intro s
  refine (wp_finish _ _ _).mpr (wp_mono (hp s) (fun _ _ hG => hG.mono (Nat.le_add_right _ _)) ?_ ?_)
  · rintro a t ⟨ha, ht⟩
    exact wp_mono (hc t) (fun _ _ hG => ht.trans hG) (fun _ _ hQ => ⟨ha, ht.trans hQ.2⟩)
      (fun _ _ hX => ht.trans hX)
  · intro e t ht
    exact wp_mono (hc t) (fun _ _ hG => ht.trans hG) (fun _ _ hQ => ht.trans hQ.2)
      (fun _ _ hX => ht.trans hX)

theorem takes_atomic {f : σ → ι → Except ε α × σ}
    (h : ∀ s i, A i → Spent clock d s (f s i).2 ∧ ∀ a, (f s i).1 = .ok a → P a) :
    Takes A clock d P (atomic f) := by
  intro s
  refine wp_atomic ?_
  rintro t rfl i hi
  obtain ⟨hs, ha⟩ := h t i hi
  refine ⟨hs, ?_⟩
  cases hout : (f t i).1 with
  | ok a => exact ⟨ha a hout, hs⟩
  | error e => exact hs

end Takes

end Proc

end AtomicProgram
