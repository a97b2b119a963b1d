import PicoDualCore.AtomicProgram
set_option autoImplicit false

/-! Programs of atomic steps with a log of what each step saw, for laws about whole histories. -/

namespace AtomicProgram

/-- One step of a program: the state it found, what it read and the state it left. -/
structure Moment (σ ι : Type) where
  before : σ
  input : ι
  after : σ

namespace Proc

variable {σ ι ε α β : Type}

inductive Logs (A : ι → Prop) (E : σ → σ → Prop) (p : Proc σ ι ε α) (s : σ) :
    List (Moment σ ι) → Proc σ ι ε α → σ → Prop where
  | start : Logs A E p s [] p s
  | own {log : List (Moment σ ι)} {act : σ → ι → σ} {next : σ → ι → Proc σ ι ε α} {t : σ}
      {i : ι} : Logs A E p s log (.step act next) t → A i →
      Logs A E p s (log ++ [⟨t, i, act t i⟩]) (next t i) (act t i)
  | other {log : List (Moment σ ι)} {q : Proc σ ι ε α} {t t' : σ} :
      Logs A E p s log q t → E t t' → Logs A E p s log q t'

section Settles

variable (A : ι → Prop) (R : σ → σ → Prop) (I : List (Moment σ ι) → Prop)

def settles (Q : α → List (Moment σ ι) → σ → Prop) :
    Proc σ ι ε α → List (Moment σ ι) → σ → Prop
  | .ret a, log, s => Q a log s
  | .raise _, _, _ => False
  | .stop, _, _ => False
  | .step act next, log, s => ∀ t, R s t → ∀ i, A i → I (log ++ [⟨t, i, act t i⟩]) ∧
      (next t i).settles Q (log ++ [⟨t, i, act t i⟩]) (act t i)

variable {A R I} {log : List (Moment σ ι)} {s : σ}

@[simp] theorem settles_pure {Q : α → List (Moment σ ι) → σ → Prop} {a : α} :
    (pure a : Proc σ ι ε α).settles A R I Q log s ↔ Q a log s := Iff.rfl

theorem settles_seq {Q : β → List (Moment σ ι) → σ → Prop} {p : Proc σ ι ε α}
    {f : α → Proc σ ι ε β}
    (h : p.settles A R I (fun a log t => (f a).settles A R I Q log t) log s) :
    (p >>= f).settles A R I Q log s := by
  induction p generalizing log s with
  | ret a => exact h
  | raise e => exact h
  | stop => exact h
  | step act next ih =>
    intro t ht i hi
    exact ⟨(h t ht i hi).1, ih t i (h t ht i hi).2⟩

theorem settles_mono {Q Q' : α → List (Moment σ ι) → σ → Prop} {p : Proc σ ι ε α}
    (h : p.settles A R I Q log s) (hQ : ∀ a log t, Q a log t → Q' a log t) :
    p.settles A R I Q' log s := by
  induction p generalizing log s with
  | ret a => exact hQ a log s h
  | raise e => exact h
  | stop => exact h
  | step act next ih =>
    intro t ht i hi
    exact ⟨(h t ht i hi).1, ih t i (h t ht i hi).2⟩

theorem settles_grown {Q : α → List (Moment σ ι) → σ → Prop} {p : Proc σ ι ε α}
    (h : p.settles A R I Q log s) :
    p.settles A R I (fun a log' t => log <+: log' ∧ Q a log' t) log s := by
  suffices H : ∀ log', log <+: log' → p.settles A R I Q log' s →
      p.settles A R I (fun a log' t => log <+: log' ∧ Q a log' t) log' s from
    H log (List.prefix_refl log) h
  clear h
  induction p generalizing s with
  | ret a => exact fun _ hlog h => ⟨hlog, h⟩
  | raise e => exact fun _ _ h => h
  | stop => exact fun _ _ h => h
  | step act next ih =>
    intro log' hlog h t ht i hi
    exact ⟨(h t ht i hi).1, ih t i _ (hlog.trans (List.prefix_append _ _)) (h t ht i hi).2⟩

/-- The rule for whole runs. -/
theorem settles_logs {E : σ → σ → Prop} {Q : α → List (Moment σ ι) → σ → Prop}
    (hrefl : ∀ s, R s s) (htrans : ∀ {a b c}, R a b → R b c → R a c)
    (hE : ∀ a b, E a b → R a b) {p q : Proc σ ι ε α} {t : σ} (hI : I [])
    (hp : p.settles A R I Q [] s) (h : Logs A E p s log q t) :
    I log ∧ ∃ u, R u t ∧ q.settles A R I Q log u := by
  induction h with
  | start => exact ⟨hI, s, hrefl s, hp⟩
  | @own log act next t i _ hi ih =>
    obtain ⟨-, u, hu, hw⟩ := ih
    exact ⟨(hw t hu i hi).1, _, hrefl _, (hw t hu i hi).2⟩
  | @other log q t t' _ he ih =>
    obtain ⟨hlog, u, hu, hw⟩ := ih
    exact ⟨hlog, u, htrans hu (hE _ _ he), hw⟩

end Settles

def Within : Nat → Proc σ ι ε α → Prop
  | _, .ret _ => True
  | _, .raise _ => True
  | _, .stop => True
  | 0, .step _ _ => False
  | n + 1, .step _ next => ∀ s i, (next s i).Within n

theorem Within.mono {m n : Nat} {p : Proc σ ι ε α} (h : p.Within m) (hle : m ≤ n) :
    p.Within n := by
  induction p generalizing m n with
  | ret a => cases n <;> trivial
  | raise e => cases n <;> trivial
  | stop => cases n <;> trivial
  | step act next ih =>
    cases m with
    | zero => exact h.elim
    | succ m =>
      cases n with
      | zero => omega
      | succ n => exact fun s i => ih s i (h s i) (by omega)

theorem Within.seq {m n : Nat} {p : Proc σ ι ε α} {f : α → Proc σ ι ε β} (hp : p.Within m)
    (hf : ∀ a, (f a).Within n) : (p >>= f).Within (m + n) := by
  induction p generalizing m with
  | ret a => exact (hf a).mono (by omega)
  | raise e => cases m + n <;> trivial
  | stop => cases m + n <;> trivial
  | step act next ih =>
    cases m with
    | zero => exact hp.elim
    | succ m =>
      rw [Nat.add_right_comm]
      exact fun s i => ih s i (hp s i)

theorem Within.atomic (f : σ → ι → Except ε α × σ) : (atomic f).Within 1 := by
  intro s i
  show (ofExcept (f s i).1 : Proc σ ι ε α).Within 0
  cases (f s i).1 <;> trivial

theorem Within.logs {A : ι → Prop} {E : σ → σ → Prop} {n : Nat} {p q : Proc σ ι ε α} {s t : σ}
    {log : List (Moment σ ι)} (hp : p.Within n) (h : Logs A E p s log q t) :
    log.length ≤ n ∧ q.Within (n - log.length) := by
  induction h with
  | start => exact ⟨Nat.zero_le _, hp⟩
  | @own log act next t i _ _ ih =>
    obtain ⟨hle, hq⟩ := ih
    cases hleft : n - log.length with
    | zero =>
      rw [hleft] at hq
      exact hq.elim
    | succ left =>
      rw [hleft] at hq
      rw [List.length_append, List.length_singleton, Nat.sub_add_eq, hleft]
      exact ⟨by omega, hq t i⟩
  | other _ _ ih => exact ih

end Proc

end AtomicProgram
