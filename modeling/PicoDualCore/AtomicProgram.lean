import Mathlib.Logic.Relation
set_option autoImplicit false

/-!
Programs made of atomic steps over a shared state. Between two steps of a program other
agents may move the state, and every step reads one input that the surroundings choose.
Nothing here depends on what the state, the inputs or the errors are.
-/

namespace AtomicProgram

/-- `stop` marks the point where an observation of a longer run ends. -/
inductive Proc (σ ι ε α : Type) where
  | ret (a : α)
  | raise (e : ε)
  | stop
  | step (act : σ → ι → σ) (next : σ → ι → Proc σ ι ε α)

namespace Proc

variable {σ ι ε α β : Type}

def bind (p : Proc σ ι ε α) (f : α → Proc σ ι ε β) : Proc σ ι ε β :=
  match p with
  | .ret a => f a
  | .raise e => .raise e
  | .stop => .stop
  | .step act next => .step act (fun s i => (next s i).bind f)

def handle (p : Proc σ ι ε α) (h : ε → Proc σ ι ε α) : Proc σ ι ε α :=
  match p with
  | .ret a => .ret a
  | .raise e => h e
  | .stop => .stop
  | .step act next => .step act (fun s i => (next s i).handle h)

/-- `cleanup` runs after `p` on both ways out; an error of its own replaces the outcome of `p`. -/
def finish (p : Proc σ ι ε α) (cleanup : Proc σ ι ε Unit) : Proc σ ι ε α :=
  match p with
  | .ret a => cleanup.bind (fun _ => .ret a)
  | .raise e => cleanup.bind (fun _ => .raise e)
  | .stop => .stop
  | .step act next => .step act (fun s i => (next s i).finish cleanup)

instance : Monad (Proc σ ι ε) where
  pure := .ret
  bind := bind

instance : MonadExceptOf ε (Proc σ ι ε) where
  throw := .raise
  tryCatch := handle

def ofExcept : Except ε α → Proc σ ι ε α
  | .ok a => .ret a
  | .error e => .raise e

/-- One indivisible operation: it sees the state and an input, moves the state and answers. -/
def atomic (f : σ → ι → Except ε α × σ) : Proc σ ι ε α :=
  .step (fun s i => (f s i).2) (fun s i => ofExcept (f s i).1)

/-- The program of a component, run on the state it is part of. -/
def zoom {τ κ δ : Type} (get : τ → σ) (set : τ → σ → τ) (input : κ → ι) (error : ε → δ) :
    Proc σ ι ε α → Proc τ κ δ α
  | .ret a => .ret a
  | .raise e => .raise (error e)
  | .stop => .stop
  | .step act next => .step (fun t k => set t (act (get t) (input k)))
      (fun t k => (next (get t) (input k)).zoom get set input error)

@[simp] theorem bind_ret (a : α) (f : α → Proc σ ι ε β) : (ret a).bind f = f a := rfl

@[simp] theorem bind_raise (e : ε) (f : α → Proc σ ι ε β) : (raise e).bind f = .raise e := rfl

theorem bind_eq (p : Proc σ ι ε α) (f : α → Proc σ ι ε β) : p >>= f = p.bind f := rfl

theorem pure_eq (a : α) : (pure a : Proc σ ι ε α) = .ret a := rfl

theorem bind_assoc {γ : Type} (p : Proc σ ι ε α) (f : α → Proc σ ι ε β) (g : β → Proc σ ι ε γ) :
    (p.bind f).bind g = p.bind (fun a => (f a).bind g) := by
  induction p with
  | ret a => rfl
  | raise e => rfl
  | stop => rfl
  | step act next ih =>
    simp only [bind]
    congr 1
    funext s i
    exact ih s i

theorem bind_ret_right (p : Proc σ ι ε α) : p.bind .ret = p := by
  induction p with
  | ret a => rfl
  | raise e => rfl
  | stop => rfl
  | step act next ih =>
    simp only [bind]
    congr 1
    funext s i
    exact ih s i

theorem zoom_bind {τ κ δ : Type} {get : τ → σ} {set : τ → σ → τ} {input : κ → ι} {error : ε → δ}
    (p : Proc σ ι ε α) (f : α → Proc σ ι ε β) :
    (p.bind f).zoom get set input error =
      (p.zoom get set input error).bind (fun a => (f a).zoom get set input error) := by
  induction p with
  | ret a => rfl
  | raise e => rfl
  | stop => rfl
  | step act next ih =>
    simp only [bind, zoom]
    congr 1
    funext t k
    exact ih (get t) (input k)

section Wp

variable (A : ι → Prop) (R G : σ → σ → Prop)

/-- Before each step the others may move the state along `R`; the inputs satisfy `A`;
every step of the program moves along `G`, and `Q` holds at a normal end and `X` at an error. -/
def wp (Q : α → σ → Prop) (X : ε → σ → Prop) : Proc σ ι ε α → σ → Prop
  | .ret a, s => Q a s
  | .raise e, s => X e s
  | .stop, _ => True
  | .step act next, s =>
    ∀ t, R s t → ∀ i, A i → G t (act t i) ∧ (next t i).wp Q X (act t i)

variable {A R G}

@[simp] theorem wp_ret {Q : α → σ → Prop} {X : ε → σ → Prop} {a : α} {s : σ} :
    wp A R G Q X (.ret a) s ↔ Q a s := Iff.rfl

@[simp] theorem wp_raise {Q : α → σ → Prop} {X : ε → σ → Prop} {e : ε} {s : σ} :
    wp A R G Q X (.raise e : Proc σ ι ε α) s ↔ X e s := Iff.rfl

@[simp] theorem wp_stop {Q : α → σ → Prop} {X : ε → σ → Prop} {s : σ} :
    wp A R G Q X (.stop : Proc σ ι ε α) s := trivial

@[simp] theorem wp_pure {Q : α → σ → Prop} {X : ε → σ → Prop} {a : α} {s : σ} :
    wp A R G Q X (pure a) s ↔ Q a s := Iff.rfl

@[simp] theorem wp_throw {Q : α → σ → Prop} {X : ε → σ → Prop} {e : ε} {s : σ} :
    wp A R G Q X (throw e : Proc σ ι ε α) s ↔ X e s := Iff.rfl

@[simp] theorem wp_ofExcept {Q : α → σ → Prop} {X : ε → σ → Prop} {r : Except ε α} {s : σ} :
    wp A R G Q X (ofExcept r : Proc σ ι ε α) s ↔ match r with
      | .ok a => Q a s
      | .error e => X e s := by
  cases r <;> rfl

@[simp] theorem wp_bind {Q : β → σ → Prop} {X : ε → σ → Prop} (p : Proc σ ι ε α)
    (f : α → Proc σ ι ε β) (s : σ) :
    wp A R G Q X (p.bind f) s ↔ wp A R G (fun a t => wp A R G Q X (f a) t) X p s := by
  induction p generalizing s with
  | ret a => rfl
  | raise e => rfl
  | stop => rfl
  | step act next ih => simp only [bind, wp, ih]

@[simp] theorem wp_seq {Q : β → σ → Prop} {X : ε → σ → Prop} (p : Proc σ ι ε α)
    (f : α → Proc σ ι ε β) (s : σ) :
    wp A R G Q X (p >>= f) s ↔ wp A R G (fun a t => wp A R G Q X (f a) t) X p s :=
  wp_bind p f s

@[simp] theorem wp_handle {Q : α → σ → Prop} {X : ε → σ → Prop} (p : Proc σ ι ε α)
    (h : ε → Proc σ ι ε α) (s : σ) :
    wp A R G Q X (p.handle h) s ↔ wp A R G Q (fun e t => wp A R G Q X (h e) t) p s := by
  induction p generalizing s with
  | ret a => rfl
  | raise e => rfl
  | stop => rfl
  | step act next ih => simp only [handle, wp, ih]

@[simp] theorem wp_finish {Q : α → σ → Prop} {X : ε → σ → Prop} (p : Proc σ ι ε α)
    (c : Proc σ ι ε Unit) (s : σ) :
    wp A R G Q X (p.finish c) s ↔
      wp A R G (fun a t => wp A R G (fun _ u => Q a u) X c t)
        (fun e t => wp A R G (fun _ u => X e u) X c t) p s := by
  induction p generalizing s with
  | ret a => exact wp_bind c (fun _ => .ret a) s
  | raise e => exact wp_bind c (fun _ => (.raise e : Proc σ ι ε α)) s
  | stop => rfl
  | step act next ih => simp only [finish, wp, ih]

theorem wp_mono {G' : σ → σ → Prop} {Q Q' : α → σ → Prop} {X X' : ε → σ → Prop}
    {p : Proc σ ι ε α} {s : σ} (h : wp A R G Q X p s) (hG : ∀ s t, G s t → G' s t)
    (hQ : ∀ a s, Q a s → Q' a s) (hX : ∀ e s, X e s → X' e s) : wp A R G' Q' X' p s := by
  induction p generalizing s with
  | ret a => exact hQ a s h
  | raise e => exact hX e s h
  | stop => trivial
  | step act next ih =>
    intro t ht i hi
    obtain ⟨hg, hw⟩ := h t ht i hi
    exact ⟨hG _ _ hg, ih t i hw⟩

theorem wp_rely {A' : ι → Prop} {R' : σ → σ → Prop} {Q : α → σ → Prop} {X : ε → σ → Prop}
    {p : Proc σ ι ε α} {s : σ} (h : wp A R G Q X p s) (hA : ∀ i, A' i → A i)
    (hR : ∀ s t, R' s t → R s t) : wp A' R' G Q X p s := by
  induction p generalizing s with
  | ret a => exact h
  | raise e => exact h
  | stop => trivial
  | step act next ih =>
    intro t ht i hi
    obtain ⟨hg, hw⟩ := h t (hR s t ht) i (hA i hi)
    exact ⟨hg, ih t i hw⟩

/-- An invariant of the steps and of the others holds before every step. -/
theorem wp_invariant {K : σ → Prop} {Q : α → σ → Prop} {X : ε → σ → Prop}
    {p : Proc σ ι ε α} {s : σ} (h : wp A R G Q X p s) (hK : K s) (hR : ∀ s t, R s t → K s → K t)
    (hG : ∀ s t, G s t → K s → K t) :
    wp A R (fun s t => G s t ∧ K s) (fun a t => Q a t ∧ K t) (fun e t => X e t ∧ K t) p s := by
  induction p generalizing s with
  | ret a => exact ⟨h, hK⟩
  | raise e => exact ⟨h, hK⟩
  | stop => trivial
  | step act next ih =>
    intro t ht i hi
    obtain ⟨hg, hw⟩ := h t ht i hi
    exact ⟨⟨hg, hR s t ht hK⟩, ih t i hw (hG t _ hg (hR s t ht hK))⟩

theorem wp_and {G' : σ → σ → Prop} {Q Q' : α → σ → Prop} {X X' : ε → σ → Prop}
    {p : Proc σ ι ε α} {s : σ} (h : wp A R G Q X p s) (h' : wp A R G' Q' X' p s) :
    wp A R (fun s t => G s t ∧ G' s t) (fun a s => Q a s ∧ Q' a s) (fun e s => X e s ∧ X' e s)
      p s := by
  induction p generalizing s with
  | ret a => exact ⟨h, h'⟩
  | raise e => exact ⟨h, h'⟩
  | stop => trivial
  | step act next ih =>
    intro t ht i hi
    obtain ⟨hg, hw⟩ := h t ht i hi
    obtain ⟨hg', hw'⟩ := h' t ht i hi
    exact ⟨⟨hg, hg'⟩, ih t i hw hw'⟩

theorem wp_atomic {Q : α → σ → Prop} {X : ε → σ → Prop} {f : σ → ι → Except ε α × σ} {s : σ}
    (h : ∀ t, R s t → ∀ i, A i → G t (f t i).2 ∧ match (f t i).1 with
      | .ok a => Q a (f t i).2
      | .error e => X e (f t i).2) :
    wp A R G Q X (atomic f) s := by
  intro t ht i hi
  obtain ⟨hG, hout⟩ := h t ht i hi
  exact ⟨hG, wp_ofExcept.mpr hout⟩

/-- A component's program keeps what the component promises, as part of a larger state. -/
theorem wp_zoom {τ κ δ : Type} {get : τ → σ} {set : τ → σ → τ} {input : κ → ι} {error : ε → δ}
    {B : κ → Prop} {R' G' : τ → τ → Prop} {J : τ → Prop}
    {Q : α → σ → Prop} {X : ε → σ → Prop} {Q' : α → τ → Prop} {X' : δ → τ → Prop}
    (hB : ∀ k, B k → A (input k))
    (hR : ∀ t u, J t → R' t u → R (get t) (get u) ∧ J u)
    (hG : ∀ t s, J t → G (get t) s → G' t (set t s) ∧ J (set t s) ∧ get (set t s) = s)
    (hQ : ∀ a t, J t → Q a (get t) → Q' a t) (hX : ∀ e t, J t → X e (get t) → X' (error e) t)
    {p : Proc σ ι ε α} {t : τ} (hJ : J t) (h : wp A R G Q X p (get t)) :
    wp B R' G' Q' X' (p.zoom get set input error) t := by
  induction p generalizing t with
  | ret a => exact hQ a t hJ h
  | raise e => exact hX e t hJ h
  | stop => trivial
  | step act next ih =>
    intro u hu k hk
    obtain ⟨hRu, hJu⟩ := hR t u hJ hu
    obtain ⟨hGu, hw⟩ := h (get u) hRu (input k) (hB k hk)
    obtain ⟨hG', hJ', hget⟩ := hG u _ hJu hGu
    refine ⟨hG', ih (get u) (input k) hJ' ?_⟩
    rw [hget]
    exact hw

end Wp

/-- Whatever the states and the inputs are, no errors but those of `X` come out. -/
def Raises (X : ε → Prop) : Proc σ ι ε α → Prop
  | .ret _ => True
  | .raise e => X e
  | .stop => True
  | .step _ next => ∀ s i, (next s i).Raises X

section Raises

variable {X : ε → Prop}

theorem raises_ofExcept {r : Except ε α} (h : ∀ e, r = .error e → X e) :
    (ofExcept r : Proc σ ι ε α).Raises X := by
  cases r with
  | ok a => trivial
  | error e => exact h e rfl

theorem raises_atomic {f : σ → ι → Except ε α × σ} (h : ∀ s i e, (f s i).1 = .error e → X e) :
    (atomic f).Raises X := fun s i => raises_ofExcept (h s i)

theorem raises_bind {p : Proc σ ι ε α} {f : α → Proc σ ι ε β} (hp : p.Raises X)
    (hf : ∀ a, (f a).Raises X) : (p.bind f).Raises X := by
  induction p with
  | ret a => exact hf a
  | raise e => exact hp
  | stop => trivial
  | step act next ih => exact fun s i => ih s i (hp s i)

theorem raises_handle {Y : ε → Prop} {p : Proc σ ι ε α} {h : ε → Proc σ ι ε α} (hp : p.Raises Y)
    (hh : ∀ e, Y e → (h e).Raises X) : (p.handle h).Raises X := by
  induction p with
  | ret a => trivial
  | raise e => exact hh e hp
  | stop => trivial
  | step act next ih => exact fun s i => ih s i (hp s i)

theorem raises_finish {p : Proc σ ι ε α} {c : Proc σ ι ε Unit} (hp : p.Raises X)
    (hc : c.Raises X) : (p.finish c).Raises X := by
  induction p with
  | ret a => exact raises_bind hc (fun _ => trivial)
  | raise e => exact raises_bind hc (fun _ => hp)
  | stop => trivial
  | step act next ih => exact fun s i => ih s i (hp s i)

theorem raises_ite {c : Prop} [Decidable c] {p q : Proc σ ι ε α} (hp : p.Raises X)
    (hq : q.Raises X) : (if c then p else q).Raises X := by
  by_cases h : c
  · rw [if_pos h]
    exact hp
  · rw [if_neg h]
    exact hq

theorem raises_zoom {τ κ δ : Type} {get : τ → σ} {set : τ → σ → τ} {input : κ → ι} {error : ε → δ}
    {Y : δ → Prop} {p : Proc σ ι ε α} (hp : p.Raises X) (hY : ∀ e, X e → Y (error e)) :
    (p.zoom get set input error).Raises Y := by
  induction p with
  | ret a => trivial
  | raise e => exact hY e hp
  | stop => trivial
  | step act next ih => exact fun t k => ih (get t) (input k) (hp _ _)

theorem raises_any (p : Proc σ ι ε α) : p.Raises (fun _ => True) := by
  induction p with
  | step act next ih => exact fun s i => ih s i
  | _ => trivial

theorem wp_raises {A : ι → Prop} {R G : σ → σ → Prop} {Q : α → σ → Prop} {Y : ε → σ → Prop}
    {p : Proc σ ι ε α} {s : σ} (hp : p.Raises X) (h : wp A R G Q Y p s) :
    wp A R G Q (fun e t => Y e t ∧ X e) p s := by
  induction p generalizing s with
  | ret a => exact h
  | raise e => exact ⟨h, hp⟩
  | stop => trivial
  | step act next ih =>
    intro t ht i hi
    obtain ⟨hg, hw⟩ := h t ht i hi
    exact ⟨hg, ih t i (hp t i) hw⟩

end Raises

/-- Whatever the states and the inputs are, every step is one of `G`. -/
def Steps (G : σ → σ → Prop) : Proc σ ι ε α → Prop
  | .step act next => ∀ s i, G s (act s i) ∧ (next s i).Steps G
  | _ => True

section Steps

variable {G : σ → σ → Prop}

theorem steps_atomic {f : σ → ι → Except ε α × σ} (h : ∀ s i, G s (f s i).2) :
    (atomic f).Steps G := by
  refine fun s i => ⟨h s i, ?_⟩
  show (ofExcept (f s i).1 : Proc σ ι ε α).Steps G
  cases (f s i).1 <;> trivial

theorem steps_bind {p : Proc σ ι ε α} {f : α → Proc σ ι ε β} (hp : p.Steps G)
    (hf : ∀ a, (f a).Steps G) : (p.bind f).Steps G := by
  induction p with
  | ret a => exact hf a
  | raise e => trivial
  | stop => trivial
  | step act next ih => exact fun s i => ⟨(hp s i).1, ih s i (hp s i).2⟩

theorem steps_ite {c : Prop} [Decidable c] {p q : Proc σ ι ε α} (hp : p.Steps G)
    (hq : q.Steps G) : (if c then p else q).Steps G := by
  by_cases h : c
  · rw [if_pos h]
    exact hp
  · rw [if_neg h]
    exact hq

theorem steps_ofExcept (r : Except ε α) : (ofExcept r : Proc σ ι ε α).Steps G := by
  cases r <;> trivial

theorem wp_steps {A : ι → Prop} {R : σ → σ → Prop} {p : Proc σ ι ε α} (hp : p.Steps G) (s : σ) :
    wp A R G (fun _ _ => True) (fun _ _ => True) p s := by
  induction p generalizing s with
  | step act next ih => exact fun t _ i _ => ⟨(hp t i).1, ih t i (hp t i).2 _⟩
  | _ => trivial

theorem steps_of_wp {p : Proc σ ι ε α}
    (h : ∀ s, wp (fun _ => True) (fun _ _ => True) G (fun _ _ => True) (fun _ _ => True) p s) :
    p.Steps G := by
  suffices H : ∀ (p : Proc σ ι ε α) (s : σ),
      wp (fun _ => True) (fun _ _ => True) G (fun _ _ => True) (fun _ _ => True) p s → p.Steps G by
    cases p with
    | step act next => exact fun s i => H _ s (h s) s i
    | _ => trivial
  intro p
  induction p with
  | step act next ih =>
    intro s hs t i
    obtain ⟨hg, hw⟩ := hs t trivial i trivial
    exact ⟨hg, ih t i _ hw⟩
  | _ => intros; trivial

end Steps

/-- The configurations a program reaches while others move the state along `E`. -/
inductive Reaches (A : ι → Prop) (E : σ → σ → Prop) (p : Proc σ ι ε α) (s : σ) :
    Proc σ ι ε α → σ → Prop where
  | refl : Reaches A E p s p s
  | own {act : σ → ι → σ} {next : σ → ι → Proc σ ι ε α} {t : σ} {i : ι} :
      Reaches A E p s (.step act next) t → A i → Reaches A E p s (next t i) (act t i)
  | other {q : Proc σ ι ε α} {t t' : σ} :
      Reaches A E p s q t → E t t' → Reaches A E p s q t'

theorem Reaches.trans {A : ι → Prop} {E : σ → σ → Prop} {p q r : Proc σ ι ε α} {s t u : σ}
    (h : Reaches A E p s q t) (h' : Reaches A E q t r u) : Reaches A E p s r u := by
  induction h' with
  | refl => exact h
  | own _ hi ih => exact .own ih hi
  | other _ he ih => exact .other ih he

theorem Reaches.mono {A B : ι → Prop} {E E' : σ → σ → Prop} {p q : Proc σ ι ε α} {s t : σ}
    (hA : ∀ i, A i → B i) (hE : ∀ s t, E s t → E' s t) (h : Reaches A E p s q t) :
    Reaches B E' p s q t := by
  induction h with
  | refl => exact .refl
  | own _ hi ih => exact .own ih (hA _ hi)
  | other _ he ih => exact .other ih (hE _ _ he)

theorem Reaches.bind {A : ι → Prop} {E : σ → σ → Prop} {p q : Proc σ ι ε α} {s t : σ}
    (f : α → Proc σ ι ε β) (h : Reaches A E p s q t) :
    Reaches A E (p.bind f) s (q.bind f) t := by
  induction h with
  | refl => exact .refl
  | own _ hi ih => exact .own ih hi
  | other _ he ih => exact .other ih he

theorem Reaches.handle {A : ι → Prop} {E : σ → σ → Prop} {p q : Proc σ ι ε α} {s t : σ}
    (f : ε → Proc σ ι ε α) (h : Reaches A E p s q t) :
    Reaches A E (p.handle f) s (q.handle f) t := by
  induction h with
  | refl => exact .refl
  | own _ hi ih => exact .own ih hi
  | other _ he ih => exact .other ih he

/-- The same runs with every state they pass through, the latest last. -/
inductive Run (A : ι → Prop) (E : σ → σ → Prop) (p : Proc σ ι ε α) (s : σ) :
    List σ → Proc σ ι ε α → σ → Prop where
  | start : Run A E p s [s] p s
  | own {trace : List σ} {act : σ → ι → σ} {next : σ → ι → Proc σ ι ε α} {t : σ} {i : ι} :
      Run A E p s trace (.step act next) t → A i →
      Run A E p s (trace ++ [act t i]) (next t i) (act t i)
  | other {trace : List σ} {q : Proc σ ι ε α} {t t' : σ} :
      Run A E p s trace q t → E t t' → Run A E p s (trace ++ [t']) q t'

/-- The invariant rule: when the steps of the program and of the others keep `I`, it holds at
every moment, and the postconditions hold when the program is done. -/
theorem wp_reaches {A : ι → Prop} {R G E : σ → σ → Prop} {I : σ → Prop}
    {Q : α → σ → Prop} {X : ε → σ → Prop}
    (hrefl : ∀ s, R s s) (htrans : ∀ {a b c}, R a b → R b c → R a c)
    (hG : ∀ a b, I a → G a b → I b) (hE : ∀ a b, I a → E a b → R a b ∧ I b)
    {p q : Proc σ ι ε α} {s t : σ} (hI : I s) (hw : wp A R G Q X p s)
    (h : Reaches A E p s q t) :
    I t ∧ ∃ u, R u t ∧ wp A R G Q X q u := by
  induction h with
  | refl => exact ⟨hI, s, hrefl s, hw⟩
  | @own act next t i _ hi ih =>
    obtain ⟨hIt, u, hu, hwu⟩ := ih
    obtain ⟨hg, hw'⟩ := hwu t hu i hi
    exact ⟨hG _ _ hIt hg, _, hrefl _, hw'⟩
  | @other q t t' _ he ih =>
    obtain ⟨hIt, u, hu, hwu⟩ := ih
    obtain ⟨hR, hI'⟩ := hE t t' hIt he
    exact ⟨hI', u, htrans hu hR, hwu⟩

/-- Every step that the program takes in an interleaved run is one of `G`. -/
theorem wp_reaches_step {A : ι → Prop} {R G E : σ → σ → Prop} {I : σ → Prop}
    {Q : α → σ → Prop} {X : ε → σ → Prop}
    (hrefl : ∀ s, R s s) (htrans : ∀ {a b c}, R a b → R b c → R a c)
    (hG : ∀ a b, I a → G a b → I b) (hE : ∀ a b, I a → E a b → R a b ∧ I b)
    {p : Proc σ ι ε α} {act : σ → ι → σ} {next : σ → ι → Proc σ ι ε α} {s t : σ} {i : ι}
    (hI : I s) (hw : wp A R G Q X p s) (h : Reaches A E p s (.step act next) t) (hi : A i) :
    I t ∧ G t (act t i) := by
  obtain ⟨hIt, u, hu, hwu⟩ := wp_reaches hrefl htrans hG hE hI hw h
  exact ⟨hIt, (hwu t hu i hi).1⟩

/-- What every step of a run relates, two moments of the run do, too. -/
theorem Reaches.relates {A : ι → Prop} {E M : σ → σ → Prop} {p q q' : Proc σ ι ε α} {s t t' : σ}
    (hrefl : ∀ s, M s s) (htrans : ∀ {a b c}, M a b → M b c → M a c)
    (hown : ∀ {act next u i}, Reaches A E p s (.step act next) u → A i → M u (act u i))
    (hE : ∀ {q u u'}, Reaches A E p s q u → E u u' → M u u')
    (h : Reaches A E p s q t) (h' : Reaches A E q t q' t') : M t t' := by
  induction h' with
  | refl => exact hrefl t
  | own hr hi ih => exact htrans ih (hown (h.trans hr) hi)
  | other hr he ih => exact htrans ih (hE (h.trans hr) he)

/-- The same rule for a program that relies on the invariant, which its own steps give back. -/
theorem wp_reaches_within {A : ι → Prop} {R G E : σ → σ → Prop} {I : σ → Prop}
    {Q : α → σ → Prop} {X : ε → σ → Prop}
    (hrefl : ∀ s, R s s) (htrans : ∀ {a b c}, R a b → R b c → R a c)
    (hG : ∀ a b, I a → G a b → I b) (hE : ∀ a b, I a → E a b → R a b ∧ I b)
    {p q : Proc σ ι ε α} {s t : σ} (hI : I s)
    (hw : wp A (fun a b => R a b ∧ I b) G Q X p s) (h : Reaches A E p s q t) :
    I t ∧ ∃ u, R u t ∧ wp A (fun a b => R a b ∧ I b) G Q X q u := by
  induction h with
  | refl => exact ⟨hI, s, hrefl s, hw⟩
  | @own act next t i _ hi ih =>
    obtain ⟨hIt, u, hu, hwu⟩ := ih
    obtain ⟨hg, hw'⟩ := hwu t ⟨hu, hIt⟩ i hi
    exact ⟨hG _ _ hIt hg, _, hrefl _, hw'⟩
  | @other q t t' _ he ih =>
    obtain ⟨hIt, u, hu, hwu⟩ := ih
    obtain ⟨hR, hI'⟩ := hE t t' hIt he
    exact ⟨hI', u, htrans hu hR, hwu⟩

/-- The same rule for a property of the states passed through so far. -/
theorem wp_run {A : ι → Prop} {R G E : σ → σ → Prop} {I : List σ → σ → Prop}
    {Q : α → σ → Prop} {X : ε → σ → Prop}
    (hrefl : ∀ s, R s s) (htrans : ∀ {a b c}, R a b → R b c → R a c)
    (hG : ∀ tr a b, I tr a → G a b → I (tr ++ [b]) b)
    (hE : ∀ tr a b, I tr a → E a b → R a b ∧ I (tr ++ [b]) b)
    {p q : Proc σ ι ε α} {s t : σ} {trace : List σ} (hI : I [s] s) (hw : wp A R G Q X p s)
    (h : Run A E p s trace q t) :
    I trace t ∧ ∃ u, R u t ∧ wp A R G Q X q u := by
  induction h with
  | start => exact ⟨hI, s, hrefl s, hw⟩
  | @own trace act next t i _ hi ih =>
    obtain ⟨hIt, u, hu, hwu⟩ := ih
    obtain ⟨hg, hw'⟩ := hwu t hu i hi
    exact ⟨hG _ _ _ hIt hg, _, hrefl _, hw'⟩
  | @other trace q t t' _ he ih =>
    obtain ⟨hIt, u, hu, hwu⟩ := ih
    obtain ⟨hR, hI'⟩ := hE _ t t' hIt he
    exact ⟨hI', u, htrans hu hR, hwu⟩

inductive Outcome (ε α : Type) where
  | ret (a : α)
  | raise (e : ε)
  | stop
  deriving DecidableEq, Repr

/-- The run in which every step reads the same input, such as a fixed plan of faults. -/
def run (i : ι) : Proc σ ι ε α → σ → Outcome ε α × σ
  | .ret a, s => (.ret a, s)
  | .raise e, s => (.raise e, s)
  | .stop, s => (.stop, s)
  | .step act next, s => (next s i).run i (act s i)

def advance (i : ι) : Nat → Proc σ ι ε α → σ → Proc σ ι ε α × σ
  | count + 1, .step act next, s => advance i count (next s i) (act s i)
  | _, p, s => (p, s)

theorem reaches_advance {A : ι → Prop} {E : σ → σ → Prop} {i : ι} (hi : A i)
    {p q : Proc σ ι ε α} {s t : σ} (count : Nat) (h : Reaches A E p s q t) :
    Reaches A E p s (advance i count q t).1 (advance i count q t).2 := by
  induction count generalizing q t with
  | zero => cases q <;> exact h
  | succ count ih =>
    cases q with
    | step act next => exact ih (.own h hi)
    | _ => exact h

def isStep : Proc σ ι ε α → Bool
  | .step _ _ => true
  | _ => false

theorem exists_step {p : Proc σ ι ε α} (h : p.isStep = true) :
    ∃ act next, p = .step act next := by
  cases p with
  | step act next => exact ⟨act, next, rfl⟩
  | _ => cases h

/-- The moments of a run alone: no other agent, inputs in `A`. -/
abbrev Visits (A : ι → Prop) (p : Proc σ ι ε α) (s : σ) (q : Proc σ ι ε α) (t : σ) : Prop :=
  Reaches A (fun _ _ => False) p s q t

/-- A program alone under one fixed input, such as a plan of faults: it comes to its end,
`I` holds after every step, and `Q` or `X` holds at the end. -/
def alone (i : ι) (I : σ → Prop) (Q : α → σ → Prop) (X : ε → σ → Prop) : Proc σ ι ε α → σ → Prop
  | .ret a, s => Q a s
  | .raise e, s => X e s
  | .stop, _ => False
  | .step act next, s => I (act s i) ∧ (next s i).alone i I Q X (act s i)

section Alone

variable {i : ι} {I : σ → Prop} {X : ε → σ → Prop} {s : σ}

@[simp] theorem alone_ret {Q : α → σ → Prop} {a : α} : (ret a).alone i I Q X s ↔ Q a s := Iff.rfl

@[simp] theorem alone_raise {Q : α → σ → Prop} {e : ε} :
    (raise e : Proc σ ι ε α).alone i I Q X s ↔ X e s := Iff.rfl

@[simp] theorem alone_pure {Q : α → σ → Prop} {a : α} :
    (pure a : Proc σ ι ε α).alone i I Q X s ↔ Q a s := Iff.rfl

@[simp] theorem alone_throw {Q : α → σ → Prop} {e : ε} :
    (throw e : Proc σ ι ε α).alone i I Q X s ↔ X e s := Iff.rfl

@[simp] theorem alone_bind {Q : β → σ → Prop} (p : Proc σ ι ε α) (f : α → Proc σ ι ε β) :
    (p.bind f).alone i I Q X s ↔ p.alone i I (fun a t => (f a).alone i I Q X t) X s := by
  induction p generalizing s with
  | ret a => rfl
  | raise e => rfl
  | stop => rfl
  | step act next ih => simp only [bind, alone, ih]

@[simp] theorem alone_seq {Q : β → σ → Prop} (p : Proc σ ι ε α) (f : α → Proc σ ι ε β) :
    (p >>= f).alone i I Q X s ↔ p.alone i I (fun a t => (f a).alone i I Q X t) X s :=
  alone_bind p f

@[simp] theorem alone_handle {Q : α → σ → Prop} (p : Proc σ ι ε α) (h : ε → Proc σ ι ε α) :
    (p.handle h).alone i I Q X s ↔ p.alone i I Q (fun e t => (h e).alone i I Q X t) s := by
  induction p generalizing s with
  | ret a => rfl
  | raise e => rfl
  | stop => rfl
  | step act next ih => simp only [handle, alone, ih]

@[simp] theorem alone_finish {Q : α → σ → Prop} (p : Proc σ ι ε α) (c : Proc σ ι ε Unit) :
    (p.finish c).alone i I Q X s ↔
      p.alone i I (fun a t => c.alone i I (fun _ u => Q a u) X t)
        (fun e t => c.alone i I (fun _ u => X e u) X t) s := by
  induction p generalizing s with
  | ret a => exact alone_bind c (fun _ => .ret a)
  | raise e => exact alone_bind c (fun _ => (.raise e : Proc σ ι ε α))
  | stop => rfl
  | step act next ih => simp only [finish, alone, ih]

@[simp] theorem alone_ofExcept {Q : α → σ → Prop} {r : Except ε α} :
    (ofExcept r : Proc σ ι ε α).alone i I Q X s ↔ match r with
      | .ok a => Q a s
      | .error e => X e s := by
  cases r <;> rfl

theorem alone_atomic {Q : α → σ → Prop} {f : σ → ι → Except ε α × σ} :
    (atomic f).alone i I Q X s ↔
      I (f s i).2 ∧ (ofExcept (f s i).1 : Proc σ ι ε α).alone i I Q X (f s i).2 := Iff.rfl

theorem alone_mono {Q Q' : α → σ → Prop} {X' : ε → σ → Prop} {I' : σ → Prop}
    (hI : ∀ s, I s → I' s) (hQ : ∀ a s, Q a s → Q' a s) (hX : ∀ e s, X e s → X' e s)
    {p : Proc σ ι ε α} (h : p.alone i I Q X s) : p.alone i I' Q' X' s := by
  induction p generalizing s with
  | ret a => exact hQ a s h
  | raise e => exact hX e s h
  | stop => exact h
  | step act next ih => exact ⟨hI _ h.1, ih s i h.2⟩

/-- Under one fixed input a program alone is deterministic, and `alone` speaks of its `run`. -/
theorem alone_run {Q : α → σ → Prop} {p : Proc σ ι ε α} (h : p.alone i I Q X s) :
    (∃ a, (p.run i s).1 = .ret a ∧ Q a (p.run i s).2) ∨
    (∃ e, (p.run i s).1 = .raise e ∧ X e (p.run i s).2) := by
  induction p generalizing s with
  | ret a => exact .inl ⟨a, rfl, h⟩
  | raise e => exact .inr ⟨e, rfl, h⟩
  | stop => exact h.elim
  | step act next ih => exact ih s i h.2

/-- With no condition on the moments in between, `alone` says how the run ends. -/
theorem alone_iff_run {Q : α → σ → Prop} {p : Proc σ ι ε α} :
    p.alone i (fun _ => True) Q X s ↔ match p.run i s with
      | (.ret a, t) => Q a t
      | (.raise e, t) => X e t
      | (.stop, _) => False := by
  induction p generalizing s with
  | ret a => rfl
  | raise e => rfl
  | stop => rfl
  | step act next ih => simp only [alone, run, true_and, ih]

theorem alone_visits {Q : α → σ → Prop} {p q : Proc σ ι ε α} {t : σ} (hI : I s)
    (hw : p.alone i I Q X s) (h : Visits (· = i) p s q t) : I t ∧ q.alone i I Q X t := by
  induction h with
  | refl => exact ⟨hI, hw⟩
  | own _ hi ih => cases hi; exact ih.2
  | other _ he => exact he.elim

theorem alone_complete {Q : α → σ → Prop} {J : σ → Prop} {p : Proc σ ι ε α}
    (hp : p.alone i J Q X s) (h : ∀ q t, Visits (· = i) p s q t → I t) :
    p.alone i I Q X s := by
  suffices H : ∀ (r : Proc σ ι ε α) (t : σ), Visits (· = i) p s r t →
      r.alone i J Q X t → r.alone i I Q X t from H p s .refl hp
  intro r
  induction r with
  | ret a => intro t _ hr; exact hr
  | raise e => intro t _ hr; exact hr
  | stop => intro t _ hr; exact hr
  | step act next ih =>
    intro t hv hr
    exact ⟨h _ _ (.own hv rfl), ih t i _ (.own hv rfl) hr.2⟩

/-- A component's program runs as part of a larger state as it runs on its own. -/
theorem alone_zoom {τ κ δ : Type} {get : τ → σ} {set : τ → σ → τ} {input : κ → ι} {error : ε → δ}
    (hget : ∀ t s, get (set t s) = s) (hset : ∀ t s s', set (set t s) s' = set t s')
    (hself : ∀ t, set t (get t) = t) {k : κ} {t : τ} {Q : α → σ → Prop} {p : Proc σ ι ε α}
    (h : p.alone (input k) (fun _ => True) Q X (get t)) :
    (p.zoom get set input error).alone k (fun _ => True)
      (fun a u => ∃ s, u = set t s ∧ Q a s) (fun d u => ∃ e s, d = error e ∧ u = set t s ∧ X e s)
      t := by
  induction p generalizing t with
  | ret a => exact ⟨get t, (hself t).symm, h⟩
  | raise e => exact ⟨e, get t, rfl, (hself t).symm, h⟩
  | stop => exact h
  | step act next ih =>
    refine ⟨trivial, ?_⟩
    have hnext := ih (get t) (input k) (t := set t (act (get t) (input k)))
      (by rw [hget]; exact h.2)
    simpa only [hset] using hnext

end Alone

def total (A : ι → Prop) (Q : α → σ → Prop) (X : ε → σ → Prop) : Proc σ ι ε α → σ → Prop
  | .ret a, s => Q a s
  | .raise e, s => X e s
  | .stop, _ => False
  | .step act next, s => ∀ i, A i → (next s i).total A Q X (act s i)

section Total

variable {A : ι → Prop} {X : ε → σ → Prop} {s : σ}

theorem total_bind {Q : β → σ → Prop} {p : Proc σ ι ε α} {f : α → Proc σ ι ε β}
    (h : p.total A (fun a t => (f a).total A Q X t) X s) : (p.bind f).total A Q X s := by
  induction p generalizing s with
  | ret a => exact h
  | raise e => exact h
  | stop => exact h
  | step act next ih => exact fun i hi => ih s i (h i hi)

theorem total_handle {Q : α → σ → Prop} {p : Proc σ ι ε α} {f : ε → Proc σ ι ε α}
    (h : p.total A Q (fun e t => (f e).total A Q X t) s) : (p.handle f).total A Q X s := by
  induction p generalizing s with
  | ret a => exact h
  | raise e => exact h
  | stop => exact h
  | step act next ih => exact fun i hi => ih s i (h i hi)

theorem total_atomic {Q : α → σ → Prop} {f : σ → ι → Except ε α × σ}
    (h : ∀ i, A i → match (f s i).1 with
      | .ok a => Q a (f s i).2
      | .error e => X e (f s i).2) : (atomic f).total A Q X s := by
  intro i hi
  have hout := h i hi
  show (ofExcept (f s i).1 : Proc σ ι ε α).total A Q X (f s i).2
  cases hf : (f s i).1 with
  | ok a =>
    rw [hf] at hout
    exact hout
  | error e =>
    rw [hf] at hout
    exact hout

theorem total_mono {Q Q' : α → σ → Prop} {X' : ε → σ → Prop} {p : Proc σ ι ε α}
    (h : p.total A Q X s) (hQ : ∀ a s, Q a s → Q' a s) (hX : ∀ e s, X e s → X' e s) :
    p.total A Q' X' s := by
  induction p generalizing s with
  | ret a => exact hQ a s h
  | raise e => exact hX e s h
  | stop => exact h
  | step act next ih => exact fun i hi => ih s i (h i hi)

theorem total_run {Q : α → σ → Prop} {p : Proc σ ι ε α} {i : ι} (h : p.total A Q X s)
    (hi : A i) : (∃ a, (p.run i s).1 = .ret a ∧ Q a (p.run i s).2) ∨
      ∃ e, (p.run i s).1 = .raise e ∧ X e (p.run i s).2 := by
  induction p generalizing s with
  | ret a => exact .inl ⟨a, rfl, h⟩
  | raise e => exact .inr ⟨e, rfl, h⟩
  | stop => exact h.elim
  | step act next ih => exact ih s i (h i hi)

end Total

theorem run_visits (A : ι → Prop) {i : ι} (hi : A i) (p : Proc σ ι ε α) (s : σ) :
    ∃ q, Visits A p s q (p.run i s).2 ∧
      (∀ a, (p.run i s).1 = .ret a → q = .ret a) ∧
      (∀ e, (p.run i s).1 = .raise e → q = .raise e) := by
  suffices H : ∀ (r : Proc σ ι ε α) (t : σ), Visits A p s r t →
      ∃ q, Visits A p s q (r.run i t).2 ∧ (∀ a, (r.run i t).1 = .ret a → q = .ret a) ∧
        (∀ e, (r.run i t).1 = .raise e → q = .raise e) from H p s .refl
  intro r
  induction r with
  | ret a => intro t h; exact ⟨_, h, by simp [run], by simp [run]⟩
  | raise e => intro t h; exact ⟨_, h, by simp [run], by simp [run]⟩
  | stop => intro t h; exact ⟨_, h, by simp [run], by simp [run]⟩
  | step act next ih => intro t h; exact ih t i _ (.own h hi)

/-- A program that ends well under one input visits the end of its run. -/
theorem visits_of_alone {i : ι} {I : σ → Prop} {X : ε → σ → Prop} {p : Proc σ ι ε α} {s t : σ}
    {a : α} (h : p.alone i I (fun b u => b = a ∧ u = t) X s) (hX : ∀ e u, ¬ X e u) :
    Visits (· = i) p s (.ret a) t := by
  obtain ⟨q, hq, hret, -⟩ := run_visits (· = i) rfl p s
  rcases alone_run h with ⟨b, hr, rfl, hu⟩ | ⟨e, -, hx⟩
  · rw [hret b hr, hu] at hq
    exact hq
  · exact (hX _ _ hx).elim

theorem run_bind (i : ι) (p : Proc σ ι ε α) (f : α → Proc σ ι ε β) (s : σ) :
    (p.bind f).run i s = match p.run i s with
      | (.ret a, t) => (f a).run i t
      | (.raise e, t) => (.raise e, t)
      | (.stop, t) => (.stop, t) := by
  induction p generalizing s with
  | ret a => rfl
  | raise e => rfl
  | stop => rfl
  | step act next ih => simp only [bind, run, ih]

theorem run_atomic (i : ι) (f : σ → ι → Except ε α × σ) (s : σ) :
    (atomic f).run i s = match f s i with
      | (.ok a, t) => (.ret a, t)
      | (.error e, t) => (.raise e, t) := by
  rcases hf : f s i with ⟨r, t⟩
  cases r <;> simp [atomic, ofExcept, run, hf]

end Proc

end AtomicProgram
