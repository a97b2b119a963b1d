import Mathlib.Data.List.Nodup
set_option autoImplicit false

/-!
A sender of numbered messages. A message gets its number once, keeps it and its content through
every attempt, and leaves when it has been acknowledged or given up; no number is used again.
-/

namespace NumberedMessages

/-- The messages at hand, with their numbers and contents once they have them; those that have not
come up yet; what has been sent, in order; the acknowledged ones, and the one about to leave. -/
structure Sender (ω β : Type) where
  held : ω → Option Nat → Option β → Prop
  fresh : ω → Prop
  next : Nat
  sent : List (ω × Nat × β)
  acknowledged : List ω
  leaving : Option ω

variable {ω β : Type}

def Sender.OnTurn (d : Sender ω β) (o : ω) (n : Nat) : Prop :=
  n + 1 = d.next ∨ ∃ x, (o, n, x) ∈ d.sent

/-- What becomes of a message at hand: its content may be settled, and `numbered` may get the next
number. -/
inductive Carried (d d' : Sender ω β) (numbered : Option ω) (o : ω) (m : Option Nat)
    (x : Option β) : Prop where
  | kept (y : Option β) (h : d.held o m y) (hcontent : y = none ∨ y = x)
  | numbered (y : Option β) (h : d.held o none y) (hcontent : y = none ∨ y = x)
      (ho : numbered = some o) (hm : m = some d.next) (hnext : d.next < d'.next)
  | opened (h : d.fresh o) (hnow : ¬ d'.fresh o) (hm : m = none)

inductive Sends (d d' : Sender ω β) : Prop where
  | nothing (h : d'.sent = d.sent)
  | message (o : ω) (n : Nat) (x : β) (h : d'.sent = d.sent ++ [(o, n, x)])
      (hheld : d.held o (some n) (some x))

inductive Releases (d d' : Sender ω β) : Prop where
  | nothing (h : d'.acknowledged = d.acknowledged) (hleaving : d'.leaving = d.leaving)
  | acknowledged (o : ω) (m : Option Nat) (x : Option β) (hidle : d.leaving = none)
      (hheld : d.held o m x) (h : d'.acknowledged = d.acknowledged ++ [o])
      (hleaving : d'.leaving = some o)
  | left (h : d'.acknowledged = d.acknowledged) (hleaving : d'.leaving = none)
      (hgone : ∀ o, d.leaving = some o → ∀ m x, ¬ d'.held o m x)

structure Step (d d' : Sender ω β) : Prop where
  one : ∀ o m x m' x', d.held o m x → d.held o m' x' → m = m' ∧ x = x'
  next : d.next ≤ d'.next
  fresh : ∀ o, d'.fresh o → d.fresh o
  held : ∃ numbered, ∀ o m x, d'.held o m x → Carried d d' numbered o m x
  sent : Sends d d'
  releases : Releases d d'

structure Numbered (d : Sender ω β) : Prop where
  bound : ∀ o n x, d.held o (some n) x → n < d.next
  old : ∀ o m x, d.held o m x → ¬ d.fresh o
  distinct : ∀ o o' n x x', d.held o (some n) x → d.held o' (some n) x' → o = o'
  sentBound : ∀ o n x, (o, n, x) ∈ d.sent → n < d.next
  sentOld : ∀ o n x, (o, n, x) ∈ d.sent → ¬ d.fresh o
  unchanged : ∀ o n x m y, (o, n, x) ∈ d.sent → d.held o m y → m = some n ∧ y = some x
  apart : ∀ o o' n x y, (o, n, x) ∈ d.sent → d.held o' (some n) y → o' = o
  same : ∀ o o' n x x', (o, n, x) ∈ d.sent → (o', n, x') ∈ d.sent → o = o' ∧ x = x'
  once : ∀ o n n' x x', (o, n, x) ∈ d.sent → (o, n', x') ∈ d.sent → n = n'

structure Released (d : Sender ω β) : Prop where
  nodup : d.acknowledged.Nodup
  gone : ∀ o ∈ d.acknowledged, d.leaving = some o ∨ ∀ m x, ¬ d.held o m x
  old : ∀ o ∈ d.acknowledged, ¬ d.fresh o

section Steps

variable {d d' : Sender ω β}

theorem Sends.mem (h : Sends d d') {o : ω} {n : Nat} {x : β} (hx : (o, n, x) ∈ d'.sent) :
    (o, n, x) ∈ d.sent ∨ d.held o (some n) (some x) := by
  cases h with
  | nothing h => exact .inl (h ▸ hx)
  | message o' n' x' h hheld =>
    rw [h, List.mem_append, List.mem_singleton] at hx
    rcases hx with hx | hx
    · exact .inl hx
    · cases hx
      exact .inr hheld

theorem Sends.grows (h : Sends d d') {y : ω × Nat × β} (hy : y ∈ d.sent) : y ∈ d'.sent := by
  cases h with
  | nothing h => exact h ▸ hy
  | message o n x h => exact h ▸ List.mem_append_left _ hy

/-- A message at hand with a number had it before, or has just got it. -/
theorem Carried.number {numbered : Option ω} {o : ω} {n : Nat} {x : Option β}
    (h : Carried d d' numbered o (some n) x) :
    (∃ y, d.held o (some n) y) ∨ numbered = some o ∧ n = d.next ∧ d.next < d'.next := by
  cases h with
  | kept y h => exact .inl ⟨y, h⟩
  | numbered y _ _ ho hm hnext => exact .inr ⟨ho, Option.some.inj hm, hnext⟩
  | opened _ _ hm => cases hm

theorem Step.numbered (h : Step d d') (hd : Numbered d) : Numbered d' := by
  obtain ⟨numbered, hheld⟩ := h.held
  have hsent : ∀ o n x, (o, n, x) ∈ d'.sent → (o, n, x) ∈ d.sent ∨ d.held o (some n) (some x) :=
    fun _ _ _ hx => h.sent.mem hx
  have hbound : ∀ o n x, (o, n, x) ∈ d'.sent → n < d.next := fun o n x hx =>
    (hsent o n x hx).elim (hd.sentBound o n x) (hd.bound o n _)
  have hold : ∀ o n x, (o, n, x) ∈ d'.sent → ¬ d.fresh o := fun o n x hx =>
    (hsent o n x hx).elim (hd.sentOld o n x) (hd.old o _ _)
  -- What has been sent and what is at hand agreed before the step, and its parts do not mix.
  have hapart : ∀ o o' n x y, (o, n, x) ∈ d'.sent → d.held o' (some n) y → o' = o :=
    fun o o' n x y hx hy => (hsent o n x hx).elim (fun hx => hd.apart o o' n x y hx hy)
      (fun hx => hd.distinct o' o n y _ hy hx)
  have hunchanged : ∀ o n x m y, (o, n, x) ∈ d'.sent → d.held o m y → m = some n ∧ y = some x :=
    fun o n x m y hx hy => (hsent o n x hx).elim (fun hx => hd.unchanged o n x m y hx hy)
      (fun hx => h.one o m y _ _ hy hx)
  constructor
  · intro o n x hx
    rcases (hheld o _ x hx).number with ⟨y, hy⟩ | ⟨-, rfl, hnext⟩
    · exact Nat.lt_of_lt_of_le (hd.bound o n y hy) h.next
    · exact hnext
  · intro o m x hx hfresh
    cases hheld o m x hx with
    | kept y hy => exact hd.old o m y hy (h.fresh o hfresh)
    | numbered y hy => exact hd.old o none y hy (h.fresh o hfresh)
    | opened _ hnow => exact hnow hfresh
  · intro o o' n x x' hx hx'
    rcases (hheld o _ x hx).number, (hheld o' _ x' hx').number with
      ⟨⟨y, hy⟩ | ⟨ho, hn, -⟩, ⟨y', hy'⟩ | ⟨ho', hn', -⟩⟩
    · exact hd.distinct o o' n y y' hy hy'
    · have := hd.bound o n y hy
      omega
    · have := hd.bound o' n y' hy'
      omega
    · exact Option.some.inj (ho.symm.trans ho')
  · exact fun o n x hx => Nat.lt_of_lt_of_le (hbound o n x hx) h.next
  · exact fun o n x hx hfresh => hold o n x hx (h.fresh o hfresh)
  · intro o n x m y hx hy
    cases hheld o m y hy with
    | kept y' hy' hcontent =>
      obtain ⟨hm, rfl⟩ := hunchanged o n x m y' hx hy'
      exact ⟨hm, hcontent.elim (fun hnone => by cases hnone) Eq.symm⟩
    | numbered y' hy' =>
      obtain ⟨hnone, -⟩ := hunchanged o n x none y' hx hy'
      cases hnone
    | opened hfresh => exact (hold o n x hx hfresh).elim
  · intro o o' n x y hx hy
    rcases (hheld o' _ y hy).number with ⟨y', hy'⟩ | ⟨-, rfl, -⟩
    · exact hapart o o' n x y' hx hy'
    · exact absurd (hbound o _ x hx) (Nat.lt_irrefl _)
  · intro o o' n x x' hx hx'
    rcases hsent o' n x' hx' with hold' | hnew'
    · rcases hsent o n x hx with hold | hnew
      · exact hd.same o o' n x x' hold hold'
      · obtain rfl := hd.apart o' o n x' _ hold' hnew
        exact ⟨rfl, Option.some.inj (hd.unchanged o n x' _ _ hold' hnew).2⟩
    · obtain rfl := hapart o o' n x _ hx hnew'
      exact ⟨rfl, (Option.some.inj (hunchanged o' n x _ _ hx hnew').2).symm⟩
  · intro o n n' x x' hx hx'
    rcases hsent o n' x' hx' with hold' | hnew'
    · rcases hsent o n x hx with hold | hnew
      · exact hd.once o n n' x x' hold hold'
      · exact Option.some.inj (hd.unchanged o n' x' _ _ hold' hnew).1
    · exact (Option.some.inj (hunchanged o n x _ _ hx hnew').1).symm

theorem Step.released (h : Step d d') (hd : Numbered d) (hr : Released d) : Released d' := by
  obtain ⟨numbered, hheld⟩ := h.held
  have hstays : ∀ o ∈ d.acknowledged, (∀ m x, ¬ d.held o m x) → ∀ m x, ¬ d'.held o m x := by
    intro o ho hnone m x hx
    cases hheld o m x hx with
    | kept y hy => exact hnone _ _ hy
    | numbered y hy => exact hnone _ _ hy
    | opened hfresh => exact hr.old o ho hfresh
  have hold : ∀ o ∈ d.acknowledged, ¬ d'.fresh o := fun o ho hfresh =>
    hr.old o ho (h.fresh o hfresh)
  cases h.releases with
  | nothing hsame hleaving =>
    refine ⟨hsame ▸ hr.nodup, fun o ho => ?_, fun o ho => hold o (hsame ▸ ho)⟩
    rw [hsame] at ho
    rw [hleaving]
    exact (hr.gone o ho).imp id (hstays o ho)
  | acknowledged o m x hidle hx hsame hleaving =>
    have hgone : ∀ o' ∈ d.acknowledged, ∀ m x, ¬ d.held o' m x := fun o' ho' =>
      (hr.gone o' ho').resolve_left (fun h => by rw [hidle] at h; cases h)
    have hmem : ∀ o' ∈ d'.acknowledged, o' ∈ d.acknowledged ∨ o' = o := by
      intro o' ho'
      simpa [hsame] using ho'
    refine ⟨?_, fun o' ho' => ?_, fun o' ho' => ?_⟩
    · rw [hsame, List.nodup_append]
      refine ⟨hr.nodup, by simp, fun o₁ ho₁ o₂ ho₂ heq => ?_⟩
      rw [List.mem_singleton.mp ho₂] at heq
      exact hgone o₁ ho₁ m x (heq ▸ hx)
    · rcases hmem o' ho' with hbefore | rfl
      · exact .inr (hstays o' hbefore (hgone o' hbefore))
      · exact .inl hleaving
    · rcases hmem o' ho' with hbefore | rfl
      · exact hold o' hbefore
      · exact fun hfresh => hd.old o' m x hx (h.fresh o' hfresh)
  | left hsame hleaving hgone =>
    refine ⟨hsame ▸ hr.nodup, fun o ho => .inr ?_, fun o ho => hold o (hsame ▸ ho)⟩
    rw [hsame] at ho
    rcases hr.gone o ho with hlast | hnone
    · exact hgone o hlast
    · exact hstays o ho hnone

end Steps
end NumberedMessages
