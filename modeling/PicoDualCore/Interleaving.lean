import PicoDualCore.Core0Ingress
import PicoDualCore.MqttRule
import PicoDualCore.QueueAccounting
set_option autoImplicit false

/-!
What Core 1, the clock and the peer do between two steps of Core 0, and the rules for Core 0's own
code under that interference.
-/

namespace PicoDualCore
open AtomicProgram

inductive ProducerStep : OutboundQueue → OutboundQueue → Prop where
  | idle (q : OutboundQueue) : ProducerStep q q
  | append (q : OutboundQueue) (kind : Kind) (payload : Bytes) (priority : Priority)
    (i : HeapInput) : ProducerStep q (q.append kind payload priority i).2
  | evict (q : OutboundQueue) (priority : Priority) :
    ProducerStep q (q.evictOneEligible priority).2
  | rejected (q : OutboundQueue) :
    ProducerStep q { q with messagesRejected := q.messagesRejected + 1 }
  | oversized (q : OutboundQueue) :
    ProducerStep q { q with oversizedRejected := q.oversizedRejected + 1 }

/-- Every put of Core 1 is made of such steps. -/
theorem producerRule (priority : Priority) :
    OutboundQueue.PutRule (fun _ _ => True) ProducerStep (fun _ => True) (fun _ => True)
      (fun _ => True) priority where
  stable := fun _ _ => trivial
  roomStable := fun _ _ => trivial
  idle := fun {q} _ => .idle q
  idleRoom := fun {q} _ => .idle q
  evict := fun {q} _ => ⟨.evict q priority, trivial, fun _ => trivial⟩
  room := fun _ _ => trivial
  append := fun {q} _ kind payload i => by
    refine ⟨.append q kind payload priority i, ?_⟩
    split <;> trivial
  rejected := fun {q} _ => ⟨.rejected q, trivial⟩
  oversized := fun {q} _ => ⟨.oversized q, trivial⟩

theorem ProducerStep.inFlight {q q' : OutboundQueue} (h : ProducerStep q q') :
    q'.inFlight = q.inFlight := by
  cases h with
  | idle => rfl
  | append kind payload priority i =>
    rcases OutboundQueue.append_cases q kind payload priority i with ha | ha <;> rw [ha]
    rfl
  | evict priority =>
    rcases OutboundQueue.evictOneEligible_cases q priority with ⟨_, he⟩ | ⟨_, _, _, _, -, he⟩ <;>
      rw [he]
    rfl
  | rejected => rfl
  | oversized => rfl

/-- Core 1 adds to the outbound queue, takes from the event queue and stamps its liveness; the
clock goes on. -/
structure Others (b b' : Board) : Prop where
  core0 : b'.core0 = b.core0
  disk : b'.disk = b.disk
  clock : b.nowMs ≤ b'.nowMs
  outbound : Relation.ReflTransGen ProducerStep b.outbound b'.outbound
  events : b'.events.queue <:+ b.events.queue

theorem Others.refl (b : Board) : Others b b :=
  ⟨rfl, rfl, Nat.le_refl _, .refl, List.suffix_refl _⟩

theorem Others.trans {a b c : Board} (h : Others a b) (h' : Others b c) : Others a c :=
  ⟨h'.core0.trans h.core0, h'.disk.trans h.disk, Nat.le_trans h.clock h'.clock,
    h.outbound.trans h'.outbound, h'.events.trans h.events⟩

theorem Others.inFlight {b b' : Board} (h : Others b b') :
    b'.outbound.inFlight = b.outbound.inFlight := by
  have hsteps : ∀ q, Relation.ReflTransGen ProducerStep b.outbound q →
      q.inFlight = b.outbound.inFlight := by
    intro q hq
    induction hq with
    | refl => rfl
    | tail _ hstep ih => exact hstep.inFlight.trans ih
  exact hsteps _ h.outbound

theorem Others.command {b b' : Board} (h : Others b b') : b'.command = b.command :=
  congrArg Core0.toCommandState h.core0

/-- The others, with the peer of the sockets among them. -/
structure Around (s t : Sys Board) : Prop where
  peer : Peer s t
  board : Others s.app t.app

theorem Around.refl (s : Sys Board) : Around s s := ⟨.refl s, .refl s.app⟩

theorem Around.trans {s t u : Sys Board} (h : Around s t) (h' : Around t u) : Around s u :=
  ⟨h.peer.trans h'.peer, h.board.trans h'.board⟩

def Undisturbed (P : Board → Prop) : Prop := ∀ b b', Others b b' → P b → P b'

section Boarding

variable {α β : Type} {A : CoreInput → Prop} {G : Board → Board → Prop} {P : Board → Prop}
  {Q : α → Board → Prop} {X : Exc → Board → Prop} {b : Board}

abbrev Boarding (A : CoreInput → Prop) (G : Board → Board → Prop) (Q : α → Board → Prop)
    (X : Exc → Board → Prop) (p : BoardProg α) (b : Board) : Prop :=
  p.wp A Others G Q X b

theorem boarding_seq {Q' : β → Board → Prop} {p : BoardProg α} {f : α → BoardProg β}
    (hp : Boarding A G Q X p b) (hf : ∀ a t, Q a t → Boarding A G Q' X (f a) t) :
    Boarding A G Q' X (p >>= f) b :=
  (Proc.wp_seq _ _ _).mpr (Proc.wp_mono hp (fun _ _ h => h) hf (fun _ _ h => h))

theorem boarding_mono {Q' : α → Board → Prop} {X' : Exc → Board → Prop} {p : BoardProg α}
    (hp : Boarding A G Q X p b) (hQ : ∀ a t, Q a t → Q' a t) (hX : ∀ e t, X e t → X' e t) :
    Boarding A G Q' X' p b :=
  Proc.wp_mono hp (fun _ _ h => h) hQ hX

theorem boarding_ite {c : Prop} [Decidable c] {p q : BoardProg α} (hp : c → Boarding A G Q X p b)
    (hq : ¬ c → Boarding A G Q X q b) : Boarding A G Q X (if c then p else q) b := by
  by_cases h : c
  · rw [if_pos h]
    exact hp h
  · rw [if_neg h]
    exact hq h

theorem boarding_atomic {f : Board → CoreInput → Except Exc α × Board} (hP : Undisturbed P) (hb : P b)
    (h : ∀ t i, A i → P t → G t (f t i).2 ∧ (∀ a, (f t i).1 = .ok a → Q a (f t i).2) ∧
      ∀ e, (f t i).1 = .error e → X e (f t i).2) : Boarding A G Q X (.atomic f) b := by
  refine Proc.wp_atomic (fun t ht i hi => ?_)
  obtain ⟨hG, hok, herr⟩ := h t i hi (hP b t ht hb)
  refine ⟨hG, ?_⟩
  cases hr : (f t i).1 with
  | ok a => exact hok a hr
  | error e => exact herr e hr

theorem boarding_total {f : Board → CoreInput → α × Board} (hP : Undisturbed P) (hb : P b)
    (h : ∀ t i, A i → P t → G t (f t i).2 ∧ Q (f t i).1 (f t i).2) :
    Boarding A G Q X (.atomic (fun t i => (.ok (f t i).1, (f t i).2))) b := by
  refine boarding_atomic hP hb (fun t i hi ht => ?_)
  obtain ⟨hG, hQ⟩ := h t i hi ht
  refine ⟨hG, ?_, fun e he => by cases he⟩
  rintro a ha
  cases ha
  exact hQ

theorem boarding_look {f : Board → α} (hP : Undisturbed P) (hb : P b)
    (h : ∀ t, P t → G t t ∧ Q (f t) t) : Boarding A G Q X (look f) b :=
  boarding_total (f := fun t _ => (f t, t)) hP hb (fun t _ _ ht => h t ht)

theorem boarding_sense {f : CoreInput → α} (hP : Undisturbed P) (hb : P b)
    (h : ∀ t i, A i → P t → G t t ∧ Q (f i) t) : Boarding A G Q X (sense f) b :=
  boarding_total (f := fun t i => (f i, t)) hP hb h

theorem boarding_onState {f : CommandState → α × CommandState} (hP : Undisturbed P) (hb : P b)
    (h : ∀ t, P t → G t (t.withCommand (f t.command).2) ∧
      Q (f t.command).1 (t.withCommand (f t.command).2)) : Boarding A G Q X (onState f) b :=
  boarding_total (f := fun t _ => ((f t.command).1, t.withCommand (f t.command).2)) hP hb
    (fun t _ _ ht => h t ht)

theorem boarding_adjust {f : Core0 → Nat → Core0} {Q : Unit → Board → Prop} (hP : Undisturbed P)
    (hb : P b) (h : ∀ t : Board, P t → G t { t with core0 := f t.core0 t.ticksMs } ∧
      Q () { t with core0 := f t.core0 t.ticksMs }) : Boarding A G Q X (adjust f) b :=
  boarding_total (f := fun t _ => ((), { t with core0 := f t.core0 t.ticksMs })) hP hb
    (fun t _ _ ht => h t ht)

end Boarding

end PicoDualCore
