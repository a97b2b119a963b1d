import PicoDualCore.Core0Record
import PicoDualCore.NumberedMessages
set_option autoImplicit false

/-!
Core 0 as a sender of numbered messages, in every run from power-on: its sequences, its attempts
and their acknowledgements.
-/

namespace PicoDualCore
open AtomicProgram MqttClient

namespace OutboundQueue

variable {q : OutboundQueue}

theorem take_cases (q : OutboundQueue) : q.take.2 = q ∨ ∃ e rest, q.inFlight = none ∧
    q.queue = e :: rest ∧ q.take.2 =
      { q with queue := rest, inFlight := some e, history := q.history ++ [.taken e] } := by
  unfold OutboundQueue.take
  cases hf : q.inFlight with
  | some e => exact .inl rfl
  | none =>
    cases hq : q.queue with
    | nil => exact .inl rfl
    | cons e rest => exact .inr ⟨e, rest, rfl, rfl, rfl⟩

theorem completeInFlight_done {e : Entry} (h : q.inFlight = some e) (discarded : Bool) :
    (q.completeInFlight (some e.ref) discarded).2.inFlight = none ∧
      (q.completeInFlight (some e.ref) discarded).2.queue = q.queue ∧
      (q.completeInFlight (some e.ref) discarded).2.history =
        q.history ++ [if discarded then .discarded e else .completed e] := by
  simp [completeInFlight, h]

theorem Ledger.notTaken {e : Entry} {rest : List Entry} (h : q.Ledger) (hflight : q.inFlight = none)
    (hqueue : q.queue = e :: rest) : e.ref ∉ q.taken := by
  have hnodup := h.distinct.sublist h.ordered
  have htaken := h.takenFirst
  rw [hflight] at htaken
  simp only [retained, hflight, hqueue, Option.toList_none, List.nil_append, List.map_cons,
    List.map_nil, List.append_nil] at hnodup htaken
  rw [htaken]
  exact fun hmem => (List.nodup_append.mp hnodup).2.2 _ hmem _ List.mem_cons_self rfl

end OutboundQueue

def Board.held (boot : Boot) (b : Board) (o : Owner) (m : Option Nat)
    (x : Option (String × Bytes)) : Prop :=
  match o with
  | .container uid => ∃ c stamps, c.uid = uid ∧ Contained b.command c stamps ∧
      m = stamps.wireSequence ∧
      x = stamps.payloadBytes.map (Prod.mk boot.config.topicCommandResponse)
  | .entry ref => ∃ e, b.outbound.inFlight = some e ∧ e.ref = ref ∧ m = e.wireSequence ∧
      x = some (topicForKind boot.config e.kind, e.payloadBytes)

def Board.fresh (b : Board) : Owner → Prop
  | .container uid => b.command.nextUid ≤ uid
  | .entry ref => ref ∉ b.outbound.taken

/-- The containers and the entry in flight are its messages; the contents are sent with the
envelope of their number. -/
def Board.sender (boot : Boot) (b : Board) : NumberedMessages.Sender Owner (String × Bytes) where
  held := b.held boot
  fresh := b.fresh
  next := b.command.nextSequence
  sent := (attempts b.command.history).filterMap Attempt.numbered?
  acknowledged := acknowledged b.command.history
  leaving := owed b.command.history

section Sender

variable {boot : Boot} {n : Network} {b b' : Board} {k : CommandState} {a : Attempt} {o : Owner}
  {sequence : Nat}

theorem Sends.held (h : Sends boot b a) (htag : a.tag = some (o, sequence)) :
    ∃ body, a.message = .bytes body ∧ a.fragment = some (boot.fragment sequence) ∧
      wireLength body (boot.fragment sequence) ≤ MAX_OUTBOUND_MESSAGE_BYTES ∧
      b.held boot o (some sequence) (some (a.topic, body)) := by
  rw [Sends, htag] at h
  cases o with
  | container uid =>
    obtain ⟨c, stamps, body, huid, hheld, hsequence, hbody, hspliced⟩ := h
    refine ⟨body, hspliced.message, hspliced.fragment, hspliced.fits, c, stamps, huid,
      hheld.contained, hsequence.symm, ?_⟩
    rw [hbody, hspliced.topic]
    rfl
  | entry ref =>
    obtain ⟨e, hflight, href, hsequence, hspliced⟩ := h
    refine ⟨e.payloadBytes, hspliced.message, hspliced.fragment, hspliced.fits, e, hflight, href,
      hsequence.symm, ?_⟩
    rw [hspliced.topic]

theorem Board.held_one (hb : b.command.Numbered) {m m' : Option Nat}
    {x x' : Option (String × Bytes)} (h : b.held boot o m x) (h' : b.held boot o m' x') :
    m = m' ∧ x = x' := by
  cases o with
  | container uid =>
    obtain ⟨c, stamps, rfl, hc, rfl, rfl⟩ := h
    obtain ⟨c', stamps', huid, hc', rfl, rfl⟩ := h'
    obtain ⟨rfl, -⟩ := hc.unique hc' hb huid
    exact ⟨rfl, rfl⟩
  | entry ref =>
    obtain ⟨e, he, rfl, rfl, rfl⟩ := h
    obtain ⟨e', he', href, rfl, rfl⟩ := h'
    obtain rfl : e = e' := Option.some.inj (he.symm.trans he')
    exact ⟨rfl, rfl⟩

/-- The stamps of a container only ever settle. -/
theorem Origin.carried {numbered : Option Nat} {c : Container} {stamps : Stamps}
    {d' : NumberedMessages.Sender Owner (String × Bytes)}
    (hnext : k.nextSequence = d'.next) (hopened : c.uid = b.command.nextUid →
      k.nextUid = b.command.nextUid + 1 → ¬ d'.fresh (.container c.uid))
    (h : Origin boot b k numbered c stamps) :
    NumberedMessages.Carried (b.sender boot) d' (numbered.map Owner.container) (.container c.uid)
      stamps.wireSequence
      (stamps.payloadBytes.map (Prod.mk boot.config.topicCommandResponse)) := by
  cases h with
  | opened hc hnextUid hstamps =>
    exact .opened (Nat.le_of_eq hc.symm) (hopened hc hnextUid) (by rw [hstamps])
  | kept c₀ stamps₀ hold hsame hstamps =>
    have hheld : (b.sender boot).held (.container c.uid) stamps₀.wireSequence
        (stamps₀.payloadBytes.map (Prod.mk boot.config.topicCommandResponse)) :=
      ⟨c₀, stamps₀, hsame.uid.symm, hold, rfl, rfl⟩
    cases hstamps with
    | same => exact .kept _ hheld (.inr rfl)
    | sequence hnone hc hnew =>
      rw [hnone] at hheld
      refine .numbered _ hheld (.inr rfl) ?_ rfl ?_
      · rw [hc, Option.map_some, hsame.uid]
      · rw [← hnext, hnew]
        exact Nat.lt_succ_self _
    | frozen payload hnone =>
      rw [hnone] at hheld
      exact .kept _ hheld (.inl rfl)
    | failed => exact .kept _ hheld (.inr rfl)

theorem CommandStep.nextSequence_le (h : CommandStep boot n b k) :
    b.command.nextSequence ≤ k.nextSequence ∧ b.command.nextUid ≤ k.nextUid := by
  have hqueue : ∀ response clears note,
      b.command.nextSequence ≤ (b.command.queueResponse response clears note).2.nextSequence ∧
        b.command.nextUid ≤ (b.command.queueResponse response clears note).2.nextUid := by
    intro response clears note
    unfold CommandState.queueResponse
    by_cases hfull : b.command.queueFull = true <;> simp [hfull]
  cases h with
  | sequence => exact ⟨Nat.le_succ _, Nat.le_refl _⟩
  | answered p =>
    unfold CommandState.popPublished
    by_cases hclears : p.clearsPendingReboot = true <;> simp [hclears]
  | substituted p =>
    unfold CommandState.substituteHead
    cases (b.command.stampsOf p.uid).permanentFailure with
    | none => exact ⟨Nat.le_refl _, Nat.le_refl _⟩
    | some failure =>
      by_cases hsub : isResponseSubstitute p.response = true <;> simp [hsub]
  | rebootSubstituted r =>
    rcases b.command.answerUnsentReboot_cases r with hsame | ⟨failure, -, -, hnew⟩
    · rw [hsame]
      exact ⟨Nat.le_refl _, Nat.le_refl _⟩
    · rw [hnew]
      exact ⟨Nat.le_refl _, Nat.le_succ _⟩
  | discardAnswered => exact hqueue _ _ _
  | _ => exact ⟨Nat.le_refl _, Nat.le_refl _⟩

theorem AsideStep.nextUid_le (h : AsideStep b b') : b.command.nextUid ≤ b'.command.nextUid := by
  cases h with
  | quiet h => rw [h.command]
  | replied r hroom => rw [CommandState.reply_of_room r hroom]; exact Nat.le_succ _
  | rebootAccepted => exact Nat.le_succ _
  | dispatched event _ hcommand => rw [hcommand]; exact Nat.le_refl _
  | _ => exact Nat.le_refl _

theorem sender_step {numbered : Option Nat} (hb : Orderly b) (houtbound : b'.outbound = b.outbound)
    (hnext : b.command.nextSequence ≤ b'.command.nextSequence)
    (huid : b.command.nextUid ≤ b'.command.nextUid)
    (horigin : ∀ c stamps, Contained b'.command c stamps →
      Origin boot b b'.command numbered c stamps)
    (hsent : NumberedMessages.Sends (b.sender boot) (b'.sender boot))
    (hreleases : NumberedMessages.Releases (b.sender boot) (b'.sender boot)) :
    NumberedMessages.Step (b.sender boot) (b'.sender boot) where
  one := fun _ _ _ _ _ h h' => Board.held_one hb.numbered h h'
  next := hnext
  fresh := fun o ho => by
    cases o with
    | container uid => exact Nat.le_trans huid ho
    | entry ref => exact fun h => ho (houtbound ▸ h)
  held := ⟨numbered.map Owner.container, fun o m x h => by
    cases o with
    | container uid =>
      obtain ⟨c, stamps, rfl, hc, rfl, rfl⟩ := h
      refine (horigin c stamps hc).carried rfl (fun hnew hgrown hfresh => ?_)
      have hle : b'.command.nextUid ≤ c.uid := hfresh
      omega
    | entry ref =>
      obtain ⟨e, he, href, hm, hx⟩ := h
      exact .kept x ⟨e, houtbound ▸ he, href, hm, hx⟩ (.inr rfl)⟩
  sent := hsent
  releases := hreleases

theorem sender_calm {new : List CoreEvent} (h : b'.command.history = b.command.history ++ new)
    (hcalm : ∀ e ∈ new, e.calm = true) (howed : owed b'.command.history = owed b.command.history) :
    NumberedMessages.Sends (b.sender boot) (b'.sender boot) ∧
      NumberedMessages.Releases (b.sender boot) (b'.sender boot) := by
  refine ⟨.nothing ?_, .nothing ?_ howed⟩
  · simp only [Board.sender, h, attempts_append, attempts_calm hcalm, List.append_nil]
  · simp only [Board.sender, h, acknowledged_append, acknowledged_calm hcalm, List.append_nil]

theorem Recorded.sender (h : Recorded boot n b k) (hk : b'.command = k) :
    NumberedMessages.Sends (b.sender boot) (b'.sender boot) ∧
      NumberedMessages.Releases (b.sender boot) (b'.sender boot) := by
  subst hk
  cases h with
  | calm new h hcalm howed => exact sender_calm h hcalm howed
  | attempt a h hsends =>
    have hattempts : attempts b'.command.history = attempts b.command.history ++ [a] := by
      rw [h]
      exact attempts_append _ _
    refine ⟨?_, .nothing ?_ ?_⟩
    · cases htag : a.tag with
      | none =>
        refine .nothing ?_
        simp [Board.sender, hattempts, Attempt.numbered?, htag]
      | some named =>
        obtain ⟨o, sequence⟩ := named
        obtain ⟨body, hmessage, -, -, hheld⟩ := hsends.held htag
        refine .message o sequence (a.topic, body) ?_ hheld
        simp [Board.sender, hattempts, Attempt.numbered?, htag, hmessage]
    · simp only [Board.sender, h]
      exact (acknowledged_append _ _).trans (List.append_nil _)
    · simp only [Board.sender, h]
      exact owed_snoc _ _
  | published a completedMs h hsends hidle =>
    have hattempts : attempts b'.command.history = attempts b.command.history := by
      rw [h]
      exact (attempts_append _ _).trans (List.append_nil _)
    refine ⟨.nothing (by simp only [Board.sender, hattempts]), ?_⟩
    cases htag : a.tag with
    | none =>
      rw [htag] at h
      refine .nothing ?_ ?_
      · simp only [Board.sender, h]
        exact (acknowledged_append _ _).trans (List.append_nil _)
      · simp only [Board.sender, h]
        exact owed_snoc _ _
    | some named =>
      obtain ⟨o, sequence⟩ := named
      obtain ⟨body, -, -, -, hheld⟩ := hsends.held htag
      rw [htag] at h
      refine .acknowledged o _ _ hidle hheld ?_ ?_
      · simp only [Board.sender, h]
        exact acknowledged_append _ _
      · simp only [Board.sender, h]
        exact owed_snoc _ _
  | left c stamps hheld howed new h hcalm hidle hgone =>
    refine ⟨.nothing ?_, .left ?_ hidle ?_⟩
    · simp only [Board.sender, h, attempts_append, attempts_calm hcalm, List.append_nil]
    · simp only [Board.sender, h, acknowledged_append, acknowledged_calm hcalm, List.append_nil]
    · intro o ho m x hx
      obtain rfl : Owner.container c.uid = o := Option.some.inj (howed.symm.trans ho)
      obtain ⟨c', stamps', huid, hc', -⟩ := hx
      exact hgone c' stamps' hc' huid

theorem AsideStep.sender (h : AsideStep b b') (hb : Orderly b) :
    NumberedMessages.Step (b.sender boot) (b'.sender boot) := by
  obtain ⟨new, hnew, haside⟩ := h.history
  obtain ⟨hsent, hreleases⟩ := @sender_calm boot _ _ new hnew
    (fun e he => CoreEvent.calm_of_aside (haside e he)) (by rw [hnew, owed_aside haside])
  have horigin : ∀ c stamps, Contained b'.command c stamps →
      Origin boot b b'.command none c stamps := fun _ _ hc => h.origin hc
  exact sender_step hb h.outbound (Nat.le_of_eq h.nextSequence.symm) h.nextUid_le horigin hsent
    hreleases

/-- Every step of Core 0 is one of the sender. -/
theorem BoardStep.sender (h : BoardStep boot n b b') (hb : Orderly b) :
    NumberedMessages.Step (b.sender boot) (b'.sender boot) := by
  cases h with
  | aside h => exact h.sender hb
  | command h hmoved =>
    obtain ⟨numbered, horigin⟩ := h.origin hb.numbered
    obtain ⟨hsent, hreleases⟩ := (h.recorded hb.numbered).sender hmoved.command
    have hle := h.nextSequence_le
    rw [← hmoved.command] at hle horigin
    exact sender_step hb hmoved.outbound hle.1 hle.2 horigin hsent hreleases
  | entrySequence e he hnone =>
    refine ⟨fun _ _ _ _ _ h h' => Board.held_one hb.numbered h h', Nat.le_succ _, fun o ho => ?_,
      ⟨some (.entry e.ref), fun o m x hx => ?_⟩, .nothing rfl, .nothing rfl rfl⟩
    · cases o <;> exact ho
    · cases o with
      | container uid => exact .kept x hx (.inr rfl)
      | entry ref =>
        obtain ⟨e', he', rfl, rfl, rfl⟩ := hx
        change (b.outbound.stamp e.ref _).inFlight = some e' at he'
        rw [OutboundQueue.stamp_inFlight he] at he'
        cases he'
        exact .numbered _ ⟨e, he, rfl, hnone.symm, rfl⟩ (.inr rfl) rfl rfl (Nat.lt_succ_self _)
  | taken =>
    rcases b.outbound.take_cases with hsame | ⟨e, rest, hflight, hqueue, hnew⟩
    · rw [hsame]
      exact ⟨fun _ _ _ _ _ h h' => Board.held_one hb.numbered h h', Nat.le_refl _, fun _ h => h,
        ⟨none, fun _ _ x h => .kept x h (.inr rfl)⟩, .nothing rfl, .nothing rfl rfl⟩
    rw [hnew]
    refine ⟨fun _ _ _ _ _ h h' => Board.held_one hb.numbered h h', Nat.le_refl _, fun o ho => ?_,
      ⟨none, fun o m x hx => ?_⟩, .nothing rfl, .nothing rfl rfl⟩
    · cases o with
      | container uid => exact ho
      | entry ref => exact fun h => ho (by
          simp only [OutboundQueue.taken, List.filterMap_append, List.mem_append]
          exact .inl h)
    · cases o with
      | container uid => exact .kept x hx (.inr rfl)
      | entry ref =>
        obtain ⟨e', he', rfl, rfl, rfl⟩ := hx
        cases he'
        refine .opened (hb.ledger.notTaken hflight hqueue) (fun hfresh => hfresh ?_) ?_
        · simp [OutboundQueue.taken, OutboundQueue.QueueEvent.taken?]
        · exact hb.unstamped e (by rw [hqueue]; exact List.mem_cons_self)
  | released e discarded he hdone hlarge =>
    obtain ⟨hempty, -, hhistory⟩ := OutboundQueue.completeInFlight_done he discarded
    refine ⟨fun _ _ _ _ _ h h' => Board.held_one hb.numbered h h', Nat.le_refl _, fun o ho => ?_,
      ⟨none, fun o m x hx => ?_⟩, .nothing ?_, ?_⟩
    · cases o with
      | container uid => exact ho
      | entry ref =>
        refine fun h => ho ?_
        simp only [OutboundQueue.taken, hhistory, List.filterMap_append, List.mem_append]
        exact .inl h
    · cases o with
      | container uid => exact .kept x hx (.inr rfl)
      | entry ref =>
        obtain ⟨e', he', -⟩ := hx
        exact absurd (hempty.symm.trans he') (by simp)
    · exact congrArg (List.filterMap Attempt.numbered?)
        ((attempts_append _ _).trans (List.append_nil _))
    · refine .left ((acknowledged_append _ _).trans (List.append_nil _)) (owed_snoc _ _) ?_
      intro o ho m x hx
      cases discarded with
      | true => exact absurd ((hlarge rfl).1.symm.trans ho) (by simp)
      | false =>
        obtain rfl : Owner.entry e.ref = o := Option.some.inj ((hdone rfl).symm.trans ho)
        obtain ⟨e', he', -⟩ := hx
        exact absurd (hempty.symm.trans he') (by simp)

end Sender

/-- What producers put on record. -/
def QueueEvent.produced : QueueEvent → Bool
  | .admitted _ | .evicted _ => true
  | _ => false

theorem ProducerStep.history {q q' : OutboundQueue} (h : ProducerStep q q') :
    ∃ new, q'.history = q.history ++ new ∧ ∀ e ∈ new, e.produced = true := by
  have hsame : ∃ new, q.history = q.history ++ new ∧ ∀ e ∈ new, e.produced = true :=
    ⟨[], (List.append_nil _).symm, by simp⟩
  cases h with
  | append kind payload priority i =>
    rcases OutboundQueue.append_cases q kind payload priority i with ha | ha <;> rw [ha]
    · exact hsame
    · exact ⟨_, rfl, by simp [QueueEvent.produced]⟩
  | evict priority =>
    rcases OutboundQueue.evictOneEligible_cases q priority with ⟨_, he⟩ | ⟨_, _, _, _, -, he⟩ <;>
      rw [he]
    · exact hsame
    · exact ⟨_, rfl, by simp [QueueEvent.produced]⟩
  | _ => exact hsame

theorem Others.history {b b' : Board} (h : Others b b') : ∃ new,
    b'.outbound.history = b.outbound.history ++ new ∧ ∀ e ∈ new, e.produced = true := by
  have hsteps : ∀ q, Relation.ReflTransGen ProducerStep b.outbound q →
      ∃ new, q.history = b.outbound.history ++ new ∧ ∀ e ∈ new, e.produced = true := by
    intro q hq
    induction hq with
    | refl => exact ⟨[], (List.append_nil _).symm, by simp⟩
    | tail _ hstep ih =>
      obtain ⟨new, hnew, hproduced⟩ := ih
      obtain ⟨more, hmore, hproduced'⟩ := hstep.history
      refine ⟨new ++ more, by rw [hmore, hnew, List.append_assoc], fun e he => ?_⟩
      exact (List.mem_append.mp he).elim (hproduced e) (hproduced' e)
  exact hsteps _ h.outbound

theorem Others.consumed {b b' : Board} (h : Others b b') {f : QueueEvent → Option Nat}
    (hf : ∀ e, e.produced = true → f e = none) :
    b'.outbound.history.filterMap f = b.outbound.history.filterMap f := by
  obtain ⟨new, hnew, hproduced⟩ := h.history
  rw [hnew, List.filterMap_append,
    List.filterMap_eq_nil_iff.mpr (fun e he => hf e (hproduced e he)), List.append_nil]

theorem Others.taken {b b' : Board} (h : Others b b') : b'.outbound.taken = b.outbound.taken :=
  h.consumed (fun e he => by cases e <;> first | rfl | cases he)

theorem Others.sender {boot : Boot} {b b' : Board} (h : Others b b') :
    b'.sender boot = b.sender boot := by
  have hheld : b'.held boot = b.held boot := by
    funext o m x
    cases o with
    | container uid => simp only [Board.held, h.command]
    | entry ref => simp only [Board.held, h.inFlight]
  have hfresh : b'.fresh = b.fresh := by
    funext o
    cases o with
    | container uid => simp only [Board.fresh, h.command]
    | entry ref => simp only [Board.fresh, h.taken]
  rw [Board.sender, Board.sender, hheld, hfresh, h.command]

structure Formed (boot : Boot) (a : Attempt) : Prop where
  plain : a.tag = none → a.fragment = none ∧ Plain boot a
  spliced : ∀ o n, a.tag = some (o, n) → ∃ body, a.message = .bytes body ∧
    a.fragment = some (boot.fragment n) ∧
    wireLength body (boot.fragment n) ≤ MAX_OUTBOUND_MESSAGE_BYTES

section Runs

variable {boot : Boot} {rounds : Nat} {s t : Sys Board} {q : CoreProg Unit}

theorem Sends.formed {b : Board} {a : Attempt} (h : Sends boot b a) : Formed boot a := by
  refine ⟨fun htag => ?_, fun o n htag => ?_⟩
  · rw [Sends, htag] at h
    exact h
  · obtain ⟨body, hmessage, hfragment, hfits, -⟩ := h.held htag
    exact ⟨body, hmessage, hfragment, hfits⟩

theorem CoreStep.attempts (h : CoreStep boot s t) (hs : Orderly s.app) :
    attempts t.app.command.history = attempts s.app.command.history ∨ ∃ a,
      t.app.command = s.app.command.record (.attempt a) ∧ Sends boot s.app a ∧
      ∀ owner n, a.tag = some (owner, n) → OnTurn s.app owner n := by
  cases h with
  | board h =>
    cases h with
    | aside h =>
      obtain ⟨new, hnew, hquiet⟩ := h.history
      refine .inl ?_
      rw [hnew, attempts_append, attempts_aside hquiet, List.append_nil]
    | command h hmoved =>
      have hcommand := hmoved.command
      cases h.recorded hs.numbered with
      | calm new h hcalm =>
        refine .inl ?_
        rw [hcommand, h, attempts_append, attempts_calm hcalm, List.append_nil]
      | attempt a h hsends hturn => exact .inr ⟨a, hcommand.trans h, hsends, hturn⟩
      | published a completedMs h =>
        refine .inl ?_
        rw [hcommand, h]
        exact (attempts_append _ _).trans (List.append_nil _)
      | left c stamps hheld howed new h hcalm =>
        refine .inl ?_
        rw [hcommand, h, attempts_append, attempts_calm hcalm, List.append_nil]
    | entrySequence e => exact .inl rfl
    | taken => exact .inl rfl
    | released e discarded => exact .inl ((attempts_append _ _).trans (List.append_nil _))
  | _ => exact .inl rfl

theorem CoreStep.sender (h : CoreStep boot s t) (hs : Orderly s.app) :
    NumberedMessages.Step (s.app.sender boot) (t.app.sender boot) := by
  have hrefl : NumberedMessages.Step (s.app.sender boot) (s.app.sender boot) :=
    ⟨fun _ _ _ _ _ h h' => Board.held_one hs.numbered h h', Nat.le_refl _, fun _ h => h,
      ⟨none, fun _ _ x h => .kept x h (.inr rfl)⟩, .nothing rfl, .nothing rfl rfl⟩
  cases h with
  | board h => exact h.sender hs
  | _ => exact hrefl

theorem Started.blank (hs : Started boot s) : s.app.command.history = [] ∧
    s.app.command.pendingResponses = [] ∧ s.app.command.pendingReboot = none ∧
    s.app.outbound.inFlight = none ∧ s.app.outbound.history = [] ∧ s.net.events = [] := by
  obtain ⟨bootMs, nowMs, minimum, preferred, maxMessages, disk, happ⟩ := hs.board
  rw [happ, hs.net]
  exact ⟨rfl, rfl, rfl, rfl, rfl, rfl⟩

theorem Started.sender (hs : Started boot s) : (∀ o m x, ¬ (s.app.sender boot).held o m x) ∧
    (s.app.sender boot).sent = [] ∧ (s.app.sender boot).acknowledged = [] := by
  obtain ⟨hhistory, hresponses, hreboot, hflight, -⟩ := hs.blank
  refine ⟨fun o m x h => ?_, ?_, ?_⟩
  · cases o with
    | container uid =>
      obtain ⟨c, stamps, -, hc, -⟩ := h
      cases c with
      | response p =>
        rw [Contained, hresponses] at hc
        cases hc
      | reboot r =>
        rw [Contained, hreboot] at hc
        cases hc
    | entry ref =>
      obtain ⟨e, he, -⟩ := h
      rw [hflight] at he
      cases he
  · simp [Board.sender, hhistory]
  · simp [Board.sender, hhistory, acknowledged]

theorem formed_step (h : CoreStep boot s t) (hb : Orderly s.app)
    (hs : ∀ a ∈ attempts s.app.command.history, Formed boot a) :
    ∀ a ∈ attempts t.app.command.history, Formed boot a := by
  rcases h.attempts hb with hsame | ⟨new, hnew, hsends, -⟩
  · rw [hsame]
    exact hs
  · rw [hnew]
    intro a ha
    simp only [CommandState.record, attempts_append, List.mem_append] at ha
    rcases ha with ha | ha
    · exact hs a ha
    · rw [List.mem_singleton.mp ha]
      exact hsends.formed

def Attempt.wire (a : Attempt) (pid : Nat) : Bytes := frame a.topic.toList a.message pid a.fragment

def AckedBy (o : Owner) (wire : Nat → Bytes) (events : List SocketEvent) : Prop :=
  ∃ past, past <+: events ∧ AckedFrame o wire past

theorem AckedBy.more {o : Owner} {wire : Nat → Bytes} {events events' : List SocketEvent}
    (h : AckedBy o wire events) (hmore : events <+: events') : AckedBy o wire events' := by
  obtain ⟨past, hpast, hacked⟩ := h
  exact ⟨past, hpast.trans hmore, hacked⟩

theorem SessionStep.events {n n' : Network} (h : SessionStep n n') : n.events <+: n'.events := by
  cases h with
  | newClient => exact List.prefix_refl _
  | openSocket a => cases a <;> simp [Network.openSocket]
  | connectSocket a =>
    unfold Network.connectSocket Network.onSocket
    cases n.current with
    | none => exact List.prefix_refl _
    | some socket => cases a <;> simp [Network.record]

/-- What has happened on the sockets stays on record. -/
theorem CoreStep.events (h : CoreStep boot s t) : s.net.events <+: t.net.events := by
  cases h with
  | client h => exact (h.grown ⟨List.prefix_refl _, rfl⟩).1
  | session h => exact SessionStep.events h
  | owned owner bytes a =>
    obtain ⟨part, -, hexchange, -⟩ := (Exchange.start owner s.net).write bytes a
    obtain ⟨during, hduring, -⟩ := hexchange.events
    exact ⟨during, hduring.symm⟩
  | board => exact List.prefix_refl _

theorem writtenFor_write_other {o owner : Owner} (ho : owner ≠ o) (bytes : Bytes) (n : Network)
    (a : SocketAnswer) :
    writtenFor o (n.write (some owner) bytes a).2.events = writtenFor o n.events := by
  unfold Network.write Network.onSocket
  cases n.current with
  | none => rfl
  | some socket =>
    cases a <;> by_cases hc : socket.2.closed <;> simp [Network.record, Network.put, hc, ho]

/-- Only the owner of an attempt in hand has bytes written. -/
theorem CoreStep.written {o : Owner} (h : CoreStep boot s t)
    (hwrites : writtenFor o t.net.events ≠ writtenFor o s.net.events) :
    ∃ a n, a.tag = some (o, n) ∧ Sends boot s.app a := by
  cases h with
  | client h => exact (hwrites (h.writtenFor o)).elim
  | session h => exact (hwrites (h.writtenFor o)).elim
  | owned owner bytes answer a _ howner hsends =>
    by_cases ho : owner = o
    · subst ho
      obtain ⟨⟨o, n⟩, htag, rfl⟩ := Option.map_eq_some_iff.mp howner
      exact ⟨a, n, htag, hsends⟩
    · exact (hwrites (writtenFor_write_other ho bytes s.net answer)).elim
  | board => exact (hwrites rfl).elim

def Settling (s : Sys Board) : Prop :=
  ∀ o, owed s.app.command.history = some o → ∃ a ∈ attempts s.app.command.history, ∃ n,
    a.tag = some (o, n) ∧ AckedBy o a.wire s.net.events

theorem Settling.step (h : CoreStep boot s t) (hb : Orderly s.app) (hs : Settling s) :
    Settling t := by
  have hevents := h.events
  have hkept : ∀ new, t.app.command.history = s.app.command.history ++ new →
      owed t.app.command.history = owed s.app.command.history → Settling t := by
    intro new hnew howed o ho
    obtain ⟨a, ha, n, htag, hacked⟩ := hs o (howed ▸ ho)
    refine ⟨a, ?_, n, htag, hacked.more hevents⟩
    rw [hnew, attempts_append]
    exact List.mem_append_left _ ha
  have hidle : owed t.app.command.history = none → Settling t := fun hnone o ho => by
    rw [hnone] at ho
    cases ho
  cases h with
  | board h =>
    cases h with
    | aside h =>
      obtain ⟨new, hnew, hquiet⟩ := h.history
      exact hkept new hnew (by rw [hnew, owed_aside hquiet])
    | command h hmoved =>
      have hcommand := hmoved.command
      cases h.recorded hb.numbered with
      | calm new hnew hcalm howed => exact hkept new (hcommand ▸ hnew) (hcommand ▸ howed)
      | attempt a h =>
        exact hkept [.attempt a] (by rw [hcommand, h]; rfl) (by rw [hcommand, h]; exact owed_snoc _ _)
      | published a completedMs h hsends hnone hlast hacked =>
        intro o ho
        have hsettled : owed (s.app.command.history ++ [.published a.tag completedMs]) = some o := by
          rw [hcommand, h] at ho
          exact ho
        rw [owed_snoc, hnone] at hsettled
        cases htag : a.tag with
        | none =>
          rw [htag] at hsettled
          cases hsettled
        | some named =>
          obtain ⟨o', n⟩ := named
          rw [htag] at hsettled
          cases hsettled
          refine ⟨a, ?_, n, htag, _, List.prefix_refl _, hacked o n htag⟩
          rw [hcommand, h]
          simp only [CommandState.record, attempts_append]
          exact List.mem_append_left _ (List.mem_of_mem_getLast? hlast)
      | left c stamps hheld howed new hnew hcalm hnone => exact hidle (hcommand ▸ hnone)
    | entrySequence e => exact hkept [] (List.append_nil _).symm rfl
    | taken => exact hkept [] (List.append_nil _).symm rfl
    | released e discarded => exact hidle (owed_snoc _ _)
  | _ => exact hkept [] (List.append_nil _).symm rfl

theorem Settling.around (h : Around s t) (hs : Settling s) : Settling t := by
  rw [Settling, h.board.command, h.peer.events]
  exact hs

/-- What holds at every moment of a run. -/
structure InOrder (boot : Boot) (s : Sys Board) : Prop where
  orderly : Orderly s.app
  numbered : NumberedMessages.Numbered (s.app.sender boot)
  released : NumberedMessages.Released (s.app.sender boot)
  formed : ∀ a ∈ attempts s.app.command.history, Formed boot a
  settling : Settling s

theorem InOrder.step (h : CoreStep boot s t) (hs : InOrder boot s) : InOrder boot t :=
  ⟨h.orderly hs.orderly, (h.sender hs.orderly).numbered hs.numbered,
    (h.sender hs.orderly).released hs.numbered hs.released, formed_step h hs.orderly hs.formed,
    hs.settling.step h hs.orderly⟩

theorem InOrder.around (h : Around s t) (hs : InOrder boot s) : InOrder boot t := by
  have hsender := @Others.sender boot _ _ h.board
  exact ⟨hs.orderly.others h.board, hsender ▸ hs.numbered, hsender ▸ hs.released,
    h.board.command ▸ hs.formed, hs.settling.around h⟩

theorem Started.inOrder (hs : Started boot s) : InOrder boot s := by
  obtain ⟨hheld, hsent, hacknowledged⟩ := hs.sender
  have hhistory := hs.blank.1
  refine ⟨hs.orderly, ?_, ?_, by simp [hhistory], fun o ho => ?_⟩
  · constructor <;> simp [hheld, hsent]
  · constructor <;> simp [hacknowledged]
  · rw [hhistory] at ho
    cases ho

/-- What the steps keep, given the invariant, holds at every moment of the run. -/
theorem CoreRun.holds {I : Sys Board → Prop} (hs : Started boot s) (hI : I s)
    (hstep : ∀ a b, InOrder boot a → I a → CoreStep boot a b → I b)
    (hothers : ∀ a b, I a → Around a b → I b) (h : CoreRun boot rounds s q t) :
    InOrder boot t ∧ I t :=
  (h.keeps (I := fun u => InOrder boot u ∧ I u) hs ⟨hs.inOrder, hI⟩
    (fun a b _ ha hab => ⟨ha.1.step hab, hstep a b ha.1 ha.2 hab⟩)
    (fun a b ha hab => ⟨ha.1.around hab, hothers a b ha.2 hab⟩)).2

theorem CoreRun.inOrder (hs : Started boot s) (h : CoreRun boot rounds s q t) : InOrder boot t :=
  (h.holds (I := fun _ => True) hs trivial (fun _ _ _ _ _ => trivial) (fun _ _ _ _ => trivial)).1

/-- An attempt on record is one of the sender. -/
theorem InOrder.sent (hs : InOrder boot s) {a : Attempt} {o : Owner} {n : Nat}
    (ha : a ∈ attempts s.app.command.history) (htag : a.tag = some (o, n)) :
    ∃ body, a.message = .bytes body ∧ a.fragment = some (boot.fragment n) ∧
      wireLength body (boot.fragment n) ≤ MAX_OUTBOUND_MESSAGE_BYTES ∧
      (o, n, a.topic, body) ∈ (s.app.sender boot).sent := by
  obtain ⟨body, hmessage, hfragment, hfits⟩ := (hs.formed a ha).spliced o n htag
  refine ⟨body, hmessage, hfragment, hfits, List.mem_filterMap.mpr ⟨a, ha, ?_⟩⟩
  simp [Attempt.numbered?, htag, hmessage]

end Runs
end PicoDualCore
