import Mathlib.Data.List.Induction
import PicoDualCore.OutboundDelivery
set_option autoImplicit false

/-!
The reboot protocol in every run of Core 0: no reset before its acknowledgement has been
acknowledged, one answer to each request, and no release without one.
-/

namespace PicoDualCore
open AtomicProgram MqttClient

def RebootRequest.identity (r : RebootRequest) : Nat × String × Bool × Bool :=
  (r.uid, r.commandId, r.targeted, r.permanentFailureAnswerQueued)

def CoreEvent.ofReboot : CoreEvent → Bool
  | .rebootAccepted _ _ | .rebootSubstituted _ _ | .rebootReleased _ | .rebooting _
  | .reset (some _) => true
  | _ => false

/-- The command state with the substitute for the acknowledgement of `r` queued. -/
def CommandState.rebootAnswered (k : CommandState) (r : RebootRequest) (failure : PermanentFailure) :
    CommandState :=
  { k with
    pendingResponses := k.pendingResponses ++ [{
      uid := k.nextUid
      response := substituteFor r.commandId r.targeted (some COMMAND_REBOOT) failure
      clearsPendingReboot := true }]
    pendingReboot := k.pendingReboot.map (fun pending =>
      if pending.uid = r.uid then { pending with permanentFailureAnswerQueued := true }
      else pending)
    nextUid := k.nextUid + 1
    history := k.history ++ [.rebootSubstituted r.uid k.nextUid] }

structure RebootKept (k k' : CommandState) : Prop where
  history : ∃ new, k'.history = k.history ++ new ∧ ∀ e ∈ new, e.ofReboot = false
  reboot : k'.pendingReboot.map RebootRequest.identity = k.pendingReboot.map RebootRequest.identity
  clearing : ∀ p ∈ k'.pendingResponses, p.clearsPendingReboot = true →
    ∃ p₀ ∈ k.pendingResponses, p₀.clearsPendingReboot = true ∧ p₀.uid = p.uid ∧
      p₀.response = p.response

inductive RebootChange (boot : Boot) (b b' : Board) : Prop where
  | kept (h : RebootKept b.command b'.command)
  | accepted (id : String) (targeted : Bool) (hfree : b.command.pendingReboot = none)
      (h : b'.command = b.command.acceptReboot id targeted)
  | substituted (r : RebootRequest) (stamps : Stamps) (failure : PermanentFailure)
      (hheld : Held (.reboot r) stamps b) (hwhy : Unsendable boot stamps)
      (h : b'.command = b.command.rebootAnswered r failure)
  | started (r : RebootRequest) (stamps : Stamps) (hheld : Held (.reboot r) stamps b)
      (howed : owed b.command.history = some (.container r.uid))
      (h : b'.command = b.command.startReboot r)
  | answered (p : PendingResponse) (stamps : Stamps) (hheld : Held (.response p) stamps b)
      (howed : owed b.command.history = some (.container p.uid))
      (hclears : p.clearsPendingReboot = true) (h : b'.command = b.command.popPublished p)
  | reset (uid : Nat) (hrebooting : .rebooting uid ∈ b.command.history)
      (hfree : b.outbound.inFlight = none)
      (h : b'.command = b.command.record (.reset (some uid)))

inductive RebootNews (boot : Boot) (b b' : Board) : CoreEvent → Prop where
  | accepted (r : RebootRequest) (h : b'.command.pendingReboot = some r) :
      RebootNews boot b b' (.rebootAccepted r.uid r.commandId)
  | substituted (r : RebootRequest) (stamps : Stamps) (hheld : Held (.reboot r) stamps b)
      (hwhy : Unsendable boot stamps) :
      RebootNews boot b b' (.rebootSubstituted r.uid b.command.nextUid)
  | rebooting (r : RebootRequest) (stamps : Stamps) (hheld : Held (.reboot r) stamps b)
      (howed : owed b.command.history = some (.container r.uid)) :
      RebootNews boot b b' (.rebooting r.uid)
  | released (p : PendingResponse) (stamps : Stamps) (r : RebootRequest)
      (hheld : Held (.response p) stamps b) (hclears : p.clearsPendingReboot = true)
      (howed : owed b.command.history = some (.container p.uid))
      (hr : b.command.pendingReboot = some r) : RebootNews boot b b' (.rebootReleased r.uid)
  | reset (uid : Nat) (h : .rebooting uid ∈ b.command.history) :
      RebootNews boot b b' (.reset (some uid))

section Change

variable {boot : Boot} {n : Network} {s t : Sys Board} {b b' : Board} {k k' : CommandState}

theorem RebootKept.refl (k : CommandState) : RebootKept k k :=
  ⟨⟨[], by simp⟩, rfl, fun p hp hclears => ⟨p, hp, hclears, rfl, rfl⟩⟩

theorem RebootKept.record (k : CommandState) {e : CoreEvent} (he : e.ofReboot = false) :
    RebootKept k (k.record e) :=
  ⟨⟨[e], rfl, by simpa using he⟩, rfl, fun p hp hclears => ⟨p, hp, hclears, rfl, rfl⟩⟩

theorem RebootKept.modify (k : CommandState) (uid : Nat) (f : Stamps → Stamps) :
    RebootKept k (k.modifyStamps uid f) := by
  refine ⟨⟨[], by simp [CommandState.modifyStamps]⟩, ?_, fun p hp hclears => ?_⟩
  · simp only [CommandState.modifyStamps, Option.map_map]
    refine congrArg (Option.map · k.pendingReboot) (funext fun r => ?_)
    by_cases h : r.uid = uid <;> simp [h, RebootRequest.identity]
  · obtain ⟨p₀, hp₀, rfl⟩ := List.mem_map.mp hp
    refine ⟨p₀, hp₀, ?_⟩
    by_cases h : p₀.uid = uid <;> simp_all

theorem RebootKept.queueResponse (k : CommandState) (response : CommandResponse)
    {note : Nat → CoreEvent} (hnote : ∀ uid, (note uid).ofReboot = false) :
    RebootKept k (k.queueResponse response false note).2 := by
  unfold CommandState.queueResponse
  by_cases hfull : k.queueFull = true
  · rw [if_pos hfull]
    exact .refl k
  · rw [if_neg hfull]
    refine ⟨⟨_, rfl, by simp [hnote]⟩, rfl, fun p hp hclears => ?_⟩
    rcases List.mem_append.mp hp with hold | hnew
    · exact ⟨p, hold, hclears, rfl, rfl⟩
    · rw [List.mem_singleton.mp hnew] at hclears
      cases hclears

theorem AsideStep.rebootChange (h : AsideStep b b') : RebootChange boot b b' := by
  cases h with
  | quiet h => exact .kept (h.command ▸ .refl _)
  | claimed id => exact .kept ⟨⟨[.claimed id], rfl, by simp [CoreEvent.ofReboot]⟩, rfl,
      fun p hp hclears => ⟨p, hp, hclears, rfl, rfl⟩⟩
  | replied r => exact .kept (.queueResponse _ _ (fun _ => rfl))
  | rebootAccepted id targeted hfree => exact .accepted id targeted hfree rfl
  | dispatched event _ hcommand => exact .kept (hcommand ▸ .record _ rfl)
  | silenced id => exact .kept (.record _ rfl)
  | writeRaised e => exact .kept (.record _ rfl)
  | reset => exact .kept (.record _ rfl)

theorem RebootKept.substituteHead (k : CommandState) (p : PendingResponse) :
    RebootKept k (k.substituteHead p) := by
  unfold CommandState.substituteHead
  cases (k.stampsOf p.uid).permanentFailure with
  | none => exact .refl k
  | some failure =>
    by_cases hsub : isResponseSubstitute p.response = true
    · simpa only [hsub, if_true] using .refl k
    · simp only [hsub, Bool.false_eq_true, if_false]
      refine ⟨⟨_, rfl, by simp [CoreEvent.ofReboot]⟩, rfl, fun p' hp' hclears => ?_⟩
      rcases List.mem_or_eq_of_mem_set hp' with hold | rfl
      · exact ⟨p', hold, hclears, rfl, rfl⟩
      · cases hclears

theorem CommandStep.rebootChange (h : CommandStep boot n b k) (hk : b'.command = k) :
    RebootChange boot b b' := by
  cases h with
  | sequence c =>
    have hkept := RebootKept.modify b.command c.uid
      (fun s => { s with wireSequence := some b.command.nextSequence })
    exact .kept (hk ▸ ⟨hkept.history, hkept.reboot, hkept.clearing⟩)
  | frozen c => exact .kept (hk ▸ .modify _ _ _)
  | failed c => exact .kept (hk ▸ .modify _ _ _)
  | attempt a => exact .kept (hk ▸ .record _ rfl)
  | published a => exact .kept (hk ▸ .record _ rfl)
  | answered p stamps hheld howed =>
    by_cases hclears : p.clearsPendingReboot = true
    · exact .answered p stamps hheld howed hclears hk
    · refine .kept (hk ▸ ?_)
      unfold CommandState.popPublished
      rw [if_neg hclears]
      refine ⟨⟨_, rfl, by simp [CoreEvent.ofReboot]⟩, rfl, fun p' hp' hclears' => ?_⟩
      exact ⟨p', List.mem_of_mem_drop hp', hclears', rfl, rfl⟩
  | substituted p => exact .kept (hk ▸ .substituteHead _ _)
  | rebootSubstituted r stamps hheld hidle hwhy =>
    rcases b.command.answerUnsentReboot_cases r with hsame | ⟨failure, -, -, hnew⟩
    · exact .kept (by rw [hk, hsame]; exact .refl _)
    · exact .substituted r stamps failure hheld hwhy (hk.trans hnew)
  | rebooting r stamps hheld howed => exact .started r stamps hheld howed hk
  | reset uid hrebooting hfree => exact .reset uid hrebooting hfree hk
  | discardAnswered e r => exact .kept (hk ▸ .queueResponse _ _ (fun _ => rfl))

theorem CoreStep.rebootChange (h : CoreStep boot s t) : RebootChange boot s.app t.app := by
  cases h with
  | board h =>
    cases h with
    | aside h => exact h.rebootChange
    | command h hmoved => exact h.rebootChange hmoved.command
    | released e discarded => exact .kept (.record _ rfl)
    | _ => exact .kept ⟨⟨[], by simp [Board.command]⟩, rfl,
        fun p hp hclears => ⟨p, hp, hclears, rfl, rfl⟩⟩
  | _ => exact .kept (.refl _)

theorem CoreStep.nextUid_le (h : CoreStep boot s t) :
    s.app.command.nextUid ≤ t.app.command.nextUid := by
  cases h with
  | board h =>
    cases h with
    | aside h => exact h.nextUid_le
    | command h hmoved =>
      rw [hmoved.command]
      exact h.nextSequence_le.2
    | _ => exact Nat.le_refl _
  | _ => exact Nat.le_refl _

end Change

def CommandResponse.SerializedTo (response : CommandResponse) (body : Bytes) : Prop :=
  ∃ uptime timestamp, serializeAndValidateMessage (.dict (response.message uptime timestamp)) =
    .ok body

def ResponseAcked (boot : Boot) (uid : Nat) (response : CommandResponse)
    (events : List SocketEvent) : Prop :=
  ∃ n body, response.SerializedTo body ∧ AckedBy (.container uid) (fun pid =>
    frame boot.config.topicCommandResponse.toList (.bytes body) pid (some (boot.fragment n))) events

def Frozen (k : CommandState) : Prop :=
  ∀ c stamps body, Contained k c stamps → stamps.payloadBytes = some body →
    c.content.SerializedTo body

section Containers

variable {boot : Boot} {s t : Sys Board} {c : Container} {stamps : Stamps}

theorem ResponseAcked.more {uid : Nat} {response : CommandResponse}
    {events events' : List SocketEvent} (h : ResponseAcked boot uid response events)
    (hmore : events <+: events') : ResponseAcked boot uid response events' := by
  obtain ⟨n, body, hbody, hacked⟩ := h
  exact ⟨n, body, hbody, hacked.more hmore⟩

/-- Where every container comes from in one step. -/
theorem CoreStep.origin (h : CoreStep boot s t) (hs : Orderly s.app) :
    ∃ numbered, ∀ c stamps, Contained t.app.command c stamps →
      Origin boot s.app t.app.command numbered c stamps := by
  have hsame : ∀ k : CommandState, k.pendingResponses = s.app.command.pendingResponses →
      k.pendingReboot = s.app.command.pendingReboot → ∀ c stamps, Contained k c stamps →
        Origin boot s.app k none c stamps := fun k hresponses hreboot c stamps hc =>
    .fewer (fun p hp => hresponses ▸ hp) (fun r hr => hreboot ▸ hr) hc
  cases h with
  | board h =>
    cases h with
    | aside h => exact ⟨none, fun _ _ hc => h.origin hc⟩
    | command h hmoved =>
      rw [hmoved.command]
      exact h.origin hs.numbered
    | _ => exact ⟨none, hsame _ rfl rfl⟩
  | _ => exact ⟨none, hsame _ rfl rfl⟩

theorem Frozen.step (h : CoreStep boot s t) (hb : Orderly s.app) (hs : Frozen s.app.command) :
    Frozen t.app.command := by
  obtain ⟨numbered, horigin⟩ := h.origin hb
  intro c stamps body hc hbody
  cases horigin c stamps hc with
  | opened _ _ hblank =>
    rw [hblank] at hbody
    cases hbody
  | kept c₀ stamps₀ hc₀ hsame hstamps =>
    rw [hsame.content]
    cases hstamps with
    | same => exact hs c₀ stamps body hc₀ hbody
    | sequence => exact hs c₀ stamps₀ body hc₀ hbody
    | failed => exact hs c₀ stamps₀ body hc₀ hbody
    | frozen payload hnone hdoc =>
      obtain rfl : payload = body := Option.some.inj hbody
      exact hdoc

/-- A container that has been attempted carries the sequence and the bytes of the attempt. -/
theorem InOrder.container (hs : InOrder boot s) (hc : Contained s.app.command c stamps)
    {a : Attempt} {n : Nat} (ha : a ∈ attempts s.app.command.history)
    (htag : a.tag = some (.container c.uid, n)) :
    ∃ body, stamps.wireSequence = some n ∧ stamps.payloadBytes = some body ∧
      wireLength body (boot.fragment n) ≤ MAX_OUTBOUND_MESSAGE_BYTES ∧
      a.wire = fun pid => frame boot.config.topicCommandResponse.toList (.bytes body) pid
        (some (boot.fragment n)) := by
  obtain ⟨body, hmessage, hfragment, hfits, hsent⟩ := hs.sent ha htag
  have hheld : (s.app.sender boot).held (.container c.uid) stamps.wireSequence
      (stamps.payloadBytes.map (Prod.mk boot.config.topicCommandResponse)) :=
    ⟨c, stamps, rfl, hc, rfl, rfl⟩
  obtain ⟨hsequence, hcontent⟩ := hs.numbered.unchanged _ _ _ _ _ hsent hheld
  obtain ⟨bytes, hbytes, hpair⟩ := Option.map_eq_some_iff.mp hcontent
  obtain ⟨htopic, rfl⟩ := Prod.mk.inj hpair
  refine ⟨bytes, hsequence, hbytes, hfits, ?_⟩
  funext pid
  rw [Attempt.wire, hmessage, hfragment, htopic]

theorem InOrder.containerAcked (hs : InOrder boot s) (hfrozen : Frozen s.app.command)
    (hc : Contained s.app.command c stamps)
    (howed : owed s.app.command.history = some (.container c.uid)) :
    ResponseAcked boot c.uid c.content s.net.events := by
  obtain ⟨a, ha, n, htag, hacked⟩ := hs.settling _ howed
  obtain ⟨body, -, hbody, -, hwire⟩ := hs.container hc ha htag
  exact ⟨n, body, hfrozen c stamps body hc hbody, hwire ▸ hacked⟩

/-- A container that can never go out has not been attempted. -/
theorem InOrder.unattempted (hs : InOrder boot s) (hc : Contained s.app.command c stamps)
    (hwhy : Unsendable boot stamps) (n : Nat) :
    ¬ Attempted s.app.command.history (.container c.uid) n := by
  rintro ⟨a, ha, htag⟩
  obtain ⟨body, hsequence, hbody, hfits, -⟩ := hs.container hc ha htag
  rcases hwhy with hnone | ⟨body', n', hbody', hsequence', hlarge⟩
  · simp [hnone] at hbody
  · simp only [hbody, hsequence, Option.some.injEq] at hbody' hsequence'
    subst hbody' hsequence'
    omega

end Containers

structure Closed (k : CommandState) (uid : Nat) : Prop where
  given : uid < k.nextUid
  flagged : ∀ r, k.pendingReboot = some r → r.uid = uid → r.permanentFailureAnswerQueued = true
  apart : ∀ p ∈ k.pendingResponses, p.uid ≠ uid
  unattempted : ∀ n, ¬ Attempted k.history (.container uid) n

def Clearing (k : CommandState) (p : PendingResponse) : Prop :=
  ∃ r failure, k.pendingReboot = some r ∧ r.permanentFailureAnswerQueued = true ∧
    .rebootSubstituted r.uid p.uid ∈ k.history ∧
    p.response = substituteFor r.commandId r.targeted (some COMMAND_REBOOT) failure

/-- The acknowledgement of the request went out and was acknowledged. -/
def RebootAcked (boot : Boot) (s : Sys Board) (uid : Nat) : Prop :=
  ∃ r : RebootRequest, r.uid = uid ∧ .rebootAccepted uid r.commandId ∈ s.app.command.history ∧
    .container uid ∈ acknowledged s.app.command.history ∧
    ResponseAcked boot uid (rebootAcknowledgement r) s.net.events

/-- The one substitute for the acknowledgement of the request went out and was acknowledged. -/
def RebootRefused (boot : Boot) (s : Sys Board) (uid : Nat) : Prop :=
  ∃ (r : RebootRequest) (u : Nat) (failure : PermanentFailure), r.uid = uid ∧
    .rebootAccepted uid r.commandId ∈ s.app.command.history ∧
    .rebootSubstituted uid u ∈ s.app.command.history ∧
    .container u ∈ acknowledged s.app.command.history ∧
    ResponseAcked boot u (substituteFor r.commandId r.targeted (some COMMAND_REBOOT) failure)
      s.net.events

structure RebootLedger (boot : Boot) (s : Sys Board) : Prop where
  frozen : Frozen s.app.command
  accepted : ∀ r, s.app.command.pendingReboot = some r →
    .rebootAccepted r.uid r.commandId ∈ s.app.command.history
  clearing : ∀ p ∈ s.app.command.pendingResponses, p.clearsPendingReboot = true →
    Clearing s.app.command p
  closed : ∀ uid u, .rebootSubstituted uid u ∈ s.app.command.history → Closed s.app.command uid
  once : ∀ uid u u', .rebootSubstituted uid u ∈ s.app.command.history →
    .rebootSubstituted uid u' ∈ s.app.command.history → u' = u
  started : ∀ uid, .rebooting uid ∈ s.app.command.history → RebootAcked boot s uid
  reset : ∀ uid, .reset (some uid) ∈ s.app.command.history →
    .rebooting uid ∈ s.app.command.history
  released : ∀ uid, .rebootReleased uid ∈ s.app.command.history → RebootRefused boot s uid

section Ledger

variable {boot : Boot} {s t : Sys Board} {k : CommandState}

theorem owed_acknowledged {history : List CoreEvent} {o : Owner} (h : owed history = some o) :
    o ∈ acknowledged history := by
  induction history using List.reverseRecOn with
  | nil => cases h
  | append_singleton history e ih =>
    rw [owed_snoc] at h
    rw [acknowledged_append, List.mem_append]
    cases e with
    | published tag ms =>
      rcases tag with _ | ⟨owner, n⟩
      · exact .inl (ih h)
      · cases h
        exact .inr (by simp [acknowledged, CoreEvent.acknowledged?])
    | answered => cases h
    | rebooting => cases h
    | entryReleased => cases h
    | _ => exact .inl (ih h)

/-- What is on record after the step was there before, or is new. -/
theorem RebootChange.record {b b' : Board} (h : RebootChange boot b b') :
    b.command.history <+: b'.command.history ∧ ∀ e ∈ b'.command.history, e.ofReboot = true →
      e ∈ b.command.history ∨ RebootNews boot b b' e := by
  cases h with
  | kept h =>
    obtain ⟨new, hnew, hother⟩ := h.history
    rw [hnew]
    refine ⟨List.prefix_append _ _, fun e he hreboot => ?_⟩
    rcases List.mem_append.mp he with he | he
    · exact .inl he
    · simp [hother e he] at hreboot
  | accepted id targeted hfree h =>
    refine ⟨h ▸ List.prefix_append _ _, fun e he _ => ?_⟩
    rcases List.mem_append.mp (h ▸ he) with he | he
    · exact .inl he
    · rw [List.mem_singleton.mp he]
      exact .inr (.accepted { uid := b.command.nextUid, commandId := id, targeted } (h ▸ rfl))
  | substituted r stamps failure hheld hwhy h =>
    refine ⟨h ▸ List.prefix_append _ _, fun e he _ => ?_⟩
    rcases List.mem_append.mp (h ▸ he) with he | he
    · exact .inl he
    · exact .inr (List.mem_singleton.mp he ▸ .substituted r stamps hheld hwhy)
  | started r stamps hheld howed h =>
    refine ⟨h ▸ List.prefix_append _ _, fun e he _ => ?_⟩
    rcases List.mem_append.mp (h ▸ he) with he | he
    · exact .inl he
    · exact .inr (List.mem_singleton.mp he ▸ .rebooting r stamps hheld howed)
  | answered p stamps hheld howed hclears h =>
    rw [h, CommandState.popPublished, if_pos hclears]
    refine ⟨by simp, fun e he hreboot => ?_⟩
    rcases List.mem_append.mp he with he | he
    · rcases List.mem_append.mp he with he | he
      · exact .inl he
      · rw [List.mem_singleton.mp he] at hreboot
        cases hreboot
    · obtain ⟨r, hr, rfl⟩ := List.mem_map.mp he
      exact .inr (.released p stamps r hheld hclears howed (by simpa using hr))
  | reset uid hrebooting hfree h =>
    refine ⟨h ▸ List.prefix_append _ _, fun e he _ => ?_⟩
    rcases List.mem_append.mp (h ▸ he) with he | he
    · exact .inl he
    · exact .inr (List.mem_singleton.mp he ▸ .reset uid hrebooting)

/-- The pending reboot stays, perhaps with its substitute queued, is a new one, or is gone. -/
theorem RebootChange.pending {b b' : Board} (h : RebootChange boot b b') {r : RebootRequest}
    (hr : b'.command.pendingReboot = some r) :
    (∃ r₀, b.command.pendingReboot = some r₀ ∧ r₀.uid = r.uid ∧ r₀.commandId = r.commandId ∧
      r₀.targeted = r.targeted ∧ (r₀.permanentFailureAnswerQueued = true →
        r.permanentFailureAnswerQueued = true)) ∨
    b.command.pendingReboot = none ∧ r.uid = b.command.nextUid := by
  cases h with
  | kept h =>
    have hidentity := h.reboot
    rw [hr] at hidentity
    obtain ⟨r₀, hr₀, hsame⟩ := Option.map_eq_some_iff.mp hidentity.symm
    simp only [RebootRequest.identity, Prod.mk.injEq] at hsame
    obtain ⟨huid, hid, htargeted, hflag⟩ := hsame
    exact .inl ⟨r₀, hr₀, huid, hid, htargeted, fun h => hflag ▸ h⟩
  | accepted id targeted hfree h =>
    rw [h] at hr
    cases hr
    exact .inr ⟨hfree, rfl⟩
  | substituted r' stamps failure hheld hwhy h =>
    rw [h] at hr
    obtain ⟨r₀, hr₀, rfl⟩ := Option.map_eq_some_iff.mp hr
    refine .inl ⟨r₀, hr₀, ?_⟩
    by_cases huid : r₀.uid = r'.uid <;> simp [huid]
  | started r' stamps hheld howed h =>
    rw [h] at hr
    cases hr
  | answered p stamps hheld howed hclears h =>
    rw [h, CommandState.popPublished, if_pos hclears] at hr
    cases hr
  | reset uid hrebooting hfree h =>
    rw [h] at hr
    exact .inl ⟨r, hr, rfl, rfl, rfl, id⟩

theorem Attempted.mono {history history' : List CoreEvent} {o : Owner} {n : Nat}
    (h : Attempted history o n) (hmore : history <+: history') : Attempted history' o n := by
  obtain ⟨new, rfl⟩ := hmore
  exact h.more

theorem Closed.step {uid : Nat} (h : CoreStep boot s t) (hb : Orderly s.app)
    (hs : Closed s.app.command uid) : Closed t.app.command uid := by
  obtain ⟨numbered, horigin⟩ := h.origin hb
  have hgiven := hs.given
  have hnext := h.nextUid_le
  refine ⟨by omega, fun r hr huid => ?_, fun p hp => ?_, fun n hattempted => ?_⟩
  · rcases h.rebootChange.pending hr with ⟨r₀, hr₀, hsame, -, -, hflag⟩ | ⟨-, hnew⟩
    · exact hflag (hs.flagged r₀ hr₀ (hsame.trans huid))
    · omega
  · cases horigin _ _ (contained_response hp) with
    | opened hnew =>
      change p.uid = _ at hnew
      omega
    | kept c₀ stamps₀ hc₀ hsame =>
      cases c₀ with
      | response p₀ =>
        have hne := hs.apart _ hc₀
        rwa [hsame.1]
      | reboot r₀ => exact hsame.elim
  · rcases h.attempted hb hattempted with hold | ⟨a, htag, hsends⟩
    · exact hs.unattempted n hold
    · rw [Sends, htag] at hsends
      obtain ⟨c, stamps, body, huid, hheld, -⟩ := hsends
      cases c with
      | response p => exact hs.apart _ hheld.mem huid
      | reboot r =>
        have hflag := hs.flagged _ hheld.2 huid
        simp [hheld.1] at hflag

theorem RebootLedger.close (hs : RebootLedger boot s) (ho : InOrder boot s) (h : CoreStep boot s t)
    {r : RebootRequest} {stamps : Stamps} (hheld : Held (.reboot r) stamps s.app)
    (hwhy : Unsendable boot stamps)
    (hnew : .rebootSubstituted r.uid s.app.command.nextUid ∈ t.app.command.history) :
    Closed t.app.command r.uid := by
  have hnumbered := ho.orderly.numbered
  have hgiven := hnumbered.rebootGiven _ hheld.2
  change r.uid < _ at hgiven
  have hunused : ∀ u, .rebootSubstituted r.uid u ∉ s.app.command.history := by
    intro u hu
    have hflag := (hs.closed r.uid u hu).flagged _ hheld.2 rfl
    simp [hheld.1] at hflag
  have hold := hunused s.app.command.nextUid
  cases h.rebootChange with
  | substituted r' stamps' failure hheld' hwhy' hcommand =>
    have huid := hheld'.2.symm.trans hheld.2
    simp only [Option.some.injEq, RebootRequest.mk.injEq] at huid
    replace huid := huid.1
    rw [hcommand]
    refine ⟨Nat.lt_succ_of_lt hgiven, fun r'' hr'' hsame => ?_, fun p hp => ?_, fun n hattempted => ?_⟩
    · obtain ⟨r₀, hr₀, rfl⟩ := Option.map_eq_some_iff.mp hr''
      by_cases hr : r₀.uid = r'.uid
      · simp [hr]
      · simp only [if_neg hr] at hsame
        exact (hr (hsame.trans huid.symm)).elim
    · rcases List.mem_append.mp hp with hp | hp
      · exact hnumbered.rebootApart _ hheld.2 p hp
      · rw [List.mem_singleton.mp hp]
        exact Nat.ne_of_gt hgiven
    · refine ho.unattempted (c := .reboot r) hheld.2 hwhy n ?_
      obtain ⟨a, ha, htag⟩ := hattempted
      refine ⟨a, ?_, htag⟩
      simpa [CommandState.rebootAnswered, attempts, CoreEvent.attempt?] using ha
  | kept h =>
    obtain ⟨new, hhistory, hother⟩ := h.history
    rw [hhistory] at hnew
    rcases List.mem_append.mp hnew with hnew | hnew
    · exact (hold hnew).elim
    · cases hother _ hnew
  | accepted id targeted hfree =>
    have hpending := hheld.2
    rw [hfree] at hpending
    cases hpending
  | started r' stamps' hheld' howed hcommand =>
    rw [hcommand] at hnew
    simp [CommandState.startReboot, hold] at hnew
  | answered p stamps' hheld' howed hclears hcommand =>
    rw [hcommand, CommandState.popPublished, if_pos hclears] at hnew
    simp [hold] at hnew
  | reset uid hrebooting hfree hcommand =>
    rw [hcommand] at hnew
    simp [CommandState.record, hold] at hnew

theorem RebootLedger.pending (hs : RebootLedger boot s) (h : CoreStep boot s t) {r : RebootRequest}
    (hr : t.app.command.pendingReboot = some r) :
    .rebootAccepted r.uid r.commandId ∈ t.app.command.history := by
  have hchange := h.rebootChange
  rcases hchange.pending hr with ⟨r₀, hr₀, huid, hid, -⟩ | ⟨hfree, hnew⟩
  · exact huid ▸ hid ▸ hchange.record.1.subset (hs.accepted r₀ hr₀)
  · cases hchange with
    | accepted id targeted hfree hcommand =>
      rw [hcommand] at hr ⊢
      cases hr
      simp [CommandState.acceptReboot]
    | kept hkept =>
      have hidentity := hkept.reboot
      simp [hr, hfree] at hidentity
    | substituted r' stamps failure hheld =>
      have hpending := hheld.2
      simp [hfree] at hpending
    | started r' stamps hheld howed hcommand =>
      rw [hcommand] at hr
      cases hr
    | answered p stamps hheld howed hclears hcommand =>
      rw [hcommand, CommandState.popPublished, if_pos hclears] at hr
      cases hr
    | reset uid hrebooting hfree' hcommand =>
      rw [hcommand] at hr
      exact absurd (hfree.symm.trans hr) (by simp)

theorem RebootLedger.clears (hs : RebootLedger boot s) (hb : Orderly s.app) (h : CoreStep boot s t) :
    ∀ p ∈ t.app.command.pendingResponses, p.clearsPendingReboot = true →
      Clearing t.app.command p := by
  intro p hp hclears
  have hchange := h.rebootChange
  have hgrows := hchange.record.1
  cases hchange with
  | kept hkept =>
    obtain ⟨p₀, hp₀, hclears₀, huid, hresponse⟩ := hkept.clearing p hp hclears
    obtain ⟨r₀, failure, hr₀, hflag, hrecord, hcontent⟩ := hs.clearing p₀ hp₀ hclears₀
    have hidentity := hkept.reboot
    rw [hr₀] at hidentity
    obtain ⟨r, hr, hsame⟩ := Option.map_eq_some_iff.mp hidentity
    simp only [RebootRequest.identity, Prod.mk.injEq] at hsame
    obtain ⟨hr₁, hr₂, hr₃, hr₄⟩ := hsame
    refine ⟨r, failure, hr, hr₄.trans hflag, ?_, ?_⟩
    · rw [hr₁, ← huid]
      exact hgrows.subset hrecord
    · rw [← hresponse, hcontent, hr₂, hr₃]
  | accepted id targeted hfree hcommand =>
    rw [hcommand] at hp
    obtain ⟨r₀, failure, hr₀, -⟩ := hs.clearing p hp hclears
    simp [hfree] at hr₀
  | substituted r stamps failure hheld hwhy hcommand =>
    rw [hcommand] at hp ⊢
    rcases List.mem_append.mp hp with hp | hp
    · obtain ⟨r₀, _, hr₀, hflag, -⟩ := hs.clearing p hp hclears
      have hpending := hheld.2
      rw [hr₀] at hpending
      cases hpending
      simp [hheld.1] at hflag
    · rw [List.mem_singleton.mp hp]
      refine ⟨{ r with stamps, permanentFailureAnswerQueued := true }, failure, ?_, rfl, ?_, rfl⟩
      · have hpending : s.app.command.pendingReboot = some { r with stamps } := hheld.2
        simp [CommandState.rebootAnswered, hpending]
      · simp [CommandState.rebootAnswered]
  | started r stamps hheld howed hcommand =>
    rw [hcommand] at hp
    obtain ⟨r₀, failure, hr₀, hflag, -⟩ := hs.clearing p hp hclears
    have hpending := hheld.2
    rw [hr₀] at hpending
    cases hpending
    simp [hheld.1] at hflag
  | answered p₁ stamps hheld howed hclears₁ hcommand =>
    -- Both would be the substitute for the one pending request.
    rw [hcommand, CommandState.popPublished, if_pos hclears₁] at hp
    obtain ⟨r, failure, hr, -, hrecord, -⟩ := hs.clearing p (List.mem_of_mem_drop hp) hclears
    obtain ⟨r₁, failure₁, hr₁, -, hrecord₁, -⟩ := hs.clearing _ hheld.mem hclears₁
    obtain rfl := Option.some.inj (hr.symm.trans hr₁)
    have huid := hs.once _ _ _ hrecord hrecord₁
    have hnodup := hb.numbered.nodup
    cases hresponses : s.app.command.pendingResponses with
    | nil => simp [Held, hresponses] at hheld
    | cons head rest =>
      have hhead : head = { p₁ with stamps } := by simpa [Held, hresponses] using hheld
      rw [hresponses, List.map_cons, List.nodup_cons, hhead] at hnodup
      rw [hresponses] at hp
      exact (hnodup.1 (List.mem_map.mpr ⟨p, hp, huid.symm⟩)).elim
  | reset uid hrebooting hfree hcommand =>
    rw [hcommand] at hp ⊢
    obtain ⟨r, failure, hr, hflag, hrecord, hcontent⟩ := hs.clearing p hp hclears
    exact ⟨r, failure, hr, hflag, List.mem_append_left _ hrecord, hcontent⟩

theorem RebootAcked.more {uid : Nat} (h : RebootAcked boot s uid)
    (hhistory : s.app.command.history <+: t.app.command.history)
    (hevents : s.net.events <+: t.net.events) : RebootAcked boot t uid := by
  obtain ⟨r, huid, haccepted, hacknowledged, hacked⟩ := h
  obtain ⟨new, hnew⟩ := hhistory
  refine ⟨r, huid, ?_, ?_, hacked.more hevents⟩ <;> rw [← hnew]
  · exact List.mem_append_left _ haccepted
  · simp [hacknowledged]

theorem RebootRefused.more {uid : Nat} (h : RebootRefused boot s uid)
    (hhistory : s.app.command.history <+: t.app.command.history)
    (hevents : s.net.events <+: t.net.events) : RebootRefused boot t uid := by
  obtain ⟨r, u, failure, huid, haccepted, hrecord, hacknowledged, hacked⟩ := h
  obtain ⟨new, hnew⟩ := hhistory
  refine ⟨r, u, failure, huid, ?_, ?_, ?_, hacked.more hevents⟩ <;> rw [← hnew]
  · exact List.mem_append_left _ haccepted
  · exact List.mem_append_left _ hrecord
  · simp [hacknowledged]

theorem RebootLedger.step (ho : InOrder boot s) (h : CoreStep boot s t) (hs : RebootLedger boot s) :
    RebootLedger boot t := by
  have hb := ho.orderly
  obtain ⟨hgrows, hrecord⟩ := h.rebootChange.record
  have hevents := h.events
  refine ⟨hs.frozen.step h hb, fun r hr => hs.pending h hr, hs.clears hb h, ?_, ?_, ?_, ?_, ?_⟩
  · intro uid u hu
    rcases hrecord _ hu rfl with hold | hnews
    · exact (hs.closed uid u hold).step h hb
    · cases hnews with
      | substituted r stamps hheld hwhy => exact hs.close ho h hheld hwhy hu
  · have hnew : ∀ uid u, .rebootSubstituted uid u ∈ t.app.command.history →
        .rebootSubstituted uid u ∈ s.app.command.history ∨ u = s.app.command.nextUid ∧
          ∀ u', .rebootSubstituted uid u' ∉ s.app.command.history := by
      intro uid u hu
      rcases hrecord _ hu rfl with hold | hnews
      · exact .inl hold
      · cases hnews with
        | substituted r stamps hheld hwhy =>
          refine .inr ⟨rfl, fun u' hu' => ?_⟩
          have hflag := (hs.closed r.uid u' hu').flagged _ hheld.2 rfl
          simp [hheld.1] at hflag
    intro uid u u' hu hu'
    rcases hnew uid u hu, hnew uid u' hu' with ⟨hu | ⟨rfl, hnone⟩, hu' | ⟨rfl, hnone'⟩⟩
    · exact hs.once uid u u' hu hu'
    · exact (hnone' u hu).elim
    · exact (hnone u' hu').elim
    · rfl
  · intro uid huid
    rcases hrecord _ huid rfl with hold | hnews
    · exact (hs.started uid hold).more hgrows hevents
    · cases hnews with
      | rebooting r stamps hheld howed =>
        have haccepted := hs.accepted _ hheld.2
        have hacked := ho.containerAcked hs.frozen hheld.contained howed
        exact RebootAcked.more ⟨r, rfl, haccepted, owed_acknowledged howed, hacked⟩ hgrows hevents
  · intro uid huid
    rcases hrecord _ huid rfl with hold | hnews
    · exact hgrows.subset (hs.reset uid hold)
    · cases hnews with
      | reset uid hrebooting => exact hgrows.subset hrebooting
  · intro uid huid
    rcases hrecord _ huid rfl with hold | hnews
    · exact (hs.released uid hold).more hgrows hevents
    · cases hnews with
      | released p stamps r hheld hclears howed hr =>
        obtain ⟨r', failure, hr', -, hsubstituted, hresponse⟩ := hs.clearing _ hheld.mem hclears
        obtain rfl := Option.some.inj (hr.symm.trans hr')
        have hacked := ho.containerAcked hs.frozen hheld.contained howed
        change ResponseAcked boot p.uid p.response _ at hacked
        change p.response = _ at hresponse
        rw [hresponse] at hacked
        exact RebootRefused.more ⟨r, p.uid, failure, rfl, hs.accepted r hr, hsubstituted,
          owed_acknowledged howed, hacked⟩ hgrows hevents

theorem RebootLedger.around (h : Around s t) (hs : RebootLedger boot s) : RebootLedger boot t := by
  have hcommand := h.board.command
  have hhistory : s.app.command.history <+: t.app.command.history := hcommand ▸ List.prefix_refl _
  have hevents : s.net.events <+: t.net.events := h.peer.events ▸ List.prefix_refl _
  constructor
  · rw [hcommand]
    exact hs.frozen
  · rw [hcommand]
    exact hs.accepted
  · rw [hcommand]
    exact hs.clearing
  · rw [hcommand]
    exact hs.closed
  · rw [hcommand]
    exact hs.once
  · intro uid huid
    exact (hs.started uid (hcommand ▸ huid)).more hhistory hevents
  · rw [hcommand]
    exact hs.reset
  · intro uid huid
    exact (hs.released uid (hcommand ▸ huid)).more hhistory hevents

theorem Started.rebootLedger (hs : Started boot s) : RebootLedger boot s := by
  obtain ⟨hhistory, hresponses, hreboot, -⟩ := hs.blank
  constructor
  · intro c stamps body hc
    cases c with
    | response p => simp [Contained, hresponses] at hc
    | reboot r => simp [Contained, hreboot] at hc
  all_goals simp [hhistory, hresponses, hreboot]

variable {rounds : Nat} {q : CoreProg Unit}

/-- Whatever has been noted as published went out in an attempt that was acknowledged. -/
def Receipted (s : Sys Board) : Prop :=
  ∀ o ∈ acknowledged s.app.command.history, ∃ a ∈ attempts s.app.command.history, ∃ n,
    a.tag = some (o, n) ∧ AckedBy o a.wire s.net.events

theorem Receipted.step (ho : InOrder boot s) (h : CoreStep boot s t) (hs : Receipted s) :
    Receipted t := by
  have hgrows := h.rebootChange.record.1
  have hevents := h.events
  have hsettling := (ho.step h).settling
  have hold : ∀ o ∈ acknowledged s.app.command.history, ∃ a ∈ attempts t.app.command.history, ∃ n,
      a.tag = some (o, n) ∧ AckedBy o a.wire t.net.events := by
    intro o hmem
    obtain ⟨a, ha, n, htag, hacked⟩ := hs o hmem
    obtain ⟨new, hnew⟩ := hgrows
    refine ⟨a, ?_, n, htag, hacked.more hevents⟩
    rw [← hnew, attempts_append]
    exact List.mem_append_left _ ha
  have hcalm : acknowledged t.app.command.history = acknowledged s.app.command.history →
      Receipted t := fun hsame o hmem => hold o (hsame ▸ hmem)
  cases h with
  | board h =>
    cases h with
    | aside h =>
      obtain ⟨new, hnew, hquiet⟩ := h.history
      refine hcalm ?_
      rw [hnew, acknowledged_append,
        acknowledged_calm (fun e he => CoreEvent.calm_of_aside (hquiet e he)), List.append_nil]
    | command h hmoved =>
      have hcommand := hmoved.command
      cases h.recorded ho.orderly.numbered with
      | calm new hnew hquiet =>
        refine hcalm ?_
        rw [hcommand, hnew, acknowledged_append, acknowledged_calm hquiet, List.append_nil]
      | attempt a h =>
        refine hcalm ?_
        rw [hcommand, h]
        exact (acknowledged_append _ _).trans (List.append_nil _)
      | left c stamps _ _ new hnew hquiet =>
        refine hcalm ?_
        rw [hcommand, hnew, acknowledged_append, acknowledged_calm hquiet, List.append_nil]
      | published a completedMs h =>
        intro o hmem
        rw [hcommand, h, CommandState.record, acknowledged_append] at hmem
        rcases List.mem_append.mp hmem with hmem | hmem
        · exact hold o hmem
        · refine hsettling o ?_
          rw [hcommand, h, CommandState.record, owed_snoc]
          cases htag : a.tag with
          | none => simp [acknowledged, CoreEvent.acknowledged?, htag] at hmem
          | some named =>
            have howner : o = named.1 := by
              simpa [acknowledged, CoreEvent.acknowledged?, htag] using hmem
            exact howner ▸ rfl
    | released e discarded => exact hcalm ((acknowledged_append _ _).trans (List.append_nil _))
    | _ => exact hcalm rfl
  | _ => exact hcalm rfl

theorem CoreRun.receipted (hs : Started boot s) (h : CoreRun boot rounds s q t) : Receipted t := by
  refine (h.holds (I := Receipted) hs ?_ (fun _ _ ha hI hab => hI.step ha hab) ?_).2
  · intro o hmem
    simp [hs.blank.1, acknowledged] at hmem
  · intro a b hI hab
    rw [Receipted, hab.board.command, hab.peer.events]
    exact hI

theorem CoreRun.rebootLedger (hs : Started boot s) (h : CoreRun boot rounds s q t) :
    RebootLedger boot t :=
  (h.holds hs hs.rebootLedger (fun _ _ ha hI hab => hI.step ha hab)
    (fun _ _ hI hab => hI.around hab)).2

/-- What may become of the pending reboot `r` in one step. -/
inductive RebootOutcome (k' : CommandState) (r : RebootRequest) : Prop where
  | pending (r' : RebootRequest) (h : k'.pendingReboot = some r') (huid : r'.uid = r.uid)
      (hid : r'.commandId = r.commandId) (htargeted : r'.targeted = r.targeted)
  | rebooting (h : k'.pendingReboot = none) (hrecord : .rebooting r.uid ∈ k'.history)
  | released (h : k'.pendingReboot = none) (hrecord : .rebootReleased r.uid ∈ k'.history)

theorem RebootChange.outcome {b b' : Board} (h : RebootChange boot b b') {r : RebootRequest}
    (hr : b.command.pendingReboot = some r) : RebootOutcome b'.command r := by
  cases h with
  | kept h =>
    have hidentity := h.reboot
    rw [hr] at hidentity
    obtain ⟨r', hr', hsame⟩ := Option.map_eq_some_iff.mp hidentity
    simp only [RebootRequest.identity, Prod.mk.injEq] at hsame
    exact .pending r' hr' hsame.1 hsame.2.1 hsame.2.2.1
  | accepted id targeted hfree => simp [hfree] at hr
  | substituted r' stamps failure hheld hwhy h =>
    refine .pending (if r.uid = r'.uid then { r with permanentFailureAnswerQueued := true } else r)
      ?_ ?_ ?_ ?_
    · simp [h, CommandState.rebootAnswered, hr]
    all_goals by_cases huid : r.uid = r'.uid <;> simp [huid]
  | started r' stamps hheld howed h =>
    have hpending := hheld.2
    rw [hr] at hpending
    cases hpending
    exact .rebooting (by rw [h]; rfl) (by simp [h, CommandState.startReboot])
  | answered p stamps hheld howed hclears h =>
    refine .released ?_ ?_ <;> rw [h, CommandState.popPublished, if_pos hclears]
    simp [hr]
  | reset uid hrebooting hfree h => exact .pending r (by rw [h]; exact hr) rfl rfl rfl

theorem RebootChange.reset_free {b b' : Board} (h : RebootChange boot b b') {uid : Nat}
    (hreset : .reset (some uid) ∈ b'.command.history) :
    .reset (some uid) ∈ b.command.history ∨ b.outbound.inFlight = none := by
  cases h with
  | reset uid' hrebooting hfree => exact .inr hfree
  | kept h =>
    obtain ⟨new, hnew, hother⟩ := h.history
    rw [hnew] at hreset
    rcases List.mem_append.mp hreset with hreset | hreset
    · exact .inl hreset
    · cases hother _ hreset
  | accepted id targeted hfree h => exact .inl (by simpa [h, CommandState.acceptReboot] using hreset)
  | substituted r stamps failure hheld hwhy h =>
    exact .inl (by simpa [h, CommandState.rebootAnswered] using hreset)
  | started r stamps hheld howed h =>
    exact .inl (by simpa [h, CommandState.startReboot] using hreset)
  | answered p stamps hheld howed hclears h =>
    exact .inl (by simpa [h, CommandState.popPublished, hclears] using hreset)

theorem CoreRun.rebootUnanswered (hs : Started boot s) (h : CoreRun boot rounds s q t) {uid u : Nat}
    (hu : .rebootSubstituted uid u ∈ t.app.command.history) :
    .container uid ∉ acknowledged t.app.command.history := by
  intro hacknowledged
  obtain ⟨a, ha, n, htag, -⟩ := h.receipted hs _ hacknowledged
  exact ((h.rebootLedger hs).closed uid u hu).unattempted n ⟨a, ha, htag⟩

/-- In every run of Core 0: a reset of its own comes only after the success acknowledgement of that
very request has been acknowledged, and with no entry in flight; a request whose acknowledgement
has been substituted is never answered by it, and has one substitute; it is released without a
reset only after that one has been acknowledged; and no request replaces a pending one. -/
theorem reboot_safety (hs : Started boot s) (h : CoreRun boot rounds s q t) :
    (∀ uid, .reset (some uid) ∈ t.app.command.history → RebootAcked boot t uid) ∧
    (∀ uid u, .rebootSubstituted uid u ∈ t.app.command.history →
      .container uid ∉ acknowledged t.app.command.history ∧
      ∀ u', .rebootSubstituted uid u' ∈ t.app.command.history → u' = u) ∧
    (∀ uid, .rebootReleased uid ∈ t.app.command.history → RebootRefused boot t uid) ∧
    (acknowledged t.app.command.history).Nodup ∧
    ∀ act next, q = .step act next → ∀ i,
      (∀ r, t.app.command.pendingReboot = some r → RebootOutcome (act t i).app.command r) ∧
      ∀ uid, .reset (some uid) ∈ (act t i).app.command.history →
        .reset (some uid) ∈ t.app.command.history ∨ t.app.outbound.inFlight = none := by
  have hledger := h.rebootLedger hs
  refine ⟨fun uid huid => hledger.started uid (hledger.reset uid huid), fun uid u hu => ⟨?_, ?_⟩,
    hledger.released, (h.inOrder hs).released.nodup, fun act next hq i => ?_⟩
  · exact h.rebootUnanswered hs hu
  · exact fun u' hu' => hledger.once uid u u' hu hu'
  · subst hq
    have hchange := (h.coreStep hs i).rebootChange
    exact ⟨fun _ hr => hchange.outcome hr, fun _ hreset => hchange.reset_free hreset⟩

theorem RebootChange.accepts {b b' : Board} (h : RebootChange boot b b') {u : Nat} {id : String}
    (hu : .rebootAccepted u id ∈ b'.command.history) :
    .rebootAccepted u id ∈ b.command.history ∨
      ∃ targeted, u = b.command.nextUid ∧ b'.command = b.command.acceptReboot id targeted := by
  cases h with
  | kept h =>
    obtain ⟨new, hnew, hother⟩ := h.history
    rw [hnew] at hu
    rcases List.mem_append.mp hu with hu | hu
    · exact .inl hu
    · cases hother _ hu
  | accepted id' targeted hfree h =>
    rw [h] at hu
    rcases List.mem_append.mp hu with hu | hu
    · exact .inl hu
    · cases List.mem_singleton.mp hu
      exact .inr ⟨targeted, rfl, h⟩
  | substituted r stamps failure hheld hwhy h =>
    exact .inl (by simpa [h, CommandState.rebootAnswered] using hu)
  | started r stamps hheld howed h => exact .inl (by simpa [h, CommandState.startReboot] using hu)
  | answered p stamps hheld howed hclears h =>
    exact .inl (by simpa [h, CommandState.popPublished, hclears] using hu)
  | reset uid hrebooting hfree h => exact .inl (by simpa [h, CommandState.record] using hu)

theorem RebootChange.substitutes {b b' : Board} (h : RebootChange boot b b') {uid u : Nat}
    (hu : .rebootSubstituted uid u ∈ b'.command.history) :
    .rebootSubstituted uid u ∈ b.command.history ∨ ∃ r stamps failure, r.uid = uid ∧
      u = b.command.nextUid ∧ Held (.reboot r) stamps b ∧
      b'.command = b.command.rebootAnswered r failure := by
  cases h with
  | kept h =>
    obtain ⟨new, hnew, hother⟩ := h.history
    rw [hnew] at hu
    rcases List.mem_append.mp hu with hu | hu
    · exact .inl hu
    · cases hother _ hu
  | accepted id targeted hfree h => exact .inl (by simpa [h, CommandState.acceptReboot] using hu)
  | substituted r stamps failure hheld hwhy h =>
    rw [h] at hu
    rcases List.mem_append.mp hu with hu | hu
    · exact .inl hu
    · cases List.mem_singleton.mp hu
      exact .inr ⟨r, stamps, failure, rfl, rfl, hheld, h⟩
  | started r stamps hheld howed h => exact .inl (by simpa [h, CommandState.startReboot] using hu)
  | answered p stamps hheld howed hclears h =>
    exact .inl (by simpa [h, CommandState.popPublished, hclears] using hu)
  | reset uid hrebooting hfree h => exact .inl (by simpa [h, CommandState.record] using hu)

/-- What container `u` says, where it answers a reboot request. -/
structure Answering (history : List CoreEvent) (u : Nat) (response : CommandResponse) : Prop where
  acknowledgement : ∀ id, .rebootAccepted u id ∈ history → ∃ r : RebootRequest, r.uid = u ∧
    r.commandId = id ∧ response = rebootAcknowledgement r
  substitute : ∀ uid, .rebootSubstituted uid u ∈ history → ∃ (r : RebootRequest) (failure : _),
    r.uid = uid ∧ .rebootAccepted uid r.commandId ∈ history ∧
    response = substituteFor r.commandId r.targeted (some COMMAND_REBOOT) failure

/-- Events of a step about an old container are old. -/
theorem Answering.step {u : Nat} {response : CommandResponse} (h : CoreStep boot s t)
    (hu : u < s.app.command.nextUid) (hs : Answering s.app.command.history u response) :
    Answering t.app.command.history u response := by
  have hchange := h.rebootChange
  constructor
  · intro id hid
    rcases hchange.accepts hid with hold | ⟨_, hnew, -⟩
    · exact hs.acknowledgement id hold
    · omega
  · intro uid huid
    rcases hchange.substitutes huid with hold | ⟨_, _, _, -, hnew, -⟩
    · obtain ⟨r, failure, hr, haccepted, hresponse⟩ := hs.substitute uid hold
      exact ⟨r, failure, hr, hchange.record.1.subset haccepted, hresponse⟩
    · omega

structure RebootAnswers (boot : Boot) (s : Sys Board) : Prop where
  acceptedGiven : ∀ u id, .rebootAccepted u id ∈ s.app.command.history → u < s.app.command.nextUid
  substituteGiven : ∀ uid u, .rebootSubstituted uid u ∈ s.app.command.history →
    u < s.app.command.nextUid
  contained : ∀ c stamps, Contained s.app.command c stamps →
    Answering s.app.command.history c.uid c.content
  attempted : ∀ a ∈ attempts s.app.command.history, ∀ u n, a.tag = some (.container u, n) →
    u < s.app.command.nextUid ∧ ∃ response body, Answering s.app.command.history u response ∧
      response.SerializedTo body ∧ a.wire = fun pid =>
        frame boot.config.topicCommandResponse.toList (.bytes body) pid (some (boot.fragment n))

/-- A container that the step opens says what its event stands for. -/
theorem RebootAnswers.opened (ho : InOrder boot s) (hledger : RebootLedger boot s)
    (h : CoreStep boot s t) (hs : RebootAnswers boot s) {c : Container} {stamps : Stamps}
    (hc : Contained t.app.command c stamps) (huid : c.uid = s.app.command.nextUid) :
    Answering t.app.command.history c.uid c.content := by
  have hnumbered := ho.orderly.numbered
  have hgrows := h.rebootChange.record.1
  constructor
  · intro id hid
    rcases h.rebootChange.accepts hid with hold | ⟨targeted, -, hcommand⟩
    · have hgiven := hs.acceptedGiven _ _ hold
      omega
    · rw [hcommand] at hc
      cases c with
      | response p =>
        have hgiven : p.uid < s.app.command.nextUid := hnumbered.given { p with stamps } hc
        change p.uid = _ at huid
        omega
      | reboot r =>
        have hr : some _ = some { r with stamps } := hc
        simp only [Option.some.injEq, RebootRequest.mk.injEq] at hr
        exact ⟨r, rfl, hr.2.1.symm, rfl⟩
  · intro uid hid
    rcases h.rebootChange.substitutes hid with hold | ⟨r, _, failure, hr, -, hheld, hcommand⟩
    · have hgiven := hs.substituteGiven _ _ hold
      omega
    · have haccepted := hgrows.subset (hledger.accepted _ hheld.2)
      rw [hcommand] at hc
      cases c with
      | response p =>
        rcases List.mem_append.mp hc with hc | hc
        · have hgiven : p.uid < s.app.command.nextUid := hnumbered.given { p with stamps } hc
          change p.uid = _ at huid
          omega
        · have hresponse := congrArg PendingResponse.response (List.mem_singleton.mp hc)
          exact ⟨r, failure, hr, hr ▸ haccepted, hresponse⟩
      | reboot r' =>
        obtain ⟨r₀, hr₀, hsame⟩ := Option.map_eq_some_iff.mp hc
        have hgiven := hnumbered.rebootGiven r₀ hr₀
        have hsameUid : r₀.uid = r'.uid := by
          have := congrArg RebootRequest.uid hsame
          by_cases hflag : r₀.uid = r.uid <;> simpa [hflag] using this
        change r'.uid = _ at huid
        omega

theorem RebootAnswers.step (ho : InOrder boot s) (hledger : RebootLedger boot s)
    (h : CoreStep boot s t) (hs : RebootAnswers boot s) : RebootAnswers boot t := by
  have hb := ho.orderly
  have hnext := h.nextUid_le
  have hchange := h.rebootChange
  refine ⟨fun u id hu => ?_, fun uid u hu => ?_, fun c stamps hc => ?_, ?_⟩
  · rcases hchange.accepts hu with hold | ⟨targeted, rfl, hcommand⟩
    · exact Nat.lt_of_lt_of_le (hs.acceptedGiven u id hold) hnext
    · rw [hcommand]
      exact Nat.lt_succ_self _
  · rcases hchange.substitutes hu with hold | ⟨r, stamps, failure, -, rfl, -, hcommand⟩
    · exact Nat.lt_of_lt_of_le (hs.substituteGiven uid u hold) hnext
    · rw [hcommand]
      exact Nat.lt_succ_self _
  · obtain ⟨numbered, horigin⟩ := h.origin hb
    cases horigin c stamps hc with
    | kept c₀ stamps₀ hc₀ hsame =>
      rw [hsame.uid, hsame.content]
      exact (hs.contained c₀ stamps₀ hc₀).step h (hc₀.given hb.numbered)
    | opened huid => exact hs.opened ho hledger h hc huid
  · have hkept : ∀ a ∈ attempts s.app.command.history, ∀ u n, a.tag = some (.container u, n) →
        u < t.app.command.nextUid ∧ ∃ response body,
          Answering t.app.command.history u response ∧ response.SerializedTo body ∧
          a.wire = fun pid => frame boot.config.topicCommandResponse.toList (.bytes body) pid
            (some (boot.fragment n)) := by
      intro a ha u n htag
      obtain ⟨hu, response, body, hanswering, hbody⟩ := hs.attempted a ha u n htag
      exact ⟨Nat.lt_of_lt_of_le hu hnext, response, body, hanswering.step h hu, hbody⟩
    rcases h.attempts hb with hsame | ⟨new, hnew, hsends, -⟩
    · rwa [hsame]
    · intro a ha u n htag
      rw [hnew, CommandState.record, attempts_append] at ha
      rcases List.mem_append.mp ha with ha | ha
      · exact hkept a ha u n htag
      · obtain rfl := List.mem_singleton.mp ha
        rw [Sends, htag] at hsends
        obtain ⟨c, stamps, body, rfl, hheld, -, hbody, hspliced⟩ := hsends
        have hgiven := hheld.contained.given hb.numbered
        refine ⟨Nat.lt_of_lt_of_le hgiven hnext, c.content, body,
          (hs.contained c stamps hheld.contained).step h hgiven,
          hledger.frozen c stamps body hheld.contained hbody, ?_⟩
        funext pid
        rw [Attempt.wire, hspliced.topic, hspliced.message, hspliced.fragment]

theorem CoreRun.rebootAnswers (hs : Started boot s) (h : CoreRun boot rounds s q t) :
    RebootAnswers boot t := by
  obtain ⟨hhistory, hresponses, hreboot, -⟩ := hs.blank
  refine (h.holds (I := fun u => RebootLedger boot u ∧ RebootAnswers boot u) hs
    ⟨hs.rebootLedger, ?_⟩ (fun _ _ ho hI hab => ⟨hI.1.step ho hab, hI.2.step ho hI.1 hab⟩) ?_).2.2
  · refine ⟨?_, ?_, fun c stamps hc => ?_, ?_⟩
    · simp [hhistory]
    · simp [hhistory]
    · cases c with
      | response p => simp [Contained, hresponses] at hc
      | reboot r => simp [Contained, hreboot] at hc
    · simp [hhistory]
  · intro a b hI hab
    refine ⟨hI.1.around hab, ?_⟩
    constructor <;> rw [hab.board.command]
    · exact hI.2.acceptedGiven
    · exact hI.2.substituteGiven
    · exact hI.2.contained
    · exact hI.2.attempted

/-- The containers that answer the reboot request `uid`: its acknowledgement, and its substitute. -/
def AnswersReboot (history : List CoreEvent) (uid u : Nat) : Prop :=
  (u = uid ∧ ∃ id, .rebootAccepted uid id ∈ history) ∨ .rebootSubstituted uid u ∈ history

/-- An answer to the request that has been acknowledged is its success acknowledgement, or the
bounded error in its place. -/
theorem CoreRun.rebootAnswer (hs : Started boot s) (h : CoreRun boot rounds s q t) {uid u : Nat}
    (hu : AnswersReboot t.app.command.history uid u)
    (hacked : .container u ∈ acknowledged t.app.command.history) :
    (u = uid ∧ RebootAcked boot t uid) ∨ RebootRefused boot t uid := by
  obtain ⟨a, ha, n, htag, hframe⟩ := h.receipted hs _ hacked
  obtain ⟨-, response, body, hanswering, hbody, hwire⟩ := (h.rebootAnswers hs).attempted a ha u n htag
  have hresponse : ResponseAcked boot u response t.net.events := ⟨n, body, hbody, hwire ▸ hframe⟩
  rcases hu with ⟨rfl, id, hid⟩ | hu
  · obtain ⟨r, hr, rfl, rfl⟩ := hanswering.acknowledgement id hid
    exact .inl ⟨rfl, r, hr, hid, hacked, hresponse⟩
  · obtain ⟨r, failure, hr, haccepted, rfl⟩ := hanswering.substitute uid hu
    exact .inr ⟨r, u, failure, hr, haccepted, hu, hacked, hresponse⟩

/-- In every run of Core 0, for each reboot request: the reset comes only after the request's own
success acknowledgement has been acknowledged; an answer that has been acknowledged is that one or
the bounded substitute, never both, and there is at most one; the request is released without a
reset only after its substitute has been acknowledged; and the step that resets finds nothing in
flight, as no step replaces a pending request. -/
theorem reboot_protocol (hs : Started boot s) (h : CoreRun boot rounds s q t) (uid : Nat) :
    (.reset (some uid) ∈ t.app.command.history → RebootAcked boot t uid) ∧
    (∀ u, AnswersReboot t.app.command.history uid u →
      .container u ∈ acknowledged t.app.command.history →
      ((u = uid ∧ RebootAcked boot t uid) ∨ RebootRefused boot t uid) ∧
      ∀ u', AnswersReboot t.app.command.history uid u' →
        .container u' ∈ acknowledged t.app.command.history → u' = u) ∧
    ¬ (RebootAcked boot t uid ∧ RebootRefused boot t uid) ∧
    (acknowledged t.app.command.history).Nodup ∧
    (.rebootReleased uid ∈ t.app.command.history → RebootRefused boot t uid) ∧
    ∀ act next, q = .step act next → ∀ i,
      (.reset (some uid) ∈ (act t i).app.command.history →
        .reset (some uid) ∈ t.app.command.history ∨ t.app.outbound.inFlight = none) ∧
      ∀ r, t.app.command.pendingReboot = some r → RebootOutcome (act t i).app.command r := by
  have hledger := h.rebootLedger hs
  refine ⟨fun hreset => hledger.started uid (hledger.reset uid hreset), fun u hu hacked =>
    ⟨h.rebootAnswer hs hu hacked, fun u' hu' hacked' => ?_⟩, ?_, (h.inOrder hs).released.nodup,
    hledger.released uid, fun act next hq i => ?_⟩
  · rcases hu with ⟨rfl, -⟩ | hu
    · rcases hu' with ⟨rfl, -⟩ | hu'
      · rfl
      · exact (h.rebootUnanswered hs hu' hacked).elim
    · rcases hu' with ⟨rfl, -⟩ | hu'
      · exact (h.rebootUnanswered hs hu hacked').elim
      · exact hledger.once uid u u' hu hu'
  · rintro ⟨⟨_, -, -, hacked, -⟩, ⟨_, u, _, -, -, hu, -⟩⟩
    exact h.rebootUnanswered hs hu hacked
  · subst hq
    have hchange := (h.coreStep hs i).rebootChange
    exact ⟨fun hreset => hchange.reset_free hreset, fun _ hr => hchange.outcome hr⟩

end Ledger

theorem shippedSession_reset : .reset (some 1) ∈ shippedSession.2.app.command.history := by
  have hresets := shippedSession_record.2.2.2.1
  have hmem : some 1 ∈ shippedSession.2.app.command.history.filterMap CoreEvent.reset? := by
    simp [hresets]
  obtain ⟨event, hevent, hsome⟩ := List.mem_filterMap.mp hmem
  cases event with
  | reset request =>
    obtain rfl : request = some 1 := Option.some.inj hsome
    exact hevent
  | _ => cases hsome

theorem reboot_safety_session : RebootAcked shippedBoot shippedSession.2 1 :=
  (reboot_safety recovered_started shippedSession_run).1 1 shippedSession_reset

theorem reboot_protocol_session : RebootAcked shippedBoot shippedSession.2 1 ∧
    ∀ u, AnswersReboot shippedSession.2.app.command.history 1 u →
      .container u ∈ acknowledged shippedSession.2.app.command.history → u = 1 := by
  obtain ⟨hreset, honce, -⟩ := reboot_protocol recovered_started shippedSession_run 1
  obtain ⟨r, -, haccepted, hacked, -⟩ := hreset shippedSession_reset
  exact ⟨hreset shippedSession_reset, (honce 1 (.inl ⟨rfl, _, haccepted⟩) hacked).2⟩

end PicoDualCore
