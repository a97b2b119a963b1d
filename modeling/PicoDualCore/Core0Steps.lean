import PicoDualCore.CommandIngress
import PicoDualCore.Core0Run
import PicoDualCore.MqttAcknowledged
set_option autoImplicit false

/-!
What one step of Core 0 can do: to the sockets, to the containers of what it publishes, to the
outbound queue, and to the command state when a message comes in.
-/

namespace PicoDualCore
open AtomicProgram MqttClient

def CoreEvent.aside : CoreEvent → Bool
  | .claimed _ | .responded _ _ | .dispatched _ | .rebootAccepted _ _ | .silenced _
  | .writeRaised _ | .reset none => true
  | _ => false

def CoreEvent.attempt? : CoreEvent → Option Attempt
  | .attempt a => some a
  | _ => none

def attempts (history : List CoreEvent) : List Attempt := history.filterMap CoreEvent.attempt?

def CoreEvent.acknowledged? : CoreEvent → Option Owner
  | .published (some (owner, _)) _ => some owner
  | _ => none

/-- The owners of the publishes that have been noted, in order. -/
def acknowledged (history : List CoreEvent) : List Owner :=
  history.filterMap CoreEvent.acknowledged?

def lastAttempt (history : List CoreEvent) : Option Attempt := (attempts history).getLast?

/-- The owner whose publish succeeded and has not been settled yet. -/
def CoreEvent.settle (owed : Option Owner) : CoreEvent → Option Owner
  | .published (some (owner, _)) _ => some owner
  | .answered _ | .rebooting _ | .entryReleased _ _ => none
  | _ => owed

def owed (history : List CoreEvent) : Option Owner := history.foldl CoreEvent.settle none

section Record

variable (history new : List CoreEvent) (e : CoreEvent)

@[simp] theorem attempts_append : attempts (history ++ new) = attempts history ++ attempts new :=
  List.filterMap_append

@[simp] theorem attempts_nil : attempts [] = [] := rfl

theorem owed_snoc : owed (history ++ [e]) = e.settle (owed history) := by simp [owed]

variable {history new e}

theorem attempts_aside (h : ∀ e ∈ new, e.aside = true) : attempts new = [] := by
  refine List.filterMap_eq_nil_iff.mpr (fun e he => ?_)
  have hquiet := h e he
  cases e <;> first | rfl | cases hquiet

theorem settle_aside {owner : Option Owner} (h : e.aside = true) : e.settle owner = owner := by
  cases e <;> first | rfl | cases h

theorem owed_aside (h : ∀ e ∈ new, e.aside = true) : owed (history ++ new) = owed history := by
  suffices hfold : ∀ owner, new.foldl CoreEvent.settle owner = owner by
    rw [owed, List.foldl_append]
    exact hfold _
  intro owner
  induction new with
  | nil => rfl
  | cons e new ih =>
    rw [List.foldl_cons, settle_aside (h e (by simp))]
    exact ih (fun e he => h e (by simp [he]))

end Record

/-- A dict that carries stamps from one publish attempt to the next, as it was read. -/
inductive Container where
  | response (p : PendingResponse)
  | reboot (r : RebootRequest)

def Container.uid : Container → Nat
  | .response p => p.uid
  | .reboot r => r.uid

def Container.content : Container → CommandResponse
  | .response p => p.response
  | .reboot r => rebootAcknowledgement r

def Held (c : Container) (stamps : Stamps) (b : Board) : Prop :=
  match c with
  | .response p => b.command.pendingResponses.head? = some { p with stamps }
  | .reboot r =>
    r.permanentFailureAnswerQueued = false ∧ b.command.pendingReboot = some { r with stamps }

/-- The fragment that Core 0 splices into the message with this sequence. -/
def Boot.fragment (boot : Boot) (sequence : Nat) : Bytes :=
  envelopeFragment sequence boot.runtimeId boot.config.source

def Unsendable (boot : Boot) (stamps : Stamps) : Prop :=
  stamps.payloadBytes = none ∨ ∃ body sequence, stamps.payloadBytes = some body ∧
    stamps.wireSequence = some sequence ∧
    MAX_OUTBOUND_MESSAGE_BYTES < wireLength body (boot.fragment sequence)

/-- The attempt publishes `body` with the envelope of its sequence, within the ceiling. -/
structure Spliced (boot : Boot) (a : Attempt) (topic : String) (body : Bytes) (sequence : Nat) :
    Prop where
  topic : a.topic = topic
  message : a.message = .bytes body
  fragment : a.fragment = some (boot.fragment sequence)
  fits : wireLength body (boot.fragment sequence) ≤ MAX_OUTBOUND_MESSAGE_BYTES
  brace : body.getLast? = some 0x7D

inductive Plain (boot : Boot) (a : Attempt) : Prop where
  | probe (uptime : Int) (packetId : Nat) (htopic : a.topic = boot.config.topicNetworkProbe)
      (hmessage : a.message =
        .text (Json.dumps (.dict (networkProbeMessage boot uptime packetId))))
  | utc (counter : Nat) (htopic : a.topic = boot.config.topicInfoRequest)
      (hmessage : a.message =
        .text (Json.dumps (.dict (utcRequest boot s!"{boot.runtimeId}_{counter}"))))

def Sends (boot : Boot) (b : Board) (a : Attempt) : Prop :=
  match a.tag with
  | none => a.fragment = none ∧ Plain boot a
  | some (.container uid, sequence) => ∃ c stamps body, c.uid = uid ∧ Held c stamps b ∧
      stamps.wireSequence = some sequence ∧ stamps.payloadBytes = some body ∧
      Spliced boot a boot.config.topicCommandResponse body sequence
  | some (.entry ref, sequence) => ∃ e, b.outbound.inFlight = some e ∧ e.ref = ref ∧
      e.wireSequence = some sequence ∧
      Spliced boot a (topicForKind boot.config e.kind) e.payloadBytes sequence

def Attempted (history : List CoreEvent) (owner : Owner) (n : Nat) : Prop :=
  ∃ a ∈ attempts history, a.tag = some (owner, n)

def Container.Stuck : Container → Stamps → Prop
  | .response p, stamps => isResponseSubstitute p.response = true ∧
      stamps.permanentFailure.isSome = true
  | .reboot _, stamps => stamps.permanentFailure.isSome = true

structure Tried (active : Option Owner) (b : Board) : Prop where
  responses : ∀ p ∈ b.command.pendingResponses, ∀ n, p.stamps.wireSequence = some n →
    active = some (.container p.uid) ∨ Attempted b.command.history (.container p.uid) n ∨
      (Container.response p).Stuck p.stamps
  reboot : ∀ r, b.command.pendingReboot = some r → ∀ n, r.stamps.wireSequence = some n →
    active = some (.container r.uid) ∨ Attempted b.command.history (.container r.uid) n ∨
      (Container.reboot r).Stuck r.stamps
  entry : ∀ e, b.outbound.inFlight = some e → ∀ n, e.wireSequence = some n →
    active = some (.entry e.ref) ∨ Attempted b.command.history (.entry e.ref) n

def OnTurn (b : Board) (owner : Owner) (n : Nat) : Prop :=
  n + 1 = b.command.nextSequence ∨ Attempted b.command.history owner n ∨
    ∃ c stamps, owner = .container c.uid ∧ Held c stamps b ∧ c.Stuck stamps

def Acked (a : Attempt) (events : List SocketEvent) : Prop :=
  ∀ owner sequence, a.tag = some (owner, sequence) →
    AckedFrame owner (fun pid => frame a.topic.toList a.message pid a.fragment) events

/-- The command state after a step of Core 0's own. -/
inductive CommandStep (boot : Boot) (n : Network) (b : Board) : CommandState → Prop where
  | sequence (c : Container) (stamps : Stamps) (h : Held c stamps b)
      (hnone : stamps.wireSequence = none) (htried : Tried none b) :
      CommandStep boot n b { b.command.modifyStamps c.uid
        (fun s => { s with wireSequence := some b.command.nextSequence }) with
          nextSequence := b.command.nextSequence + 1 }
  | frozen (c : Container) (stamps : Stamps) (payload : Bytes) (h : Held c stamps b)
      (hnone : stamps.payloadBytes = none)
      (hdoc : ∃ uptime timestamp, serializeAndValidateMessage
        (.dict (c.content.message uptime timestamp)) = .ok payload) :
      CommandStep boot n b (b.command.freezePayload c.uid payload)
  | failed (c : Container) (stamps : Stamps) (failure : PermanentFailure) (h : Held c stamps b)
      (hwhy : Unsendable boot stamps) :
      CommandStep boot n b (b.command.recordFailure c.uid failure)
  | attempt (a : Attempt) (h : Sends boot b a) (hidle : owed b.command.history = none)
      (hturn : ∀ owner n, a.tag = some (owner, n) → OnTurn b owner n) :
      CommandStep boot n b (b.command.record (.attempt a))
  | published (a : Attempt) (completedMs : Nat) (h : Sends boot b a)
      (hidle : owed b.command.history = none) (hlast : lastAttempt b.command.history = some a)
      (hacked : Acked a n.events) :
      CommandStep boot n b (b.command.record (.published a.tag completedMs))
  | answered (p : PendingResponse) (stamps : Stamps) (h : Held (.response p) stamps b)
      (howed : owed b.command.history = some (.container p.uid)) :
      CommandStep boot n b (b.command.popPublished p)
  | substituted (p : PendingResponse) (stamps : Stamps) (h : Held (.response p) stamps b)
      (hidle : owed b.command.history = none) (hwhy : Unsendable boot stamps) :
      CommandStep boot n b (b.command.substituteHead p)
  | rebootSubstituted (r : RebootRequest) (stamps : Stamps) (h : Held (.reboot r) stamps b)
      (hidle : owed b.command.history = none) (hwhy : Unsendable boot stamps) :
      CommandStep boot n b (b.command.answerUnsentReboot r)
  | rebooting (r : RebootRequest) (stamps : Stamps) (h : Held (.reboot r) stamps b)
      (howed : owed b.command.history = some (.container r.uid))
      (hfree : b.outbound.inFlight = none) :
      CommandStep boot n b (b.command.startReboot r)
  | reset (uid : Nat) (h : .rebooting uid ∈ b.command.history)
      (hfree : b.outbound.inFlight = none) :
      CommandStep boot n b (b.command.record (.reset (some uid)))
  | discardAnswered (e : Entry) (r : CommandResponse)
      (h : .entryReleased e.ref true ∈ b.command.history)
      (hread : ∃ payload, discardedPayload? e.payloadBytes = some (r.commandId, payload)) :
      CommandStep boot n b
        (b.command.queueResponse r false (fun uid => .discardAnswered e.ref uid)).2

def TooLarge (boot : Boot) (e : Entry) : Prop :=
  ∃ sequence, e.wireSequence = some sequence ∧
    MAX_OUTBOUND_MESSAGE_BYTES < wireLength e.payloadBytes (boot.fragment sequence)

structure Moved (k : CommandState) (b b' : Board) : Prop where
  command : b'.command = k
  outbound : b'.outbound = b.outbound
  events : b'.events.queue = b.events.queue
  disk : b'.disk = b.disk

inductive BoardStep (boot : Boot) (n : Network) (b : Board) : Board → Prop where
  | aside {b' : Board} (h : AsideStep b b') : BoardStep boot n b b'
  | command {k : CommandState} {b' : Board} (h : CommandStep boot n b k) (hmoved : Moved k b b') :
      BoardStep boot n b b'
  | entrySequence (e : Entry) (h : b.outbound.inFlight = some e) (hnone : e.wireSequence = none)
      (htried : Tried none b) :
      BoardStep boot n b { b with
        outbound := b.outbound.stamp e.ref b.core0.nextSequence
        core0 := { b.core0 with nextSequence := b.core0.nextSequence + 1 } }
  | taken (hidle : owed b.command.history = none) :
      BoardStep boot n b { b with outbound := b.outbound.take.2 }
  | released (e : Entry) (discarded : Bool) (h : b.outbound.inFlight = some e)
      (hdone : discarded = false → owed b.command.history = some (.entry e.ref))
      (hlarge : discarded = true → owed b.command.history = none ∧ TooLarge boot e) :
      BoardStep boot n b { b with
        outbound := (b.outbound.completeInFlight (some e.ref) discarded).2
        core0 := { b.core0 with
          toCommandState := b.command.record (.entryReleased e.ref discarded) } }

/-- One step of Core 0. Only the bytes of the attempt under way are written for its owner. -/
inductive CoreStep (boot : Boot) (s : Sys Board) : Sys Board → Prop where
  | client {n : Network} (h : ClientStep s.net n) : CoreStep boot s { s with net := n }
  | session {n : Network} (h : SessionStep s.net n) : CoreStep boot s { s with net := n }
  | owned (owner : Owner) (bytes : Bytes) (a : SocketAnswer) (attempt : Attempt)
      (hlast : lastAttempt s.app.command.history = some attempt)
      (howner : attempt.tag.map Prod.fst = some owner) (hsends : Sends boot s.app attempt)
      (hidle : owed s.app.command.history = none) :
      CoreStep boot s { s with net := (s.net.write (some owner) bytes a).2 }
  | board {b : Board} (h : BoardStep boot s.net s.app b) : CoreStep boot s { s with app := b }

end PicoDualCore
