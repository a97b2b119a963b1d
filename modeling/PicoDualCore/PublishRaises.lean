import PicoDualCore.MqttSession
set_option autoImplicit false

namespace PicoDualCore
open AtomicProgram

def Exc.oversized : Exc → Bool
  | .messageTooLarge _ => true
  | _ => false

structure Transporting (X : Exc → Prop) : Prop where
  memory : X .memoryError
  os : ∀ m, X (.osError m)
  mqtt : ∀ m, X (.mqttException m)
  python : ∀ e, X (.python e)

theorem transporting_fits : Transporting (fun e => e.oversized = false) :=
  ⟨rfl, fun _ => rfl, fun _ => rfl, fun _ => rfl⟩

namespace MqttClient

section Client

variable {σ κ α : Type} {host : Host σ κ} {X : Exc → Prop}

theorem raises_onNet {f : Network → SocketAnswer → Except Exc α × Network}
    (h : ∀ n a e, (f n a).1 = .error e → X e) : (onNet f : NetProg σ κ α).Raises X :=
  Proc.raises_atomic (fun s i e => h s.net i.socket e)

theorem onSocket_raises (tr : Transporting X) {n : Network} {method : String}
    {operation : Nat → Connection → Except Exc α × Network} {e : Exc}
    (h : ∀ k c, (operation k c).1 = .error e → X e) (he : (n.onSocket method operation).1 = .error e) :
    X e := by
  unfold Network.onSocket at he
  cases hc : n.current with
  | none =>
    rw [hc] at he
    cases he
    exact tr.python _
  | some socket =>
    rw [hc] at he
    exact h _ _ he

theorem raises_write (tr : Transporting X) {owner : Option Owner} {bytes : Bytes} :
    (onNet (Network.write owner bytes) : NetProg σ κ Unit).Raises X := by
  refine raises_onNet (fun n a e he => onSocket_raises tr (fun k c hop => ?_) he)
  cases a with
  | memory => cases hop; exact tr.memory
  | fail count => cases hop; exact tr.os _
  | _ =>
    by_cases hc : c.closed = true
    · simp only [hc, if_true] at hop
      cases hop
      exact tr.os _
    · simp [hc] at hop

theorem raises_read (tr : Transporting X) {size : Nat} :
    (onNet (Network.read size) : NetProg σ κ (Option Bytes)).Raises X := by
  refine raises_onNet (fun n a e he => onSocket_raises tr (fun k c hop => ?_) he)
  cases a <;> cases hop
  · exact tr.os _
  · exact tr.memory

theorem raises_settimeout (tr : Transporting X) {timeoutMs : Option Nat} :
    (onNet (Network.settimeout timeoutMs) : NetProg σ κ Unit).Raises X := by
  refine raises_onNet (fun n a e he => onSocket_raises tr (fun k c hop => ?_) he)
  cases a <;> cases hop
  · exact tr.os _
  · exact tr.memory

theorem raises_close (tr : Transporting X) : (onNet Network.close : NetProg σ κ Unit).Raises X := by
  refine raises_onNet (fun n a e he => onSocket_raises tr (fun k c hop => ?_) he)
  cases a <;> cases hop
  · exact tr.os _
  · exact tr.memory

structure HostRaises (host : Host σ κ) (X : Exc → Prop) : Prop where
  service : host.service.Raises X
  callback : ∀ topic payload, (host.callback topic payload).Raises X

variable (tr : Transporting X) (hhost : HostRaises host X)
include tr

theorem raises_abort {reason : String} :
    (abortCorruptInbound reason : NetProg σ κ α).Raises X := by
  refine Proc.raises_bind ?_ (fun _ => tr.mqtt _)
  refine Proc.raises_handle (raises_close tr) (fun e _ => ?_)
  cases e with
  | memoryError => exact tr.memory
  | _ => trivial

theorem raises_guard {c : Prop} [Decidable c] {reason : String} {rest : Unit → NetProg σ κ α}
    (h : (rest ()).Raises X) :
    (if c then abortCorruptInbound reason >>= rest else rest ()).Raises X :=
  Proc.raises_ite (Proc.raises_bind (raises_abort tr) (fun _ => h)) h

include hhost

omit tr in
theorem raises_service : (service host).Raises X :=
  Proc.raises_bind (Proc.raises_zoom hhost.service (fun _ h => h))
    (fun _ => raises_onNet (fun _ _ _ he => by cases he))

theorem raises_servicedWrite {owner : Option Owner} {bytes : Bytes} :
    (write host owner bytes).Raises X :=
  Proc.raises_bind (raises_service hhost) (fun _ => raises_write tr)

theorem raises_readRequired {size : Nat} : (readRequired host size).Raises X := by
  refine Proc.raises_bind (raises_service hhost) (fun _ => Proc.raises_bind (raises_read tr) ?_)
  intro data
  cases data with
  | none => exact tr.os _
  | some data => exact Proc.raises_ite (tr.os _) trivial

theorem raises_readByte : (readByte host).Raises X := by
  refine Proc.raises_bind (raises_readRequired tr hhost) (fun data => ?_)
  cases data with
  | nil => exact tr.os _
  | cons b rest => trivial

theorem raises_recvLenFrom {left n sh : Nat} : (recvLenFrom host left n sh).Raises X := by
  induction left generalizing n sh with
  | zero => exact raises_abort tr
  | succ left ih =>
    exact Proc.raises_bind (raises_readByte tr hhost) (fun _ => Proc.raises_ite trivial ih)

omit tr in
theorem raises_deliver {topic msg : Bytes} : (receivePublish.deliver host topic msg).Raises X :=
  Proc.raises_bind (raises_onNet (fun _ _ _ he => by cases he))
    (fun _ => Proc.raises_zoom (hhost.callback topic msg) (fun _ h => h))

theorem raises_receivePublish {op : UInt8} : (receivePublish host op).Raises X := by
  have hread : ∀ size, (readRequired host size).Raises X := fun _ => raises_readRequired tr hhost
  refine Proc.raises_bind (raises_recvLenFrom tr hhost) (fun sz => ?_)
  refine raises_guard tr (raises_guard tr ?_)
  refine Proc.raises_bind (hread _) (fun topicLength => raises_guard tr ?_)
  refine Proc.raises_bind (hread _) (fun topic => Proc.raises_ite ?_ ?_)
  · refine raises_guard tr ?_
    refine Proc.raises_bind (hread _) (fun pid => Proc.raises_bind (hread _) (fun msg => ?_))
    refine Proc.raises_bind (raises_deliver hhost) (fun _ => Proc.raises_ite ?_ trivial)
    exact Proc.raises_bind (raises_servicedWrite tr hhost) (fun _ => trivial)
  · refine Proc.raises_bind (hread _) (fun msg => ?_)
    exact Proc.raises_bind (raises_deliver hhost) (fun _ => trivial)

theorem raises_dispatch {op : UInt8} : (dispatch host op).Raises X := by
  refine Proc.raises_ite ?_ (Proc.raises_ite ?_ ?_)
  · exact Proc.raises_bind (raises_readByte tr hhost) (fun b => raises_guard tr trivial)
  · exact Proc.raises_ite trivial (Proc.raises_ite (raises_abort tr) (raises_abort tr))
  · refine Proc.raises_ite (raises_abort tr) (Proc.raises_ite (raises_abort tr) ?_)
    exact raises_receivePublish tr hhost

theorem raises_waitMsg : (waitMsg host).Raises X := by
  refine Proc.raises_bind (raises_service hhost) (fun _ => Proc.raises_bind (raises_read tr) ?_)
  intro data
  match data with
  | none => trivial
  | some [] => exact tr.os _
  | some (op :: rest) => exact raises_dispatch tr hhost

theorem raises_awaitPuback {pid rounds : Nat} : (awaitPuback host pid rounds).Raises X := by
  induction rounds with
  | zero => trivial
  | succ rounds ih =>
    refine Proc.raises_bind (raises_waitMsg tr hhost) (fun kind => Proc.raises_ite ?_ ih)
    refine Proc.raises_bind (raises_readRequired tr hhost) (fun size => raises_guard tr ?_)
    exact Proc.raises_bind (raises_readRequired tr hhost) (fun _ => Proc.raises_ite trivial ih)

theorem raises_writeAll {owner : Option Owner} (segments : List Bytes) :
    (segments.forM (write host owner)).Raises X := by
  induction segments with
  | nil => trivial
  | cons bytes rest ih => exact Proc.raises_bind (raises_servicedWrite tr hhost) (fun _ => ih)

theorem raises_publish {rounds : Nat} {owner : Option Owner} {topic : List Char} {msg : Payload}
    {packetId timeoutMs : Option Nat} {fragment : Option Bytes} :
    (publish host rounds owner topic msg packetId timeoutMs fragment).Raises X := by
  have hexchange : ∀ pid, (timed timeoutMs (do
      (frameSegments topic msg pid fragment).forM (write host owner)
      awaitPuback host pid rounds) : NetProg σ κ Unit).Raises X := by
    intro pid
    have hboth : (do
        (frameSegments topic msg pid fragment).forM (write host owner)
        awaitPuback host pid rounds : NetProg σ κ Unit).Raises X :=
      Proc.raises_bind (raises_writeAll tr hhost _) (fun _ => raises_awaitPuback tr hhost)
    cases timeoutMs with
    | none => exact hboth
    | some ms =>
      exact Proc.raises_bind (raises_settimeout tr)
        (fun _ => Proc.raises_finish hboth (raises_settimeout tr))
  refine Proc.raises_ite (tr.mqtt _) ?_
  cases packetId with
  | none => exact Proc.raises_bind (raises_onNet (fun _ _ _ he => by cases he)) hexchange
  | some pid => exact hexchange pid

end Client
end MqttClient

theorem FsError.raised_oversized (e : FsError) : e.raised.oversized = false := by
  cases e <;> rfl

section Host

variable {X : Exc → Prop}

theorem raises_look {α : Type} {f : Board → α} : (look f).Raises X :=
  Proc.raises_atomic (fun _ _ _ he => by cases he)

theorem raises_update {f : CommandState → CommandState} : (update f).Raises X :=
  Proc.raises_atomic (fun _ _ _ he => by cases he)

theorem raises_adjustAt {f : Core0 → Nat → Core0} : (adjustAt f).Raises X :=
  Proc.raises_atomic (fun _ _ _ he => by cases he)

theorem raises_serviceWait : serviceWait.Raises X := by
  refine Proc.raises_bind (Proc.raises_bind raises_look (fun lastActivityMs => ?_))
    (fun _ => raises_look)
  cases lastActivityMs with
  | none => trivial
  | some lastActivityMs =>
    refine Proc.raises_bind raises_look (fun _ => Proc.raises_ite ?_ trivial)
    exact Proc.raises_bind raises_update (fun _ => trivial)

end Host

section Callback

abbrev Fitting {α : Type} (p : BoardProg α) : Prop := p.Raises (fun e => e.oversized = false)

theorem fitting_reply {r : CommandResponse} : Fitting (reply r) := raises_update

theorem fitting_put {event : CommandEvent} : Fitting (EventQueue.put event) := by
  have hreserve : Fitting EventQueue.reserveRestored :=
    Proc.raises_atomic (fun _ _ _ he => by cases he)
  have hcount : Fitting EventQueue.countRejection :=
    Proc.raises_atomic (fun _ _ _ he => by cases he)
  have happend : Fitting (EventQueue.append event) := by
    refine Proc.raises_atomic (fun b i e he => ?_)
    dsimp only at he
    split at he
    · cases he; rfl
    · split at he <;> cases he
  have hrest : Fitting (do
      if ← EventQueue.reserveRestored then
        if ← EventQueue.append event then pure true
        else do
          EventQueue.gcCollect
          EventQueue.countRejection
          pure false
      else do
        EventQueue.countRejection
        pure false) := by
    refine Proc.raises_bind hreserve (fun restored => Proc.raises_ite ?_ ?_)
    · refine Proc.raises_bind happend (fun admitted => Proc.raises_ite trivial ?_)
      exact Proc.raises_bind raises_look (fun _ => Proc.raises_bind hcount (fun _ => trivial))
    · exact Proc.raises_bind hcount (fun _ => trivial)
  exact Proc.raises_bind hreserve (fun restored =>
    Proc.raises_ite (Proc.raises_bind raises_look (fun _ => hrest)) hrest)

theorem fitting_onDisk {α : Type} {p : FsProg α} : Fitting (onDisk p) :=
  Proc.raises_zoom (Proc.raises_any p) (fun e _ => e.raised_oversized)

theorem fitting_catchConfig {α : Type} {p : BoardProg α} (hp : Fitting p) :
    Fitting (catchConfig p) := by
  refine Proc.raises_handle (Proc.raises_bind hp (fun _ => trivial)) (fun e he => ?_)
  cases e with
  | config err => trivial
  | _ => exact he

variable {id : String} {targeted : Bool} {payload doc : PyDict} {boot : Boot}

theorem fitting_getDetails : Fitting (handleGetDetailsCommand id targeted payload) :=
  Proc.raises_ite fitting_reply (Proc.raises_bind fitting_put
    (fun _ => Proc.raises_ite fitting_reply trivial))

theorem fitting_readConfig : Fitting (handleReadConfigCommand id targeted payload) := by
  refine Proc.raises_ite fitting_reply ?_
  refine Proc.raises_bind (fitting_catchConfig fitting_onDisk) (fun result => ?_)
  cases result with
  | error err => exact fitting_reply
  | ok config => exact Proc.raises_bind raises_look (fun _ => fitting_reply)

theorem fitting_beginWrite {candidate : PyValue} : Fitting (beginWriteCommand candidate) :=
  Proc.raises_handle (fitting_catchConfig fitting_onDisk)
    (fun _ he => Proc.raises_bind raises_update (fun _ => he))

theorem fitting_writeConfig : Fitting (handleWriteConfigCommand id targeted payload) := by
  refine Proc.raises_ite fitting_reply ?_
  cases payload.get? "config" with
  | none => exact fitting_reply
  | some candidate =>
    refine Proc.raises_ite fitting_reply (Proc.raises_bind fitting_beginWrite (fun result => ?_))
    cases result with
    | error err => exact fitting_reply
    | ok result => exact Proc.raises_bind raises_look (fun _ => fitting_reply)

theorem fitting_dispatch {name : String} :
    Fitting (answerCommand.dispatch id targeted name payload) := by
  refine Proc.raises_ite fitting_reply (Proc.raises_ite raises_update ?_)
  refine Proc.raises_ite raises_update (Proc.raises_ite fitting_getDetails ?_)
  exact Proc.raises_ite fitting_readConfig (Proc.raises_ite fitting_writeConfig trivial)

theorem fitting_answerCommand : Fitting (answerCommand id targeted doc) := by
  refine Proc.raises_ite fitting_reply ?_
  cases nonEmptyStr? (doc.getD "command") with
  | none => exact fitting_reply
  | some name =>
    cases doc.get? "payload" with
    | none => exact fitting_reply
    | some payload =>
      refine Proc.raises_ite fitting_reply ?_
      cases payload with
      | dict payload => exact fitting_dispatch
      | _ => exact fitting_reply

theorem fitting_targetMatches {target : PyValue} : Fitting (targetMatches boot target) := by
  unfold targetMatches
  cases boundedTarget? target with
  | none => trivial
  | some name =>
    refine Proc.raises_ite trivial (Proc.raises_ite trivial ?_)
    refine Proc.raises_bind (Proc.raises_atomic (fun _ _ _ he => by cases he)) (fun address => ?_)
    cases address <;> trivial

theorem fitting_onCommand : Fitting (onCommand boot doc) := by
  refine Proc.raises_bind fitting_targetMatches (fun found => Proc.raises_ite trivial ?_)
  cases boundedCommandId? (doc.getD "command_id") with
  | none => trivial
  | some commandId =>
    refine Proc.raises_bind raises_look (fun duplicate => Proc.raises_ite trivial ?_)
    refine Proc.raises_bind raises_look (fun full => Proc.raises_ite trivial ?_)
    exact Proc.raises_bind raises_update (fun _ => fitting_answerCommand)

theorem fitting_acceptUtc {epoch : Int} : Fitting (acceptUtc boot epoch) := by
  unfold acceptUtc
  cases boot.formatUtcEpochMs epoch with
  | error e => exact raises_adjustAt
  | ok timestamp =>
    refine Proc.raises_bind (Proc.raises_atomic (fun _ _ _ he => by cases he)) (fun _ => ?_)
    exact Proc.raises_atomic (fun _ _ _ he => by cases he)

theorem fitting_infoResponse : Fitting (handleInfoResponse boot doc) := by
  refine Proc.raises_ite trivial (Proc.raises_ite trivial (Proc.raises_ite trivial ?_))
  refine Proc.raises_bind raises_look (fun requestId => ?_)
  cases requestId with
  | none => trivial
  | some requestId =>
    refine Proc.raises_ite trivial ?_
    cases doc.getD "payload" with
    | dict payload =>
      dsimp only
      cases utcEpoch? payload with
      | some epoch => exact fitting_acceptUtc
      | none => exact raises_adjustAt
    | _ => exact raises_adjustAt

theorem fitting_message (topic payload : Bytes) : Fitting (onMqttMessage boot topic payload) := by
  refine Proc.raises_bind (Proc.raises_atomic (fun b i e he => ?_)) (fun parsed => ?_)
  · by_cases hm : i.memoryError = true
    · simp only [hm, if_true] at he
      cases he
      rfl
    · simp only [hm, Bool.false_eq_true, if_false] at he
      split at he <;> cases he
  · split
    · split
      · refine Proc.raises_ite trivial (Proc.raises_ite (Proc.raises_ite ?_ trivial) ?_)
        · exact Proc.raises_bind fitting_infoResponse (fun _ => trivial)
        · exact Proc.raises_ite trivial (Proc.raises_ite trivial fitting_onCommand)
      · trivial
    · trivial

theorem host_fitting : MqttClient.HostRaises (Mqtt.host boot) (fun e => e.oversized = false) :=
  ⟨raises_serviceWait, fitting_message⟩

end Callback

variable {boot : Boot} {rounds : Nat}

theorem raises_publishQos1 {tag : Option (Owner × Nat)} {topic : String} {message : Payload}
    {fragment : Option Bytes} :
    (Mqtt.publishQos1 boot rounds tag topic message fragment).Raises
      (fun e => e.oversized = false) := by
  refine Proc.raises_bind (Proc.raises_zoom (X := fun _ => False) raises_look (fun _ h => h.elim)) ?_
  intro connected
  refine Proc.raises_ite rfl (Proc.raises_bind ?_ (fun _ => ?_))
  · refine Proc.raises_handle (Proc.raises_bind ?_ (fun _ =>
      MqttClient.raises_publish transporting_fits host_fitting)) (fun e he => ?_)
    · exact Proc.raises_zoom (X := fun _ => False)
        (Proc.raises_atomic (fun _ _ _ he => by cases he)) (fun _ h => h.elim)
    · refine Proc.raises_ite (Proc.raises_bind ?_ (fun _ => he)) he
      exact Proc.raises_zoom (X := fun _ => False)
        (Proc.raises_atomic (fun _ _ _ he => by cases he)) (fun _ h => h.elim)
  · exact Proc.raises_zoom (X := fun _ => False) raises_adjustAt (fun _ h => h.elim)

end PicoDualCore
