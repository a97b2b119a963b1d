import PicoDualCore.Core0Steps
set_option autoImplicit false

namespace PicoDualCore
open AtomicProgram MqttClient

/-- The sessions, the waits and the snapshots of Core 0 move nothing else. -/
structure Housekeeping (b b' : Board) : Prop where
  core0 : b'.core0 = { b.core0 with
    uptime := b'.core0.uptime
    mqtt := b'.core0.mqtt
    networkStackReady := b'.core0.networkStackReady
    supervision := b'.core0.supervision
    lastNetworkSnapshotMs := b'.core0.lastNetworkSnapshotMs }
  outbound : b'.outbound = b.outbound
  events : b'.events = b.events
  disk : b'.disk = b.disk
  clock : b.nowMs ≤ b'.nowMs

inductive UpkeepStep (b : Board) : Board → Prop where
  | kept {b' : Board} (h : Housekeeping b b') : UpkeepStep b b'
  | reset : UpkeepStep b (b.withCommand (b.command.record (.reset none)))

theorem UpkeepStep.refl (b : Board) : UpkeepStep b b :=
  .kept ⟨rfl, rfl, rfl, rfl, Nat.le_refl _⟩

section Upkeep

variable {α β : Type}

def Upkeep (p : BoardProg α) : Prop :=
  ∀ b, p.wp (fun _ => True) (fun _ _ => True) UpkeepStep (fun _ _ => True) (fun _ _ => True) b

theorem upkeep_ret {a : α} : Upkeep (.ret a) := fun _ => trivial

theorem upkeep_stop : Upkeep (.stop : BoardProg α) := fun _ => trivial

theorem upkeep_seq {p : BoardProg α} {f : α → BoardProg β} (hp : Upkeep p)
    (hf : ∀ a, Upkeep (f a)) : Upkeep (p >>= f) := fun b =>
  (Proc.wp_seq _ _ _).mpr (Proc.wp_mono (hp b) (fun _ _ h => h) (fun a t _ => hf a t)
    (fun _ _ h => h))

theorem upkeep_ite {c : Prop} [Decidable c] {p q : BoardProg α} (hp : c → Upkeep p)
    (hq : ¬ c → Upkeep q) : Upkeep (if c then p else q) := by
  by_cases h : c
  · rw [if_pos h]
    exact hp h
  · rw [if_neg h]
    exact hq h

theorem upkeep_atomic {f : Board → CoreInput → Except Exc α × Board}
    (h : ∀ b i, UpkeepStep b (f b i).2) : Upkeep (.atomic f) := by
  refine fun _ => Proc.wp_atomic (fun t _ i _ => ⟨h t i, ?_⟩)
  cases (f t i).1 <;> trivial

theorem upkeep_look {f : Board → α} : Upkeep (look f) := upkeep_atomic (fun b _ => .refl b)

theorem upkeep_sense {f : CoreInput → α} : Upkeep (sense f) := upkeep_atomic (fun b _ => .refl b)

theorem upkeep_allocate : Upkeep allocate := upkeep_atomic (fun b _ => .refl b)

theorem upkeep_sleepMs {ms : Nat} : Upkeep (BoardProg.sleepMs ms) :=
  upkeep_atomic (fun _ _ => .kept ⟨rfl, rfl, rfl, rfl, Nat.le_add_right _ _⟩)

theorem upkeep_session {f : MqttSession → Nat → MqttSession} : Upkeep (session f) :=
  upkeep_atomic (fun _ _ => .kept ⟨rfl, rfl, rfl, rfl, Nat.le_refl _⟩)

theorem upkeep_setNetworkStackReady {ready : Bool} : Upkeep (setNetworkStackReady ready) :=
  upkeep_atomic (fun _ _ => .kept ⟨rfl, rfl, rfl, rfl, Nat.le_refl _⟩)

theorem upkeep_uptimeMs : Upkeep uptimeMs :=
  upkeep_atomic (fun _ _ => .kept ⟨rfl, rfl, rfl, rfl, Nat.le_refl _⟩)

theorem upkeep_takeNetworkSnapshot : Upkeep takeNetworkSnapshot :=
  upkeep_atomic (fun _ _ => .kept ⟨rfl, rfl, rfl, rfl, Nat.le_refl _⟩)

theorem upkeep_core1Activity : Upkeep core1Activity :=
  upkeep_atomic (fun _ _ => .kept ⟨rfl, rfl, rfl, rfl, Nat.le_refl _⟩)

theorem upkeep_heartbeatAge {lastActivityMs : Nat} : Upkeep (heartbeatAge lastActivityMs) :=
  upkeep_atomic (fun _ _ => .kept ⟨rfl, rfl, rfl, rfl, Nat.le_refl _⟩)

theorem upkeep_feedWatchdog : Upkeep feedWatchdog := by
  refine upkeep_atomic (fun b _ => .kept ?_)
  dsimp only
  split
  · exact ⟨rfl, rfl, rfl, rfl, Nat.le_refl _⟩
  · exact ⟨rfl, rfl, rfl, rfl, Nat.le_refl _⟩

theorem upkeep_serviceWait : Upkeep serviceWait := by
  refine upkeep_seq (upkeep_seq upkeep_core1Activity (fun lastActivityMs => ?_))
    (fun _ => upkeep_feedWatchdog)
  cases lastActivityMs with
  | none => exact upkeep_ret
  | some lastActivityMs =>
    refine upkeep_seq upkeep_heartbeatAge (fun ageMs =>
      upkeep_ite (fun _ => ?_) (fun _ => upkeep_ret))
    exact upkeep_seq (upkeep_atomic (fun _ _ => .reset)) (fun _ => upkeep_stop)

theorem upkeep_serviceSlices {slices : Nat} : Upkeep (serviceSlices slices) := by
  induction slices with
  | zero => exact upkeep_ret
  | succ slices ih =>
    exact upkeep_seq upkeep_serviceWait (fun _ => upkeep_seq upkeep_sleepMs (fun _ => ih))

theorem upkeep_sleepSliced {delaySec : Nat} : Upkeep (sleepSliced delaySec) := upkeep_serviceSlices

theorem upkeep_publishNetworkSnapshot {boot : Boot} {force : Bool} :
    Upkeep (publishNetworkSnapshot boot force) :=
  upkeep_seq upkeep_look (fun _ => upkeep_ite (fun _ => upkeep_takeNetworkSnapshot)
    (fun _ => upkeep_ret))

theorem upkeep_wifiConnect : Upkeep wifiConnect :=
  upkeep_seq upkeep_allocate (fun _ => upkeep_seq upkeep_sense (fun _ =>
    upkeep_seq upkeep_serviceSlices (fun _ => upkeep_sense)))

theorem upkeep_establishWifi {boot : Boot} {turns : Nat} : Upkeep (establishWifi boot turns) := by
  induction turns with
  | zero => exact upkeep_stop
  | succ turns ih =>
    refine upkeep_seq upkeep_sense (fun _ => upkeep_ite (fun _ => upkeep_ret) (fun _ => ?_))
    refine upkeep_seq upkeep_wifiConnect (fun _ => upkeep_ite (fun _ => upkeep_ret) (fun _ => ?_))
    exact upkeep_seq upkeep_sleepSliced (fun _ => ih)

theorem upkeep_networkIsUp : Upkeep networkIsUp :=
  upkeep_seq upkeep_sense (fun _ => upkeep_ite (fun _ => upkeep_look) (fun _ => upkeep_ret))

theorem upkeep_waitForMqttPublishSlot {boot : Boot} {turns : Nat} :
    Upkeep (waitForMqttPublishSlot boot turns) := by
  induction turns with
  | zero => exact upkeep_stop
  | succ turns ih =>
    exact upkeep_seq upkeep_look (fun _ => upkeep_ite (fun _ => upkeep_ret)
      (fun _ => upkeep_seq upkeep_sleepMs (fun _ => ih)))

end Upkeep

section Link

variable {boot : Boot} {rounds : Nat} {A : NetInput CoreInput → Prop}
  {R G : Sys Board → Sys Board → Prop} {J : Sys Board → Prop} {s : Sys Board} {α : Type}

structure LinkRule (boot : Boot) (rounds : Nat) (A : NetInput CoreInput → Prop)
    (R G : Sys Board → Sys Board → Prop) (J : Sys Board → Prop) : Prop where
  upkeep : ∀ {α : Type} {p : BoardProg α} {s}, Upkeep p → J s → Keeping A R G J (onApp p) s
  connectOnce : ∀ {s}, J s → Keeping A R G J (Mqtt.connectOnce boot rounds) s
  checkMsg : ∀ {s}, J s →
    Keeping A R G J (MqttClient.checkMsg (Mqtt.host boot) (Mqtt.ackTimeoutMs boot)) s
  ping : ∀ {s}, J s → Keeping A R G J (MqttClient.ping (Mqtt.host boot) rounds
    (some (min Mqtt.MAX_PINGRESP_WAIT_SEC (Mqtt.pingIntervalSec boot) * 1000))) s

theorem keeping_handle {p : CoreProg α} {h : Exc → CoreProg α} (hp : Keeping A R G J p s)
    (hh : ∀ e t, J t → Keeping A R G J (h e) t) : Keeping A R G J (p.handle h) s :=
  (Proc.wp_handle _ _ _).mpr (Proc.wp_mono hp (fun _ _ h => h) (fun _ _ h => h)
    (fun e t ht => hh e t ht))

namespace LinkRule

variable (rule : LinkRule boot rounds A R G J)
include rule

theorem orDisconnect {reason : DisconnectReason} {exchange : CoreProg α}
    (h : Keeping A R G J exchange s) :
    Keeping A R G J (Mqtt.orDisconnect reason exchange) s := by
  refine keeping_handle h (fun e t ht => ?_)
  exact keeping_ite (fun _ => keeping_seq (rule.upkeep upkeep_session ht) (fun _ _ hu => hu))
    (fun _ => ht)

theorem mqttCheckMsg (hs : J s) : Keeping A R G J (Mqtt.checkMsg boot) s := by
  refine keeping_seq (rule.upkeep upkeep_look hs) (fun connected t ht => ?_)
  refine keeping_ite (fun _ => ?_) (fun _ => ht)
  exact rule.orDisconnect (keeping_seq (rule.checkMsg ht) (fun _ _ hu => hu))

theorem mqttPing (hs : J s) : Keeping A R G J (Mqtt.ping boot rounds) s := by
  refine keeping_seq (rule.upkeep upkeep_look hs) (fun connected t ht => ?_)
  refine keeping_ite (fun _ => ht) (fun _ => ?_)
  exact keeping_seq (rule.orDisconnect (rule.ping ht))
    (fun _ _ hu => rule.upkeep upkeep_session hu)

theorem attemptConnect (hs : J s) : Keeping A R G J (Mqtt.attemptConnect boot rounds) s := by
  refine keeping_handle (keeping_seq (rule.connectOnce hs) (fun _ _ ht => ht)) (fun e t ht => ?_)
  exact keeping_ite (fun _ => keeping_seq (rule.upkeep upkeep_session ht) (fun _ _ hu => hu))
    (fun _ => ht)

theorem connectAfter {delays : List Nat} (hs : J s) :
    Keeping A R G J (Mqtt.connectAfter boot rounds delays) s := by
  induction delays generalizing s with
  | nil => exact hs
  | cons delaySec rest ih =>
    refine keeping_seq (rule.attemptConnect hs) (fun connected t ht => ?_)
    refine keeping_ite (fun _ => ht) (fun _ => keeping_ite (fun _ => ?_) (fun _ => ih ht))
    exact keeping_seq (rule.upkeep upkeep_sleepSliced ht) (fun _ _ hu => ih hu)

theorem establishMqtt {turns : Nat} (hs : J s) :
    Keeping A R G J (establishMqtt boot rounds turns) s := by
  induction turns generalizing s with
  | zero => trivial
  | succ turns ih =>
    refine keeping_seq (rule.upkeep upkeep_look hs) (fun up t ht => keeping_ite (fun _ => ht) ?_)
    intro _
    refine keeping_seq (rule.connectAfter ht) (fun connected t ht => keeping_ite (fun _ => ht) ?_)
    exact fun _ => keeping_seq (rule.upkeep upkeep_sleepSliced ht) (fun _ _ hu => ih hu)

theorem establishNetwork (hs : J s) : Keeping A R G J (establishNetwork boot rounds) s :=
  keeping_seq (rule.upkeep upkeep_establishWifi hs) (fun _ _ ht => rule.establishMqtt ht)

theorem recoverNetworkIfNeeded (hs : J s) :
    Keeping A R G J (recoverNetworkIfNeeded boot rounds) s := by
  refine keeping_seq (rule.upkeep upkeep_networkIsUp hs) (fun up s hs => ?_)
  refine keeping_ite (fun _ => hs) (fun _ => ?_)
  refine keeping_seq (rule.upkeep upkeep_setNetworkStackReady hs) (fun _ s hs => ?_)
  refine keeping_seq (rule.upkeep upkeep_sense hs) (fun _ s hs => ?_)
  have hrest : ∀ t, J t → Keeping A R G J (do
      onApp (publishNetworkSnapshot boot true)
      PicoDualCore.establishNetwork boot rounds
      onApp (setNetworkStackReady true)
      onApp (publishNetworkSnapshot boot true)) t := by
    intro t ht
    refine keeping_seq (rule.upkeep upkeep_publishNetworkSnapshot ht) (fun _ t ht => ?_)
    refine keeping_seq (rule.establishNetwork ht) (fun _ t ht => ?_)
    exact keeping_seq (rule.upkeep upkeep_setNetworkStackReady ht)
      (fun _ _ ht => rule.upkeep upkeep_publishNetworkSnapshot ht)
  exact keeping_ite (fun _ => keeping_seq (rule.upkeep upkeep_session hs) (fun _ t ht => hrest t ht))
    (fun _ => hrest s hs)

end LinkRule

theorem keeping_closeOldClient (rule : SessionRule (Mqtt.host boot) A R G J)
    (hupkeep : ∀ {α : Type} {p : BoardProg α} {s}, Upkeep p → J s → Keeping A R G J (onApp p) s)
    (hs : J s) : Keeping A R G J Mqtt.closeOldClient s := by
  refine keeping_seq (hupkeep upkeep_look hs) (fun hadClient s hs => ?_)
  refine keeping_seq (hupkeep upkeep_session hs) (fun _ s hs => ?_)
  have hinspect : Keeping A R G J (inspect (fun s : Sys Board => s.net.sock.isSome)) s :=
    Proc.wp_atomic (fun t ht _ _ => rule.step (rule.stable ht hs) (.idle t.net))
  refine keeping_seq hinspect (fun hasSocket s hs => keeping_ite (fun _ => ?_) (fun _ => hs))
  refine keeping_handle (rule.toClientRule.onNet (fun n a => .close n a) hs) (fun e t ht => ?_)
  cases e <;> exact ht

theorem keeping_connectOnce (rule : SessionRule (Mqtt.host boot) A R G J)
    (hupkeep : ∀ {α : Type} {p : BoardProg α} {s}, Upkeep p → J s → Keeping A R G J (onApp p) s)
    (hs : J s) : Keeping A R G J (Mqtt.connectOnce boot rounds) s := by
  refine keeping_seq (keeping_closeOldClient rule hupkeep hs) (fun _ s hs => ?_)
  refine keeping_seq (keeping_seq (rule.onNet (fun n _ => .newClient n) hs)
    (fun _ _ ht => hupkeep upkeep_session ht)) (fun _ s hs => ?_)
  refine keeping_seq (rule.connect hs) (fun _ s hs => ?_)
  refine keeping_seq (rule.exchange.subscribe hs) (fun _ s hs => ?_)
  refine keeping_seq (rule.exchange.subscribe hs) (fun _ s hs => ?_)
  exact keeping_seq (rule.toClientRule.settimeout hs) (fun _ _ ht => hupkeep upkeep_session ht)

theorem LinkRule.ofSession (rule : SessionRule (Mqtt.host boot) A R G J)
    (hupkeep : ∀ {α : Type} {p : BoardProg α} {s}, Upkeep p → J s → Keeping A R G J (onApp p) s) :
    LinkRule boot rounds A R G J where
  upkeep := hupkeep
  connectOnce := keeping_connectOnce rule hupkeep
  checkMsg := rule.toClientRule.checkMsg
  ping := rule.toClientRule.ping

end Link
end PicoDualCore
