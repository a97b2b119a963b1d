import PicoDualCore.ConfigSpec
import PicoDualCore.ScheduleSteps
set_option autoImplicit false

namespace PicoDualCore
open AtomicProgram MqttClient

def MAX_SOCKET_TIMEOUT_MS : Nat := 5000

/-- The last check found Core 1's stamp fresh, if there was one. -/
def Supervision.Alive (r : Supervision) : Prop :=
  ∀ ageMs, r.heartbeatAgeMs = some ageMs → ageMs < CORE_1_HEARTBEAT_STALE_TIMEOUT_MS

/-- The last turn of the hook found Core 1 alive, if it had stamped at all, and fed the watchdog. -/
structure Supervised (b : Board) : Prop where
  alive : b.core0.supervision.Alive
  fed : b.core0.watchdogArmed = true →
    ∃ fedMs, b.core0.supervision.fedMs = some fedMs ∧ fedMs ≤ b.nowMs

/-- At most one event is recorded, and a call comes with a turn of the hook in front of it, since
the last call, and under a short timeout. -/
inductive Disciplined (s t : Sys Board) : Prop where
  | quiet (h : t.net.events = s.net.events)
  | event (e : SocketEvent) (h : t.net.events = s.net.events ++ [e]) (hcall : e.callTimeout? = none)
  | call (e : SocketEvent) (timeoutMs : Nat) (h : t.net.events = s.net.events ++ [e])
      (hcall : e.callTimeout? = some (some timeoutMs)) (hshort : timeoutMs ≤ MAX_SOCKET_TIMEOUT_MS)
      (hserviced : s.net.serviced = true) (hsupervised : Supervised s.app)
      (hspent : t.net.serviced = false)

def Timed (n : Network) : Prop := ∀ k, n.sock = some k → ∃ c timeoutMs,
  n.connections[k]? = some c ∧ c.timeoutMs = some timeoutMs ∧ timeoutMs ≤ MAX_SOCKET_TIMEOUT_MS

theorem current_some {n : Network} {k : Nat} {c : Connection} (h : n.current = some (k, c)) :
    n.sock = some k ∧ n.connections[k]? = some c := by
  unfold Network.current at h
  cases hsock : n.sock with
  | none => simp [hsock] at h
  | some k' =>
    cases hget : n.connections[k']? with
    | none => simp [hsock, hget] at h
    | some c₀ =>
      obtain ⟨rfl, rfl⟩ : k' = k ∧ c₀ = c := by simpa [hsock, hget] using h
      exact ⟨rfl, hget⟩

theorem Timed.current {n : Network} {k : Nat} {c : Connection} (h : Timed n)
    (hcur : n.current = some (k, c)) :
    ∃ timeoutMs, c.timeoutMs = some timeoutMs ∧ timeoutMs ≤ MAX_SOCKET_TIMEOUT_MS := by
  obtain ⟨hsock, hget⟩ := current_some hcur
  obtain ⟨c₀, timeoutMs, hc₀, htimeout, hshort⟩ := h k hsock
  obtain rfl : c = c₀ := Option.some.inj (hget.symm.trans hc₀)
  exact ⟨timeoutMs, htimeout, hshort⟩

theorem Timed.put {n : Network} {k : Nat} {c c' : Connection} {timeoutMs : Nat}
    (hcur : n.current = some (k, c)) (htimeout : c'.timeoutMs = some timeoutMs)
    (hshort : timeoutMs ≤ MAX_SOCKET_TIMEOUT_MS) : Timed (n.put k c') := by
  obtain ⟨hsock, hget⟩ := current_some hcur
  have hk : k < n.connections.length := (List.getElem?_eq_some_iff.mp hget).1
  intro j hj
  obtain rfl : k = j := Option.some.inj (hsock.symm.trans hj)
  exact ⟨c', timeoutMs, by simp [Network.put, hk], htimeout, hshort⟩

theorem Timed.peer {s t : Sys Board} (h : Timed s.net) (hp : Peer s t) : Timed t.net := by
  intro k hk
  obtain ⟨c, timeoutMs, hc, htimeout, hshort⟩ := h k (hp.sock ▸ hk)
  obtain ⟨more, hm⟩ := hp.inbound k c hc
  exact ⟨_, timeoutMs, hm, htimeout, hshort⟩

inductive Called (n : Network) : Network → Prop where
  | refused : Called n n
  | made (k : Nat) (c c' : Connection) (e : SocketEvent) (hcur : n.current = some (k, c))
      (hcall : e.callTimeout? = some c.timeoutMs) (hsame : c'.timeoutMs = c.timeoutMs) :
      Called n ((n.put k c').record e)
  | connected (k : Nat) (c : Connection) (e : SocketEvent) (hcur : n.current = some (k, c))
      (hcall : e.callTimeout? = some c.timeoutMs) : Called n (n.record e)

theorem called_read (n : Network) (size : Nat) (a : SocketAnswer) : Called n (n.read size a).2 := by
  unfold Network.read Network.onSocket
  cases hcur : n.current with
  | none => exact .refused
  | some socket =>
    cases a with
    | memory => exact .refused
    | _ => exact .made socket.1 socket.2 _ _ hcur rfl rfl

theorem called_write (n : Network) (owner : Option Owner) (bytes : Bytes) (a : SocketAnswer) :
    Called n (n.write owner bytes a).2 := by
  unfold Network.write Network.onSocket
  cases hcur : n.current with
  | none => exact .refused
  | some socket =>
    cases a with
    | memory => exact .refused
    | fail count => exact .made socket.1 socket.2 _ _ hcur rfl rfl
    | _ =>
      dsimp only
      split
      · exact .refused
      · exact .made socket.1 socket.2 _ _ hcur rfl rfl

theorem called_connectSocket (n : Network) (a : SocketAnswer) : Called n (n.connectSocket a).2 := by
  unfold Network.connectSocket Network.onSocket
  cases hcur : n.current with
  | none => exact .refused
  | some socket =>
    cases a with
    | memory => exact .refused
    | _ => exact .connected socket.1 socket.2 _ hcur rfl

theorem Called.disciplined {s : Sys Board} {n : Network} (h : Called s.net n) (ht : Timed s.net)
    (hs : s.net.serviced = true) (hsupervised : Supervised s.app) :
    Disciplined s { s with net := n } ∧ Timed n := by
  cases h with
  | refused => exact ⟨.quiet rfl, ht⟩
  | made k c c' e hcur hcall hsame =>
    obtain ⟨timeoutMs, htimeout, hshort⟩ := ht.current hcur
    refine ⟨.call e timeoutMs rfl (hcall.trans (by rw [htimeout])) hshort hs hsupervised ?_, ?_⟩
    · simp [Network.record, hcall]
    · exact @Timed.put s.net k c c' timeoutMs hcur (hsame.trans htimeout) hshort
  | connected k c e hcur hcall =>
    obtain ⟨timeoutMs, htimeout, hshort⟩ := ht.current hcur
    refine ⟨.call e timeoutMs rfl (hcall.trans (by rw [htimeout])) hshort hs hsupervised ?_, ht⟩
    simp [Network.record, hcall]

theorem MqttClient.QuietStep.disciplined {s : Sys Board} {n : Network} (h : QuietStep s.net n)
    (ht : Timed s.net) : Disciplined s { s with net := n } ∧ Timed n := by
  cases h with
  | close a =>
    unfold Network.close Network.onSocket
    cases hcur : s.net.current with
    | none => exact ⟨.quiet rfl, ht⟩
    | some socket =>
      obtain ⟨timeoutMs, htimeout, hshort⟩ := ht.current hcur
      cases a with
      | memory => exact ⟨.quiet rfl, ht⟩
      | fail count => exact ⟨.quiet rfl, ht⟩
      | _ => exact ⟨.event _ rfl rfl, Timed.put hcur htimeout hshort⟩
  | deliver topic payload => exact ⟨.event _ rfl rfl, ht⟩
  | packetId pid => exact ⟨.quiet rfl, ht⟩

theorem settimeout_timed {n : Network} {timeoutMs : Nat} {a : SocketAnswer}
    (hshort : timeoutMs ≤ MAX_SOCKET_TIMEOUT_MS)
    (hok : (n.settimeout (some timeoutMs) a).1 = .ok ()) :
    Timed (n.settimeout (some timeoutMs) a).2 := by
  unfold Network.settimeout Network.onSocket at hok ⊢
  cases hcur : n.current with
  | none => simp [hcur] at hok
  | some socket =>
    cases a with
    | memory => simp [hcur] at hok
    | fail count => simp [hcur] at hok
    | _ => exact Timed.put hcur rfl hshort

section Walk

variable {boot : Boot} {rounds : Nat} {A : NetInput CoreInput → Prop} {s : Sys Board} {α β : Type}

abbrev TimedCalls (A : NetInput CoreInput → Prop) (p : CoreProg α) (s : Sys Board) : Prop :=
  Keeping A Around Disciplined (fun t => Timed t.net) p s

abbrev Calls (A : NetInput CoreInput → Prop) (p : CoreProg α) (s : Sys Board) : Prop :=
  Keeping A Around Disciplined (fun _ => True) p s

theorem timed_stable : ∀ s t : Sys Board, Around s t → Timed s.net → Timed t.net :=
  fun _ _ hr hs => hs.peer hr.peer

theorem calls_onApp {p : BoardProg α} : Calls A (onApp p) s :=
  keeping_onApp (K := fun _ => True) (fun _ _ _ _ => trivial) (fun _ _ _ => .quiet rfl) p trivial

theorem calls_then {p : CoreProg α} {f : α → CoreProg β} (hp : Calls A p s)
    (hf : ∀ a t, Calls A (f a) t) : Calls A (p >>= f) s :=
  keeping_seq hp (fun a t _ => hf a t)

theorem calls_onNet {f : Network → SocketAnswer → Except Exc α × Network}
    (h : ∀ n a, (f n a).2.events = n.events ∨
      ∃ e, (f n a).2.events = n.events ++ [e] ∧ e.callTimeout? = none) : Calls A (onNet f) s := by
  refine keeping_onNet (fun _ => trivial) (fun a t _ => ⟨?_, trivial⟩)
  rcases h t.net a with h | ⟨e, h, hcall⟩
  · exact .quiet h
  · exact .event e h hcall

theorem calls_settimeout {timeoutMs : Option Nat} :
    Calls A (onNet (Network.settimeout timeoutMs) : CoreProg Unit) s :=
  calls_onNet (fun n a => .inl (Network.settimeout_events n timeoutMs a).1)

theorem Supervised.others {b b' : Board} (h : Supervised b) (ho : Others b b') :
    Supervised b' := by
  obtain ⟨halive, hfed⟩ := h
  constructor
  · rwa [ho.core0]
  · intro harmed
    rw [ho.core0] at harmed ⊢
    obtain ⟨fedMs, hfed, hpast⟩ := hfed harmed
    exact ⟨fedMs, hfed, hpast.trans ho.clock⟩

/-- The check comes back only when Core 1 is alive. -/
theorem alive_watchCore1Heartbeat {B : CoreInput → Prop} {b : Board} :
    watchCore1Heartbeat.wp B Others (fun _ _ => True) (fun _ b' => b'.core0.supervision.Alive)
      (fun _ _ => True) b := by
  refine (Proc.wp_seq _ _ _).mpr (Proc.wp_atomic (fun t _ _ _ => ⟨trivial, ?_⟩))
  dsimp only
  cases t.mailboxes.core1ActivityMs with
  | none => exact Proc.wp_ret.mpr (fun _ hage => by cases hage)
  | some lastActivityMs =>
    refine (Proc.wp_seq _ _ _).mpr (Proc.wp_atomic (fun u _ _ _ => ⟨trivial, ?_⟩))
    dsimp only
    by_cases hstale : (CORE_1_HEARTBEAT_STALE_TIMEOUT_MS : Int) ≤ ticksDiff u.ticksMs lastActivityMs
    · rw [if_pos hstale]
      exact (Proc.wp_seq _ _ _).mpr (Proc.wp_atomic (fun _ _ _ _ => ⟨trivial, trivial⟩))
    · rw [if_neg hstale]
      refine Proc.wp_ret.mpr (fun ageMs hage => ?_)
      cases hage
      omega

theorem supervised_serviceWait {B : CoreInput → Prop} {b : Board} :
    serviceWait.wp B Others (fun _ _ => True) (fun _ b' => Supervised b') (fun _ _ => True) b := by
  refine (Proc.wp_seq _ _ _).mpr (Proc.wp_mono alive_watchCore1Heartbeat (fun _ _ h => h)
    (fun _ t halive => Proc.wp_atomic (fun u hu _ _ => ⟨trivial, ?_⟩)) (fun _ _ h => h))
  rw [← hu.core0] at halive
  dsimp only
  split
  · exact ⟨halive, fun _ => ⟨u.nowMs, rfl, Nat.le_refl _⟩⟩
  · rename_i hunarmed
    exact ⟨halive, fun harmed => (hunarmed harmed).elim⟩

theorem serviced_service (hs : Timed s.net) : (service (Mqtt.host boot)).wp A Around Disciplined
    (fun _ t => Timed t.net ∧ t.net.serviced = true ∧ Supervised t.app) (fun _ t => Timed t.net)
    s := by
  have hturn : (onApp serviceWait).wp A Around Disciplined
      (fun _ t => Timed t.net ∧ Supervised t.app) (fun _ t => Timed t.net) s := by
    refine Proc.wp_zoom (A := fun _ => True) (G := fun _ _ => True) (J := fun u => Timed u.net)
      (fun _ _ => trivial) (fun u v hu hr => ⟨hr.board, timed_stable u v hr hu⟩) ?_
      (fun _ _ hu hsupervised => ⟨hu, hsupervised⟩) (fun _ _ hu _ => hu) hs supervised_serviceWait
    exact fun _ _ hu _ => ⟨.quiet rfl, hu, rfl⟩
  refine (Proc.wp_seq _ _ _).mpr (Proc.wp_mono hturn (fun _ _ h => h) ?_ (fun _ _ h => h))
  rintro _ t ⟨ht, hsupervised⟩
  exact Proc.wp_atomic (fun u hu _ _ =>
    ⟨.quiet rfl, timed_stable t u hu ht, rfl, hsupervised.others hu.board⟩)

theorem timedCalls_serviced {f : Network → SocketAnswer → Except Exc α × Network}
    (hf : ∀ n a, Called n (f n a).2) (hs : Timed s.net) :
    TimedCalls A (service (Mqtt.host boot) >>= fun _ => onNet f) s := by
  refine (Proc.wp_seq _ _ _).mpr (Proc.wp_mono (serviced_service hs) (fun _ _ h => h) ?_
    (fun _ _ h => h))
  rintro _ t ⟨ht, hserviced, hsupervised⟩
  refine Proc.wp_atomic (fun u hu i _ => ?_)
  obtain ⟨hcall, hnext⟩ := (hf u.net i.socket).disciplined (timed_stable t u hu ht)
    (hu.peer.serviced.trans hserviced) (hsupervised.others hu.board)
  refine ⟨hcall, ?_⟩
  dsimp only
  cases (f u.net i.socket).1 <;> exact hnext

theorem exchangeRule_timed : ExchangeRule (Mqtt.host boot) A Around Disciplined (fun t => Timed t.net) where
  stable := fun hr hs => timed_stable _ _ hr hs
  quiet := fun hs h => h.disciplined hs
  read := fun size hs => timedCalls_serviced (fun n a => called_read n size a) hs
  write := fun bytes hs => timedCalls_serviced (fun n a => called_write n none bytes a) hs
  callback := fun _ _ hs _ => keeping_onApp timed_stable (fun _ _ _ => .quiet rfl) _ hs

abbrev Arms (A : NetInput CoreInput → Prop) (p : CoreProg α) (s : Sys Board) : Prop :=
  p.wp A Around Disciplined (fun _ t => Timed t.net) (fun _ _ => True) s

theorem arms_settimeout {timeoutMs : Nat} (hshort : timeoutMs ≤ MAX_SOCKET_TIMEOUT_MS) :
    Arms A (onNet (Network.settimeout (some timeoutMs)) : CoreProg Unit) s := by
  refine Proc.wp_atomic (fun t _ i _ => ⟨.quiet (Network.settimeout_events _ _ _).1, ?_⟩)
  dsimp only
  cases hset : (t.net.settimeout (some timeoutMs) i.socket).1 with
  | error e => trivial
  | ok done => exact settimeout_timed hshort hset

theorem TimedCalls.arms {p : CoreProg α} (h : TimedCalls A p s) : Arms A p s :=
  Proc.wp_mono h (fun _ _ h => h) (fun _ _ h => h) (fun _ _ _ => trivial)

theorem Arms.calls {p : CoreProg α} (h : Arms A p s) : Calls A p s :=
  Proc.wp_mono h (fun _ _ h => h) (fun _ _ _ => trivial) (fun _ _ h => h)

theorem arms_then {p : CoreProg α} {f : α → CoreProg β} (hp : Arms A p s)
    (hf : ∀ a t, Timed t.net → Arms A (f a) t) : Arms A (p >>= f) s :=
  (Proc.wp_seq _ _ _).mpr (Proc.wp_mono hp (fun _ _ h => h) hf (fun _ _ h => h))

theorem calls_armed {p : CoreProg α} {f : α → CoreProg β} (hp : Arms A p s)
    (hf : ∀ a t, Timed t.net → Calls A (f a) t) : Calls A (p >>= f) s :=
  (Proc.wp_seq _ _ _).mpr (Proc.wp_mono hp (fun _ _ h => h) hf (fun _ _ h => h))

theorem calls_finish {p : CoreProg α} (hp : TimedCalls A p s) :
    Calls A (p.finish (onNet (Network.settimeout none))) s :=
  keeping_finish hp.arms.calls (fun _ _ => calls_settimeout)

theorem calls_timed {timeoutMs : Nat} {exchange : CoreProg α}
    (hshort : timeoutMs ≤ MAX_SOCKET_TIMEOUT_MS)
    (h : ∀ t, Timed t.net → TimedCalls A exchange t) :
    Calls A (timed (some timeoutMs) exchange) s :=
  calls_armed (arms_settimeout hshort) (fun _ t ht => calls_finish (h t ht))

theorem calls_checkMsg {timeoutMs : Nat} (hshort : timeoutMs ≤ MAX_SOCKET_TIMEOUT_MS) :
    Calls A (checkMsg (Mqtt.host boot) timeoutMs) s := by
  refine calls_then (calls_onNet (fun n a => .inl ?_)) (fun ready t => ?_)
  · rw [Network.onSocket_same (fun _ _ => by cases a <;> rfl)]
  · refine keeping_ite (fun _ => trivial) (fun _ => ?_)
    exact calls_armed (arms_settimeout hshort)
      (fun _ u hu => calls_finish (exchangeRule_timed.waitMsg hu))

theorem calls_ping {rounds timeoutMs : Nat} (hshort : timeoutMs ≤ MAX_SOCKET_TIMEOUT_MS) :
    Calls A (ping (Mqtt.host boot) rounds (some timeoutMs)) s :=
  calls_timed hshort (fun _ ht => keeping_seq (exchangeRule_timed.write _ ht)
    (fun _ _ hu => exchangeRule_timed.awaitPingresp hu))

theorem calls_publish {rounds timeoutMs : Nat} {owner : Option Owner} {topic : List Char}
    {message : Payload} {packetId : Option Nat} {fragment : Option Bytes}
    (hshort : timeoutMs ≤ MAX_SOCKET_TIMEOUT_MS) :
    Calls A (publish (Mqtt.host boot) rounds owner topic message packetId (some timeoutMs) fragment) s := by
  have hexchange : ∀ pid t, Calls A (timed (some timeoutMs) (do
      (frameSegments topic message pid fragment).forM (MqttClient.write (Mqtt.host boot) owner)
      awaitPuback (Mqtt.host boot) pid rounds)) t := fun pid t =>
    calls_timed hshort (fun u hu => keeping_seq
      (keeping_forM _ (fun bytes _ hv => timedCalls_serviced
        (fun n a => called_write n owner bytes a) hv) hu)
      (fun _ _ hv => exchangeRule_timed.awaitPuback hv))
  unfold publish
  refine keeping_ite (fun _ => trivial) (fun _ => ?_)
  cases packetId with
  | none => exact calls_then (calls_onNet (fun _ _ => .inl rfl)) (fun pid t => hexchange pid t)
  | some pid => exact hexchange pid s

theorem timedCalls_then {f : Network → SocketAnswer → Except Exc α × Network}
    {rest : α → CoreProg β} (hf : ∀ n a, Called n (f n a).2) (hs : Timed s.net)
    (hrest : ∀ a t, Timed t.net → TimedCalls A (rest a) t) :
    TimedCalls A (service (Mqtt.host boot) >>= fun _ => onNet f >>= rest) s := by
  refine (Proc.wp_seq _ _ _).mpr (Proc.wp_mono ((Proc.wp_seq _ _ _).mp
    (timedCalls_serviced hf hs)) (fun _ _ h => h) (fun _ t ht => ?_) (fun _ _ h => h))
  exact keeping_seq ht hrest

theorem timedCalls_handshake {clientId : List Char} {keepalive : Nat} (hs : Timed s.net) :
    TimedCalls A (do
      service (Mqtt.host boot)
      onNet Network.getaddrinfo
      service (Mqtt.host boot)
      onNet Network.connectSocket
      if 65535 < keepalive then
        throw (.mqttException "Keepalive exceeds the 65535-second MQTT maximum")
      write (Mqtt.host boot) none (0x10 :: Base128.encode (10 + 2 + clientId.length) ++ [0x00])
      write (Mqtt.host boot) none (connectHeader keepalive)
      sendStr (Mqtt.host boot) none clientId
      match ← readRequired (Mqtt.host boot) 4 with
      | [kind, size, flags, code] =>
        if kind ≠ 0x20 ∨ size ≠ 0x02 then throw (.mqttException "Invalid CONNACK")
        let shown := code.toNat
        if code ≠ 0 then throw (.mqttException s!"{shown}")
        pure (flags &&& 1).toNat
      | _ => throw (.osError "-1")) s := by
  have hservice : TimedCalls A (service (Mqtt.host boot)) s := Proc.wp_mono (serviced_service hs)
    (fun _ _ h => h) (fun _ _ h => h.1) (fun _ _ h => h)
  have hlookup : ∀ t : Sys Board, Timed t.net →
      TimedCalls A (onNet Network.getaddrinfo : CoreProg Unit) t := fun t ht =>
    keeping_onNet (fun hr => timed_stable _ _ hr ht)
      (fun a u hu => by cases a <;> exact ⟨.quiet rfl, hu⟩)
  refine keeping_seq hservice (fun _ t ht => keeping_seq (hlookup t ht) (fun _ t ht => ?_))
  refine timedCalls_then called_connectSocket ht (fun _ t ht => ?_)
  refine keeping_guard ht ht (fun t ht => ?_)
  refine keeping_seq (exchangeRule_timed.write _ ht) (fun _ t ht => ?_)
  refine keeping_seq (exchangeRule_timed.write _ ht) (fun _ t ht => ?_)
  refine keeping_seq (exchangeRule_timed.sendStr ht) (fun _ t ht => ?_)
  refine keeping_seq (exchangeRule_timed.readRequired ht) (fun answer t ht => ?_)
  split
  · exact keeping_guard ht ht (fun _ hu => keeping_guard hu hu (fun _ hv => hv))
  · exact ht

theorem arms_connect {clientId : List Char} {keepalive timeoutMs : Nat}
    (hshort : timeoutMs ≤ MAX_SOCKET_TIMEOUT_MS) :
    Arms A (connect (Mqtt.host boot) clientId keepalive (some timeoutMs)) s := by
  have hopen : Calls A (onNet Network.openSocket : CoreProg Unit) s := calls_onNet (fun n a => by
    cases a with
    | fail count => exact .inl rfl
    | memory => exact .inl rfl
    | _ => exact .inr ⟨_, rfl, rfl⟩)
  refine (Proc.wp_seq _ _ _).mpr (Proc.wp_mono hopen (fun _ _ h => h) (fun _ t _ => ?_)
    (fun _ _ h => h))
  exact arms_then (arms_settimeout hshort) (fun _ _ ht => (timedCalls_handshake ht).arms)

theorem calls_closeOldClient : Calls A Mqtt.closeOldClient s := by
  refine calls_then calls_onApp (fun hadClient t => calls_then calls_onApp (fun _ t => ?_))
  refine calls_then (Proc.wp_atomic (fun _ _ _ _ => ⟨.quiet rfl, trivial⟩)) (fun hasSocket t => ?_)
  refine keeping_ite (fun _ => ?_) (fun _ => trivial)
  refine keeping_handle (calls_onNet (fun n a => ?_)) (fun e _ _ => by cases e <;> trivial)
  unfold Network.close Network.onSocket
  cases n.current with
  | none => exact .inl rfl
  | some socket =>
    cases a with
    | memory => exact .inl rfl
    | fail count => exact .inl rfl
    | _ => exact .inr ⟨_, rfl, rfl⟩

theorem calls_connectOnce {boot : Boot} {rounds : Nat}
    (hshort : Mqtt.ackTimeoutMs boot ≤ MAX_SOCKET_TIMEOUT_MS) :
    Calls A (Mqtt.connectOnce boot rounds) s := by
  refine calls_then calls_closeOldClient (fun _ t => ?_)
  refine calls_then (calls_then (calls_onNet (fun _ _ => .inl rfl)) (fun _ _ => calls_onApp)) ?_
  intro _ t
  refine calls_armed (arms_connect hshort) (fun _ t ht => ?_)
  refine calls_armed (TimedCalls.arms (exchangeRule_timed.subscribe ht)) (fun _ t ht => ?_)
  refine calls_armed (TimedCalls.arms (exchangeRule_timed.subscribe ht)) (fun _ t ht => ?_)
  exact calls_then calls_settimeout (fun _ _ => calls_onApp)

section Run

variable {boot : Boot} {rounds : Nat}

theorem calls_publishQos1 {tag : Option (Owner × Nat)} {topic : String} {message : Payload}
    {fragment : Option Bytes} (hshort : Mqtt.ackTimeoutMs boot ≤ MAX_SOCKET_TIMEOUT_MS) :
    Calls A (Mqtt.publishQos1 boot rounds tag topic message fragment) s := by
  refine calls_then calls_onApp (fun connected t => keeping_ite (fun _ => trivial) (fun _ => ?_))
  refine calls_then ?_ (fun _ _ => calls_onApp)
  refine keeping_handle (calls_then calls_onApp (fun _ _ => calls_publish hshort)) ?_
  exact fun e t _ => keeping_ite (fun _ => calls_then calls_onApp (fun _ _ => trivial))
    (fun _ => trivial)

theorem calls_utcSendRequest (hshort : Mqtt.ackTimeoutMs boot ≤ MAX_SOCKET_TIMEOUT_MS) :
    Calls A (utcSendRequest boot rounds) s := by
  refine calls_then calls_onApp (fun requestId t => calls_then ?_ (fun sent t => ?_))
  · refine keeping_handle (calls_then (calls_publishQos1 hshort) (fun _ _ => trivial)) ?_
    intro e t _
    cases e with
    | memoryError => exact calls_then calls_onApp (fun _ _ => trivial)
    | osError => exact calls_then calls_onApp (fun _ _ => trivial)
    | mqttException => exact calls_then calls_onApp (fun _ _ => trivial)
    | _ => trivial
  · refine keeping_ite (fun _ => ?_) (fun _ => trivial)
    exact calls_then calls_onApp (fun _ _ => calls_onApp)

theorem linkRule_calls (hshort : Mqtt.ackTimeoutMs boot ≤ MAX_SOCKET_TIMEOUT_MS) :
    LinkRule boot rounds A Around Disciplined (fun _ => True) where
  upkeep := fun _ _ => calls_onApp
  connectOnce := fun _ => calls_connectOnce hshort
  checkMsg := fun _ => calls_checkMsg hshort
  ping := fun _ => calls_ping (by
    simp only [Mqtt.MAX_PINGRESP_WAIT_SEC, MAX_SOCKET_TIMEOUT_MS]
    omega)

theorem runRule_calls (hshort : Mqtt.ackTimeoutMs boot ≤ MAX_SOCKET_TIMEOUT_MS) :
    RunRule boot rounds A Around Disciplined (fun _ => True) (fun _ => True) (fun _ => True) where
  toLinkRule := linkRule_calls hshort
  side := fun _ _ => calls_onApp
  sidePaced := fun _ _ => calls_onApp
  paced := id
  gate := fun _ _ => Proc.wp_mono calls_onApp (fun _ _ h => h)
    (fun _ _ _ => ⟨trivial, fun _ => trivial⟩) (fun _ _ h => h)
  publish := fun _ => calls_publishQos1 hshort
  completed := fun _ => calls_onApp
  poll := by
    intro s _
    refine calls_then calls_onApp (fun reading _ => keeping_ite (fun _ => ?_) (fun _ => trivial))
    have hlink : LinkRule boot rounds A Around Disciplined (fun _ => True) := linkRule_calls hshort
    exact calls_then (keeping_ignoreTransport (hlink.mqttCheckMsg trivial))
      (fun _ _ => calls_onApp)
  utc := by
    intro s _
    refine calls_then calls_onApp (fun _ _ => calls_then calls_onApp (fun connected _ => ?_))
    refine keeping_ite (fun _ => ?_) (fun _ => trivial)
    refine calls_then calls_onApp (fun _ _ => keeping_ite (fun _ => ?_) (fun _ => trivial))
    refine calls_then calls_onApp (fun _ _ => keeping_ite (fun _ => ?_) (fun _ => trivial))
    exact calls_utcSendRequest hshort

/-- The rule holds from the arming of the watchdog on. -/
theorem calls_core0Main (hshort : Mqtt.ackTimeoutMs boot ≤ MAX_SOCKET_TIMEOUT_MS)
    (hs : AtStart s) :
    (core0Main boot rounds).wp A Around
      (fun s t => s.app.core0.watchdogArmed = true → Disciplined s t)
      (fun _ _ => True) (fun _ _ => True) s := by
  rw [core0Main_eq]
  have hstart : Starting boot A (startUnwatched boot rounds) s :=
    starting_startUnwatched hs.fresh.noted
  have hunarmed := Proc.wp_invariant (K := fun t => t.app.core0.watchdogArmed = false) hstart
    hs.fresh.watchdog (fun t u hr ht => hr.board.core0 ▸ ht)
    (fun t u hstep ht => hstep.schedule.watchdogArmed.trans ht)
  refine (Proc.wp_seq _ _ _).mpr (Proc.wp_mono hunarmed ?_ (fun _ t _ => ?_) (fun _ _ _ => trivial))
  · rintro t u ⟨-, hfalse⟩ harmed
    rw [hfalse] at harmed
    cases harmed
  · refine (Proc.wp_seq _ _ _).mpr (Proc.wp_mono (calls_onApp (A := A)) (fun _ _ h _ => h)
      (fun _ u _ => ?_) (fun _ _ h => h))
    exact Proc.wp_mono ((runRule_calls hshort).runLoop trivial) (fun _ _ h _ => h)
      (fun _ _ h => h) (fun _ _ h => h)

end Run

theorem AcceptedConfig.ackTimeout_short {items : PyDict} (h : AcceptedConfig items) {boot : Boot}
    (hboot : boot.config = splitConfigCore0 items) :
    Mqtt.ackTimeoutMs boot ≤ MAX_SOCKET_TIMEOUT_MS := by
  obtain ⟨seconds, hvalue, -, hle⟩ := h.integers ("mqtt_broker_response_timeout_sec", 5) (by decide)
  have hconfig : boot.config.mqttBrokerResponseTimeoutSec = seconds.toNat := by
    rw [hboot]
    show (items.getD "mqtt_broker_response_timeout_sec").asNat = _
    rw [hvalue]
    rfl
  unfold Mqtt.ackTimeoutMs MAX_SOCKET_TIMEOUT_MS
  rw [hconfig]
  dsimp only at hle
  omega

end Walk

/-- For every accepted configuration and every run of Core 0 from power-on, every step from the
arming of the watchdog on makes at most one socket call, under a timeout of at most five seconds
and with a turn of the servicing hook since the one before, which found Core 1 alive and fed the
watchdog. -/
theorem sockets_disciplined {items : PyDict} {value : PyValue} {boot : Boot} {rounds : Nat}
    {s t : Sys Board} {act : Sys Board → NetInput CoreInput → Sys Board}
    {next : Sys Board → NetInput CoreInput → CoreProg Unit}
    (haccepted : validateConfig (.dict items) = .ok value)
    (hboot : boot.config = splitConfigCore0 items) (hs : AtStart s)
    (h : CoreRun boot rounds s (.step act next) t) (harmed : t.app.core0.watchdogArmed = true)
    (i : NetInput CoreInput) : Disciplined t (act t i) := by
  obtain ⟨items', heq, hconfig⟩ := AcceptedConfig.of_ok haccepted
  cases heq
  have hmain : (core0Main boot rounds).wp (fun _ => True) Around
      (fun s t => s.app.core0.watchdogArmed = true → Disciplined s t) (fun _ _ => True)
      (fun _ _ => True) s := calls_core0Main (hconfig.ackTimeout_short hboot) hs
  exact (Proc.wp_reaches_step (I := fun _ => True) Around.refl Around.trans (fun _ _ _ _ => trivial)
    (fun _ _ _ he => ⟨he, trivial⟩) trivial hmain h trivial).2 harmed

/-- The first read of the run loop on the shipped configuration. -/
theorem sockets_disciplined_shipped : ∃ act next t,
    CoreRun shippedBoot 12 recovered (.step act next) t ∧ t.app.core0.watchdogArmed = true ∧
    t.net.events.length = 52 ∧ (act t online).net.events.length = 53 ∧
    Disciplined t (act t online) := by
  have hrun := publishing_run 18
  have hfacts := shippedSession_moments.2.2.1
  generalize publishing 18 = p at hrun hfacts
  obtain ⟨p, t⟩ := p
  obtain ⟨hstep, harmed, hbefore, hafter⟩ := hfacts
  obtain ⟨act, next, rfl⟩ := Proc.exists_step hstep
  have hvalid : validateConfig (.dict shippedItems) = .ok (.dict shippedItems) :=
    validateConfig_self (by decide +kernel)
  exact ⟨act, next, t, hrun, harmed, hbefore, hafter,
    sockets_disciplined hvalid rfl recovered_atStart hrun harmed online⟩

end PicoDualCore
