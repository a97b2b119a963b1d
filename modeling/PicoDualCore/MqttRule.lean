import PicoDualCore.MqttInbound
set_option autoImplicit false

namespace PicoDualCore
open AtomicProgram

theorem Network.onSocket_same {α : Type} {n : Network} {method : String}
    {operation : Nat → Connection → Except Exc α × Network}
    (h : ∀ k c, (operation k c).2 = n) : (n.onSocket method operation).2 = n := by
  unfold Network.onSocket
  cases n.current with
  | none => rfl
  | some socket => exact h socket.1 socket.2

theorem Network.settimeout_events (n : Network) (timeoutMs : Option Nat) (a : SocketAnswer) :
    (n.settimeout timeoutMs a).2.events = n.events ∧
      (n.settimeout timeoutMs a).2.sock = n.sock := by
  unfold Network.settimeout Network.onSocket
  cases n.current with
  | none => exact ⟨rfl, rfl⟩
  | some socket => cases a <;> exact ⟨rfl, rfl⟩

namespace MqttClient

inductive ClientStep : Network → Network → Prop where
  | read (n : Network) (size : Nat) (a : SocketAnswer) : ClientStep n (n.read size a).2
  | write (n : Network) (bytes : Bytes) (a : SocketAnswer) : ClientStep n (n.write none bytes a).2
  | close (n : Network) (a : SocketAnswer) : ClientStep n (n.close a).2
  | settimeout (n : Network) (timeoutMs : Option Nat) (a : SocketAnswer) :
      ClientStep n (n.settimeout timeoutMs a).2
  | deliver (n : Network) (topic payload : Bytes) :
      ClientStep n (n.record (.delivered topic payload))
  | idle (n : Network) : ClientStep n n
  | serviced (n : Network) : ClientStep n { n with serviced := true }
  | packetId (n : Network) (pid : Nat) : ClientStep n { n with pid := pid }

inductive QuietStep : Network → Network → Prop where
  | close (n : Network) (a : SocketAnswer) : QuietStep n (n.close a).2
  | deliver (n : Network) (topic payload : Bytes) :
      QuietStep n (n.record (.delivered topic payload))
  | packetId (n : Network) (pid : Nat) : QuietStep n { n with pid := pid }

theorem QuietStep.client {n n' : Network} (h : QuietStep n n') : ClientStep n n' := by
  cases h with
  | close a => exact .close n a
  | deliver topic payload => exact .deliver n topic payload
  | packetId pid => exact .packetId n pid

inductive SessionStep : Network → Network → Prop where
  | newClient (n : Network) : SessionStep n { n with sock := none, pid := 0 }
  | openSocket (n : Network) (a : SocketAnswer) : SessionStep n (n.openSocket a).2
  | connectSocket (n : Network) (a : SocketAnswer) : SessionStep n (n.connectSocket a).2

section Rule

variable {σ κ α : Type} {host : Host σ κ} {A : NetInput κ → Prop} {R G : Sys σ → Sys σ → Prop}
  {J : Sys σ → Prop} {s : Sys σ}

abbrev Keeping (A : NetInput κ → Prop) (R G : Sys σ → Sys σ → Prop) (J : Sys σ → Prop)
    (p : NetProg σ κ α) (s : Sys σ) : Prop := p.wp A R G (fun _ => J) (fun _ => J) s

theorem keeping_seq {β : Type} {p : NetProg σ κ α} {f : α → NetProg σ κ β}
    (hp : Keeping A R G J p s) (hf : ∀ a t, J t → Keeping A R G J (f a) t) :
    Keeping A R G J (p >>= f) s :=
  (Proc.wp_seq _ _ _).mpr (Proc.wp_mono hp (fun _ _ h => h) hf (fun _ _ h => h))

theorem keeping_ite {c : Prop} [Decidable c] {p q : NetProg σ κ α} (hp : c → Keeping A R G J p s)
    (hq : ¬ c → Keeping A R G J q s) : Keeping A R G J (if c then p else q) s := by
  by_cases h : c
  · rw [if_pos h]
    exact hp h
  · rw [if_neg h]
    exact hq h

theorem keeping_guard {c : Prop} [Decidable c] {refuse : NetProg σ κ Unit}
    {rest : Unit → NetProg σ κ α} (hs : J s) (h : Keeping A R G J refuse s)
    (hrest : ∀ t, J t → Keeping A R G J (rest ()) t) :
    Keeping A R G J (if c then refuse >>= rest else rest ()) s :=
  keeping_ite (fun _ => keeping_seq h (fun _ t ht => hrest t ht)) (fun _ => hrest s hs)

theorem keeping_finish {p : NetProg σ κ α} {cleanup : NetProg σ κ Unit}
    (hp : Keeping A R G J p s) (hc : ∀ t, J t → Keeping A R G J cleanup t) :
    Keeping A R G J (p.finish cleanup) s :=
  (Proc.wp_finish _ _ _).mpr (Proc.wp_mono hp (fun _ _ h => h) (fun _ t ht => hc t ht)
    (fun _ t ht => hc t ht))

theorem keeping_forM {β : Type} {f : β → NetProg σ κ Unit} (xs : List β)
    (hf : ∀ b t, J t → Keeping A R G J (f b) t) (hs : J s) : Keeping A R G J (xs.forM f) s := by
  induction xs generalizing s with
  | nil => exact hs
  | cons x xs ih => exact keeping_seq (hf x s hs) (fun _ t ht => ih ht)

theorem keeping_onApp {K : Network → Prop} (hR : ∀ s t, R s t → K s.net → K t.net)
    (hG : ∀ (s : Sys σ) app, K s.net → G s { s with app := app }) (p : Proc σ κ Exc α)
    (hs : K s.net) : Keeping A R G (fun t => K t.net) (onApp p) s := by
  refine Proc.wp_zoom (A := fun _ => True) (R := fun _ _ => True) (G := fun _ _ => True)
    (J := fun u => K u.net) (Q := fun _ _ => True) (X := fun _ _ => True) (fun _ _ => trivial)
    (fun u v hu hr => ⟨trivial, hR u v hr hu⟩) ?_ ?_ ?_ hs (wp_any p _)
  · exact fun u app hu _ => ⟨hG u app hu, hu, rfl⟩
  · exact fun _ _ hu _ => hu
  · exact fun _ _ hu _ => hu

theorem wp_onApp_atomic {f : σ → κ → Except Exc α × σ} {Q : α → Sys σ → Prop}
    {X : Exc → Sys σ → Prop}
    (h : ∀ t, R s t → ∀ i, A i → G t { t with app := (f t.app i.app).2 } ∧
      match (f t.app i.app).1 with
      | .ok a => Q a { t with app := (f t.app i.app).2 }
      | .error e => X e { t with app := (f t.app i.app).2 }) :
    (onApp (.atomic f) : NetProg σ κ α).wp A R G Q X s := by
  intro t ht i hi
  obtain ⟨hG, hout⟩ := h t ht i hi
  refine ⟨hG, ?_⟩
  cases hr : (f t.app i.app).1 with
  | ok a =>
    rw [hr] at hout
    simpa only [Proc.ofExcept, hr, Proc.zoom, Proc.wp_ret] using hout
  | error e =>
    rw [hr] at hout
    simpa only [Proc.ofExcept, hr, Proc.zoom, Proc.wp_raise, id] using hout

/-- One operation on the sockets. -/
theorem keeping_onNet {f : Network → SocketAnswer → Except Exc α × Network}
    (hR : ∀ {t}, R s t → J t)
    (h : ∀ a t, J t → G t { t with net := (f t.net a).2 } ∧ J { t with net := (f t.net a).2 }) :
    Keeping A R G J (onNet f) s := by
  refine Proc.wp_atomic (fun t ht i _ => ?_)
  obtain ⟨hG, hJ⟩ := h i.socket t (hR ht)
  refine ⟨hG, ?_⟩
  dsimp only
  cases (f t.net i.socket).1 <;> exact hJ

/-- `J` holds between the steps of an exchange, whatever the others do meanwhile. A read and a
write come with the servicing in front of them. -/
structure ExchangeRule (host : Host σ κ) (A : NetInput κ → Prop) (R G : Sys σ → Sys σ → Prop)
    (J : Sys σ → Prop) : Prop where
  stable : ∀ {s t}, R s t → J s → J t
  quiet : ∀ {s n}, J s → QuietStep s.net n → G s { s with net := n } ∧ J { s with net := n }
  read : ∀ {s} size, J s →
    Keeping A R G J (service host >>= fun _ => onNet (Network.read size)) s
  write : ∀ {s} bytes, J s → Keeping A R G J (MqttClient.write host none bytes) s
  callback : ∀ {s} topic payload, J s →
    (deliveries s.net.events).getLast? = some (topic, payload) →
    Keeping A R G J (onApp (host.callback topic payload)) s

/-- `J` holds between all the client's steps. -/
structure ClientRule (host : Host σ κ) (A : NetInput κ → Prop) (R G : Sys σ → Sys σ → Prop)
    (J : Sys σ → Prop) : Prop where
  stable : ∀ {s t}, R s t → J s → J t
  step : ∀ {s n}, J s → ClientStep s.net n → G s { s with net := n } ∧ J { s with net := n }
  hook : ∀ {s}, J s → Keeping A R G J (onApp host.service) s
  callback : ∀ {s} topic payload, J s →
    (deliveries s.net.events).getLast? = some (topic, payload) →
    Keeping A R G J (onApp (host.callback topic payload)) s

structure SessionRule (host : Host σ κ) (A : NetInput κ → Prop) (R G : Sys σ → Sys σ → Prop)
    (J : Sys σ → Prop) : Prop extends ClientRule host A R G J where
  session : ∀ {s n}, J s → SessionStep s.net n → G s { s with net := n } ∧ J { s with net := n }

namespace ExchangeRule

variable (rule : ExchangeRule host A R G J)
include rule

theorem onNet {f : Network → SocketAnswer → Except Exc α × Network}
    (hf : ∀ n a, QuietStep n (f n a).2) (hs : J s) :
    Keeping A R G J (PicoDualCore.onNet f) s :=
  keeping_onNet (fun ht => rule.stable ht hs) (fun a t ht => rule.quiet ht (hf t.net a))

theorem readThen {size : Nat} {f : Option Bytes → NetProg σ κ α} (hs : J s)
    (hf : ∀ data t, J t → Keeping A R G J (f data) t) :
    Keeping A R G J (service host >>= fun _ => PicoDualCore.onNet (Network.read size) >>= f) s := by
  refine (Proc.wp_seq _ _ _).mpr (Proc.wp_mono ((Proc.wp_seq _ _ _).mp (rule.read size hs))
    (fun _ _ h => h) (fun _ t ht => ?_) (fun _ _ h => h))
  exact keeping_seq ht hf

theorem abort {reason : String} (hs : J s) :
    Keeping A R G J (abortCorruptInbound reason : NetProg σ κ α) s := by
  refine keeping_seq ?_ (fun _ _ ht => ht)
  unfold Keeping
  rw [Proc.wp_handle]
  refine Proc.wp_mono (rule.onNet (fun n a => .close n a) hs) (fun _ _ h => h) (fun _ _ h => h) ?_
  intro e t ht
  cases e <;> exact ht

theorem readRequired {size : Nat} (hs : J s) :
    Keeping A R G J (readRequired host size) s := by
  refine rule.readThen hs (fun data t ht => ?_)
  cases data with
  | none => exact ht
  | some data => exact keeping_ite (fun _ => ht) (fun _ => ht)

theorem readByte (hs : J s) : Keeping A R G J (readByte host) s := by
  refine keeping_seq (rule.readRequired hs) (fun data t ht => ?_)
  cases data <;> exact ht

theorem recvLenFrom {left n sh : Nat} (hs : J s) :
    Keeping A R G J (recvLenFrom host left n sh) s := by
  induction left generalizing n sh s with
  | zero => exact rule.abort hs
  | succ left ih =>
    exact keeping_seq (rule.readByte hs) (fun b t ht => keeping_ite (fun _ => ht) (fun _ => ih ht))

theorem deliver {topic msg : Bytes} (hs : J s) :
    Keeping A R G J (receivePublish.deliver host topic msg) s := by
  refine (Proc.wp_seq _ _ _).mpr (Proc.wp_atomic (fun t ht _ _ => ?_))
  obtain ⟨hG, hJ⟩ := rule.quiet (rule.stable ht hs) (.deliver t.net topic msg)
  exact ⟨hG, rule.callback topic msg hJ (by simp [Network.record])⟩

theorem receivePublish {op : UInt8} (hs : J s) :
    Keeping A R G J (receivePublish host op) s := by
  unfold MqttClient.receivePublish
  refine keeping_seq (rule.recvLenFrom hs) (fun sz s hs => ?_)
  refine keeping_guard hs (rule.abort hs) (fun s hs => ?_)
  refine keeping_guard hs (rule.abort hs) (fun s hs => ?_)
  refine keeping_seq (rule.readRequired hs) (fun topicLength s hs => ?_)
  refine keeping_guard hs (rule.abort hs) (fun s hs => ?_)
  refine keeping_seq (rule.readRequired hs) (fun topic s hs => ?_)
  refine keeping_ite (fun _ => ?_) (fun _ => ?_)
  · refine keeping_guard hs (rule.abort hs) (fun s hs => ?_)
    refine keeping_seq (rule.readRequired hs) (fun pid s hs => ?_)
    refine keeping_seq (rule.readRequired hs) (fun msg s hs => ?_)
    refine keeping_seq (rule.deliver hs) (fun _ s hs => ?_)
    exact keeping_guard hs (rule.write _ hs) (fun _ hs => hs)
  · refine keeping_seq (rule.readRequired hs) (fun msg s hs => ?_)
    exact keeping_seq (rule.deliver hs) (fun _ _ hs => hs)

theorem dispatch {op : UInt8} (hs : J s) : Keeping A R G J (dispatch host op) s := by
  unfold MqttClient.dispatch
  refine keeping_ite (fun _ => ?_) (fun _ => keeping_ite (fun _ => ?_) (fun _ => ?_))
  · exact keeping_seq (rule.readByte hs)
      (fun b s hs => keeping_guard hs (rule.abort hs) (fun _ hs => hs))
  · refine keeping_ite (fun _ => hs) (fun _ => keeping_ite (fun _ => ?_) (fun _ => ?_))
    · exact rule.abort hs
    · exact rule.abort hs
  · refine keeping_ite (fun _ => rule.abort hs) (fun _ => ?_)
    exact keeping_ite (fun _ => rule.abort hs) (fun _ => rule.receivePublish hs)

theorem waitMsg (hs : J s) : Keeping A R G J (waitMsg host) s := by
  refine rule.readThen hs (fun data t ht => ?_)
  cases data with
  | none => exact ht
  | some data =>
    cases data with
    | nil => exact ht
    | cons op rest => exact rule.dispatch ht

theorem awaitPuback {pid rounds : Nat} (hs : J s) :
    Keeping A R G J (awaitPuback host pid rounds) s := by
  induction rounds generalizing s with
  | zero => trivial
  | succ rounds ih =>
    refine keeping_seq (rule.waitMsg hs) (fun op s hs => ?_)
    refine keeping_ite (fun _ => ?_) (fun _ => ih hs)
    refine keeping_seq (rule.readRequired hs) (fun sz s hs => ?_)
    refine keeping_guard hs (rule.abort hs) (fun s hs => ?_)
    refine keeping_seq (rule.readRequired hs) (fun pid s hs => ?_)
    exact keeping_ite (fun _ => hs) (fun _ => ih hs)

theorem awaitSuback {pid rounds : Nat} (hs : J s) :
    Keeping A R G J (awaitSuback host pid rounds) s := by
  induction rounds generalizing s with
  | zero => trivial
  | succ rounds ih =>
    refine keeping_seq (rule.waitMsg hs) (fun op s hs => ?_)
    refine keeping_ite (fun _ => ?_) (fun _ => ih hs)
    refine keeping_seq (rule.readRequired hs) (fun sz s hs => ?_)
    refine keeping_guard hs (rule.abort hs) (fun s hs => ?_)
    refine keeping_seq (rule.readRequired hs) (fun resp s hs => ?_)
    refine keeping_guard hs hs (fun s hs => ?_)
    refine keeping_guard hs hs (fun s hs => ?_)
    exact keeping_ite (fun _ => rule.abort hs) (fun _ => hs)

theorem awaitPingresp {rounds : Nat} (hs : J s) :
    Keeping A R G J (awaitPingresp host rounds) s := by
  induction rounds generalizing s with
  | zero => trivial
  | succ rounds ih =>
    refine keeping_seq (rule.waitMsg hs) (fun op s hs => ?_)
    exact keeping_ite (fun _ => hs) (fun _ => ih hs)

theorem nextPacketId (hs : J s) : Keeping A R G J (nextPacketId : NetProg σ κ Nat) s :=
  rule.onNet (fun n _ => .packetId n _) hs

theorem sendStr {text : List Char} (hs : J s) : Keeping A R G J (sendStr host none text) s :=
  keeping_seq (rule.write _ hs) (fun _ _ ht => rule.write _ ht)

theorem subscribe {rounds : Nat} {topic : List Char} (hs : J s) :
    Keeping A R G J (subscribe host rounds topic) s := by
  unfold MqttClient.subscribe
  refine keeping_guard hs hs (fun s hs => ?_)
  refine keeping_seq (rule.nextPacketId hs) (fun pid s hs => ?_)
  refine keeping_seq (rule.write _ hs) (fun _ s hs => ?_)
  refine keeping_seq (rule.sendStr hs) (fun _ s hs => ?_)
  exact keeping_seq (rule.write _ hs) (fun _ s hs => rule.awaitSuback hs)

end ExchangeRule

namespace ClientRule

variable (rule : ClientRule host A R G J)
include rule

theorem onNet {f : Network → SocketAnswer → Except Exc α × Network}
    (hf : ∀ n a, ClientStep n (f n a).2) (hs : J s) :
    Keeping A R G J (PicoDualCore.onNet f) s :=
  keeping_onNet (fun ht => rule.stable ht hs) (fun a t ht => rule.step ht (hf t.net a))

theorem service (hs : J s) : Keeping A R G J (service host) s :=
  keeping_seq (rule.hook hs) (fun _ _ ht => rule.onNet (fun n _ => .serviced n) ht)

theorem exchange : ExchangeRule host A R G J where
  stable := rule.stable
  quiet := fun hs h => rule.step hs h.client
  read := fun size hs => keeping_seq (rule.service hs)
    (fun _ _ ht => rule.onNet (fun n a => .read n size a) ht)
  write := fun bytes hs => keeping_seq (rule.service hs)
    (fun _ _ ht => rule.onNet (fun n a => .write n bytes a) ht)
  callback := rule.callback

theorem settimeout {timeoutMs : Option Nat} (hs : J s) :
    Keeping A R G J (PicoDualCore.onNet (Network.settimeout timeoutMs) : NetProg σ κ Unit) s :=
  rule.onNet (fun n a => .settimeout n timeoutMs a) hs

theorem socketReady (hs : J s) :
    Keeping A R G J (socketReady : NetProg σ κ Bool) s := by
  refine rule.onNet (fun n a => ?_) hs
  rw [Network.onSocket_same (fun _ _ => by cases a <;> rfl)]
  exact .idle n

theorem checkMsg {timeoutMs : Nat} (hs : J s) :
    Keeping A R G J (checkMsg host timeoutMs) s := by
  refine keeping_seq (rule.socketReady hs) (fun ready s hs => ?_)
  refine keeping_ite (fun _ => hs) (fun _ => ?_)
  refine keeping_seq (rule.settimeout hs) (fun _ s hs => ?_)
  exact keeping_finish (rule.exchange.waitMsg hs) (fun _ ht => rule.settimeout ht)

theorem timed {timeoutMs : Option Nat} {exchange : NetProg σ κ α} (hs : J s)
    (h : ∀ t, J t → Keeping A R G J exchange t) :
    Keeping A R G J (timed timeoutMs exchange) s := by
  cases timeoutMs with
  | none => exact h s hs
  | some t =>
    refine keeping_seq (rule.settimeout hs) (fun _ s hs => ?_)
    exact keeping_finish (h s hs) (fun _ ht => rule.settimeout ht)

theorem ping {rounds : Nat} {timeoutMs : Option Nat} (hs : J s) :
    Keeping A R G J (ping host rounds timeoutMs) s :=
  rule.timed hs (fun _ ht => keeping_seq (rule.exchange.write _ ht)
    (fun _ _ hu => rule.exchange.awaitPingresp hu))

/-- A publish, when the writes of the owner's frame keep `J` as well. -/
theorem publish {rounds : Nat} {owner : Option Owner} {topic : List Char} {msg : Payload}
    {packetId timeoutMs : Option Nat} {fragment : Option Bytes}
    (hwrite : ∀ bytes t, J t → Keeping A R G J (write host owner bytes) t) (hs : J s) :
    Keeping A R G J (publish host rounds owner topic msg packetId timeoutMs fragment) s := by
  have hexchange : ∀ pid t, J t → Keeping A R G J (MqttClient.timed timeoutMs (do
      (frameSegments topic msg pid fragment).forM (write host owner)
      awaitPuback host pid rounds)) t := fun pid t ht =>
    rule.timed ht (fun _ hu => keeping_seq (keeping_forM _ hwrite hu)
      (fun _ _ hv => rule.exchange.awaitPuback hv))
  unfold MqttClient.publish
  refine keeping_ite (fun _ => hs) (fun _ => ?_)
  cases packetId with
  | none => exact keeping_seq (rule.exchange.nextPacketId hs) (fun pid t ht => hexchange pid t ht)
  | some pid => exact hexchange pid s hs

end ClientRule

namespace SessionRule

variable (rule : SessionRule host A R G J)
include rule

theorem onNet {f : Network → SocketAnswer → Except Exc α × Network}
    (hf : ∀ n a, SessionStep n (f n a).2) (hs : J s) :
    Keeping A R G J (PicoDualCore.onNet f) s :=
  keeping_onNet (fun ht => rule.stable ht hs) (fun a t ht => rule.session ht (hf t.net a))

theorem connect {clientId : List Char} {keepalive : Nat} {timeoutMs : Option Nat} (hs : J s) :
    Keeping A R G J (connect host clientId keepalive timeoutMs) s := by
  refine keeping_seq (rule.onNet (fun n a => .openSocket n a) hs) (fun _ s hs => ?_)
  refine keeping_seq (rule.toClientRule.settimeout hs) (fun _ s hs => ?_)
  refine keeping_seq (rule.toClientRule.service hs) (fun _ s hs => ?_)
  refine keeping_seq (rule.toClientRule.onNet (fun n a => ?_) hs) (fun _ s hs => ?_)
  · cases a <;> exact .idle n
  refine keeping_seq (rule.toClientRule.service hs) (fun _ s hs => ?_)
  refine keeping_seq (rule.onNet (fun n a => .connectSocket n a) hs) (fun _ s hs => ?_)
  refine keeping_guard hs hs (fun s hs => ?_)
  refine keeping_seq (rule.exchange.write _ hs) (fun _ s hs => ?_)
  refine keeping_seq (rule.exchange.write _ hs) (fun _ s hs => ?_)
  refine keeping_seq (rule.exchange.sendStr hs) (fun _ s hs => ?_)
  refine keeping_seq (rule.exchange.readRequired hs) (fun answer s hs => ?_)
  split
  · refine keeping_guard hs hs (fun s hs => ?_)
    exact keeping_guard hs hs (fun s hs => hs)
  · exact hs

end SessionRule

section Sending

variable {J : Bytes → Sys σ → Prop} {owner : Option Owner} {total : Bytes}

abbrev Sending (A : NetInput κ → Prop) (R G : Sys σ → Sys σ → Prop) (J : Bytes → Sys σ → Prop)
    (total : Bytes) (p : NetProg σ κ Unit) (s : Sys σ) : Prop :=
  p.wp A R G (fun _ => J total) (fun _ t => ∃ sent, sent <+: total ∧ J sent t) s

/-- `J sent` holds between the steps of a client that has written `sent` of `total` for the
owner. -/
structure SendRule (host : Host σ κ) (A : NetInput κ → Prop) (R G : Sys σ → Sys σ → Prop)
    (owner : Option Owner) (total : Bytes) (J : Bytes → Sys σ → Prop) : Prop where
  rule : ∀ {sent}, sent <+: total → ClientRule host A R G (J sent)
  owned : ∀ {sent : Bytes} {s : Sys σ} (bytes : Bytes) (a : SocketAnswer),
    sent ++ bytes <+: total → J sent s →
    G s { s with net := (s.net.write owner bytes a).2 } ∧
      match (s.net.write owner bytes a).1 with
      | .ok _ => J (sent ++ bytes) { s with net := (s.net.write owner bytes a).2 }
      | .error _ => ∃ part, part <+: bytes ∧
          J (sent ++ part) { s with net := (s.net.write owner bytes a).2 }

namespace SendRule

variable (send : SendRule host A R G owner total J)
include send

theorem write {sent bytes : Bytes} (hfits : sent ++ bytes <+: total) (hs : J sent s) :
    (write host owner bytes).wp A R G (fun _ => J (sent ++ bytes))
      (fun _ t => ∃ sent, sent <+: total ∧ J sent t) s := by
  have hsent : sent <+: total := (List.prefix_append _ _).trans hfits
  refine (Proc.wp_seq _ _ _).mpr (Proc.wp_mono ((send.rule hsent).service hs) (fun _ _ h => h)
    (fun _ t ht => ?_) (fun _ t ht => ⟨sent, hsent, ht⟩))
  refine Proc.wp_atomic (fun u hu i _ => ?_)
  obtain ⟨hG, hJ⟩ := send.owned bytes i.socket hfits ((send.rule hsent).stable hu ht)
  refine ⟨hG, ?_⟩
  revert hJ
  dsimp only
  cases (Network.write owner bytes u.net i.socket).1 with
  | ok a => exact id
  | error e =>
    rintro ⟨part, hpart, hJ⟩
    exact ⟨sent ++ part, ((List.prefix_append_right_inj _).mpr hpart).trans hfits, hJ⟩

theorem writeAll {sent : Bytes} (segments : List Bytes) (hfits : sent ++ segments.flatten <+: total)
    (hs : J sent s) :
    (segments.forM (MqttClient.write host owner)).wp A R G
      (fun _ => J (sent ++ segments.flatten))
      (fun _ t => ∃ sent, sent <+: total ∧ J sent t) s := by
  induction segments generalizing sent s with
  | nil => simpa using hs
  | cons bytes rest ih =>
    have hrest : (sent ++ bytes) ++ rest.flatten <+: total := by simpa using hfits
    refine (Proc.wp_seq _ _ _).mpr (Proc.wp_mono
      (send.write ((List.prefix_append _ _).trans hrest) hs) (fun _ _ h => h)
      (fun _ t ht => ?_) (fun _ _ h => h))
    refine Proc.wp_mono (ih hrest ht) (fun _ _ h => h) (fun _ u hu => ?_) (fun _ _ h => h)
    simpa using hu

theorem timed {timeoutMs : Option Nat} {exchange : NetProg σ κ Unit} (hs : J [] s)
    (h : ∀ t, J [] t → Sending A R G J total exchange t) :
    Sending A R G J total (timed timeoutMs exchange) s := by
  cases timeoutMs with
  | none => exact h s hs
  | some t =>
    refine (Proc.wp_seq _ _ _).mpr (Proc.wp_mono ((send.rule List.nil_prefix).settimeout hs)
      (fun _ _ h => h) (fun _ u hu => ?_) (fun _ u hu => ⟨[], List.nil_prefix, hu⟩))
    refine (Proc.wp_finish _ _ _).mpr (Proc.wp_mono (h u hu) (fun _ _ h => h) ?_ ?_)
    · exact fun _ v hv => Proc.wp_mono ((send.rule (List.prefix_refl _)).settimeout hv)
        (fun _ _ h => h) (fun _ _ h => h) (fun _ _ h => ⟨total, List.prefix_refl _, h⟩)
    · rintro _ v ⟨sent, hsent, hv⟩
      exact Proc.wp_mono ((send.rule hsent).settimeout hv) (fun _ _ h => h)
        (fun _ _ h => ⟨sent, hsent, h⟩) (fun _ _ h => ⟨sent, hsent, h⟩)

/-- A publish with a given packet identifier writes its frame, all of it before it returns. -/
theorem publish {rounds pid : Nat} {topic : List Char} {msg : Payload} {timeoutMs : Option Nat}
    {fragment : Option Bytes} (htotal : total = (frameSegments topic msg pid fragment).flatten)
    (hs : J [] s) :
    Sending A R G J total (publish host rounds owner topic msg (some pid) timeoutMs fragment) s := by
  unfold MqttClient.publish
  by_cases hsize : MAX_PUBLISH_SIZE < publishSize topic msg fragment
  · rw [if_pos hsize]
    exact ⟨[], List.nil_prefix, hs⟩
  rw [if_neg hsize]
  refine send.timed hs (fun t ht => (Proc.wp_seq _ _ _).mpr ?_)
  have hfits : [] ++ (frameSegments topic msg pid fragment).flatten <+: total := by
    rw [htotal]
    exact List.prefix_refl _
  refine Proc.wp_mono (send.writeAll (frameSegments topic msg pid fragment) hfits ht)
    (fun _ _ h => h) (fun _ u hu => ?_) (fun _ _ h => h)
  rw [List.nil_append, ← htotal] at hu
  exact Proc.wp_mono ((send.rule (List.prefix_refl _)).exchange.awaitPuback hu) (fun _ _ h => h)
    (fun _ _ h => h) (fun _ _ h => ⟨total, List.prefix_refl _, h⟩)

end SendRule
end Sending
end Rule

theorem publish_none {σ κ : Type} {host : Host σ κ} {rounds : Nat} {owner : Option Owner}
    {topic : List Char} {msg : Payload} {timeoutMs : Option Nat} {fragment : Option Bytes} :
    publish host rounds owner topic msg none timeoutMs fragment =
      if MAX_PUBLISH_SIZE < publishSize topic msg fragment then
        throw (.mqttException "Publish size exceeds this client's remaining-length encoding limit")
      else nextPacketId >>= fun pid =>
        publish host rounds owner topic msg (some pid) timeoutMs fragment := by
  unfold publish
  by_cases hsize : MAX_PUBLISH_SIZE < publishSize topic msg fragment
  · rw [if_pos hsize, if_pos hsize]
    rfl
  · simp only [if_neg hsize]
    rfl

end MqttClient
end PicoDualCore
