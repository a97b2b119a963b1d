import PicoDualCore.MqttClient
set_option autoImplicit false

namespace PicoDualCore
open AtomicProgram

@[simp] def SocketEvent.request? : SocketEvent → Option Nat
  | .read _ _ size _ => some size
  | _ => none

@[simp] def SocketEvent.readBytes : SocketEvent → Bytes
  | .read _ _ _ bytes => bytes
  | _ => []

@[simp] def SocketEvent.wroteBytes : SocketEvent → Bytes
  | .wrote _ _ _ bytes => bytes
  | _ => []

@[simp] def SocketEvent.delivery? : SocketEvent → Option (Bytes × Bytes)
  | .delivered topic payload => some (topic, payload)
  | _ => none

def requests (events : List SocketEvent) : List Nat := events.filterMap SocketEvent.request?
def bytesRead (events : List SocketEvent) : Bytes := events.flatMap SocketEvent.readBytes
def bytesWritten (events : List SocketEvent) : Bytes := events.flatMap SocketEvent.wroteBytes
def deliveries (events : List SocketEvent) : List (Bytes × Bytes) :=
  events.filterMap SocketEvent.delivery?

section Events

variable (e : SocketEvent) (a b : List SocketEvent)

@[simp] theorem requests_nil : requests [] = [] := rfl
@[simp] theorem bytesRead_nil : bytesRead [] = [] := rfl
@[simp] theorem bytesWritten_nil : bytesWritten [] = [] := rfl
@[simp] theorem deliveries_nil : deliveries [] = [] := rfl

@[simp] theorem requests_cons : requests (e :: a) = e.request?.toList ++ requests a := by
  cases e <;> rfl
@[simp] theorem bytesRead_cons : bytesRead (e :: a) = e.readBytes ++ bytesRead a := rfl
@[simp] theorem bytesWritten_cons : bytesWritten (e :: a) = e.wroteBytes ++ bytesWritten a := rfl
@[simp] theorem deliveries_cons : deliveries (e :: a) = e.delivery?.toList ++ deliveries a := by
  cases e <;> rfl

@[simp] theorem requests_append : requests (a ++ b) = requests a ++ requests b :=
  List.filterMap_append
@[simp] theorem bytesRead_append : bytesRead (a ++ b) = bytesRead a ++ bytesRead b :=
  List.flatMap_append
@[simp] theorem bytesWritten_append : bytesWritten (a ++ b) = bytesWritten a ++ bytesWritten b :=
  List.flatMap_append
@[simp] theorem deliveries_append : deliveries (a ++ b) = deliveries a ++ deliveries b :=
  List.filterMap_append

end Events

/-- While the client works, the peer may send more and the application state may move. -/
structure Peer {σ : Type} (s t : Sys σ) : Prop where
  sock : t.net.sock = s.net.sock
  pid : t.net.pid = s.net.pid
  events : t.net.events = s.net.events
  serviced : t.net.serviced = s.net.serviced
  inbound : ∀ (k : Nat) (c : Connection), s.net.connections[k]? = some c →
    ∃ more, t.net.connections[k]? = some { c with inbound := c.inbound ++ more }

theorem Peer.refl {σ : Type} (s : Sys σ) : Peer s s :=
  ⟨rfl, rfl, rfl, rfl, fun _ c h => ⟨[], by simpa using h⟩⟩

theorem Peer.trans {σ : Type} {s t u : Sys σ} (h : Peer s t) (h' : Peer t u) : Peer s u := by
  refine ⟨h'.sock.trans h.sock, h'.pid.trans h.pid, h'.events.trans h.events,
    h'.serviced.trans h.serviced, ?_⟩
  intro k c hc
  obtain ⟨more, hm⟩ := h.inbound k c hc
  obtain ⟨more', hm'⟩ := h'.inbound k _ hm
  exact ⟨more ++ more', by simpa using hm'⟩

theorem wp_any {τ ι ε α : Type} {A : ι → Prop} {R : τ → τ → Prop} (p : Proc τ ι ε α) (s : τ) :
    p.wp A R (fun _ _ => True) (fun _ _ => True) (fun _ _ => True) s := by
  induction p generalizing s with
  | ret a => trivial
  | raise e => trivial
  | stop => trivial
  | step act next ih => exact fun t _ i _ => ⟨trivial, ih t i _⟩

namespace MqttClient

variable {σ κ : Type} {host : Host σ κ}

structure Since (base : List SocketEvent) (k consumed : Nat) (ev : List SocketEvent)
    (t : Network) : Prop where
  events : t.events = base ++ ev
  sock : t.sock = some k
  conn : ∃ c, t.connections[k]? = some c ∧ c.consumed = consumed + (bytesRead ev).length

theorem Since.current {base ev : List SocketEvent} {k consumed : Nat} {t : Network}
    (h : Since base k consumed ev t) : ∃ c, t.current = some (k, c) ∧
      t.connections[k]? = some c ∧ c.consumed = consumed + (bytesRead ev).length := by
  obtain ⟨c, hc, hn⟩ := h.conn
  exact ⟨c, by simp [Network.current, h.sock, hc], hc, hn⟩

theorem Since.peer {base ev : List SocketEvent} {k consumed : Nat} {t u : Sys σ}
    (h : Since base k consumed ev t.net) (hp : Peer t u) : Since base k consumed ev u.net := by
  obtain ⟨c, hc, hn⟩ := h.conn
  obtain ⟨more, hm⟩ := hp.inbound k c hc
  exact ⟨hp.events.trans h.events, hp.sock.trans h.sock, _, hm, hn⟩

theorem Since.serviced {base ev : List SocketEvent} {k consumed : Nat} {t : Network}
    (h : Since base k consumed ev t) : Since base k consumed ev { t with serviced := true } :=
  ⟨h.events, h.sock, h.conn⟩

theorem Since.put {base ev : List SocketEvent} {k consumed : Nat} {t : Network}
    (h : Since base k consumed ev t) {c : Connection} {event : SocketEvent}
    (hc : c.consumed = consumed + (bytesRead (ev ++ [event])).length) :
    Since base k consumed (ev ++ [event]) ((t.put k c).record event) := by
  obtain ⟨c₀, hc₀, -⟩ := h.conn
  have hk : k < t.connections.length := (List.getElem?_eq_some_iff.mp hc₀).1
  refine ⟨?_, h.sock, c, ?_, hc⟩
  · simp [Network.record, Network.put, h.events]
  · simp [Network.record, Network.put, hk]

section Call

variable {A : NetInput κ → Prop} {S : Exc → Prop} {base : List SocketEvent} {k consumed : Nat}
  {Spec : List SocketEvent → Prop} {ev : List SocketEvent} {t : Sys σ} {α : Type}

def Keeps (base : List SocketEvent) (k consumed : Nat) (Spec : List SocketEvent → Prop)
    (_ t : Sys σ) : Prop := ∃ ev, Since base k consumed ev t.net ∧ Spec ev

abbrev Calling (A : NetInput κ → Prop) (S : Exc → Prop) (base : List SocketEvent)
    (k consumed : Nat) (Spec : List SocketEvent → Prop) (Q : α → List SocketEvent → Prop)
    (p : NetProg σ κ α) (t : Sys σ) : Prop :=
  p.wp A Peer (Keeps base k consumed Spec)
    (fun a u => ∃ ev, Since base k consumed ev u.net ∧ Spec ev ∧ Q a ev)
    (fun e u => ∃ ev, Since base k consumed ev u.net ∧ Spec ev ∧
      (deliveries ev = [] → e.transport = true ∨ S e)) t

theorem calling_seq {β : Type} {Q : α → List SocketEvent → Prop}
    {Q' : β → List SocketEvent → Prop} {p : NetProg σ κ α} {f : α → NetProg σ κ β}
    (hp : Calling A S base k consumed Spec Q p t)
    (hf : ∀ a ev u, Since base k consumed ev u.net → Spec ev → Q a ev →
      Calling A S base k consumed Spec Q' (f a) u) :
    Calling A S base k consumed Spec Q' (p >>= f) t :=
  (Proc.wp_seq _ _ _).mpr (Proc.wp_mono hp (fun _ _ h => h)
    (fun a u ⟨ev, hs, hspec, hq⟩ => hf a ev u hs hspec hq) (fun _ _ h => h))

theorem calling_mono {Q Q' : α → List SocketEvent → Prop} {p : NetProg σ κ α}
    (h : Calling A S base k consumed Spec Q p t) (hQ : ∀ a ev, Q a ev → Q' a ev) :
    Calling A S base k consumed Spec Q' p t :=
  Proc.wp_mono h (fun _ _ hG => hG)
    (fun a _ ⟨ev, hs, hspec, hq⟩ => ⟨ev, hs, hspec, hQ a ev hq⟩) (fun _ _ hX => hX)

theorem calling_pure {Q : α → List SocketEvent → Prop} {a : α}
    (h : Since base k consumed ev t.net) (hspec : Spec ev) (hq : Q a ev) :
    Calling A S base k consumed Spec Q (pure a) t := ⟨ev, h, hspec, hq⟩

theorem calling_throw {Q : α → List SocketEvent → Prop} {e : Exc}
    (h : Since base k consumed ev t.net) (hspec : Spec ev)
    (he : deliveries ev = [] → e.transport = true ∨ S e) :
    Calling A S base k consumed Spec Q (throw e) t := ⟨ev, h, hspec, he⟩

theorem calling_onApp {p : Proc σ κ Exc Unit} (h : Since base k consumed ev t.net)
    (hspec : Spec ev) (hp : deliveries ev = [] →
      ∀ app, p.wp (fun _ => True) (fun _ _ => True) (fun _ _ => True) (fun _ _ => True)
        (fun e _ => S e) app) :
    Calling A S base k consumed Spec (fun _ ev' => ev' = ev) (onApp p) t := by
  have hkeep : ∀ X : Exc → σ → Prop,
      p.wp (fun _ => True) (fun _ _ => True) (fun _ _ => True) (fun _ _ => True) X t.app →
      (onApp p).wp A Peer (Keeps base k consumed Spec)
        (fun _ u => ∃ ev', Since base k consumed ev' u.net ∧ Spec ev' ∧ ev' = ev)
        (fun e u => Since base k consumed ev u.net ∧ X e u.app) t := by
    intro X hX
    refine Proc.wp_zoom (A := fun _ => True) (R := fun _ _ => True) (G := fun _ _ => True)
      (J := fun u => Since base k consumed ev u.net) (fun _ _ => trivial)
      (fun u v hu hp => ⟨trivial, hu.peer hp⟩) ?_ ?_ ?_ h hX
    · exact fun u app hu _ => ⟨⟨ev, hu, hspec⟩, hu, rfl⟩
    · exact fun _ u hu _ => ⟨ev, hu, hspec, rfl⟩
    · exact fun e u hu hx => ⟨hu, hx⟩
  by_cases hd : deliveries ev = []
  · refine Proc.wp_mono (hkeep _ (hp hd _)) (fun _ _ hG => hG) (fun _ _ hQ => hQ) ?_
    exact fun e u hx => ⟨ev, hx.1, hspec, fun _ => .inr hx.2⟩
  · refine Proc.wp_mono (hkeep (fun _ _ => True) (wp_any p _)) (fun _ _ hG => hG)
      (fun _ _ hQ => hQ) ?_
    exact fun e u hx => ⟨ev, hx.1, hspec, fun h => (hd h).elim⟩

theorem calling_onNet {Q : α → List SocketEvent → Prop}
    {f : Network → SocketAnswer → Except Exc α × Network} (h : Since base k consumed ev t.net)
    (hf : ∀ (n : Network) (i : NetInput κ), A i → Since base k consumed ev n →
      ∃ ev', Since base k consumed ev' (f n i.socket).2 ∧ Spec ev' ∧
        match (f n i.socket).1 with
        | .ok a => Q a ev'
        | .error e => deliveries ev' = [] → e.transport = true ∨ S e) :
    Calling A S base k consumed Spec Q (onNet f) t := by
  refine Proc.wp_atomic (fun u hu i hi => ?_)
  obtain ⟨ev', hs, hspec, hout⟩ := hf u.net i hi (h.peer hu)
  refine ⟨⟨ev', hs, hspec⟩, ?_⟩
  revert hout
  dsimp only
  cases (f u.net i.socket).1 with
  | ok a => exact fun hq => ⟨ev', hs, hspec, hq⟩
  | error e => exact fun he => ⟨ev', hs, hspec, he⟩

variable (hA : ∀ i : NetInput κ, A i → i.socket = .memory → S .memoryError)
include hA

theorem calling_read {size : Nat} (h : Since base k consumed ev t.net) (hspec : Spec ev)
    (hread : ∀ tm bytes, bytes.length ≤ size → Spec (ev ++ [.read k tm size bytes])) :
    Calling A S base k consumed Spec (fun data ev' => ∃ tm bytes,
      ev' = ev ++ [.read k tm size bytes] ∧ bytes.length ≤ size ∧
        (data = some bytes ∨ data = none ∧ bytes = [])) (onNet (Network.read size)) t := by
  refine calling_onNet h (fun n i hi hn => ?_)
  obtain ⟨c, hcur, -, hcon⟩ := hn.current
  have htook : ∀ count, Since base k consumed
      (ev ++ [.read k c.timeoutMs size (c.unread.take (min count size))])
      ((n.put k { c with consumed :=
        c.consumed + (c.unread.take (min count size)).length }).record
          (.read k c.timeoutMs size (c.unread.take (min count size)))) := by
    intro count
    refine hn.put ?_
    simp [hcon]
    omega
  have hle : ∀ count, (c.unread.take (min count size)).length ≤ size := by
    intro count
    rw [List.length_take]
    omega
  simp only [Network.read, Network.onSocket, hcur]
  cases ha : i.socket with
  | memory => exact ⟨ev, hn, hspec, fun _ => .inr (hA i hi ha)⟩
  | fail count => exact ⟨_, htook count, hread _ _ (hle count), fun _ => .inl rfl⟩
  | nothing => exact ⟨_, htook 0, hread _ _ (hle 0), _, _, rfl, hle 0, .inr ⟨rfl, by simp⟩⟩
  | short count => exact ⟨_, htook count, hread _ _ (hle count), _, _, rfl, hle count, .inl rfl⟩
  | done =>
    refine ⟨_, htook size, hread _ _ (hle size), _, _, rfl, hle size, .inl ?_⟩
    rw [Nat.min_self]

theorem calling_write {owner : Option Owner} {bytes : Bytes}
    (h : Since base k consumed ev t.net) (hspec : Spec ev)
    (hwrote : ∀ tm count, Spec (ev ++ [.wrote k tm owner (bytes.take count)])) :
    Calling A S base k consumed Spec (fun _ ev' => ∃ tm, ev' = ev ++ [.wrote k tm owner bytes])
      (onNet (Network.write owner bytes)) t := by
  refine calling_onNet h (fun n i hi hn => ?_)
  obtain ⟨c, hcur, -, hcon⟩ := hn.current
  have hput : ∀ sent, Since base k consumed (ev ++ [.wrote k c.timeoutMs owner sent])
      ((n.put k { c with written := c.written ++ sent }).record
        (.wrote k c.timeoutMs owner sent)) := by
    intro sent
    refine hn.put ?_
    simpa using hcon
  have hall : Spec (ev ++ [.wrote k c.timeoutMs owner bytes]) := by
    simpa using hwrote c.timeoutMs bytes.length
  simp only [Network.write, Network.onSocket, hcur]
  cases ha : i.socket with
  | memory => exact ⟨ev, hn, hspec, fun _ => .inr (hA i hi ha)⟩
  | fail count => exact ⟨_, hput _, hwrote _ _, fun _ => .inl rfl⟩
  | _ =>
    dsimp only
    by_cases hclosed : c.closed = true
    · rw [if_pos hclosed]
      exact ⟨ev, hn, hspec, fun _ => .inl rfl⟩
    · rw [if_neg hclosed]
      exact ⟨_, hput _, hall, _, rfl⟩

theorem calling_abort {Q : α → List SocketEvent → Prop} {reason : String}
    (h : Since base k consumed ev t.net) (hspec : Spec ev) (hclosed : Spec (ev ++ [.closed k]))  :
    Calling A S base k consumed Spec Q (abortCorruptInbound reason) t := by
  refine calling_seq (Q := fun _ _ => True) ?_ (fun _ ev' u hu hspec' _ =>
    calling_throw hu hspec' (fun _ => .inl rfl))
  rw [Calling, Proc.wp_handle]
  have hclose : Calling A (fun e => e = .memoryError ∧ S e) base k consumed Spec
      (fun _ _ => True) (onNet Network.close) t := by
    refine calling_onNet h (fun n i hi hn => ?_)
    obtain ⟨c, hcur, -, hcon⟩ := hn.current
    simp only [Network.close, Network.onSocket, hcur]
    cases ha : i.socket with
    | memory => exact ⟨ev, hn, hspec, fun _ => .inr ⟨rfl, hA i hi ha⟩⟩
    | fail count => exact ⟨ev, hn, hspec, fun _ => .inl rfl⟩
    | _ =>
      refine ⟨_, hn.put ?_, hclosed, trivial⟩
      simpa using hcon
  refine Proc.wp_mono hclose (fun _ _ hG => hG) (fun _ _ hQ => hQ) ?_
  rintro e u ⟨ev', hu, hspec', he⟩
  cases e with
  | memoryError =>
    refine ⟨ev', hu, hspec', fun hd => ?_⟩
    rcases he hd with he | he
    · cases he
    · exact .inr he.2
  | _ => exact ⟨ev', hu, hspec', trivial⟩

theorem calling_guard {c : Prop} [Decidable c] {Q : α → List SocketEvent → Prop}
    {reason : String} {rest : Unit → NetProg σ κ α} (h : Since base k consumed ev t.net)
    (hspec : Spec ev) (hclosed : Spec (ev ++ [.closed k]))
    (hrest : ¬ c → Calling A S base k consumed Spec Q (rest ()) t) :
    Calling A S base k consumed Spec Q
      (if c then abortCorruptInbound reason >>= rest else rest ()) t := by
  by_cases hc : c
  · rw [if_pos hc]
    exact calling_seq (Q := fun _ _ => False) (calling_abort hA h hspec hclosed)
      (fun _ _ _ _ _ hfalse => hfalse.elim)
  · rw [if_neg hc]
    exact hrest hc

variable (hook : ∀ app, host.service.wp (fun _ => True) (fun _ _ => True) (fun _ _ => True)
  (fun _ _ => True) (fun e _ => S e) app)

include hook

omit hA in
theorem calling_service (h : Since base k consumed ev t.net) (hspec : Spec ev) :
    Calling A S base k consumed Spec (fun _ ev' => ev' = ev) (service host) t := by
  refine calling_seq (calling_onApp h hspec (fun _ => hook)) ?_
  rintro _ ev' u hu hspec' rfl
  exact calling_onNet hu (fun n i _ hn => ⟨_, hn.serviced, hspec', rfl⟩)

theorem calling_readRequired {size : Nat} (h : Since base k consumed ev t.net) (hspec : Spec ev)
    (hread : ∀ tm bytes, bytes.length ≤ size → Spec (ev ++ [.read k tm size bytes])) :
    Calling A S base k consumed Spec (fun data ev' => ∃ tm,
      ev' = ev ++ [.read k tm size data] ∧ data.length = size) (readRequired host size) t := by
  refine calling_seq (calling_service hook h hspec) ?_
  intro _ ev' u hu _ hev
  subst ev'
  refine calling_seq (calling_read hA hu hspec hread) ?_
  rintro data ev' v hv hspec' ⟨tm, bytes, rfl, hle, hdata⟩
  cases data with
  | none => exact calling_throw hv hspec' (fun _ => .inl rfl)
  | some data =>
    obtain rfl : data = bytes := by simpa using hdata
    by_cases hlen : data.length = size
    · dsimp only
      rw [if_neg (not_not_intro hlen)]
      exact calling_pure hv hspec' ⟨tm, rfl, hlen⟩
    · dsimp only
      rw [if_pos hlen]
      exact calling_throw hv hspec' (fun _ => .inl rfl)

theorem calling_readByte (h : Since base k consumed ev t.net) (hspec : Spec ev)
    (hread : ∀ tm bytes, bytes.length ≤ 1 → Spec (ev ++ [.read k tm 1 bytes])) :
    Calling A S base k consumed Spec (fun n ev' => ∃ tm b,
      ev' = ev ++ [.read k tm 1 [b]] ∧ n = b.toNat) (readByte host) t := by
  refine calling_seq (calling_readRequired hA hook h hspec hread) ?_
  rintro data ev' u hu hspec' ⟨tm, rfl, hlen⟩
  obtain ⟨b, rfl⟩ := List.length_eq_one_iff.mp hlen
  exact calling_pure hu hspec' ⟨tm, b, rfl, rfl⟩

theorem calling_writeServiced {owner : Option Owner} {bytes : Bytes}
    (h : Since base k consumed ev t.net) (hspec : Spec ev)
    (hwrote : ∀ tm count, Spec (ev ++ [.wrote k tm owner (bytes.take count)])) :
    Calling A S base k consumed Spec (fun _ ev' => ∃ tm, ev' = ev ++ [.wrote k tm owner bytes])
      (write host owner bytes) t := by
  refine calling_seq (calling_service hook h hspec) ?_
  intro _ ev' u hu _ hev
  subst ev'
  exact calling_write hA hu hspec hwrote

end Call

/-- A complete PUBLISH of QoS 0 or 1 whose fields fill its remaining length exactly. -/
structure PublishPacket where
  op : UInt8
  lengthBytes : Bytes
  topicLength : Bytes
  topic : Bytes
  packetId : Bytes
  payload : Bytes
  isPublish : op &&& 0xF0 = 0x30
  qos : op &&& 6 = 0 ∧ packetId = [] ∨ op &&& 6 = 2 ∧ packetId.length = 2
  fourBytes : lengthBytes.length ≤ 4
  remaining : Base128.decode 4 lengthBytes =
    .number (2 + topic.length + packetId.length + payload.length) []
  topicFits : topicLength.length = 2 ∧ be16Value topicLength = topic.length

def PublishPacket.wire (p : PublishPacket) : Bytes :=
  p.op :: (p.lengthBytes ++ p.topicLength ++ p.topic ++ p.packetId ++ p.payload)

/-- The PUBACK that a PUBLISH of QoS 1 is answered with. -/
def PublishPacket.answer (p : PublishPacket) : Bytes :=
  if p.op &&& 6 = 2 then [0x40, 0x02] ++ be16 (be16Value p.packetId) else []

def LengthReads (sizes : List Nat) : Prop :=
  sizes = [] ∨ ∃ count tail, count ≤ 4 ∧ sizes = 1 :: (List.replicate count 1 ++ tail) ∧
    (tail = [] ∨ tail.head? = some 2)

/-- The events of one call, at any moment of it. -/
structure InboundCall (ev : List SocketEvent) : Prop where
  bounded : ∀ size ∈ requests ev, size ≤ MAX_INBOUND_PACKET_BYTES
  lengthReads : LengthReads (requests ev)
  delivered : deliveries ev = [] ∧ bytesWritten ev = [] ∨
    ∃ (p : PublishPacket) (before after : List SocketEvent),
      ev = before ++ .delivered p.topic p.payload :: after ∧
      bytesRead before = p.wire ∧ deliveries before = [] ∧ bytesWritten before = [] ∧
      requests after = [] ∧ deliveries after = [] ∧ bytesWritten after <+: p.answer

/-- What a normal return says about the events of the call. -/
def Returned (result : Option UInt8) (ev : List SocketEvent) : Prop :=
  match result with
  | none => deliveries ev = [] ∧ (bytesRead ev = [] ∨ bytesRead ev = [0xD0, 0x00])
  | some op =>
    (op = 0x40 ∨ op = 0x90) ∧ deliveries ev = [] ∧ bytesRead ev = [op] ∨
    ∃ p : PublishPacket, p.op = op ∧ deliveries ev = [(p.topic, p.payload)] ∧
      bytesRead ev = p.wire ∧ bytesWritten ev = p.answer

theorem InboundCall.reading {ev : List SocketEvent} (hd : deliveries ev = [])
    (hw : bytesWritten ev = []) (hb : ∀ size ∈ requests ev, size ≤ MAX_INBOUND_PACKET_BYTES)
    (hl : LengthReads (requests ev)) : InboundCall ev := ⟨hb, hl, .inl ⟨hd, hw⟩⟩

def lengthValue : Bytes → Nat
  | [] => 0
  | b :: rest => b.toNat % 128 + 128 * lengthValue rest

theorem lengthValue_snoc (bytes : Bytes) (b : UInt8) :
    lengthValue (bytes ++ [b]) = lengthValue bytes + b.toNat % 128 * 128 ^ bytes.length := by
  induction bytes with
  | nil => simp [lengthValue]
  | cons c rest ih =>
    simp only [List.cons_append, lengthValue, ih, List.length_cons, Nat.pow_succ]
    rw [Nat.mul_add, ← Nat.mul_assoc, Nat.mul_comm (128 ^ rest.length) 128, ← Nat.mul_assoc,
      Nat.mul_comm (b.toNat % 128) 128]
    omega

theorem lengthValue_lt (bytes : Bytes) : lengthValue bytes < 128 ^ bytes.length := by
  induction bytes with
  | nil => simp [lengthValue]
  | cons b rest ih =>
    rw [lengthValue, List.length_cons, Nat.pow_succ]
    omega

/-- The loop's bit operations are the arithmetic of the encoding. -/
theorem lengthStep (bytes : Bytes) (b : UInt8) :
    lengthValue bytes ||| (b.toNat &&& 0x7F) <<< (7 * bytes.length) =
      lengthValue (bytes ++ [b]) := by
  have hlt : lengthValue bytes < 2 ^ (7 * bytes.length) := by
    have h := lengthValue_lt bytes
    rwa [show (128 : Nat) = 2 ^ 7 from rfl, ← Nat.pow_mul] at h
  have hand : b.toNat &&& 0x7F = b.toNat % 128 := Nat.and_two_pow_sub_one_eq_mod _ 7
  rw [lengthValue_snoc, hand, Nat.or_comm, Nat.shiftLeft_eq, Nat.mul_comm,
    ← Nat.two_pow_add_eq_or_of_lt hlt, show (128 : Nat) ^ bytes.length = 2 ^ (7 * bytes.length) by
      rw [show (128 : Nat) = 2 ^ 7 from rfl, ← Nat.pow_mul], Nat.mul_comm, Nat.add_comm]

theorem continues_iff (b : UInt8) : b.toNat &&& 0x80 = 0 ↔ b.toNat < 128 := by
  have hlt := b.toNat_lt
  have hbit : (b.toNat &&& 2 ^ 7).testBit 7 = decide (b.toNat / 2 ^ 7 % 2 = 1) := by
    rw [Nat.testBit_and, Nat.testBit_two_pow_self, Bool.and_true, Nat.testBit_eq_decide_div_mod_eq]
  constructor
  · intro h
    rw [show (2 : Nat) ^ 7 = 0x80 from rfl, h] at hbit
    simp only [Nat.zero_testBit, Bool.false_eq, decide_eq_false_iff_not] at hbit
    omega
  · intro h
    apply Nat.eq_of_testBit_eq
    intro i
    rw [Nat.testBit_and, show (0x80 : Nat) = 2 ^ 7 from rfl, Nat.testBit_two_pow, Nat.zero_testBit]
    by_cases hi : 7 = i
    · subst hi
      simp [Nat.testBit_lt_two_pow (show b.toNat < 2 ^ 7 by omega)]
    · simp [hi]

/-- Continued bytes and a last one decode to their value. -/
theorem decode_lengthBytes {limit : Nat} (bytes : Bytes) {b : UInt8}
    (hcont : ∀ c ∈ bytes, ¬ c.toNat < 128) (hb : b.toNat < 128) (hlimit : bytes.length < limit) :
    Base128.decode limit (bytes ++ [b]) = .number (lengthValue (bytes ++ [b])) [] := by
  induction bytes generalizing limit with
  | nil =>
    obtain ⟨l, rfl⟩ : ∃ l, limit = l + 1 := ⟨limit - 1, by simp at hlimit; omega⟩
    simp [Base128.decode, hb, lengthValue, Nat.mod_eq_of_lt hb]
  | cons c rest ih =>
    simp only [List.length_cons] at hlimit
    obtain ⟨l, rfl⟩ : ∃ l, limit = l + 1 := ⟨limit - 1, by omega⟩
    have hrest := @ih l (fun d hd => hcont d (List.mem_cons_of_mem _ hd)) (by omega)
    simp [Base128.decode, hcont c List.mem_cons_self, hrest, lengthValue]

section Receive

variable {A : NetInput κ → Prop} {S : Exc → Prop} {base : List SocketEvent} {k consumed : Nat}
  {ev : List SocketEvent} {t : Sys σ} {op : UInt8}

structure LengthSoFar (op : UInt8) (bytes : Bytes) (ev : List SocketEvent) : Prop where
  read : bytesRead ev = op :: bytes
  asked : requests ev = 1 :: List.replicate bytes.length 1
  quiet : deliveries ev = [] ∧ bytesWritten ev = []

theorem LengthSoFar.call {bytes : Bytes} (h : LengthSoFar op bytes ev) (hlen : bytes.length ≤ 4) :
    InboundCall ev := by
  refine .reading h.quiet.1 h.quiet.2 ?_ ?_
  · intro size hsize
    rw [h.asked, List.mem_cons, List.mem_replicate] at hsize
    simp only [MAX_INBOUND_PACKET_BYTES]
    omega
  · exact .inr ⟨bytes.length, [], hlen, by simp [h.asked], .inl rfl⟩

theorem LengthSoFar.read_call {bytes : Bytes} (h : LengthSoFar op bytes ev)
    (hlen : bytes.length < 4) (tm : Option Nat) (more : Bytes) :
    InboundCall (ev ++ [.read k tm 1 more]) := by
  have hasked : requests (ev ++ [.read k tm 1 more]) =
      1 :: List.replicate (bytes.length + 1) 1 := by
    simp [h.asked, List.replicate_succ']
  refine .reading (by simp [h.quiet.1])
    (by simp [h.quiet.2]) ?_ ?_
  · intro size hsize
    rw [hasked, List.mem_cons, List.mem_replicate] at hsize
    simp only [MAX_INBOUND_PACKET_BYTES]
    omega
  · exact .inr ⟨bytes.length + 1, [], by omega, by simp [hasked], .inl rfl⟩

theorem LengthSoFar.snoc {bytes : Bytes} (h : LengthSoFar op bytes ev) (tm : Option Nat)
    (b : UInt8) : LengthSoFar op (bytes ++ [b]) (ev ++ [.read k tm 1 [b]]) := by
  refine ⟨?_, ?_, ?_, ?_⟩
  · simp [h.read]
  · simp [h.asked, List.replicate_succ']
  · simp [h.quiet.1]
  · simp [h.quiet.2]

/-- A close after reads changes nothing that the call is judged by. -/
theorem InboundCall.closed (h : InboundCall ev) (hd : deliveries ev = [])
    (hw : bytesWritten ev = []) : InboundCall (ev ++ [.closed k]) := by
  have hr : requests (ev ++ [.closed k]) = requests ev := by
    simp
  refine .reading (by simp [hd])
    (by simp [hw]) ?_ ?_
  · rw [hr]
    exact h.bounded
  · rw [hr]
    exact h.lengthReads

structure FieldsSoFar (op : UInt8) (lengthBytes body : Bytes) (sizes : List Nat)
    (ev : List SocketEvent) : Prop where
  fourBytes : lengthBytes.length ≤ 4
  read : bytesRead ev = op :: (lengthBytes ++ body)
  asked : requests ev = 1 :: (List.replicate lengthBytes.length 1 ++ sizes)
  topicFirst : sizes = [] ∨ sizes.head? = some 2
  bounded : ∀ size ∈ sizes, size ≤ MAX_INBOUND_PACKET_BYTES
  quiet : deliveries ev = [] ∧ bytesWritten ev = []

section Fields

variable {lengthBytes body : Bytes} {sizes : List Nat}

theorem LengthSoFar.whole (h : LengthSoFar op lengthBytes ev) (hlen : lengthBytes.length ≤ 4) :
    FieldsSoFar op lengthBytes [] [] ev :=
  ⟨hlen, by simp [h.read], by simp [h.asked], .inl rfl, by simp, h.quiet⟩

theorem FieldsSoFar.call (h : FieldsSoFar op lengthBytes body sizes ev) : InboundCall ev := by
  refine .reading h.quiet.1 h.quiet.2 ?_ ?_
  · intro size hsize
    rw [h.asked, List.mem_cons, List.mem_append, List.mem_replicate] at hsize
    rcases hsize with hsize | ⟨-, hsize⟩ | hsize
    · simp only [MAX_INBOUND_PACKET_BYTES]
      omega
    · simp only [MAX_INBOUND_PACKET_BYTES]
      omega
    · exact h.bounded size hsize
  · exact .inr ⟨_, sizes, h.fourBytes, h.asked, h.topicFirst⟩

theorem FieldsSoFar.closed (h : FieldsSoFar op lengthBytes body sizes ev) :
    InboundCall (ev ++ [.closed k]) := h.call.closed h.quiet.1 h.quiet.2

theorem FieldsSoFar.snoc {size : Nat} {tm : Option Nat} {bytes : Bytes}
    (h : FieldsSoFar op lengthBytes body sizes ev) (hsize : size ≤ MAX_INBOUND_PACKET_BYTES)
    (hfirst : sizes = [] → size = 2) :
    FieldsSoFar op lengthBytes (body ++ bytes) (sizes ++ [size])
      (ev ++ [.read k tm size bytes]) := by
  refine ⟨h.fourBytes, ?_, ?_, ?_, ?_, ?_, ?_⟩
  · simp [h.read]
  · simp [h.asked]
  · right
    cases sizes with
    | nil => simp [hfirst rfl]
    | cons n rest => simpa using h.topicFirst
  · intro n hn
    rcases List.mem_append.mp hn with hn | hn
    · exact h.bounded n hn
    · rwa [List.mem_singleton.mp hn]
  · simp [h.quiet.1]
  · simp [h.quiet.2]

end Fields

variable (hA : ∀ i : NetInput κ, A i → i.socket = .memory → S .memoryError)
  (hook : ∀ app, host.service.wp (fun _ => True) (fun _ _ => True) (fun _ _ => True)
    (fun _ _ => True) (fun e _ => S e) app)

include hA hook

/-- The loop of `_recv_len` reads at most four bytes and returns what they encode. -/
theorem calling_recvLenFrom {left : Nat} {bytes : Bytes} (h : Since base k consumed ev t.net)
    (hso : LengthSoFar op bytes ev) (hleft : bytes.length + left = 4)
    (hcont : ∀ c ∈ bytes, ¬ c.toNat < 128) :
    Calling A S base k consumed InboundCall (fun n ev' => ∃ all,
      LengthSoFar op all ev' ∧ all.length ≤ 4 ∧ Base128.decode 4 all = .number n [])
      (recvLenFrom host left (lengthValue bytes) (7 * bytes.length)) t := by
  induction left generalizing bytes ev t with
  | zero =>
    have hcall := hso.call (by omega)
    exact calling_abort hA h hcall (hcall.closed hso.quiet.1 hso.quiet.2)
  | succ left ih =>
    refine calling_seq (calling_readByte hA hook h (hso.call (by omega))
      (fun tm more _ => hso.read_call (by omega) tm more)) ?_
    rintro n ev' u hu hspec ⟨tm, b, rfl, rfl⟩
    have hsnoc : LengthSoFar op (bytes ++ [b]) (ev ++ [.read k tm 1 [b]]) := hso.snoc tm b
    have hlen : (bytes ++ [b]).length = bytes.length + 1 := by simp
    simp only [lengthStep]
    by_cases hb : b.toNat < 128
    · rw [if_pos ((continues_iff b).mpr hb)]
      refine calling_pure hu hspec ⟨bytes ++ [b], hsnoc, by omega, ?_⟩
      exact decode_lengthBytes bytes hcont hb (by omega)
    · rw [if_neg (fun h => hb ((continues_iff b).mp h))]
      have hmore : ∀ c ∈ bytes ++ [b], ¬ c.toNat < 128 := by
        intro c hc
        cases List.mem_append.mp hc with
        | inl hc => exact hcont c hc
        | inr hc => rwa [List.mem_singleton.mp hc]
      have hrest := ih hu hsnoc (by omega) hmore
      rwa [hlen, Nat.mul_add] at hrest

theorem calling_field {size : Nat} {lengthBytes body : Bytes} {sizes : List Nat}
    (h : Since base k consumed ev t.net) (hso : FieldsSoFar op lengthBytes body sizes ev)
    (hsize : size ≤ MAX_INBOUND_PACKET_BYTES) (hfirst : sizes = [] → size = 2) :
    Calling A S base k consumed InboundCall (fun data ev' => data.length = size ∧
      FieldsSoFar op lengthBytes (body ++ data) (sizes ++ [size]) ev')
      (readRequired host size) t := by
  have hsnoc : ∀ tm bytes, FieldsSoFar op lengthBytes (body ++ bytes) (sizes ++ [size])
      (ev ++ [.read k tm size bytes]) := fun tm bytes => hso.snoc hsize hfirst
  refine calling_mono (calling_readRequired hA hook h hso.call
    (fun tm bytes _ => (hsnoc tm bytes).call)) ?_
  rintro data ev' ⟨tm, rfl, hlen⟩
  exact ⟨hlen, hso.snoc hsize hfirst⟩

end Receive

theorem qosBits (op : UInt8) : op &&& 6 = 0 ∨ op &&& 6 = 2 ∨ op &&& 6 = 4 ∨ op &&& 6 = 6 := by
  have h : ∀ n : Fin 256, UInt8.ofFin n &&& 6 = 0 ∨ UInt8.ofFin n &&& 6 = 2 ∨
      UInt8.ofFin n &&& 6 = 4 ∨ UInt8.ofFin n &&& 6 = 6 := by decide +kernel
  exact h op.toFin

section Deliver

variable {A : NetInput κ → Prop} {S : Exc → Prop} {base : List SocketEvent} {k consumed : Nat}
  {ev : List SocketEvent} {t : Sys σ}

def Complete (p : PublishPacket) (ev : List SocketEvent) : Prop :=
  ∃ sizes, FieldsSoFar p.op p.lengthBytes (p.topicLength ++ p.topic ++ p.packetId ++ p.payload)
    sizes ev

def Answered (p : PublishPacket) (sent : Bytes) (ev : List SocketEvent) : Prop :=
  ∃ before after, Complete p before ∧ ev = before ++ .delivered p.topic p.payload :: after ∧
    requests after = [] ∧ bytesRead after = [] ∧ deliveries after = [] ∧ bytesWritten after = sent

theorem Complete.wire {p : PublishPacket} (h : Complete p ev) : bytesRead ev = p.wire := by
  obtain ⟨sizes, h⟩ := h
  simp [h.read, PublishPacket.wire]

theorem Answered.call {p : PublishPacket} {sent : Bytes} (h : Answered p sent ev)
    (hsent : sent <+: p.answer) : InboundCall ev := by
  obtain ⟨before, after, hc, rfl, hreq, hread, hdel, hwr⟩ := h
  have hwire := hc.wire
  obtain ⟨sizes, hso⟩ := hc
  have hr : requests (before ++ .delivered p.topic p.payload :: after) = requests before := by
    simp [hreq]
  refine ⟨?_, ?_, .inr ⟨p, before, after, rfl, hwire, hso.quiet.1, hso.quiet.2, hreq, hdel, ?_⟩⟩
  · rw [hr]
    exact hso.call.bounded
  · rw [hr]
    exact hso.call.lengthReads
  · rwa [hwr]

theorem Answered.delivered {p : PublishPacket} {sent : Bytes} (h : Answered p sent ev) :
    deliveries ev = [(p.topic, p.payload)] ∧ bytesRead ev = p.wire ∧ bytesWritten ev = sent := by
  obtain ⟨before, after, hc, rfl, hreq, hread, hdel, hwr⟩ := h
  have hwire := hc.wire
  obtain ⟨sizes, hso⟩ := hc
  simp [hso.quiet.1, hso.quiet.2, hwire, hread, hdel, hwr]

/-- A complete packet is handed to the callback. -/
theorem calling_deliver (p : PublishPacket) (h : Since base k consumed ev t.net)
    (hso : Complete p ev) :
    Calling A S base k consumed InboundCall (fun _ => Answered p [])
      (receivePublish.deliver host p.topic p.payload) t := by
  have hdone : Answered p [] (ev ++ [.delivered p.topic p.payload]) :=
    ⟨ev, [], hso, rfl, rfl, rfl, rfl, rfl⟩
  refine calling_seq (Q := fun _ => Answered p []) ?_ ?_
  · refine calling_onNet h (fun n i _ hn => ?_)
    obtain ⟨c, hc, hcon⟩ := hn.conn
    exact ⟨_, ⟨by simp [Network.record, hn.events], hn.sock, c, hc, by simpa using hcon⟩,
      hdone.call List.nil_prefix, hdone⟩
  · intro _ ev' u hu hspec hev
    refine calling_mono (calling_onApp (S := S) hu hspec (fun hd => ?_)) ?_
    · rw [hev.delivered.1] at hd
      cases hd
    · rintro _ _ rfl
      exact hev

variable (hA : ∀ i : NetInput κ, A i → i.socket = .memory → S .memoryError)
  (hook : ∀ app, host.service.wp (fun _ => True) (fun _ _ => True) (fun _ _ => True)
    (fun _ _ => True) (fun e _ => S e) app)

include hA hook

theorem calling_answer (p : PublishPacket) (h : Since base k consumed ev t.net)
    (hso : Answered p [] ev) (hqos : p.op &&& 6 = 2) :
    Calling A S base k consumed InboundCall (fun _ => Answered p p.answer)
      (write host none ([0x40, 0x02] ++ be16 (be16Value p.packetId))) t := by
  have hanswer : p.answer = [0x40, 0x02] ++ be16 (be16Value p.packetId) := if_pos hqos
  obtain ⟨before, after, hc, rfl, hreq, hread, hdel, hwr⟩ := hso
  have hwrote : ∀ tm sent, Answered p sent ((before ++ .delivered p.topic p.payload :: after) ++
      [.wrote k tm none sent]) := by
    intro tm sent
    exact ⟨before, after ++ [.wrote k tm none sent], hc, by simp, by simp [hreq], by simp [hread],
      by simp [hdel], by simp [hwr]⟩
  rw [← hanswer]
  refine calling_mono (calling_writeServiced hA hook h ?_ ?_) ?_
  · exact Answered.call ⟨before, after, hc, rfl, hreq, hread, hdel, hwr⟩ List.nil_prefix
  · exact fun tm count => (hwrote tm _).call (List.take_prefix _ _)
  · rintro _ _ ⟨tm, rfl⟩
    exact hwrote tm _

theorem calling_receivePublish {op : UInt8} (h : Since base k consumed ev t.net)
    (hso : LengthSoFar op [] ev) (hpub : op &&& 0xF0 = 0x30)
    (hqos : op &&& 6 = 0 ∨ op &&& 6 = 2) :
    Calling A S base k consumed InboundCall Returned (receivePublish host op) t := by
  unfold receivePublish
  refine calling_seq (calling_recvLenFrom hA hook h hso rfl (by simp)) ?_
  rintro sz ev₁ t₁ h₁ - ⟨lengthBytes, hlength, hfour, hdecode⟩
  have hf₁ := hlength.whole hfour
  refine calling_guard hA h₁ hf₁.call hf₁.closed (fun hbig => ?_)
  refine calling_guard hA h₁ hf₁.call hf₁.closed (fun hsmall => ?_)
  refine calling_seq (calling_field hA hook h₁ hf₁ (by decide) (fun _ => rfl)) ?_
  rintro topicLength ev₂ t₂ h₂ - ⟨htwo, hf₂⟩
  refine calling_guard hA h₂ hf₂.call hf₂.closed (fun hfits => ?_)
  refine calling_seq (calling_field hA hook h₂ hf₂ (by omega) (by simp)) ?_
  rintro topic ev₃ t₃ h₃ - ⟨htopic, hf₃⟩
  have hpacket : ∀ packetId payload : Bytes,
      sz = 2 + topic.length + packetId.length + payload.length →
      (op &&& 6 = 0 ∧ packetId = [] ∨ op &&& 6 = 2 ∧ packetId.length = 2) →
      ∃ p : PublishPacket, p.op = op ∧ p.lengthBytes = lengthBytes ∧
        p.topicLength = topicLength ∧ p.topic = topic ∧ p.packetId = packetId ∧
        p.payload = payload := by
    intro packetId payload hsz hq
    exact ⟨⟨op, lengthBytes, topicLength, topic, packetId, payload, hpub, hq, hfour, hsz ▸ hdecode,
      htwo, htopic.symm⟩, rfl, rfl, rfl, rfl, rfl, rfl⟩
  rcases hqos with hqos | hqos
  · rw [if_neg (by simp [hqos])]
    refine calling_seq (calling_field hA hook h₃ hf₃ (by omega) (by simp)) ?_
    rintro msg ev₄ t₄ h₄ - ⟨hmsg, hf₄⟩
    obtain ⟨p, hop, rfl, rfl, rfl, hid, rfl⟩ := hpacket [] msg
      (by simp only [List.length_nil]; omega) (.inl ⟨hqos, rfl⟩)
    have hcomplete : Complete p ev₄ := ⟨_, by
      rw [hop, hid, List.append_nil]
      simpa using hf₄⟩
    refine calling_seq (calling_deliver p h₄ hcomplete) ?_
    intro _ ev₅ t₅ h₅ hspec hans
    refine calling_pure h₅ hspec (.inr ⟨p, hop, hans.delivered.1, hans.delivered.2.1, ?_⟩)
    rw [hans.delivered.2.2, PublishPacket.answer, if_neg (by rw [hop, hqos]; decide)]
  · rw [if_pos (by rw [hqos]; decide)]
    refine calling_guard hA h₃ hf₃.call hf₃.closed (fun hroom => ?_)
    refine calling_seq (calling_field hA hook h₃ hf₃ (by decide) (by simp)) ?_
    rintro pid ev₄ t₄ h₄ - ⟨hpid, hf₄⟩
    refine calling_seq (calling_field hA hook h₄ hf₄ (by omega) (by simp)) ?_
    rintro msg ev₅ t₅ h₅ - ⟨hmsg, hf₅⟩
    obtain ⟨p, hop, rfl, rfl, rfl, rfl, rfl⟩ := hpacket pid msg (by omega) (.inr ⟨hqos, hpid⟩)
    have hcomplete : Complete p ev₅ := ⟨_, by
      rw [hop]
      simpa using hf₅⟩
    refine calling_seq (calling_deliver p h₅ hcomplete) ?_
    intro _ ev₆ t₆ h₆ _ hans
    rw [if_pos hqos]
    refine calling_seq (calling_answer hA hook p h₆ hans (by rw [hop, hqos])) ?_
    intro _ ev₇ t₇ h₇ hspec hans
    exact calling_pure h₇ hspec (.inr ⟨p, hop, hans.delivered⟩)

theorem calling_dispatch {op : UInt8} (h : Since base k consumed ev t.net)
    (hso : LengthSoFar op [] ev) :
    Calling A S base k consumed InboundCall Returned (dispatch host op) t := by
  have hcall : InboundCall ev := hso.call (by simp)
  have hclosed : InboundCall (ev ++ [.closed k]) := hcall.closed hso.quiet.1 hso.quiet.2
  unfold dispatch
  by_cases hping : op = 0xD0
  · rw [if_pos hping]
    refine calling_seq (calling_readByte hA hook h hcall
      (fun tm bytes _ => hso.read_call (by simp) tm bytes)) ?_
    rintro n _ u hu hspec ⟨tm, b, rfl, rfl⟩
    have hone : LengthSoFar op [b] (ev ++ [.read k tm 1 [b]]) := hso.snoc tm b
    refine calling_guard hA hu hspec (hspec.closed hone.quiet.1 hone.quiet.2) (fun hzero => ?_)
    obtain rfl : b = 0 := UInt8.toNat_inj.mp (Decidable.not_not.mp hzero)
    exact calling_pure hu hspec ⟨hone.quiet.1, .inr (by rw [hone.read, hping])⟩
  rw [if_neg hping]
  by_cases hkind : op &&& 0xF0 = 0x30
  · rw [if_neg (not_not_intro hkind)]
    by_cases h4 : op &&& 6 = 4
    · rw [if_pos h4]
      exact calling_abort hA h hcall hclosed
    rw [if_neg h4]
    by_cases h6 : op &&& 6 = 6
    · rw [if_pos h6]
      exact calling_abort hA h hcall hclosed
    rw [if_neg h6]
    refine calling_receivePublish hA hook h hso hkind ?_
    rcases qosBits op with hq | hq | hq | hq
    · exact .inl hq
    · exact .inr hq
    · exact (h4 hq).elim
    · exact (h6 hq).elim
  rw [if_pos hkind]
  by_cases hack : op = 0x40 ∨ op = 0x90
  · rw [if_pos hack]
    exact calling_pure h hcall (.inl ⟨hack, hso.quiet.1, hso.read⟩)
  rw [if_neg hack]
  by_cases hbye : op = 0xE0
  · rw [if_pos hbye]
    exact calling_abort hA h hcall hclosed
  rw [if_neg hbye]
  exact calling_abort hA h hcall hclosed

theorem calling_waitMsg (h : Since base k consumed [] t.net) :
    Calling A S base k consumed InboundCall Returned (waitMsg host) t := by
  have hnil : InboundCall [] := .reading rfl rfl (by simp) (.inl rfl)
  have hfirst : ∀ tm bytes, InboundCall ([] ++ [.read k tm 1 bytes]) := by
    intro tm bytes
    exact .reading rfl rfl (by simp [MAX_INBOUND_PACKET_BYTES])
      (.inr ⟨0, [], by simp, rfl, .inl rfl⟩)
  unfold waitMsg
  refine calling_seq (calling_service hook h hnil) ?_
  rintro _ _ t₁ h₁ - rfl
  refine calling_seq (calling_read hA h₁ hnil (fun tm bytes _ => hfirst tm bytes)) ?_
  rintro data _ t₂ h₂ hspec ⟨tm, bytes, rfl, hle, hdata⟩
  cases data with
  | none =>
    obtain rfl : bytes = [] := by simpa using hdata
    exact calling_pure h₂ hspec ⟨rfl, .inl rfl⟩
  | some data =>
    obtain rfl : data = bytes := by simpa using hdata
    cases data with
    | nil => exact calling_throw h₂ hspec (fun _ => .inl rfl)
    | cons op rest =>
      obtain rfl : rest = [] := by simpa using hle
      exact calling_dispatch hA hook h₂ ⟨rfl, rfl, rfl, rfl⟩

end Deliver

def HookRaises (host : Host σ κ) (S : Exc → Prop) : Prop :=
  ∀ app, host.service.wp (fun _ => True) (fun _ _ => True) (fun _ _ => True) (fun _ _ => True)
    (fun e _ => S e) app

/-- Whatever the peer sends and wherever the stream ends, `wait_msg` stays within its bounds,
delivers complete packets only and answers those of QoS 1 and no others; what it raises before a
delivery comes from the transport, from the servicing hook or from a lack of memory. -/
theorem waitMsg_safe {A : NetInput κ → Prop} {S : Exc → Prop} {s t : Sys σ}
    {q : NetProg σ κ (Option UInt8)} {k : Nat} {c : Connection}
    (hsock : s.net.sock = some k) (hc : s.net.connections[k]? = some c)
    (hA : ∀ i : NetInput κ, A i → i.socket = .memory → S .memoryError)
    (hook : HookRaises host S) (h : Proc.Reaches A Peer (waitMsg host) s q t) :
    ∃ ev, Since s.net.events k c.consumed ev t.net ∧ InboundCall ev ∧
      (∀ result, q = .ret result → Returned result ev) ∧
      (∀ e, q = .raise e → deliveries ev = [] → e.transport = true ∨ S e) := by
  have hstart : Since s.net.events k c.consumed [] s.net := ⟨by simp, hsock, c, hc, by simp⟩
  have hnil : InboundCall [] := .reading rfl rfl (by simp) (.inl rfl)
  obtain ⟨⟨ev, hs, hspec⟩, u, hu, hw⟩ := Proc.wp_reaches (E := Peer)
    (I := fun t => ∃ ev, Since s.net.events k c.consumed ev t.net ∧ InboundCall ev)
    Peer.refl Peer.trans (fun _ _ _ hG => hG)
    (fun a b ⟨ev, hs, hspec⟩ hp => ⟨hp, ev, hs.peer hp, hspec⟩) ⟨[], hstart, hnil⟩
    (calling_waitMsg hA hook hstart) h
  have hsame : ∀ ev', Since s.net.events k c.consumed ev' u.net → ev' = ev := by
    intro ev' hs'
    have hevents := (hs'.peer hu).events.symm.trans hs.events
    exact List.append_cancel_left hevents
  refine ⟨ev, hs, hspec, ?_, ?_⟩
  · rintro result rfl
    obtain ⟨ev', hs', -, hr⟩ := hw
    rwa [hsame ev' hs'] at hr
  · rintro e rfl
    obtain ⟨ev', hs', -, he⟩ := hw
    rwa [hsame ev' hs'] at he

def quietHost : Host Unit Unit := ⟨fun _ _ => .ret (), .ret ()⟩

def greeted : Sys Unit where
  net := { connections := [{ inbound := [0x32, 7, 0, 1, 0x61, 0, 9, 0x68, 0x69] }], sock := some 0 }
  app := ()

theorem waitMsg_safe_greeted :
    ∃ ev, Since [] 0 0 ev ((waitMsg quietHost).run ⟨.done, ()⟩ greeted).2.net ∧ InboundCall ev ∧
      Returned (some 0x32) ev := by
  obtain ⟨q, hq, hret, -⟩ := Proc.run_visits (fun i : NetInput Unit => i.socket = .done)
    (i := ⟨.done, ()⟩) rfl (waitMsg quietHost) greeted
  have hdone := hret (some 0x32) rfl
  obtain ⟨ev, hs, hspec, hr, -⟩ := @waitMsg_safe _ _ quietHost _ (fun _ => False) _ _ _ _ _ rfl rfl
    (fun i hi hm => by rw [hi] at hm; cases hm) (fun _ => trivial)
    (hq.mono (fun _ h => h) (fun _ _ h => h.elim))
  exact ⟨ev, hs, hspec, hr _ hdone⟩

end MqttClient
end PicoDualCore
