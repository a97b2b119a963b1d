import Mathlib.Data.List.Infix
import PicoDualCore.MqttRoundTrip
set_option autoImplicit false

/-!
Where a client stands in the inbound stream. The broker sends the bytes of a stream that is
fixed beforehand, at its own pace; the rules here follow the position of the reader.
-/

namespace PicoDualCore
open AtomicProgram

/-- The operation is carried out, be it short or without anything to bring. -/
def SocketAnswer.Works : SocketAnswer → Prop
  | .fail _ | .memory => False
  | _ => True

/-- The packets of MQTT 3.1.1 that a broker sends after the CONNACK. -/
inductive ServerPacket where
  | publish (op : UInt8) (lengthBytes topic packetId payload : Bytes)
  | puback (packetId : Nat)
  | suback (lengthBytes : Bytes) (packetId : Nat) (codes : Bytes)
  | pingresp
  deriving DecidableEq, Repr

namespace ServerPacket

def wire : ServerPacket → Bytes
  | .publish op lengthBytes topic packetId payload =>
    op :: (lengthBytes ++ (be16 topic.length ++ (topic ++ (packetId ++ payload))))
  | .puback packetId => [0x40, 0x02] ++ be16 packetId
  | .suback lengthBytes packetId codes => 0x90 :: (lengthBytes ++ (be16 packetId ++ codes))
  | .pingresp => [0xD0, 0x00]

/-- The remaining length is encoded in up to four bytes, not necessarily as few as possible. -/
def WellFormed : ServerPacket → Prop
  | .publish op lengthBytes topic packetId payload =>
    op &&& 0xF0 = 0x30 ∧ op &&& 6 ≠ 6 ∧ topic.length < 65536 ∧
      packetId.length = (if op &&& 6 = 0 then 0 else 2) ∧
      Base128.decode 4 lengthBytes =
        .number (2 + topic.length + packetId.length + payload.length) []
  | .puback packetId => packetId < 65536
  | .suback lengthBytes packetId codes =>
    packetId < 65536 ∧ codes ≠ [] ∧ Base128.decode 4 lengthBytes = .number (2 + codes.length) []
  | .pingresp => True

/-- `wait_msg` takes the packet in whole: a PUBLISH of QoS 0 or 1 that is not too large, or a
PINGRESP. -/
def Whole : ServerPacket → Prop
  | .publish op _ topic packetId payload =>
    op &&& 6 ≠ 4 ∧ 2 + topic.length + packetId.length + payload.length ≤ MAX_INBOUND_PACKET_BYTES
  | .pingresp => True
  | _ => False

def opens : ServerPacket → Option UInt8
  | .puback _ => some 0x40
  | .suback .. => some 0x90
  | _ => none

def telling : ServerPacket → Nat
  | .publish op lengthBytes _ _ _ => if op &&& 6 = 4 then 1 else 1 + lengthBytes.length
  | .puback _ | .suback .. | .pingresp => 2

def opcode : ServerPacket → UInt8
  | .publish op _ _ _ _ => op
  | .puback _ => 0x40
  | .suback .. => 0x90
  | .pingresp => 0xD0

theorem wire_eq (p : ServerPacket) : p.wire = p.opcode :: p.wire.tail := by
  cases p <;> rfl

theorem telling_pos (p : ServerPacket) : 0 < p.telling := by
  cases p with
  | publish op lengthBytes topic packetId payload =>
    simp only [telling]
    split <;> omega
  | _ => exact Nat.succ_pos _

theorem telling_le (p : ServerPacket) : p.telling ≤ p.wire.length := by
  cases p with
  | publish op lengthBytes topic packetId payload =>
    simp only [telling, wire, List.length_cons, List.length_append]
    split <;> omega
  | puback packetId => exact Nat.le_add_left 2 2
  | suback lengthBytes packetId codes =>
    simp only [telling, wire, be16, List.length_cons, List.length_append, List.length_nil]
    omega
  | pingresp => exact Nat.le_refl 2

end ServerPacket

def RefusedByte (b : UInt8) : Prop :=
  b ≠ 0xD0 ∧ b ≠ 0x40 ∧ b ≠ 0x90 ∧ (b &&& 0xF0 = 0x30 → b &&& 6 = 4 ∨ b &&& 6 = 6)

instance (b : UInt8) : Decidable (RefusedByte b) := by
  unfold RefusedByte
  infer_instance

namespace MqttClient

section Following

variable {σ κ α β : Type} {host : Host σ κ} {A : NetInput κ → Prop} {W : Bytes} {k : Nat}

/-- What has arrived on connection `k` is a beginning of the stream. -/
def OnStream (W : Bytes) (k : Nat) (n : Network) : Prop :=
  ∀ c, n.connections[k]? = some c → c.inbound <+: W

/-- The broker sends more of the stream; the application may move. -/
structure Broker (W : Bytes) (k : Nat) (s t : Sys σ) : Prop where
  peer : Peer s t
  stream : OnStream W k s.net → OnStream W k t.net

theorem Broker.refl (s : Sys σ) : Broker W k s s := ⟨.refl s, id⟩

theorem Broker.trans {s t u : Sys σ} (h : Broker W k s t) (h' : Broker W k t u) :
    Broker W k s u := ⟨h.peer.trans h'.peer, h'.stream ∘ h.stream⟩

/-- The client's socket is the one numbered `k`, on which `pos` bytes of the stream were read. -/
structure Reading (W : Bytes) (k pos : Nat) (n : Network) : Prop where
  sock : n.sock = some k
  conn : ∃ c, n.connections[k]? = some c ∧ c.consumed = pos ∧ pos ≤ c.inbound.length
  stream : OnStream W k n

def Dropped (k : Nat) (n : Network) : Prop :=
  ∃ c, n.connections[k]? = some c ∧ c.closed = true

/-- A read on connection `k` that asked for the first byte of a packet came back empty-handed. -/
def CameBackEmpty (k : Nat) (n : Network) : Prop := ∃ tm, .read k tm 1 [] ∈ n.events

theorem Reading.broker {pos : Nat} {s t : Sys σ} (h : Reading W k pos s.net)
    (hb : Broker W k s t) : Reading W k pos t.net := by
  obtain ⟨c, hc, hcon, hle⟩ := h.conn
  obtain ⟨more, hm⟩ := hb.peer.inbound k c hc
  refine ⟨hb.peer.sock.trans h.sock, ⟨_, hm, hcon, ?_⟩, hb.stream h.stream⟩
  rw [List.length_append]
  exact Nat.le_trans hle (Nat.le_add_right _ _)

theorem Dropped.broker {s t : Sys σ} (h : Dropped k s.net) (hb : Broker W k s t) :
    Dropped k t.net := by
  obtain ⟨c, hc, hclosed⟩ := h
  obtain ⟨more, hm⟩ := hb.peer.inbound k c hc
  exact ⟨_, hm, hclosed⟩

theorem CameBackEmpty.broker {s t : Sys σ} (h : CameBackEmpty k s.net) (hb : Broker W k s t) :
    CameBackEmpty k t.net := by
  obtain ⟨tm, hmem⟩ := h
  exact ⟨tm, hb.peer.events ▸ hmem⟩

theorem Reading.current {pos : Nat} {n : Network} (h : Reading W k pos n) :
    ∃ c, n.current = some (k, c) ∧ n.connections[k]? = some c ∧ c.consumed = pos ∧
      pos ≤ c.inbound.length ∧ c.inbound <+: W := by
  obtain ⟨c, hc, hcon, hle⟩ := h.conn
  exact ⟨c, by simp [Network.current, h.sock, hc], hc, hcon, hle, h.stream c hc⟩

theorem Reading.put {pos pos' : Nat} {n : Network} {c : Connection} (c' : Connection)
    (h : Reading W k pos n) (hc : n.connections[k]? = some c) (hin : c'.inbound = c.inbound) (hcon : c'.consumed = pos')
    (hle : pos' ≤ c.inbound.length) : Reading W k pos' (n.put k c') := by
  have hk : k < n.connections.length := (List.getElem?_eq_some_iff.mp hc).1
  have hget : (n.put k c').connections[k]? = some c' := by simp [Network.put, hk]
  refine ⟨h.sock, ⟨c', hget, hcon, hin ▸ hle⟩, fun d hd => ?_⟩
  obtain rfl : c' = d := Option.some.inj (hget.symm.trans hd)
  rw [hin]
  exact h.stream c hc

theorem Reading.record {pos : Nat} {n : Network} {e : SocketEvent} (h : Reading W k pos n) :
    Reading W k pos (n.record e) := ⟨h.sock, h.conn, h.stream⟩

def Lost (A : NetInput κ → Prop) (W : Bytes) (k : Nat) (Over : Nat → Prop) (t : Sys σ) : Prop :=
  ∃ pos, Reading W k pos t.net ∧
    ((∀ i, A i → i.socket.Works) → Over pos → Dropped k t.net)

variable {Over : Nat → Prop} {pos : Nat} {s : Sys σ}

theorem Reading.lost (h : Reading W k pos s.net) (hover : ¬ Over pos) : Lost A W k Over s :=
  ⟨pos, h, fun _ hpos => (hover hpos).elim⟩

theorem Reading.failed {i : NetInput κ} (h : Reading W k pos s.net) (hi : A i)
    (hfail : ¬ i.socket.Works) : Lost A W k Over s := ⟨pos, h, fun hworks => (hfail (hworks i hi)).elim⟩

abbrev Follows (A : NetInput κ → Prop) (W : Bytes) (k : Nat) (Over : Nat → Prop)
    (Q : α → Network → Prop) (p : NetProg σ κ α) (s : Sys σ) : Prop :=
  p.wp A (Broker W k) (fun _ _ => True) (fun a t => Q a t.net) (fun _ => Lost A W k Over) s

theorem follows_seq {Q : α → Network → Prop} {Q' : β → Network → Prop} {p : NetProg σ κ α}
    {f : α → NetProg σ κ β} (hp : Follows A W k Over Q p s)
    (hf : ∀ a t, Q a t.net → Follows A W k Over Q' (f a) t) :
    Follows A W k Over Q' (p >>= f) s :=
  (Proc.wp_seq _ _ _).mpr (Proc.wp_mono hp (fun _ _ h => h) hf (fun _ _ h => h))

theorem follows_mono {Q Q' : α → Network → Prop} {p : NetProg σ κ α}
    (h : Follows A W k Over Q p s) (hQ : ∀ a n, Q a n → Q' a n) : Follows A W k Over Q' p s :=
  Proc.wp_mono h (fun _ _ h => h) (fun a t => hQ a t.net) (fun _ _ h => h)

theorem follows_ite {c : Prop} [Decidable c] {Q : α → Network → Prop} {p q : NetProg σ κ α}
    (hp : c → Follows A W k Over Q p s) (hq : ¬ c → Follows A W k Over Q q s) :
    Follows A W k Over Q (if c then p else q) s := by
  by_cases h : c
  · rw [if_pos h]
    exact hp h
  · rw [if_neg h]
    exact hq h

/-- An operation that leaves the position alone. -/
theorem follows_onNet {f : Network → SocketAnswer → Except Exc α × Network}
    (h : Reading W k pos s.net) (hover : ¬ Over pos)
    (hf : ∀ n a, Reading W k pos n → Reading W k pos (f n a).2) :
    Follows A W k Over (fun _ n => Reading W k pos n) (onNet f) s := by
  refine Proc.wp_atomic (fun t ht i _ => ⟨trivial, ?_⟩)
  have hread := hf t.net i.socket (h.broker ht)
  dsimp only
  cases (f t.net i.socket).1 with
  | ok a => exact hread
  | error e => exact Reading.lost (s := ⟨(f t.net i.socket).2, t.app⟩) hread hover

theorem follows_onApp {p : Proc σ κ Exc Unit} (h : Reading W k pos s.net) (hover : ¬ Over pos) :
    Follows A W k Over (fun _ n => Reading W k pos n) (onApp p) s := by
  refine Proc.wp_mono (keeping_onApp (K := Reading W k pos) (G := fun _ _ => True)
    (fun _ _ hb hn => hn.broker hb) (fun _ _ _ => trivial) p h) (fun _ _ h => h) (fun _ _ h => h) ?_
  exact fun _ t ht => Reading.lost ht hover

theorem follows_service (h : Reading W k pos s.net) (hover : ¬ Over pos) :
    Follows A W k Over (fun _ n => Reading W k pos n) (service host) s :=
  follows_seq (follows_onApp h hover) (fun _ _ ht => follows_onNet ht hover
    (fun _ _ hn => ⟨hn.sock, hn.conn, hn.stream⟩))

theorem Reading.written {n : Network} {owner : Option Owner} {bytes : Bytes} {a : SocketAnswer}
    (h : Reading W k pos n) : Reading W k pos (n.write owner bytes a).2 := by
  obtain ⟨c, hcur, hc, hcon, hle, -⟩ := h.current
  have hput : ∀ sent, Reading W k pos
      ((n.put k { c with written := c.written ++ sent }).record
        (.wrote k c.timeoutMs owner sent)) := by
    intro sent
    apply Reading.record
    exact Reading.put _ h hc rfl hcon hle
  simp only [Network.write, Network.onSocket, hcur]
  cases a with
  | memory => exact h
  | fail count => exact hput _
  | _ =>
    dsimp only
    by_cases hclosed : c.closed = true
    · rw [if_pos hclosed]
      exact h
    · rw [if_neg hclosed]
      exact hput _

theorem follows_write {owner : Option Owner} {bytes : Bytes} (h : Reading W k pos s.net)
    (hover : ¬ Over pos) :
    Follows A W k Over (fun _ n => Reading W k pos n) (write host owner bytes) s :=
  follows_seq (follows_service h hover)
    (fun _ _ ht => follows_onNet ht hover (fun _ _ hn => hn.written))

theorem settimeout_cases {n : Network} {timeoutMs : Option Nat} {a : SocketAnswer} {c : Connection}
    (hcur : n.current = some (k, c)) :
    (n.settimeout timeoutMs a).2 = n ∨
      (n.settimeout timeoutMs a).2 = n.put k { c with timeoutMs := timeoutMs } := by
  simp only [Network.settimeout, Network.onSocket, hcur]
  cases a with
  | memory => exact .inl rfl
  | fail count => exact .inl rfl
  | _ => exact .inr rfl

theorem Reading.settimeout {n : Network} {timeoutMs : Option Nat} {a : SocketAnswer}
    (h : Reading W k pos n) : Reading W k pos (n.settimeout timeoutMs a).2 := by
  obtain ⟨c, hcur, hc, hcon, hle, -⟩ := h.current
  rcases @settimeout_cases k n timeoutMs a c hcur with hsame | hput
  · rw [hsame]
    exact h
  · rw [hput]
    exact Reading.put _ h hc rfl hcon hle

theorem Dropped.settimeout {n : Network} {timeoutMs : Option Nat} {a : SocketAnswer}
    (h : Dropped k n) (hread : Reading W k pos n) : Dropped k (n.settimeout timeoutMs a).2 := by
  obtain ⟨c, hcur, hc, -⟩ := hread.current
  obtain ⟨d, hd, hclosed⟩ := h
  obtain rfl : c = d := Option.some.inj (hc.symm.trans hd)
  have hk : k < n.connections.length := (List.getElem?_eq_some_iff.mp hc).1
  rcases @settimeout_cases k n timeoutMs a c hcur with hsame | hput
  · rw [hsame]
    exact ⟨c, hc, hclosed⟩
  · rw [hput]
    exact ⟨{ c with timeoutMs := timeoutMs }, by simp [Network.put, hk], hclosed⟩

/-- A read moves the position past what it brings, which comes next in the stream. -/
theorem follows_read {size : Nat} (h : Reading W k pos s.net) :
    Follows A W k Over (fun data n =>
        data = none ∧ Reading W k pos n ∧ (∃ tm, .read k tm size [] ∈ n.events) ∨
        ∃ m, m ≤ size ∧ data = some ((W.drop pos).take m) ∧ ((W.drop pos).take m).length = m ∧
          Reading W k (pos + m) n)
      (onNet (Network.read size)) s := by
  refine Proc.wp_atomic (fun t ht i hi => ⟨trivial, ?_⟩)
  obtain ⟨c, hcur, hc, rfl, hle, hstream⟩ := (h.broker ht).current
  have htook : ∀ count, Reading W k (c.consumed + (c.unread.take (min count size)).length)
      ((t.net.put k { c with consumed :=
        c.consumed + (c.unread.take (min count size)).length }).record
          (.read k c.timeoutMs size (c.unread.take (min count size)))) := by
    intro count
    apply Reading.record
    refine Reading.put _ (h.broker ht) hc rfl rfl ?_
    simp only [Connection.unread, List.length_take, List.length_drop]
    omega
  have hbytes : ∀ count, (W.drop c.consumed).take (c.unread.take (min count size)).length =
      c.unread.take (min count size) := by
    intro count
    refine (List.prefix_iff_eq_take.mp ?_).symm
    exact (List.take_prefix _ _).trans (List.IsPrefix.drop hstream c.consumed)
  have hsome : ∀ count, ∃ m, m ≤ size ∧ some (c.unread.take (min count size)) =
      some ((W.drop c.consumed).take m) ∧ ((W.drop c.consumed).take m).length = m ∧
      Reading W k (c.consumed + m) ((t.net.put k { c with consumed :=
        c.consumed + (c.unread.take (min count size)).length }).record
          (.read k c.timeoutMs size (c.unread.take (min count size)))) := by
    intro count
    refine ⟨(c.unread.take (min count size)).length, ?_, ?_, ?_, htook count⟩
    · rw [List.length_take]
      omega
    · rw [hbytes]
    · rw [hbytes]
  simp only [Network.read, Network.onSocket, hcur]
  cases ha : i.socket with
  | memory => exact (h.broker ht).failed hi (by rw [ha]; exact id)
  | fail count =>
    exact Reading.failed (s := ⟨_, t.app⟩) (htook count) hi (by rw [ha]; exact id)
  | nothing =>
    have hzero := htook 0
    refine .inl ⟨rfl, ?_, c.timeoutMs, ?_⟩
    · simpa using hzero
    · simp [Network.record]
  | short count => exact .inr (hsome count)
  | done =>
    have hall := hsome size
    simp only [Nat.min_self] at hall ⊢
    exact .inr hall

theorem follows_readRequired {size : Nat} (h : Reading W k pos s.net) (hover : ¬ Over pos)
    (hshort : ∀ m, m < size → ¬ Over (pos + m)) :
    Follows A W k Over (fun data n => data = (W.drop pos).take size ∧ data.length = size ∧
      Reading W k (pos + size) n) (readRequired host size) s := by
  refine follows_seq (follows_service h hover) (fun _ t ht => ?_)
  refine follows_seq (follows_read ht) ?_
  rintro data u (⟨rfl, hu, -⟩ | ⟨m, hle, rfl, hlen, hu⟩)
  · exact hu.lost hover
  · refine follows_ite (fun hne => ?_) (fun heq => ?_)
    · refine hu.lost (hshort _ ?_)
      omega
    · obtain rfl : m = size := hlen.symm.trans (Decidable.not_not.mp heq)
      exact ⟨rfl, hlen, hu⟩

theorem follows_readByte {b : UInt8} {tail : Bytes} (h : Reading W k pos s.net)
    (hW : W.drop pos = b :: tail) (hover : ¬ Over pos) :
    Follows A W k Over (fun got n => got = b.toNat ∧ Reading W k (pos + 1) n) (readByte host) s := by
  refine follows_seq (Q := fun data n => data = [b] ∧ Reading W k (pos + 1) n) ?_ ?_
  · refine follows_mono (follows_readRequired h hover (fun m hm => ?_)) ?_
    · obtain rfl : m = 0 := by omega
      exact hover
    · rintro _ n ⟨rfl, -, hn⟩
      exact ⟨by rw [hW]; rfl, hn⟩
  · rintro _ t ⟨rfl, ht⟩
    exact ⟨rfl, ht⟩

theorem follows_abort {Q : α → Network → Prop} {reason : String} (h : Reading W k pos s.net) :
    Follows A W k Over Q (abortCorruptInbound reason) s := by
  refine follows_seq (Q := fun _ n => Reading W k pos n ∧
    ((∀ i, A i → i.socket.Works) → Dropped k n)) ?_ ?_
  · rw [Follows, Proc.wp_handle]
    refine Proc.wp_atomic (fun t ht i hi => ⟨trivial, ?_⟩)
    obtain ⟨c, hcur, hc, hcon, hle, -⟩ := (h.broker ht).current
    have hk : k < t.net.connections.length := (List.getElem?_eq_some_iff.mp hc).1
    simp only [Network.close, Network.onSocket, hcur]
    cases ha : i.socket with
    | memory => exact (h.broker ht).failed hi (by rw [ha]; exact id)
    | fail count =>
      refine ⟨h.broker ht, fun hworks => ?_⟩
      have hfail := hworks i hi
      rw [ha] at hfail
      exact hfail.elim
    | _ =>
      refine ⟨?_, fun _ => ⟨{ c with closed := true }, by simp [Network.put, Network.record, hk], rfl⟩⟩
      apply Reading.record
      exact Reading.put _ (h.broker ht) hc rfl hcon hle
  · rintro _ t ⟨ht, hclosed⟩
    exact ⟨pos, ht, fun hworks _ => hclosed hworks⟩

theorem follows_guard {c : Prop} [Decidable c] {Q : α → Network → Prop} {reason : String}
    {rest : Unit → NetProg σ κ α} (h : Reading W k pos s.net)
    (hrest : ¬ c → Follows A W k Over Q (rest ()) s) :
    Follows A W k Over Q (if c then abortCorruptInbound reason >>= rest else rest ()) s :=
  follows_ite (fun _ => follows_seq (Q := fun _ _ => False) (follows_abort h) (fun _ _ h => h.elim))
    hrest

theorem follows_check {c : Prop} [Decidable c] {Q : α → Network → Prop} {e : Exc}
    {rest : Unit → NetProg σ κ α} (h : Reading W k pos s.net) (hover : ¬ Over pos)
    (hrest : ¬ c → Follows A W k Over Q (rest ()) s) :
    Follows A W k Over Q (if c then throw e >>= rest else rest ()) s :=
  follows_ite (fun _ => h.lost hover) hrest

theorem drop_append {a b : Bytes} (h : W.drop pos = a ++ b) : W.drop (pos + a.length) = b := by
  rw [← List.drop_drop, h, List.drop_left]

theorem follows_field {size : Nat} {a b : Bytes} (h : Reading W k pos s.net)
    (hW : W.drop pos = a ++ b) (hsize : a.length = size)
    (hover : ∀ m, m ≤ a.length → ¬ Over (pos + m)) :
    Follows A W k Over (fun data n => data = a ∧ Reading W k (pos + a.length) n)
      (readRequired host size) s := by
  subst hsize
  refine follows_mono (follows_readRequired h (hover 0 (Nat.zero_le _))
    (fun m hm => hover m (by omega))) ?_
  rintro _ n ⟨rfl, -, hn⟩
  refine ⟨?_, hn⟩
  rw [hW, List.take_left]

theorem or_shiftLeft {n sh : Nat} (b : Nat) (hn : n < 2 ^ sh) :
    n ||| (b &&& 0x7F) <<< sh = n + b % 128 * 2 ^ sh := by
  have hand : b &&& 0x7F = b % 128 := Nat.and_two_pow_sub_one_eq_mod _ 7
  rw [hand, Nat.shiftLeft_eq, Nat.or_comm, Nat.mul_comm (b % 128),
    ← Nat.two_pow_add_eq_or_of_lt hn, Nat.add_comm]

/-- The loop of `_recv_len` takes an encoded number as that number. -/
theorem follows_recvLenFrom {left n sh v : Nat} {bytes tail : Bytes} (h : Reading W k pos s.net)
    (hW : W.drop pos = bytes ++ tail) (hdecode : Base128.decode left bytes = .number v [])
    (hn : n < 2 ^ sh) (hover : ∀ m, m < bytes.length → ¬ Over (pos + m)) :
    Follows A W k Over (fun got n' => got = n + v * 2 ^ sh ∧ Reading W k (pos + bytes.length) n')
      (recvLenFrom host left n sh) s := by
  induction left generalizing n sh v bytes pos s with
  | zero => cases hdecode
  | succ left ih =>
    cases bytes with
    | nil => cases hdecode
    | cons b rest =>
      refine follows_seq (follows_readByte h hW (hover 0 (Nat.succ_pos _))) ?_
      rintro _ t ⟨rfl, ht⟩
      rw [or_shiftLeft b.toNat hn]
      simp only [Base128.decode] at hdecode
      by_cases hb : b.toNat < 128
      · rw [if_pos hb] at hdecode
        obtain ⟨rfl, rfl⟩ := Base128.Decoded.number.inj hdecode
        rw [if_pos ((continues_iff b).mpr hb), Nat.mod_eq_of_lt hb]
        exact ⟨rfl, ht⟩
      · rw [if_neg hb] at hdecode
        rw [if_neg (fun h => hb ((continues_iff b).mp h))]
        cases hrest : Base128.decode left rest with
        | truncated => simp [hrest] at hdecode
        | overlong => simp [hrest] at hdecode
        | number v' rest' =>
          simp only [hrest, Base128.Decoded.number.injEq] at hdecode
          obtain ⟨rfl, rfl⟩ := hdecode
          have hW' : W.drop (pos + 1) = rest ++ tail := drop_append (a := [b]) hW
          have hlt : n + b.toNat % 128 * 2 ^ sh < 2 ^ (sh + 7) := by
            have hmod : b.toNat % 128 ≤ 127 := by omega
            have := Nat.mul_le_mul_right (2 ^ sh) hmod
            rw [Nat.pow_add]
            omega
          refine follows_mono (ih ht hW' hrest hlt (fun m hm => ?_)) ?_
          · have := hover (m + 1) (by simpa using hm)
            rwa [Nat.add_assoc, Nat.add_comm 1 m]
          · rintro _ n' ⟨rfl, hn'⟩
            refine ⟨?_, ?_⟩
            · rw [Nat.pow_add, Nat.add_mul]
              have : v' * (2 ^ sh * 2 ^ 7) = 128 * v' * 2 ^ sh := by
                rw [Nat.mul_comm (2 ^ sh), ← Nat.mul_assoc, Nat.mul_comm v',
                  show (2 : Nat) ^ 7 = 128 from rfl]
              omega
            · rwa [Nat.add_assoc, Nat.add_comm 1] at hn'

theorem follows_deliver {topic msg : Bytes} (h : Reading W k pos s.net) (hover : ¬ Over pos) :
    Follows A W k Over (fun _ n => Reading W k pos n)
      (receivePublish.deliver host topic msg) s :=
  follows_seq (follows_onNet h hover (fun _ _ hn => hn.record)) (fun _ _ ht => follows_onApp ht hover)

theorem follows_receivePublish {op : UInt8} {lengthBytes topic packetId payload tail : Bytes}
    {p : ServerPacket} (hp : p = .publish op lengthBytes topic packetId payload)
    (hwf : p.WellFormed) (hqos : op &&& 6 ≠ 4) (h : Reading W k (pos + 1) s.net)
    (hW : W.drop pos = p.wire ++ tail)
    (hover : ∀ j, p.Whole ∧ j ≤ pos + p.wire.length ∨ j < pos + p.telling → ¬ Over j) :
    Follows A W k Over (fun answer n =>
      answer = some op ∧ p.Whole ∧ Reading W k (pos + p.wire.length) n)
      (receivePublish host op) s := by
  subst hp
  obtain ⟨hpub, h6, htopic, hid, hdecode⟩ := hwf
  simp only [ServerPacket.wire, List.cons_append, List.append_assoc] at hW
  have hW₁ := drop_append (a := [op]) hW
  have hlen : (ServerPacket.publish op lengthBytes topic packetId payload).wire.length =
      1 + lengthBytes.length + 2 + topic.length + packetId.length + payload.length := by
    simp only [ServerPacket.wire, be16, List.length_cons, List.length_append, List.length_nil]
    omega
  have htelling : (ServerPacket.publish op lengthBytes topic packetId payload).telling =
      1 + lengthBytes.length := if_neg hqos
  rw [hlen, htelling] at hover
  rw [hlen]
  unfold receivePublish
  refine follows_seq (follows_recvLenFrom h hW₁ hdecode (by decide) (fun m hm => ?_)) ?_
  · refine hover _ (.inr ?_)
    omega
  rintro _ t₁ ⟨rfl, h₁⟩
  rw [Nat.zero_add, Nat.pow_zero, Nat.mul_one]
  refine follows_guard h₁ (fun hfits => ?_)
  refine follows_guard h₁ (fun _ => ?_)
  have hwhole : (ServerPacket.publish op lengthBytes topic packetId payload).Whole :=
    ⟨hqos, Nat.not_lt.mp hfits⟩
  replace hover := fun j hj => hover j (.inl ⟨hwhole, hj⟩)
  have hW₂ := drop_append hW₁
  refine follows_seq (follows_field h₁ hW₂ rfl (fun m hm => ?_)) ?_
  · refine hover _ ?_
    simp only [be16, List.length_cons, List.length_nil] at hm
    omega
  rintro data t₂ ⟨hdata, h₂⟩
  subst data
  rw [be16Value_be16 htopic]
  refine follows_guard h₂ (fun _ => ?_)
  have hW₃ := drop_append hW₂
  refine follows_seq (follows_field h₂ hW₃ rfl (fun m hm => ?_)) ?_
  · refine hover _ ?_
    simp only [be16, List.length_cons, List.length_nil]
    omega
  rintro data t₃ ⟨hdata, h₃⟩
  subst data
  have hW₄ := drop_append hW₃
  have hend : pos + 1 + lengthBytes.length + (be16 topic.length).length + topic.length +
      packetId.length + payload.length =
      pos + (1 + lengthBytes.length + 2 + topic.length + packetId.length + payload.length) := by
    simp only [be16, List.length_cons, List.length_nil]
    omega
  have hlast : ∀ m, m ≤ packetId.length + payload.length →
      ¬ Over (pos + 1 + lengthBytes.length + (be16 topic.length).length + topic.length + m) := by
    intro m hm
    refine hover _ ?_
    omega
  have hdone : ¬ Over (pos + 1 + lengthBytes.length + (be16 topic.length).length + topic.length +
      packetId.length + payload.length) := hover _ (by omega)
  by_cases hq : op &&& 6 = 0
  · rw [if_neg (not_not_intro hq)]
    rw [if_pos hq] at hid
    obtain rfl : packetId = [] := List.eq_nil_of_length_eq_zero hid
    rw [List.nil_append] at hW₄
    simp only [List.length_nil, Nat.add_zero, Nat.zero_add] at hend hdone hlast ⊢
    refine follows_seq (follows_field h₃ hW₄ ?_ (fun m hm => hlast m hm)) ?_
    · omega
    rintro data t₄ ⟨hdata, h₄⟩
    subst data
    refine follows_seq (follows_deliver h₄ hdone) (fun _ t₅ h₅ => ?_)
    exact ⟨rfl, hwhole, hend ▸ h₅⟩
  · rw [if_pos hq]
    rw [if_neg hq] at hid
    refine follows_guard h₃ (fun _ => ?_)
    refine follows_seq (follows_field h₃ hW₄ hid (fun m hm => hlast m (by omega))) ?_
    rintro data t₄ ⟨hdata, h₄⟩
    subst data
    have hW₅ := drop_append hW₄
    refine follows_seq (follows_field h₄ hW₅ ?_ (fun m hm => ?_)) ?_
    · omega
    · rw [Nat.add_assoc]
      exact hlast _ (by omega)
    rintro data t₅ ⟨hdata, h₅⟩
    subst data
    refine follows_seq (follows_deliver h₅ hdone) (fun _ t₆ h₆ => ?_)
    refine follows_ite (fun _ => ?_) (fun _ => ⟨rfl, hwhole, hend ▸ h₆⟩)
    exact follows_seq (follows_write h₆ hdone) (fun _ t₇ h₇ => ⟨rfl, hwhole, hend ▸ h₇⟩)

theorem follows_refused {b : UInt8} {Q : Option UInt8 → Network → Prop} (hb : RefusedByte b)
    (h : Reading W k pos s.net) : Follows A W k Over Q (dispatch host b) s := by
  obtain ⟨hping, hpuback, hsuback, hqos⟩ := hb
  unfold dispatch
  rw [if_neg hping]
  refine follows_ite (fun _ => ?_) (fun hpub => ?_)
  · rw [if_neg (by simp [hpuback, hsuback])]
    exact follows_ite (fun _ => follows_abort h) (fun _ => follows_abort h)
  · refine follows_ite (fun _ => follows_abort h) (fun h4 => ?_)
    refine follows_ite (fun _ => follows_abort h) (fun h6 => ?_)
    rcases hqos (Decidable.not_not.mp hpub) with hq | hq
    · exact (h4 hq).elim
    · exact (h6 hq).elim

def Met (W : Bytes) (k pos : Nat) (p : ServerPacket) (answer : Option UInt8) (n : Network) : Prop :=
  p.Whole ∧ answer ≠ some 0x40 ∧ answer ≠ some 0x90 ∧ Reading W k (pos + p.wire.length) n ∨
    answer = p.opens ∧ answer ≠ none ∧ Reading W k (pos + 1) n

theorem dispatch_acknowledgement {op : UInt8} (h : op = 0x40 ∨ op = 0x90) :
    dispatch host op = pure (some op) := by
  unfold dispatch
  rcases h with rfl | rfl
  · rw [if_neg (by decide), if_pos (by decide), if_pos (.inl rfl)]
  · rw [if_neg (by decide), if_pos (by decide), if_pos (.inr rfl)]

theorem follows_dispatch {p : ServerPacket} {tail : Bytes} (hwf : p.WellFormed)
    (h : Reading W k (pos + 1) s.net) (hW : W.drop pos = p.wire ++ tail)
    (hover : ∀ j, p.Whole ∧ j ≤ pos + p.wire.length ∨ j < pos + p.telling → ¬ Over j) :
    Follows A W k Over (Met W k pos p) (dispatch host p.opcode) s := by
  cases p with
  | puback packetId =>
    rw [ServerPacket.opcode, dispatch_acknowledgement (.inl rfl)]
    exact .inr ⟨rfl, nofun, h⟩
  | suback lengthBytes packetId codes =>
    rw [ServerPacket.opcode, dispatch_acknowledgement (.inr rfl)]
    exact .inr ⟨rfl, nofun, h⟩
  | pingresp =>
    have hlast : ∀ j, j ≤ pos + 2 → ¬ Over j := fun j hj => hover j (.inl ⟨trivial, hj⟩)
    refine follows_seq (follows_readByte h (b := 0) (drop_append (a := [0xD0]) hW)
      (hlast _ (by omega))) ?_
    rintro _ t ⟨rfl, ht⟩
    exact follows_guard ht (fun _ => .inl ⟨trivial, by simp, by simp, ht⟩)
  | publish op lengthBytes topic packetId payload =>
    have hpub : op &&& 0xF0 = 0x30 := hwf.1
    have hkinds : op ≠ 0xD0 ∧ op ≠ 0x40 ∧ op ≠ 0x90 := by
      refine ⟨?_, ?_, ?_⟩ <;> rintro rfl <;> revert hpub <;> decide
    by_cases h4 : op &&& 6 = 4
    · exact follows_refused ⟨hkinds.1, hkinds.2.1, hkinds.2.2, fun _ => .inl h4⟩ h
    · unfold dispatch ServerPacket.opcode
      rw [if_neg hkinds.1, if_neg (not_not_intro hpub), if_neg h4, if_neg hwf.2.1]
      refine follows_mono (follows_receivePublish rfl hwf h4 h hW hover) ?_
      rintro _ n ⟨rfl, hwhole, hn⟩
      exact .inl ⟨hwhole, by simp [hkinds.2.1], by simp [hkinds.2.2], hn⟩

theorem follows_next {b : UInt8} {tail : Bytes} {Q : Option UInt8 → Network → Prop}
    (h : Reading W k pos s.net) (hW : W.drop pos = b :: tail) (hover : ¬ Over pos)
    (hnext : ∀ t : Sys σ, Reading W k (pos + 1) t.net → Follows A W k Over Q (dispatch host b) t) :
    Follows A W k Over (fun answer n =>
      answer = none ∧ Reading W k pos n ∧ CameBackEmpty k n ∨ Q answer n) (waitMsg host) s := by
  refine follows_seq (follows_service h hover) (fun _ t ht => ?_)
  refine follows_seq (follows_read ht) ?_
  rintro data u (⟨rfl, hu, hempty⟩ | ⟨m, hle, rfl, hlen, hu⟩)
  · exact .inl ⟨rfl, hu, hempty⟩
  · obtain rfl | rfl : m = 0 ∨ m = 1 := by omega
    · exact hu.lost hover
    · rw [hW]
      exact follows_mono (hnext u hu) (fun _ _ hn => .inr hn)

/-- In front of a byte that it refuses, `wait_msg` only returns if its read brings nothing. -/
theorem follows_waitMsg_refused {b : UInt8} {tail : Bytes} (hb : RefusedByte b)
    (h : Reading W k pos s.net) (hW : W.drop pos = b :: tail) (hover : ¬ Over pos) :
    Follows A W k Over (fun answer n => answer = none ∧ Reading W k pos n ∧ CameBackEmpty k n)
      (waitMsg host) s := by
  refine follows_mono (follows_next (Q := fun _ _ => False) h hW hover
    (fun t ht => follows_refused hb ht)) ?_
  rintro answer n (hempty | hfalse)
  · exact hempty
  · exact hfalse.elim

theorem follows_waitMsg_end (h : Reading W k pos s.net) (hW : W.drop pos = []) (hover : ¬ Over pos) :
    Follows A W k Over (fun answer n => answer = none ∧ Reading W k pos n ∧ CameBackEmpty k n)
      (waitMsg host) s := by
  refine follows_seq (follows_service h hover) (fun _ t ht => ?_)
  refine follows_seq (follows_read ht) ?_
  rintro data u (⟨rfl, hu, hempty⟩ | ⟨m, hle, rfl, hlen, hu⟩)
  · exact ⟨rfl, hu, hempty⟩
  · rw [hW, List.take_nil] at hlen ⊢
    subst hlen
    exact hu.lost hover

theorem follows_waitMsg {p : ServerPacket} {tail : Bytes} (hwf : p.WellFormed)
    (h : Reading W k pos s.net) (hW : W.drop pos = p.wire ++ tail)
    (hover : ∀ j, p.Whole ∧ j ≤ pos + p.wire.length ∨ j < pos + p.telling → ¬ Over j) :
    Follows A W k Over (fun answer n =>
      answer = none ∧ Reading W k pos n ∧ CameBackEmpty k n ∨ Met W k pos p answer n)
      (waitMsg host) s := by
  have hbyte : W.drop pos = p.opcode :: (p.wire.tail ++ tail) := by
    rw [hW, ServerPacket.wire_eq]
    rfl
  refine follows_next h hbyte (hover pos (.inr ?_)) (fun t ht => follows_dispatch hwf ht hW hover)
  exact Nat.lt_add_of_pos_right p.telling_pos

end Following

end MqttClient
end PicoDualCore
