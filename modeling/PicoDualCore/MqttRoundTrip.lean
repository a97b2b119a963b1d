import PicoDualCore.MqttPublish
set_option autoImplicit false

namespace PicoDualCore
open AtomicProgram

namespace MqttClient

variable {σ κ α : Type} {host : Host σ κ}

/-- The callback and the servicing hook come back. -/
def Returns (host : Host σ κ) (i : κ) : Prop :=
  (∀ app, ∃ app', host.service.run i app = (.ret (), app')) ∧
    ∀ topic payload app, ∃ app', (host.callback topic payload).run i app = (.ret (), app')

def Feed (base : List SocketEvent) (k consumed : Nat) (read : Bytes)
    (delivered : List (Bytes × Bytes)) (written data : Bytes) (n : Network) : Prop :=
  ∃ ev, Since base k consumed ev n ∧ bytesRead ev = read ∧ deliveries ev = delivered ∧
    bytesWritten ev = written ∧ ∃ c, n.connections[k]? = some c ∧ c.unread = data ∧
      c.closed = false

theorem Feed.serviced {base : List SocketEvent} {k consumed : Nat} {read : Bytes}
    {delivered : List (Bytes × Bytes)} {written data : Bytes} {n : Network}
    (h : Feed base k consumed read delivered written data n) :
    Feed base k consumed read delivered written data { n with serviced := true } := by
  obtain ⟨ev, hsince, h⟩ := h
  exact ⟨ev, hsince.serviced, h⟩

section Feeding

variable {i : NetInput κ} {base : List SocketEvent} {k consumed : Nat} {read : Bytes}
  {delivered : List (Bytes × Bytes)} {written data : Bytes} {s : Sys σ}

abbrev Feeding (i : NetInput κ) (Q : α → Network → Prop) (p : NetProg σ κ α) (s : Sys σ) : Prop :=
  p.alone i (fun _ => True) (fun a t => Q a t.net) (fun _ _ => False) s

theorem feeding_seq {β : Type} {Q : α → Network → Prop} {Q' : β → Network → Prop}
    {p : NetProg σ κ α} {f : α → NetProg σ κ β} (hp : Feeding i Q p s)
    (hf : ∀ a t, Q a t.net → Feeding i Q' (f a) t) : Feeding i Q' (p >>= f) s :=
  (Proc.alone_seq _ _).mpr (Proc.alone_mono (fun _ h => h) hf (fun _ _ h => h) hp)

theorem feeding_onApp {Q : Network → Prop} {p : Proc σ κ Exc Unit}
    (hp : ∃ app, p.run i.app s.app = (.ret (), app)) (h : Q s.net) :
    Feeding i (fun _ => Q) (onApp p) s := by
  obtain ⟨app, hrun⟩ := hp
  have hdone : p.alone i.app (fun _ => True) (fun _ _ => True) (fun _ _ => False) s.app := by
    rw [Proc.alone_iff_run, hrun]
    trivial
  have hzoom := @Proc.alone_zoom σ κ Exc Unit _ (Sys σ) (NetInput κ) Exc Sys.app
    (fun s app => { s with app := app }) NetInput.app id (fun _ _ => rfl) (fun _ _ _ => rfl)
    (fun _ => rfl) i s _ p hdone
  refine Proc.alone_mono (fun _ h => h) ?_ ?_ hzoom
  · rintro _ _ ⟨app, rfl, -⟩
    exact h
  · rintro _ _ ⟨_, _, -, -, hfalse⟩
    exact hfalse

theorem feeding_onNet {Q : α → Network → Prop}
    {f : Network → SocketAnswer → Except Exc α × Network} {a : α} {n : Network}
    (hf : f s.net i.socket = (.ok a, n)) (h : Q a n) : Feeding i Q (onNet f) s := by
  refine Proc.alone_atomic.mpr ⟨trivial, ?_⟩
  simp only [hf]
  exact h

variable (hdone : i.socket = .done) (hhost : Returns host i.app)

include hdone in
theorem feeding_read {x y : Bytes} {size : Nat}
    (h : Feed base k consumed read delivered written (x ++ y) s.net) (hx : x.length = size) :
    Feeding i (fun got n => got = some x ∧ Feed base k consumed (read ++ x) delivered written y n)
      (onNet (Network.read size)) s := by
  obtain ⟨ev, hsince, hread, hdel, hwr, c, hc, hun, hopen⟩ := h
  obtain ⟨c', hcur, hc', hcon⟩ := hsince.current
  obtain rfl : c' = c := Option.some.inj (hc'.symm.trans hc)
  have htake : c'.unread.take size = x := by rw [hun, ← hx, List.take_left]
  have hk : k < s.net.connections.length := (List.getElem?_eq_some_iff.mp hc).1
  refine feeding_onNet (a := some x) (n := (s.net.put k
    { c' with consumed := c'.consumed + x.length }).record (.read k c'.timeoutMs size x)) ?_ ?_
  · simp only [Network.read, Network.onSocket, hcur, hdone, Nat.min_self, htake]
  · refine ⟨rfl, ev ++ [.read k c'.timeoutMs size x], hsince.put ?_, ?_, ?_, ?_,
      { c' with consumed := c'.consumed + x.length }, ?_, ?_, hopen⟩
    · simp only [bytesRead_append, bytesRead_cons, SocketEvent.readBytes, bytesRead_nil,
        List.append_nil, List.length_append]
      omega
    · simp [hread]
    · simp [hdel]
    · simp [hwr]
    · simp [Network.record, Network.put, hk]
    · rw [Connection.unread, ← List.drop_drop]
      show (c'.unread).drop x.length = y
      rw [hun, List.drop_left]

include hhost in
theorem feeding_service (h : Feed base k consumed read delivered written data s.net) :
    Feeding i (fun _ => Feed base k consumed read delivered written data) (service host) s :=
  feeding_seq (feeding_onApp (hhost.1 _) h)
    (fun _ _ ht => feeding_onNet (a := ()) rfl (Feed.serviced ht))

include hdone hhost

theorem feeding_readRequired {x y : Bytes} {size : Nat}
    (h : Feed base k consumed read delivered written (x ++ y) s.net) (hx : x.length = size) :
    Feeding i (fun got n => got = x ∧ Feed base k consumed (read ++ x) delivered written y n)
      (readRequired host size) s := by
  refine feeding_seq (feeding_service hhost h) (fun _ t ht => ?_)
  refine feeding_seq (feeding_read hdone ht hx) ?_
  rintro got u ⟨rfl, hu⟩
  dsimp only
  rw [if_neg (not_not_intro hx)]
  exact ⟨rfl, hu⟩

theorem feeding_readByte {b : UInt8} {y : Bytes}
    (h : Feed base k consumed read delivered written (b :: y) s.net) :
    Feeding i (fun got n => got = b.toNat ∧
      Feed base k consumed (read ++ [b]) delivered written y n) (readByte host) s := by
  refine feeding_seq (feeding_readRequired hdone hhost (x := [b]) h rfl) ?_
  rintro got t ⟨rfl, ht⟩
  exact ⟨rfl, ht⟩

theorem feeding_write {bytes : Bytes} (h : Feed base k consumed read delivered written data s.net) :
    Feeding i (fun _ n => Feed base k consumed read delivered (written ++ bytes) data n)
      (write host none bytes) s := by
  refine feeding_seq (feeding_service hhost h) (fun _ t ht => ?_)
  obtain ⟨ev, hsince, hread, hdel, hwr, c, hc, hun, hopen⟩ := ht
  obtain ⟨c', hcur, hc', hcon⟩ := hsince.current
  obtain rfl : c' = c := Option.some.inj (hc'.symm.trans hc)
  have hk : k < t.net.connections.length := (List.getElem?_eq_some_iff.mp hc).1
  refine feeding_onNet (a := ()) (n := (t.net.put k
    { c' with written := c'.written ++ bytes }).record (.wrote k c'.timeoutMs none bytes)) ?_ ?_
  · simp [Network.write, Network.onSocket, hcur, hdone, hopen]
  · refine ⟨ev ++ [.wrote k c'.timeoutMs none bytes], hsince.put ?_, ?_, ?_, ?_,
      { c' with written := c'.written ++ bytes }, ?_, hun, hopen⟩
    · simpa using hcon
    · simp [hread]
    · simp [hdel]
    · simp [hwr]
    · simp [Network.record, Network.put, hk]

omit hdone in
theorem feeding_deliver {topic msg : Bytes}
    (h : Feed base k consumed read delivered written data s.net) :
    Feeding i (fun _ n => Feed base k consumed read (delivered ++ [(topic, msg)]) written data n)
      (receivePublish.deliver host topic msg) s := by
  obtain ⟨ev, hsince, hread, hdel, hwr, c, hc, hun, hopen⟩ := h
  refine feeding_seq (Q := fun _ n =>
    Feed base k consumed read (delivered ++ [(topic, msg)]) written data n) ?_ ?_
  · refine feeding_onNet (a := ()) (n := s.net.record (.delivered topic msg)) rfl ?_
    refine ⟨ev ++ [.delivered topic msg], ⟨?_, hsince.sock, c, hc, ?_⟩, ?_, ?_, ?_, c, hc, hun,
      hopen⟩
    · simp [Network.record, hsince.events]
    · obtain ⟨c', hc', hcon⟩ := hsince.conn
      obtain rfl : c' = c := Option.some.inj (hc'.symm.trans hc)
      simpa using hcon
    · simp [hread]
    · simp [hdel]
    · simp [hwr]
  · exact fun _ t ht => feeding_onApp (hhost.2 _ _ _) ht

/-- The reader's loop takes the encoding of a number as that number. -/
theorem feeding_recvLenFrom {left n : Nat} {bytes rest : Bytes}
    (h : Feed base k consumed read delivered written (Base128.encode n ++ rest) s.net)
    (hleft : (Base128.encode n).length ≤ left) :
    Feeding i (fun got m => got = lengthValue (bytes ++ Base128.encode n) ∧
      Feed base k consumed (read ++ Base128.encode n) delivered written rest m)
      (recvLenFrom host left (lengthValue bytes) (7 * bytes.length)) s := by
  induction left generalizing n bytes read s with
  | zero =>
    have := List.length_pos_iff.mpr (Base128.encode_ne_nil n)
    omega
  | succ left ih =>
    by_cases hn : n < 128
    · rw [Base128.encode_small hn] at h ⊢
      refine feeding_seq (feeding_readByte hdone hhost h) ?_
      rintro b t ⟨rfl, ht⟩
      have hb : (UInt8.ofNat n).toNat < 128 := by
        rwa [Base128.toNat_ofNat (by omega)]
      simp only [lengthStep, if_pos ((continues_iff _).mpr hb)]
      exact ⟨rfl, ht⟩
    · rw [Base128.encode_large hn, List.length_cons] at hleft
      rw [Base128.encode_large hn] at h ⊢
      refine feeding_seq (feeding_readByte hdone hhost h) ?_
      rintro b t ⟨rfl, ht⟩
      have hb : ¬ (UInt8.ofNat (n % 128 + 128)).toNat < 128 := by
        rw [Base128.toNat_ofNat (by omega)]
        omega
      simp only [lengthStep, if_neg (fun h => hb ((continues_iff _).mp h))]
      have hrest := @ih _ _ (n / 128) (bytes ++ [UInt8.ofNat (n % 128 + 128)]) ht (by omega)
      rw [List.length_append, List.length_singleton, Nat.mul_add] at hrest
      simpa using hrest

end Feeding

theorem lengthValue_encode (n : Nat) : lengthValue (Base128.encode n) = n := by
  induction n using Nat.strongRecOn with
  | ind n ih =>
    by_cases hn : n < 128
    · rw [Base128.encode_small hn, lengthValue, lengthValue, Base128.toNat_ofNat (by omega)]
      omega
    · rw [Base128.encode_large hn, lengthValue, Base128.toNat_ofNat (by omega), ih _ (by omega)]
      omega

theorem be16Value_be16 {n : Nat} (h : n < 65536) : be16Value (be16 n) = n := by
  have hhigh := Base128.toNat_ofNat (show n / 256 < 256 by omega)
  have hlow : (UInt8.ofNat n).toNat = n % 256 := by simp
  rw [be16, be16Value, hhigh, hlow, ← Nat.shiftLeft_add_eq_or_of_lt (by omega)]
  simp only [Nat.shiftLeft_eq]
  omega

section RoundTrip

variable {i : NetInput κ} {base : List SocketEvent} {k consumed : Nat} {s : Sys σ}

theorem feeding_guard {c : Prop} [Decidable c] {Q : α → Network → Prop} {refuse : NetProg σ κ Unit}
    {rest : Unit → NetProg σ κ α} (hc : ¬ c) (h : Feeding i Q (rest ()) s) :
    Feeding i Q (if c then refuse >>= rest else rest ()) s := by
  rw [if_neg hc]
  exact h

variable (hdone : i.socket = .done) (hhost : Returns host i.app)
include hdone hhost

theorem feeding_recvLen {n : Nat} {rest : Bytes} {read : Bytes} {delivered : List (Bytes × Bytes)}
    {written : Bytes} (hn : n ≤ MAX_PUBLISH_SIZE)
    (h : Feed base k consumed read delivered written (Base128.encode n ++ rest) s.net) :
    Feeding i (fun got m => got = n ∧
      Feed base k consumed (read ++ Base128.encode n) delivered written rest m) (recvLen host) s := by
  have hfour : (Base128.encode n).length ≤ 4 := by
    refine Base128.length_encode_le (by omega) ?_
    have : MAX_PUBLISH_SIZE < 128 ^ 4 := by decide
    omega
  have hloop : Feeding i (fun got m => got = lengthValue ([] ++ Base128.encode n) ∧
      Feed base k consumed (read ++ Base128.encode n) delivered written rest m) (recvLen host) s :=
    feeding_recvLenFrom hdone hhost h hfour
  rw [List.nil_append, lengthValue_encode] at hloop
  exact hloop

/-- The reader takes a frame that fits its bound apart again. -/
theorem feeding_waitMsg {topic : List Char} {body rest : Bytes} {pid : Nat}
    {fragment : Option Bytes} (hascii : ∀ c ∈ topic, c.toNat < 128)
    (htopic : topic.length ≤ 65535) (hpid : pid < 65536)
    (hsize : publishSize topic (.bytes body) fragment ≤ MAX_INBOUND_PACKET_BYTES)
    (hbody : fragment = none ∨ body ≠ [])
    (h : Feed base k consumed [] [] [] (frame topic (.bytes body) pid fragment ++ rest) s.net) :
    Feeding i (fun result n => result = some 0x32 ∧
      Feed base k consumed (frame topic (.bytes body) pid fragment)
        [(utf8 topic, joined body fragment)] ([0x40, 0x02] ++ be16 pid) rest n) (waitMsg host) s := by
  have hsz := @publishSize_joined topic _ _ hbody
  have hmax : MAX_INBOUND_PACKET_BYTES ≤ MAX_PUBLISH_SIZE := by decide
  have hlen := length_utf8_of_ascii hascii
  rw [frame_eq hbody] at h ⊢
  simp only [List.cons_append, List.append_assoc] at h
  refine feeding_seq (feeding_service hhost h) (fun _ s h => ?_)
  refine feeding_seq (feeding_read hdone (x := [0x32]) h rfl) ?_
  rintro _ s ⟨rfl, h⟩
  show Feeding i _ (dispatch host 0x32) s
  rw [show dispatch host 0x32 = receivePublish host 0x32 from rfl]
  unfold receivePublish
  refine feeding_seq (feeding_recvLen hdone hhost (Nat.le_trans hsize hmax) h) ?_
  rintro _ s ⟨rfl, h⟩
  refine feeding_guard (by omega) ?_
  refine feeding_guard (by omega) ?_
  refine feeding_seq (feeding_readRequired hdone hhost h rfl) ?_
  rintro _ s ⟨rfl, h⟩
  rw [be16Value_be16 (by omega)]
  refine feeding_guard (by omega) ?_
  refine feeding_seq (feeding_readRequired hdone hhost h hlen) ?_
  rintro _ s ⟨rfl, h⟩
  rw [if_pos (by decide)]
  refine feeding_guard (by omega) ?_
  refine feeding_seq (feeding_readRequired hdone hhost h rfl) ?_
  rintro _ s ⟨rfl, h⟩
  refine feeding_seq (feeding_readRequired hdone hhost h (by omega)) ?_
  rintro _ s ⟨rfl, h⟩
  refine feeding_seq (feeding_deliver hhost h) (fun _ s h => ?_)
  rw [if_pos (by decide), be16Value_be16 hpid]
  refine feeding_seq (feeding_write hdone hhost h) (fun _ s h => ?_)
  refine ⟨rfl, ?_⟩
  simpa using h

end RoundTrip

theorem Feeding.run_eq {i : NetInput κ} {a : α} {Q : Network → Prop} {p : NetProg σ κ α}
    {s : Sys σ} (h : Feeding i (fun b n => b = a ∧ Q n) p s) :
    ∃ t, p.run i s = (.ret a, t) ∧ Q t.net := by
  rcases Proc.alone_run h with ⟨b, hrun, rfl, hq⟩ | ⟨e, -, hfalse⟩
  · exact ⟨(p.run i s).2, Prod.ext hrun rfl, hq⟩
  · exact hfalse.elim

/-- What a publish wrote is delivered as its topic and its payload, to the last byte and no
further, and is acknowledged under its packet identifier; and the reader inverts the encoding of
every length that a publish accepts. -/
theorem publish_roundTrip {host : Host σ κ} {i : NetInput κ} {s : Sys σ} {k : Nat}
    {c : Connection} (hdone : i.socket = .done) (hhost : Returns host i.app)
    (hsock : s.net.sock = some k) (hc : s.net.connections[k]? = some c)
    (hopen : c.closed = false) :
    (∀ {τ ν : Type} (sender : Host τ ν) (A : NetInput ν → Prop) (s₀ t₀ : Sys τ) (rounds : Nat)
      (o : Owner) (topic : List Char) (body : Bytes) (pid : Nat) (timeoutMs : Option Nat)
      (fragment : Option Bytes) (sent rest : Bytes),
      (∀ c ∈ topic, c.toNat < 128) → topic.length ≤ 65535 → pid < 65536 →
      publishSize topic (.bytes body) fragment ≤ MAX_INBOUND_PACKET_BYTES →
      (fragment = none ∨ body ≠ []) →
      Proc.Reaches A Peer
        (publish sender rounds (some o) topic (.bytes body) (some pid) timeoutMs fragment)
        s₀ (.ret ()) t₀ →
      writtenFor o t₀.net.events = writtenFor o s₀.net.events ++ sent →
      c.unread = sent ++ rest →
      ∃ t ev, (waitMsg host).run i s = (.ret (some 0x32), t) ∧
        Since s.net.events k c.consumed ev t.net ∧
        deliveries ev = [(utf8 topic, joined body fragment)] ∧ bytesRead ev = sent ∧
        bytesWritten ev = [0x40, 0x02] ++ be16 pid) ∧
    (∀ n rest, n ≤ MAX_PUBLISH_SIZE → c.unread = Base128.encode n ++ rest →
      ∃ t ev, (recvLen host).run i s = (.ret n, t) ∧
        Since s.net.events k c.consumed ev t.net ∧ bytesRead ev = Base128.encode n) := by
  have hstart : ∀ data, c.unread = data → Feed s.net.events k c.consumed [] [] [] data s.net :=
    fun data hdata => ⟨[], ⟨by simp, hsock, c, hc, by simp⟩, rfl, rfl, rfl, c, hc, hdata, hopen⟩
  constructor
  · intro τ ν sender A s₀ t₀ rounds o topic body pid timeoutMs fragment sent rest hascii htopic
      hpid hsize hbody hrun hsent hunread
    obtain ⟨whole, -, hwhole, hall⟩ := publish_writes hrun
    obtain rfl : whole = frame topic (.bytes body) pid fragment := hall rfl
    obtain rfl : sent = frame topic (.bytes body) pid fragment :=
      List.append_cancel_left (hsent.symm.trans hwhole)
    obtain ⟨t, hret, ev, hsince, hread, hdel, hwr, -⟩ := Feeding.run_eq
      (feeding_waitMsg hdone hhost hascii htopic hpid hsize hbody (hstart _ hunread))
    exact ⟨t, ev, hret, hsince, hdel, hread, hwr⟩
  · intro n rest hn hunread
    obtain ⟨t, hret, ev, hsince, hread, -⟩ := Feeding.run_eq
      (feeding_recvLen hdone hhost hn (hstart _ hunread))
    exact ⟨t, ev, hret, hsince, hread⟩

def fed (bytes : Bytes) : Sys Unit where
  net := { connections := [{ inbound := bytes }], sock := some 0 }
  app := ()

def published (body : Bytes) (fragment : Option Bytes) : Proc.Outcome Exc Unit × Sys Unit :=
  (publish quietHost 1 (some (.entry 0)) ['a'] (.bytes body) (some 1) none fragment).run
    ⟨.done, ()⟩ (fed [0x40, 0x02, 0x00, 0x01])

theorem publish_roundTrip_spliced :
    ∃ t ev, (waitMsg quietHost).run ⟨.done, ()⟩
        (fed (writtenFor (.entry 0) (published [0x7B, 0x7D] (some [0x66])).2.net.events)) =
          (.ret (some 0x32), t) ∧
      Since [] 0 0 ev t.net ∧ deliveries ev = [([0x61], [0x7B, 0x2C, 0x66, 0x7D])] ∧
      bytesRead ev = writtenFor (.entry 0) (published [0x7B, 0x7D] (some [0x66])).2.net.events ∧
      bytesWritten ev = [0x40, 0x02, 0x00, 0x01] := by
  obtain ⟨q, hq, hret, -⟩ := Proc.run_visits (fun _ : NetInput Unit => True) (i := ⟨.done, ()⟩)
    trivial (publish quietHost 1 (some (.entry 0)) ['a'] (.bytes [0x7B, 0x7D]) (some 1) none
      (some [0x66])) (fed [0x40, 0x02, 0x00, 0x01])
  obtain rfl := hret () rfl
  have hround := @publish_roundTrip _ _ quietHost ⟨.done, ()⟩ (fed (writtenFor (.entry 0)
    (published [0x7B, 0x7D] (some [0x66])).2.net.events)) 0 _ rfl
    ⟨fun _ => ⟨(), rfl⟩, fun _ _ _ => ⟨(), rfl⟩⟩ rfl rfl rfl
  exact hround.1 quietHost (fun _ => True) _ _ 1 (.entry 0) ['a'] [0x7B, 0x7D] 1 none
    (some [0x66]) (writtenFor (.entry 0) (published [0x7B, 0x7D] (some [0x66])).2.net.events) []
    (List.forall_mem_singleton.mpr (by decide)) (by decide) (by decide) (by decide) (by decide)
    (hq.mono (fun _ h => h) (fun _ _ h => h.elim)) rfl (List.append_nil _).symm

/-- Spliced onto an empty body, a fragment loses the closing brace: the announced length is one
short. -/
theorem roundTrip_emptyBody :
    publishSize ['a'] (.bytes []) (some [0x66]) ≤ MAX_INBOUND_PACKET_BYTES ∧
    (published [] (some [0x66])).1 = .ret () ∧
    deliveries ((waitMsg quietHost).run ⟨.done, ()⟩
      (fed (writtenFor (.entry 0) (published [] (some [0x66])).2.net.events))).2.net.events ≠
        [(utf8 ['a'], joined [] (some [0x66]))] := by
  refine ⟨by decide, rfl, by decide⟩

end MqttClient
end PicoDualCore
