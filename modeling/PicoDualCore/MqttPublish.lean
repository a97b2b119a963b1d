import PicoDualCore.MqttRule
set_option autoImplicit false

namespace PicoDualCore
open AtomicProgram

@[simp] def SocketEvent.wroteFor (o : Owner) : SocketEvent → Bytes
  | .wrote _ _ owner bytes => if owner = some o then bytes else []
  | _ => []

def writtenFor (o : Owner) (events : List SocketEvent) : Bytes :=
  events.flatMap (SocketEvent.wroteFor o)

section WrittenFor

variable (o : Owner) (e : SocketEvent) (a b : List SocketEvent)

@[simp] theorem writtenFor_nil : writtenFor o [] = [] := rfl

@[simp] theorem writtenFor_cons : writtenFor o (e :: a) = e.wroteFor o ++ writtenFor o a := rfl

@[simp] theorem writtenFor_append : writtenFor o (a ++ b) = writtenFor o a ++ writtenFor o b :=
  List.flatMap_append

end WrittenFor

namespace MqttClient

/-- Only a write for the owner adds to what is written for it. -/
theorem ClientStep.writtenFor {n n' : Network} (o : Owner) (h : ClientStep n n') :
    writtenFor o n'.events = writtenFor o n.events := by
  cases h with
  | read size a =>
    unfold Network.read Network.onSocket
    cases n.current with
    | none => rfl
    | some socket => cases a <;> simp [Network.record, Network.put]
  | write bytes a =>
    unfold Network.write Network.onSocket
    cases n.current with
    | none => rfl
    | some socket =>
      cases a <;> by_cases hc : socket.2.closed <;> simp [Network.record, Network.put, hc]
  | close a =>
    unfold Network.close Network.onSocket
    cases n.current with
    | none => rfl
    | some socket => cases a <;> simp [Network.record, Network.put]
  | settimeout timeoutMs a =>
    unfold Network.settimeout Network.onSocket
    cases n.current with
    | none => rfl
    | some socket => cases a <;> simp [Network.put]
  | deliver topic payload => simp [Network.record]
  | idle => rfl
  | serviced => rfl
  | packetId pid => rfl

theorem SessionStep.writtenFor {n n' : Network} (o : Owner) (h : SessionStep n n') :
    writtenFor o n'.events = writtenFor o n.events := by
  cases h with
  | newClient => rfl
  | openSocket a => cases a <;> simp [Network.openSocket]
  | connectSocket a =>
    unfold Network.connectSocket Network.onSocket
    cases n.current with
    | none => rfl
    | some socket => cases a <;> simp [Network.record]

theorem writtenFor_write (o : Owner) (bytes : Bytes) (n : Network) (a : SocketAnswer) :
    ∃ part, part <+: bytes ∧
      writtenFor o (n.write (some o) bytes a).2.events = writtenFor o n.events ++ part ∧
      ((n.write (some o) bytes a).1 = .ok () → part = bytes) := by
  unfold Network.write Network.onSocket
  cases n.current with
  | none => exact ⟨[], List.nil_prefix, by simp, by simp⟩
  | some socket =>
    cases a with
    | memory => exact ⟨[], List.nil_prefix, by simp, by simp⟩
    | fail count =>
      exact ⟨bytes.take count, List.take_prefix _ _, by simp [Network.record, Network.put], by simp⟩
    | _ =>
      by_cases hc : socket.2.closed
      · exact ⟨[], List.nil_prefix, by simp [hc], by simp [hc]⟩
      · exact ⟨bytes, List.prefix_refl _, by simp [hc, Network.record, Network.put], by simp⟩

theorem ClientRule.ofNet {σ κ : Type} {host : Host σ κ} {A : NetInput κ → Prop}
    {R G : Sys σ → Sys σ → Prop} {K : Network → Prop} (hR : ∀ s t, R s t → K s.net → K t.net)
    (hG : ∀ s t, K t.net → G s t) (hstep : ∀ n n', K n → ClientStep n n' → K n') :
    ClientRule host A R G (fun s => K s.net) :=
  ⟨fun hr hs => hR _ _ hr hs, fun hs h => ⟨hG _ _ (hstep _ _ hs h), hstep _ _ hs h⟩,
    fun hs => keeping_onApp hR (fun s _ h => hG s _ h) _ hs,
    fun _ _ hs _ => keeping_onApp hR (fun s _ h => hG s _ h) _ hs⟩

def frame (topic : List Char) (msg : Payload) (pid : Nat) (fragment : Option Bytes) : Bytes :=
  (frameSegments topic msg pid fragment).flatten

/-- The payload of a splice as one buffer. -/
def joined (body : Bytes) (fragment : Option Bytes) : Bytes :=
  match fragment with
  | none => body
  | some fragment => body.dropLast ++ [0x2C] ++ fragment ++ [0x7D]

def Wrote (o : Owner) (base sent : Bytes) (n : Network) : Prop :=
  writtenFor o n.events = base ++ sent

theorem Wrote.peer {σ : Type} {o : Owner} {base sent : Bytes} {s t : Sys σ}
    (h : Wrote o base sent s.net) (hp : Peer s t) : Wrote o base sent t.net := by
  rw [Wrote, hp.events]
  exact h

/-- A client that works for one owner writes `total` for it, piece by piece. -/
theorem sendRule_wrote {σ κ : Type} {host : Host σ κ} {A : NetInput κ → Prop} {o : Owner}
    {base total : Bytes} :
    SendRule host A Peer (fun _ t => ∃ sent, sent <+: total ∧ Wrote o base sent t.net) (some o)
      total (fun sent t => Wrote o base sent t.net) := by
  refine ⟨fun hsent => ?_, fun {sent s} bytes a hfits hs => ?_⟩
  · refine ClientRule.ofNet (fun _ _ hp h => h.peer hp) (fun _ _ ht => ⟨_, hsent, ht⟩) ?_
    exact fun n n' hn hstep => (hstep.writtenFor o).trans hn
  · obtain ⟨part, hpart, hwr, hall⟩ := writtenFor_write o bytes s.net a
    have hpartly : Wrote o base (sent ++ part) (s.net.write (some o) bytes a).2 := by
      rw [Wrote, hwr, hs, List.append_assoc]
    refine ⟨⟨_, ((List.prefix_append_right_inj _).mpr hpart).trans hfits, hpartly⟩, ?_⟩
    cases hout : (s.net.write (some o) bytes a).1 with
    | ok done =>
      rw [hall hout] at hpartly
      exact hpartly
    | error e => exact ⟨part, hpart, hpartly⟩

/-- In every run, finished or not, a publish has written a beginning of its frame, and all of it
once it returns. -/
theorem publish_writes {σ κ : Type} {host : Host σ κ} {A : NetInput κ → Prop} {s t : Sys σ}
    {q : NetProg σ κ Unit} {rounds pid : Nat} {o : Owner} {topic : List Char} {msg : Payload}
    {timeoutMs : Option Nat} {fragment : Option Bytes}
    (h : Proc.Reaches A Peer (publish host rounds (some o) topic msg (some pid) timeoutMs fragment)
      s q t) :
    ∃ sent, sent <+: frame topic msg pid fragment ∧
      writtenFor o t.net.events = writtenFor o s.net.events ++ sent ∧
      (q = .ret () → sent = frame topic msg pid fragment) := by
  have hstart : Wrote o (writtenFor o s.net.events) [] s.net := (List.append_nil _).symm
  obtain ⟨⟨sent, hsent, ht⟩, u, hu, hw⟩ := Proc.wp_reaches (E := Peer)
    (I := fun t => ∃ sent, sent <+: frame topic msg pid fragment ∧
      Wrote o (writtenFor o s.net.events) sent t.net)
    Peer.refl Peer.trans (fun _ _ _ hG => hG)
    (fun u v ⟨sent, hsent, hk⟩ hp => ⟨hp, sent, hsent, hk.peer hp⟩)
    ⟨[], List.nil_prefix, hstart⟩ (sendRule_wrote.publish rfl hstart) h
  refine ⟨sent, hsent, ht, ?_⟩
  rintro rfl
  have hfull : Wrote o (writtenFor o s.net.events) (frame topic msg pid fragment) t.net :=
    Wrote.peer hw hu
  exact List.append_cancel_left (ht.symm.trans hfull)

theorem publishSize_joined {topic : List Char} {body : Bytes} {fragment : Option Bytes}
    (h : fragment = none ∨ body ≠ []) :
    publishSize topic (.bytes body) fragment =
      2 + topic.length + 2 + (joined body fragment).length := by
  cases fragment with
  | none =>
    simp only [publishSize, joined, Payload.len]
    omega
  | some fragment =>
    have hpos := List.length_pos_iff.mpr (h.resolve_left (by simp))
    simp only [publishSize, joined, Payload.len, List.length_append, List.length_dropLast,
      List.length_singleton]
    omega

theorem flatten_bodySegments {topic : List Char} {body : Bytes} {pid : Nat}
    {fragment : Option Bytes} (h : fragment = none ∨ body ≠ []) :
    (bodySegments topic (.bytes body) pid fragment).flatten =
      be16 topic.length ++ (utf8 topic ++ (be16 pid ++ joined body fragment)) := by
  cases fragment with
  | none => simp [bodySegments, joined, Payload.wire]
  | some fragment =>
    simp [bodySegments, joined, Payload.wire, Payload.len, List.dropLast_eq_take]

theorem frame_eq {topic : List Char} {body : Bytes} {pid : Nat} {fragment : Option Bytes}
    (h : fragment = none ∨ body ≠ []) :
    frame topic (.bytes body) pid fragment =
      0x32 :: (Base128.encode (publishSize topic (.bytes body) fragment) ++
        (be16 topic.length ++ (utf8 topic ++ (be16 pid ++ joined body fragment)))) := by
  rw [frame, frameSegments, List.flatten_cons, flatten_bodySegments h, List.cons_append]

/-- The segments of a splice are the frame of the joined payload. -/
theorem frame_joined (topic : List Char) {body : Bytes} (pid : Nat) (fragment : Option Bytes)
    (h : body ≠ []) :
    publishSize topic (.bytes body) fragment =
      publishSize topic (.bytes (joined body fragment)) none ∧
    frame topic (.bytes body) pid fragment = frame topic (.bytes (joined body fragment)) pid none := by
  have hsize : publishSize topic (.bytes body) fragment =
      publishSize topic (.bytes (joined body fragment)) none := by
    rw [publishSize_joined (.inr h), publishSize_joined (.inl rfl), joined]
  refine ⟨hsize, ?_⟩
  rw [frame_eq (.inr h), frame_eq (.inl rfl), hsize, joined]

end MqttClient
end PicoDualCore
