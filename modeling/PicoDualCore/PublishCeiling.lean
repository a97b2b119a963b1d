import PicoDualCore.Core0Run
set_option autoImplicit false

namespace PicoDualCore
open AtomicProgram MqttClient

attribute [local irreducible] Proc.wp

section Writes

variable {σ κ α : Type}

/-- In every run the program writes a beginning of `wire` for the owner, and all of it once it
returns. -/
def Writes (A : NetInput κ → Prop) (o : Owner) (p : NetProg σ κ α) (wire : Bytes) : Prop :=
  ∀ s q t, Proc.Reaches A Peer p s q t → ∃ sent, sent <+: wire ∧
    writtenFor o t.net.events = writtenFor o s.net.events ++ sent ∧
      (∀ a, q = .ret a → sent = wire)

theorem writes_publish {host : Host σ κ} {A : NetInput κ → Prop} {rounds pid : Nat} {o : Owner}
    {topic : List Char} {msg : Payload} {timeoutMs : Option Nat} {fragment : Option Bytes} :
    Writes A o (publish host rounds (some o) topic msg (some pid) timeoutMs fragment)
      (frame topic msg pid fragment) := by
  intro s q t h
  obtain ⟨sent, hsent, hwr, hall⟩ := publish_writes h
  exact ⟨sent, hsent, hwr, fun _ hq => hall hq⟩

end Writes

section Entry

variable {boot : Boot} {rounds n : Nat} {o : Owner} {topic : String} {body fragment : Bytes}
  {A : NetInput CoreInput → Prop} {base : Bytes} {s : Sys Board}

def SpliceFrame (topic : String) (body fragment wire : Bytes) : Prop :=
  ∃ pid, wire = frame topic.toList (.bytes (joined body (some fragment))) pid none

theorem joined_length (h : body ≠ []) :
    (joined body (some fragment)).length = wireLength body fragment := by
  have hpos := List.length_pos_iff.mpr h
  simp only [joined, wireLength, List.length_append, List.length_dropLast,
    List.length_singleton]
  omega

theorem ne_nil_of_brace (h : body.getLast? = some 0x7D) : body ≠ [] := by
  rintro rfl
  cases h

def PartSent (topic : String) (body fragment : Bytes) (o : Owner) (base : Bytes)
    (net : Network) : Prop :=
  ∃ sent wire, SpliceFrame topic body fragment wire ∧ sent <+: wire ∧ Wrote o base sent net

theorem PartSent.ofNothing {net : Network} (h : Wrote o base [] net) :
    PartSent topic body fragment o base net :=
  ⟨[], _, ⟨0, rfl⟩, List.nil_prefix, h⟩

theorem PartSent.peer {t : Sys Board} (h : PartSent topic body fragment o base s.net)
    (hp : Peer s t) : PartSent topic body fragment o base t.net := by
  obtain ⟨sent, wire, hwire, hsent, hwr⟩ := h
  exact ⟨sent, wire, hwire, hsent, hwr.peer hp⟩

abbrev Splicing (topic : String) (body fragment : Bytes) (o : Owner) (base : Bytes)
    (A : NetInput CoreInput → Prop) {α : Type} (p : CoreProg α) (s : Sys Board) : Prop :=
  p.wp A Peer (fun _ t => PartSent topic body fragment o base t.net)
    (fun _ t => ∃ wire, SpliceFrame topic body fragment wire ∧ Wrote o base wire t.net)
    (fun _ t => PartSent topic body fragment o base t.net) s

theorem splicing_before {α β : Type} {p : BoardProg α} {f : α → CoreProg β}
    (hs : Wrote o base [] s.net)
    (hf : ∀ a t, Wrote o base [] t.net → Splicing topic body fragment o base A (f a) t) :
    Splicing topic body fragment o base A (onApp p >>= f) s := by
  refine (Proc.wp_seq _ _ _).mpr (Proc.wp_mono (keeping_onApp (K := Wrote o base [])
    (fun u v hp hu => hu.peer hp) (fun _ _ hu => PartSent.ofNothing hu) p hs) (fun _ _ h => h) hf ?_)
  exact fun _ _ ht => .ofNothing ht

theorem splicing_after {α : Type} {p : BoardProg α} {wire : Bytes}
    (hwire : SpliceFrame topic body fragment wire) (hs : Wrote o base wire s.net) :
    Splicing topic body fragment o base A (onApp p) s := by
  refine Proc.wp_mono (keeping_onApp (K := Wrote o base wire) (fun u v hp hu => hu.peer hp)
    (fun _ t ht => ⟨wire, wire, hwire, List.prefix_refl _, ht⟩) p hs) (fun _ _ h => h) ?_ ?_
  · exact fun _ t ht => ⟨wire, hwire, ht⟩
  · exact fun _ t ht => ⟨wire, wire, hwire, List.prefix_refl _, ht⟩

theorem splicing_publish (hbody : body ≠ []) (hs : Wrote o base [] s.net) {timeoutMs : Option Nat} :
    Splicing topic body fragment o base A (publish (Mqtt.host boot) rounds (some o) topic.toList
      (.bytes body) none timeoutMs
      (some fragment)) s := by
  rw [publish_none]
  by_cases hsize : MAX_PUBLISH_SIZE < publishSize topic.toList (.bytes body)
      (some fragment)
  · rw [if_pos hsize]
    exact Proc.wp_throw.mpr (PartSent.ofNothing hs)
  rw [if_neg hsize]
  have hpid : Keeping A Peer (fun _ t => PartSent topic body fragment o base t.net)
      (fun t => Wrote o base [] t.net) nextPacketId s := by
    refine (@ClientRule.ofNet _ _ (Mqtt.host boot) _ _ _ _ (fun u v hp hu => hu.peer hp)
      (fun _ _ hu => PartSent.ofNothing hu) (fun m m' hm hstep => ?_)).exchange.nextPacketId hs
    exact (hstep.writtenFor o).trans hm
  rw [Splicing, Proc.wp_seq]
  refine Proc.wp_mono hpid (fun _ _ h => h) (fun pid t ht => ?_) (fun _ _ ht => .ofNothing ht)
  have hframe := (frame_joined topic.toList pid
    (some fragment) hbody).2
  refine Proc.wp_mono (sendRule_wrote.publish hframe.symm ht) ?_ ?_ ?_
  · rintro _ u ⟨sent, hsent, hu⟩
    exact ⟨sent, _, ⟨pid, rfl⟩, hsent, hu⟩
  · exact fun _ u hu => ⟨_, ⟨pid, rfl⟩, hu⟩
  · rintro _ u ⟨sent, hsent, hu⟩
    exact ⟨sent, _, ⟨pid, rfl⟩, hsent, hu⟩

theorem splicing_publishQos1 (hbody : body ≠ []) (hs : Wrote o base [] s.net) :
    Splicing topic body fragment o base A (Mqtt.publishQos1 boot rounds (some (o, n)) topic
      (.bytes body) (some fragment)) s := by
  unfold Mqtt.publishQos1
  refine splicing_before hs (fun connected t ht => ?_)
  cases connected with
  | false => exact Proc.wp_throw.mpr (PartSent.ofNothing ht)
  | true =>
    show Splicing topic body fragment o base A (_ >>= fun _ => onApp Mqtt.touchPublished) t
    rw [Splicing, Proc.wp_seq, Mqtt.orDisconnect, Proc.wp_handle]
    refine Proc.wp_mono (splicing_before ht (fun _ u hu => splicing_publish hbody hu))
      (fun _ _ h => h) ?_ ?_
    · rintro _ u ⟨wire, hwire, hu⟩
      exact splicing_after hwire hu
    · intro e u hu
      have hthrow : ∀ v : Sys Board, PartSent topic body fragment o base v.net →
          (throw e : CoreProg Unit).wp A Peer
            (fun _ t => PartSent topic body fragment o base t.net)
            (fun _ t => Proc.wp A Peer (fun _ t => PartSent topic body fragment o base t.net)
              (fun _ t => ∃ wire, SpliceFrame topic body fragment wire ∧ Wrote o base wire t.net)
              (fun _ t => PartSent topic body fragment o base t.net) (onApp Mqtt.touchPublished) t)
            (fun _ t => PartSent topic body fragment o base t.net) v :=
        fun _ hv => Proc.wp_throw.mpr hv
      cases e.transport with
      | true =>
        refine (Proc.wp_seq _ _ _).mpr (Proc.wp_mono
          (keeping_onApp (K := PartSent topic body fragment o base) (fun v w hp hv => hv.peer hp)
            (fun _ _ hv => hv) _ hu) (fun _ _ h => h) (fun _ v hv => hthrow v hv)
          (fun _ _ hv => hv))
      | false => exact hthrow u hu

theorem splicing_publishSpliced (hbody : body ≠ []) (hs : Wrote o base [] s.net)
    (hfits : wireLength body (envelopeFragment n boot.runtimeId boot.config.source) ≤
      MAX_OUTBOUND_MESSAGE_BYTES) :
    Splicing topic body (envelopeFragment n boot.runtimeId boot.config.source) o base A
      (publishSpliced boot rounds o topic body n) s := by
  unfold publishSpliced
  generalize envelopeFragment n boot.runtimeId boot.config.source = fragment at hfits ⊢
  rw [if_neg (Nat.not_lt.mpr hfits), Splicing, Proc.wp_seq]
  refine Proc.wp_mono (splicing_publishQos1 hbody hs) (fun _ _ h => h) ?_ (fun _ _ h => h)
  rintro _ t ⟨wire, hwire, ht⟩
  exact splicing_after hwire ht

/-- A frame of the entry under the sequence `n`, with a payload that is within the ceiling. -/
structure BoundedFrame (boot : Boot) (topic : String) (body : Bytes) (n : Nat) (wire : Bytes) :
    Prop where
  plain : ∃ pid, wire = frame topic.toList
    (.bytes (splicedPayload body n boot.runtimeId boot.config.source)) pid none
  short : (splicedPayload body n boot.runtimeId boot.config.source).length ≤
    MAX_OUTBOUND_MESSAGE_BYTES

/-- Nothing has been written for the owner, or a part of one bounded frame. -/
def PartBounded (boot : Boot) (topic : String) (body : Bytes) (o : Owner) (base : Bytes)
    (net : Network) : Prop :=
  ∃ sent, Wrote o base sent net ∧
    (sent ≠ [] → ∃ n wire, BoundedFrame boot topic body n wire ∧ sent <+: wire)

theorem PartBounded.ofNothing {net : Network} (h : Wrote o base [] net) :
    PartBounded boot topic body o base net :=
  ⟨[], h, fun hne => (hne rfl).elim⟩

theorem bounded_publishSpliced (hbody : body ≠ []) (hs : Wrote o base [] s.net) :
    (publishSpliced boot rounds o topic body n).wp A Peer
      (fun _ t => PartBounded boot topic body o base t.net)
      (fun _ t => ∃ n wire, BoundedFrame boot topic body n wire ∧ Wrote o base wire t.net)
      (fun _ t => PartBounded boot topic body o base t.net) s := by
  by_cases hfits : wireLength body (envelopeFragment n boot.runtimeId boot.config.source) ≤
      MAX_OUTBOUND_MESSAGE_BYTES
  · have hbounded : ∀ wire, SpliceFrame topic body
        (envelopeFragment n boot.runtimeId boot.config.source) wire →
          BoundedFrame boot topic body n wire := by
      intro wire hwire
      refine ⟨hwire, ?_⟩
      rw [splicedPayload, joined_length hbody]
      exact hfits
    refine Proc.wp_mono (splicing_publishSpliced hbody hs hfits) ?_ ?_ ?_
    · rintro _ t ⟨sent, wire, hwire, hsent, ht⟩
      exact ⟨sent, ht, fun _ => ⟨n, wire, hbounded wire hwire, hsent⟩⟩
    · rintro _ t ⟨wire, hwire, ht⟩
      exact ⟨n, wire, hbounded wire hwire, ht⟩
    · rintro _ t ⟨sent, wire, hwire, hsent, ht⟩
      exact ⟨sent, ht, fun _ => ⟨n, wire, hbounded wire hwire, hsent⟩⟩
  · unfold publishSpliced
    generalize envelopeFragment n boot.runtimeId boot.config.source = fragment at hfits ⊢
    rw [if_pos (Nat.lt_of_not_le hfits)]
    exact Proc.wp_throw.mpr (.ofNothing hs)

theorem bounded_publishEntry {claim : BoardProg Nat} (hs : Wrote o base [] s.net) :
    (publishEntry boot rounds o topic body claim).wp A Peer
      (fun _ t => PartBounded boot topic body o base t.net)
      (fun _ t => ∃ n wire, BoundedFrame boot topic body n wire ∧ Wrote o base wire t.net)
      (fun _ t => PartBounded boot topic body o base t.net) s := by
  unfold publishEntry
  by_cases hbody : body.getLast? ≠ some 0x7D
  · rw [if_pos hbody]
    exact Proc.wp_throw.mpr (.ofNothing hs)
  rw [if_neg hbody, Proc.wp_seq]
  have hne := ne_nil_of_brace (Decidable.not_not.mp hbody)
  refine Proc.wp_mono (keeping_onApp (K := Wrote o base []) (fun u v hp hu => hu.peer hp)
    (fun _ _ hu => PartBounded.ofNothing hu) claim hs) (fun _ _ h => h) ?_ ?_
  · exact fun n t ht => bounded_publishSpliced hne ht
  · exact fun _ _ ht => .ofNothing ht

/-- Every run of a publish of an entry, at every moment of it. -/
theorem publishEntry_bounded {claim : BoardProg Nat} {q : CoreProg Unit} {t : Sys Board}
    (h : Proc.Reaches A Peer (publishEntry boot rounds o topic body claim) s q t) :
    PartBounded boot topic body o (writtenFor o s.net.events) t.net ∧
      (q = .ret () → ∃ n wire, BoundedFrame boot topic body n wire ∧
        Wrote o (writtenFor o s.net.events) wire t.net) := by
  have hstart : Wrote o (writtenFor o s.net.events) [] s.net := (List.append_nil _).symm
  have hpeer : ∀ u v : Sys Board, Peer u v →
      PartBounded boot topic body o (writtenFor o s.net.events) u.net →
      PartBounded boot topic body o (writtenFor o s.net.events) v.net := by
    rintro u v hp ⟨sent, hu, hsent⟩
    exact ⟨sent, hu.peer hp, hsent⟩
  obtain ⟨ht, u, hu, hw⟩ := Proc.wp_reaches (E := Peer)
    (I := fun t => PartBounded boot topic body o (writtenFor o s.net.events) t.net) Peer.refl
    Peer.trans (fun _ _ _ hG => hG) (fun u v hI hp => ⟨hp, hpeer u v hp hI⟩)
    (PartBounded.ofNothing hstart) (bounded_publishEntry hstart) h
  refine ⟨ht, ?_⟩
  rintro rfl
  obtain ⟨n, wire, hwire, hwr⟩ := Proc.wp_ret.mp hw
  exact ⟨n, wire, hwire, hwr.peer hu⟩

end Entry

/-- Before its first step a publish raises for its size alone, or what the hook raises there. -/
theorem publish_throws {σ κ : Type} {host : Host σ κ} {rounds pid : Nat} {o : Option Owner}
    {topic : List Char} {msg : Payload} {timeoutMs : Option Nat} {fragment : Option Bytes} {e : Exc} :
    publish host rounds o topic msg (some pid) timeoutMs fragment = throw e ↔
      if MAX_PUBLISH_SIZE < publishSize topic msg fragment then
        e = .mqttException "Publish size exceeds this client's remaining-length encoding limit"
      else timeoutMs = none ∧ host.service = .raise e := by
  unfold publish
  by_cases hsize : MAX_PUBLISH_SIZE < publishSize topic msg fragment
  · rw [if_pos hsize, if_pos hsize]
    exact ⟨fun h => (Proc.raise.inj h).symm, fun h => h ▸ rfl⟩
  rw [if_neg hsize, if_neg hsize]
  cases timeoutMs with
  | some timeoutMs =>
    constructor
    · intro h
      cases h
    · rintro ⟨h, -⟩
      cases h
  | none =>
    obtain ⟨callback, service⟩ := host
    cases service with
    | raise e' =>
      constructor
      · intro h
        exact ⟨rfl, congrArg Proc.raise (Proc.raise.inj h)⟩
      · rintro ⟨-, h⟩
        exact congrArg Proc.raise (Proc.raise.inj h)
    | _ =>
      constructor
      · intro h
        cases h
      · rintro ⟨-, h⟩
        cases h

/-- The splice writes what the plain publish of the joined payload writes, whatever the topic, the
fragment and the packet identifier, and is refused when that is; what Core 0 publishes as an entry
is within the ceiling, and an entry beyond it is refused without a step. -/
theorem splice_publish :
    (∀ (σ κ : Type) (host : Host σ κ) (A : NetInput κ → Prop) (rounds pid : Nat) (o : Owner)
      (topic : List Char) (body fragment : Bytes) (timeoutMs : Option Nat), body ≠ [] →
      (∃ wire, Writes A o (publish host rounds (some o) topic (.bytes body) (some pid) timeoutMs
          (some fragment)) wire ∧
        Writes A o (publish host rounds (some o) topic
          (.bytes (body.dropLast ++ [0x2C] ++ fragment ++ [0x7D])) (some pid) timeoutMs none)
          wire) ∧
      ∀ e, publish host rounds (some o) topic (.bytes body) (some pid) timeoutMs (some fragment) =
          throw e ↔
        publish host rounds (some o) topic
          (.bytes (body.dropLast ++ [0x2C] ++ fragment ++ [0x7D])) (some pid) timeoutMs none =
          throw e) ∧
    (∀ (boot : Boot) (A : NetInput CoreInput → Prop) (rounds : Nat) (o : Owner) (topic : String)
      (body : Bytes) (claim : BoardProg Nat) (s t : Sys Board) (q : CoreProg Unit),
      Proc.Reaches A Peer (publishEntry boot rounds o topic body claim) s q t →
      PartBounded boot topic body o (writtenFor o s.net.events) t.net ∧
        (q = .ret () → ∃ n wire, BoundedFrame boot topic body n wire ∧
          Wrote o (writtenFor o s.net.events) wire t.net)) ∧
    ∀ (boot : Boot) (rounds n : Nat) (o : Owner) (topic : String) (body : Bytes), body ≠ [] →
      MAX_OUTBOUND_MESSAGE_BYTES <
        (splicedPayload body n boot.runtimeId boot.config.source).length →
      ∃ message, publishSpliced boot rounds o topic body n = throw (.messageTooLarge message) := by
  refine ⟨?_, ?_, ?_⟩
  · intro σ κ host A rounds pid o topic body fragment timeoutMs hbody
    obtain ⟨hsize, hframe⟩ := frame_joined topic pid (some fragment) hbody
    rw [joined] at hsize hframe
    refine ⟨⟨frame topic (.bytes body) pid (some fragment), writes_publish, ?_⟩, fun e => ?_⟩
    · rw [hframe]
      exact writes_publish
    · rw [publish_throws, publish_throws, hsize]
  · exact fun boot A rounds o topic body claim s t q h => publishEntry_bounded h
  · intro boot rounds n o topic body hbody hlong
    rw [splicedPayload, joined_length hbody] at hlong
    exact ⟨_, if_pos hlong⟩

/-- A log entry with its envelope, and a body that is beyond the ceiling by itself. -/
theorem splice_publish_shipped :
    (∃ wire, Writes (fun _ => True) (.entry 0) (publish (Mqtt.host shippedBoot) 3 (some (.entry 0))
        "iot/v3/log".toList (.bytes (utf8 "\x7b\"a\":1\x7d".toList)) (some 1) none
        (some (utf8 "\"b\":2".toList))) wire ∧
      Writes (fun _ => True) (.entry 0) (publish (Mqtt.host shippedBoot) 3 (some (.entry 0))
        "iot/v3/log".toList (.bytes (utf8 "\x7b\"a\":1,\"b\":2\x7d".toList)) (some 1) none none) wire) ∧
    ∃ message, publishSpliced shippedBoot 3 (.entry 0) "iot/v3/log"
      (List.replicate (MAX_OUTBOUND_MESSAGE_BYTES + 1) 0x7D) 7 = throw (.messageTooLarge message) := by
  obtain ⟨hsame, -, hlimit⟩ := splice_publish
  refine ⟨(hsame _ _ _ _ _ _ _ _ (utf8 "\x7b\"a\":1\x7d".toList) (utf8 "\"b\":2".toList) _
    (by decide)).1, hlimit _ _ _ _ _ _ ?_ ?_⟩
  · exact List.replicate_succ ▸ List.cons_ne_nil _ _
  · rw [splicedPayload, joined_length (List.replicate_succ ▸ List.cons_ne_nil _ _), wireLength,
      List.length_replicate]
    omega

end PicoDualCore
