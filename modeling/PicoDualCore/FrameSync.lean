import PicoDualCore.MqttStream
set_option autoImplicit false

/-!
Frame synchronisation with the broker over whole sessions: where the calls of a client leave the
inbound stream when the broker sends well-formed packets in any order.
-/

namespace PicoDualCore
open AtomicProgram

namespace MqttClient

def Clear (C D : ServerPacket → Prop) (rest : List ServerPacket) : Prop :=
  ∀ taken p later, rest = taken ++ p :: later → (∀ q ∈ taken, C q) → C p ∨ D p

/-- `rounds` bounds how many turns of a wait loop are followed. -/
inductive ClientCall where
  | publish (rounds : Nat) (owner : Option Owner) (topic : List Char) (msg : Payload)
      (packetId timeoutMs : Option Nat) (fragment : Option Bytes)
  | subscribe (rounds : Nat) (topic : List Char)
  | ping (rounds : Nat) (timeoutMs : Option Nat)
  | checkMsg (timeoutMs : Nat)

namespace ClientCall

def program {σ κ : Type} (host : Host σ κ) : ClientCall → NetProg σ κ Unit
  | .publish rounds owner topic msg packetId timeoutMs fragment =>
    MqttClient.publish host rounds owner topic msg packetId timeoutMs fragment
  | .subscribe rounds topic => MqttClient.subscribe host rounds topic
  | .ping rounds timeoutMs => MqttClient.ping host rounds timeoutMs
  | .checkMsg timeoutMs => MqttClient.checkMsg host timeoutMs >>= fun _ => pure ()

def Awaits : ClientCall → ServerPacket → Prop
  | .publish .., .puback _ => True
  | .subscribe .., .suback lengthBytes _ _ => lengthBytes = [0x03]
  | _, _ => False

def Consumes (call : ClientCall) (p : ServerPacket) : Prop := p.Whole ∨ call.Awaits p

def Drops : ClientCall → ServerPacket → Prop
  | .publish .., .suback lengthBytes _ _ | .ping .., .suback lengthBytes _ _ =>
    ∀ b ∈ lengthBytes.head?, RefusedByte b
  | .checkMsg _, .puback _ | .checkMsg _, .suback .. => False
  | _, _ => True

def Meets (call : ClientCall) (rest : List ServerPacket) (pos arrived : Nat) : Prop :=
  match call with
  | .checkMsg _ => ∀ p later, rest = p :: later → pos < arrived → call.Consumes p ∨ call.Drops p
  | _ => Clear call.Consumes call.Drops rest

end ClientCall

inductive Told (C : ServerPacket → Prop) : Nat → List ServerPacket → Nat → Prop where
  | here {p : ServerPacket} {later : List ServerPacket} {pos j : Nat} :
      ¬ C p → pos + p.telling ≤ j → Told C pos (p :: later) j
  | further {p : ServerPacket} {later : List ServerPacket} {pos j : Nat} :
      C p → Told C (pos + p.wire.length) later j → Told C pos (p :: later) j

def Aligned (C : ServerPacket → Prop) (pos : Nat) (rest : List ServerPacket) (j : Nat) : Prop :=
  ∃ taken later, rest = taken ++ later ∧ (∀ p ∈ taken, C p) ∧
    j = pos + (taken.flatMap ServerPacket.wire).length

section Positions

variable {C : ServerPacket → Prop} {p : ServerPacket} {later rest : List ServerPacket} {pos j : Nat}

theorem Told.lt (h : Told C pos rest j) : pos < j := by
  induction h with
  | @here p _ _ _ _ hle =>
    have := p.telling_pos
    omega
  | further _ _ ih => omega

theorem told_skip (hC : C p) (h : Told C pos (p :: later) j) :
    Told C (pos + p.wire.length) later j := by
  cases h with
  | here hnot => exact (hnot hC).elim
  | further _ h => exact h

theorem told_here (hC : ¬ C p) (h : Told C pos (p :: later) j) : pos + p.telling ≤ j := by
  cases h with
  | here _ hle => exact hle
  | further hC' => exact (hC hC').elim

theorem told_front (hC : p.Whole → C p) :
    ∀ j, p.Whole ∧ j ≤ pos + p.wire.length ∨ j < pos + p.telling → ¬ Told C pos (p :: later) j := by
  intro j hj htold
  have hle := p.telling_le
  by_cases hCp : C p
  · have := (told_skip hCp htold).lt
    omega
  · have := told_here hCp htold
    rcases hj with ⟨hwhole, -⟩ | hj
    · exact hCp (hC hwhole)
    · omega

theorem Aligned.zero : Aligned C pos rest pos := ⟨[], rest, rfl, by simp, by simp⟩

theorem Aligned.cons (hC : C p) (h : Aligned C (pos + p.wire.length) later j) :
    Aligned C pos (p :: later) j := by
  obtain ⟨taken, more, rfl, hall, rfl⟩ := h
  refine ⟨p :: taken, more, rfl, ?_, ?_⟩
  · intro q hq
    rcases List.mem_cons.mp hq with rfl | hq
    · exact hC
    · exact hall q hq
  · simp only [List.flatMap_cons, List.length_append]
    omega

theorem Aligned.not_told (h : Aligned C pos rest j) : ¬ Told C pos rest j := by
  obtain ⟨taken, more, rfl, hall, rfl⟩ := h
  induction taken generalizing pos with
  | nil => exact fun htold => absurd htold.lt (by simp)
  | cons p taken ih =>
    intro htold
    have hskip := told_skip (hall p List.mem_cons_self) htold
    rw [List.flatMap_cons, List.length_append, ← Nat.add_assoc] at hskip
    exact ih (fun q hq => hall q (List.mem_cons_of_mem _ hq)) hskip

theorem Clear.head {D : ServerPacket → Prop} (h : Clear C D (p :: later)) : C p ∨ D p :=
  h [] p later rfl (by simp)

theorem Clear.mono {D D' : ServerPacket → Prop} (h : Clear C D rest) (hD : ∀ p, D p → D' p) :
    Clear C D' rest := fun taken p later hrest hall => (h taken p later hrest hall).imp_right (hD p)

theorem Clear.tail {D : ServerPacket → Prop} (h : Clear C D (p :: later)) (hC : C p) :
    Clear C D later := by
  rintro taken q more rfl hall
  refine h (p :: taken) q more rfl ?_
  intro r hr
  rcases List.mem_cons.mp hr with rfl | hr
  · exact hC
  · exact hall r hr

end Positions

section Loops

variable {σ κ : Type} {host : Host σ κ} {A : NetInput κ → Prop} {W : Bytes} {k : Nat}
  {Over : Nat → Prop} {C : ServerPacket → Prop} {rest : List ServerPacket} {pos : Nat} {s : Sys σ}

def Ends (W : Bytes) (k : Nat) (Over : Nat → Prop) (F : Nat → Network → Prop) (n : Network) :
    Prop := ∃ j, Reading W k j n ∧ ¬ Over j ∧ F j n

theorem Ends.mono {F F' : Nat → Network → Prop} {n : Network} (h : Ends W k Over F n)
    (hF : ∀ j n, F j n → F' j n) : Ends W k Over F' n := by
  obtain ⟨j, hread, hover, hj⟩ := h
  exact ⟨j, hread, hover, hF j n hj⟩

abbrev Landed (W : Bytes) (k : Nat) (Over : Nat → Prop) (C : ServerPacket → Prop) (pos : Nat)
    (rest : List ServerPacket) (n : Network) : Prop :=
  Ends W k Over (fun j _ => Aligned C pos rest j) n

theorem Landed.cons {p : ServerPacket} {later : List ServerPacket} {n : Network} (hC : C p)
    (h : Landed W k Over C (pos + p.wire.length) later n) : Landed W k Over C pos (p :: later) n :=
  h.mono (fun _ _ hj => hj.cons hC)

theorem suback_head {lengthBytes codes : Bytes} {packetId : Nat}
    (h : (ServerPacket.suback lengthBytes packetId codes).WellFormed) :
    ∃ b more, lengthBytes = b :: more := by
  cases lengthBytes with
  | nil => cases h.2.2
  | cons b more => exact ⟨b, more, rfl⟩

theorem suback_three {more codes : Bytes} {packetId : Nat}
    (h : (ServerPacket.suback (0x03 :: more) packetId codes).WellFormed) :
    more = [] ∧ 2 + codes.length = 3 := by
  obtain ⟨hn, hrest⟩ := Base128.Decoded.number.inj h.2.2
  exact ⟨hrest, hn.symm⟩

/-- A wait loop in front of a byte that `wait_msg` refuses does not return. -/
theorem follows_awaitPuback_refused {pid rounds : Nat} {b : UInt8} {tail : Bytes} (hb : RefusedByte b)
    (h : Reading W k pos s.net) (hW : W.drop pos = b :: tail) (hover : ¬ Over pos) :
    Follows A W k Over (fun _ _ => False) (awaitPuback host pid rounds) s := by
  induction rounds generalizing s with
  | zero => trivial
  | succ rounds ih =>
    refine follows_seq (follows_waitMsg_refused hb h hW hover) ?_
    rintro _ t ⟨rfl, ht, -⟩
    rw [if_neg nofun]
    exact ih ht

theorem follows_awaitSuback_refused {pid rounds : Nat} {b : UInt8} {tail : Bytes} (hb : RefusedByte b)
    (h : Reading W k pos s.net) (hW : W.drop pos = b :: tail) (hover : ¬ Over pos) :
    Follows A W k Over (fun _ _ => False) (awaitSuback host pid rounds) s := by
  induction rounds generalizing s with
  | zero => trivial
  | succ rounds ih =>
    refine follows_seq (follows_waitMsg_refused hb h hW hover) ?_
    rintro _ t ⟨rfl, ht, -⟩
    rw [if_neg nofun]
    exact ih ht

/-- The wait of a ping takes a read that brings nothing for an answer. -/
theorem follows_awaitPingresp_refused {rounds : Nat} {b : UInt8} {tail : Bytes} (hb : RefusedByte b)
    (h : Reading W k pos s.net) (hW : W.drop pos = b :: tail) (hover : ¬ Over pos) :
    Follows A W k Over (fun _ => Ends W k Over (fun _ n => CameBackEmpty k n))
      (awaitPingresp host rounds) s := by
  cases rounds with
  | zero => trivial
  | succ rounds =>
    refine follows_seq (follows_waitMsg_refused hb h hW hover) ?_
    rintro _ t ⟨rfl, ht, hempty⟩
    rw [if_pos rfl]
    exact ⟨pos, ht, hover, hempty⟩

theorem follows_awaitPuback {pid rounds : Nat}
    (hC : ∀ p, C p ↔ p.Whole ∨ ∃ packetId, p = .puback packetId)
    (hD : Clear C (fun p => ∀ lengthBytes packetId codes, p = .suback lengthBytes packetId codes →
      ∀ b ∈ lengthBytes.head?, RefusedByte b) rest)
    (hwf : ∀ p ∈ rest, p.WellFormed) (h : Reading W k pos s.net)
    (hW : W.drop pos = rest.flatMap ServerPacket.wire) (hover : ∀ j, Over j → Told C pos rest j) :
    Follows A W k Over (fun _ => Landed W k Over C pos rest) (awaitPuback host pid rounds) s := by
  induction rounds generalizing rest pos s with
  | zero => trivial
  | succ rounds ih =>
    have hpos : ¬ Over pos := fun hj => absurd (hover pos hj).lt (Nat.lt_irrefl _)
    cases rest with
    | nil =>
      refine follows_seq (follows_waitMsg_end h hW hpos) ?_
      rintro _ t ⟨rfl, ht, -⟩
      rw [if_neg nofun]
      exact ih hD hwf ht hW hover
    | cons p later =>
      have hp := hwf p List.mem_cons_self
      have hlater := fun q hq => hwf q (List.mem_cons_of_mem p hq)
      have hfront := @told_front C p later pos (fun hw => (hC p).mpr (.inl hw))
      have hnext : ∀ j, Over j → C p → Told C (pos + p.wire.length) later j :=
        fun j hj hCp => told_skip hCp (hover j hj)
      refine follows_seq (follows_waitMsg hp h hW (fun j hj ho => hfront j hj (hover j ho))) ?_
      rintro answer t (⟨rfl, ht, -⟩ | ⟨hwhole, hne, -, ht⟩ | ⟨hopen, hsome, ht⟩)
      · rw [if_neg nofun]
        exact ih hD hwf ht hW hover
      · have hCp : C p := (hC p).mpr (.inl hwhole)
        rw [if_neg hne]
        refine follows_mono (ih (hD.tail hCp) hlater ht (drop_append hW)
          (fun j hj => hnext j hj hCp)) ?_
        exact fun _ _ hn => hn.cons hCp
      · cases p with
        | publish => exact (hsome hopen).elim
        | pingresp => exact (hsome hopen).elim
        | suback lengthBytes packetId codes =>
          rw [hopen, if_neg (by simp [ServerPacket.opens])]
          have hnot : ¬ C (.suback lengthBytes packetId codes) := by simp [hC, ServerPacket.Whole]
          obtain ⟨b, more, rfl⟩ := suback_head hp
          have hb : RefusedByte b := (hD.head.resolve_left hnot) _ _ _ rfl b rfl
          refine follows_mono (follows_awaitPuback_refused hb ht (drop_append (a := [0x90]) hW)
            (fun ho => ?_)) (fun _ _ hfalse => hfalse.elim)
          have := told_here hnot (hover _ ho)
          simp [ServerPacket.telling] at this
        | puback packetId =>
          rw [hopen, ServerPacket.opens, if_pos rfl]
          have hCp : C (.puback packetId) := (hC _).mpr (.inr ⟨_, rfl⟩)
          have hbody : ∀ j, j ≤ pos + 4 → ¬ Over j := by
            intro j hj ho
            have := (hnext j ho hCp).lt
            simp only [ServerPacket.wire, be16, List.length_append, List.length_cons,
              List.length_nil] at this
            omega
          have hW₁ : W.drop (pos + 1) = [0x02] ++ (be16 packetId ++
              later.flatMap ServerPacket.wire) := drop_append (a := [0x40]) hW
          refine follows_seq (follows_field ht hW₁ rfl (fun m hm => hbody _ ?_)) ?_
          · simp only [List.length_singleton] at hm
            omega
          rintro data t₂ ⟨hdata, h₂⟩
          subst data
          rw [if_neg (not_not_intro rfl)]
          refine follows_seq (follows_field h₂ (drop_append hW₁) rfl (fun m hm => hbody _ ?_)) ?_
          · simp only [be16, List.length_cons, List.length_nil] at hm ⊢
            omega
          rintro data t₃ ⟨hdata, h₃⟩
          subst data
          refine follows_ite (fun _ => ?_) (fun _ => ?_)
          · exact ⟨pos + 4, h₃, hbody _ (Nat.le_refl _), Aligned.zero.cons hCp⟩
          · have hend : Reading W k (pos + (ServerPacket.puback packetId).wire.length) t₃.net := h₃
            refine follows_mono (ih (hD.tail hCp) hlater hend (drop_append hW)
              (fun j hj => hnext j hj hCp)) ?_
            exact fun _ _ hn => hn.cons hCp

theorem follows_awaitSuback {pid rounds : Nat}
    (hC : ∀ p, C p ↔ p.Whole ∨ ∃ packetId codes, p = .suback [0x03] packetId codes)
    (hwf : ∀ p ∈ rest, p.WellFormed) (h : Reading W k pos s.net)
    (hW : W.drop pos = rest.flatMap ServerPacket.wire) (hover : ∀ j, Over j → Told C pos rest j) :
    Follows A W k Over (fun _ => Landed W k Over C pos rest) (awaitSuback host pid rounds) s := by
  induction rounds generalizing rest pos s with
  | zero => trivial
  | succ rounds ih =>
    have hpos : ¬ Over pos := fun hj => absurd (hover pos hj).lt (Nat.lt_irrefl _)
    cases rest with
    | nil =>
      refine follows_seq (follows_waitMsg_end h hW hpos) ?_
      rintro _ t ⟨rfl, ht, -⟩
      rw [if_neg nofun]
      exact ih hwf ht hW hover
    | cons p later =>
      have hp := hwf p List.mem_cons_self
      have hlater := fun q hq => hwf q (List.mem_cons_of_mem p hq)
      have hfront := @told_front C p later pos (fun hw => (hC p).mpr (.inl hw))
      have hnext : ∀ j, Over j → C p → Told C (pos + p.wire.length) later j :=
        fun j hj hCp => told_skip hCp (hover j hj)
      refine follows_seq (follows_waitMsg hp h hW (fun j hj ho => hfront j hj (hover j ho))) ?_
      rintro answer t (⟨rfl, ht, -⟩ | ⟨hwhole, -, hne, ht⟩ | ⟨hopen, hsome, ht⟩)
      · rw [if_neg nofun]
        exact ih hwf ht hW hover
      · have hCp : C p := (hC p).mpr (.inl hwhole)
        rw [if_neg hne]
        refine follows_mono (ih hlater ht (drop_append hW) (fun j hj => hnext j hj hCp)) ?_
        exact fun _ _ hn => hn.cons hCp
      · cases p with
        | publish => exact (hsome hopen).elim
        | pingresp => exact (hsome hopen).elim
        | puback packetId =>
          rw [hopen, if_neg (by simp [ServerPacket.opens])]
          have hnot : ¬ C (.puback packetId) := by simp [hC, ServerPacket.Whole]
          refine follows_mono (follows_awaitSuback_refused (b := 0x02) (by decide) ht
            (drop_append (a := [0x40]) hW) (fun ho => ?_)) (fun _ _ hfalse => hfalse.elim)
          have := told_here hnot (hover _ ho)
          simp [ServerPacket.telling] at this
        | suback lengthBytes packetId codes =>
          rw [hopen, ServerPacket.opens, if_pos rfl]
          obtain ⟨b, more, rfl⟩ := suback_head hp
          have hone : ¬ Over (pos + 1) := by
            intro ho
            refine hfront (pos + 1) (.inr ?_) (hover _ ho)
            simp [ServerPacket.telling]
          have hW₁ : W.drop (pos + 1) = [b] ++ (more ++ (be16 packetId ++ codes) ++
              later.flatMap ServerPacket.wire) := drop_append (a := [0x90]) hW
          refine follows_seq (follows_readRequired ht hone (fun m hm => ?_)) ?_
          · obtain rfl : m = 0 := by omega
            exact hone
          rintro data t₂ ⟨hdata, -, h₂⟩
          rw [hW₁] at hdata
          obtain rfl : data = [b] := hdata
          refine follows_guard h₂ (fun hthree => ?_)
          obtain rfl : b = 0x03 := by simpa using hthree
          obtain ⟨rfl, hcodes⟩ : more = [] ∧ 2 + codes.length = 3 := suback_three hp
          have hCp : C (.suback [0x03] packetId codes) := (hC _).mpr (.inr ⟨_, _, rfl⟩)
          have hlen : (ServerPacket.suback [0x03] packetId codes).wire.length = 5 := by
            simp only [ServerPacket.wire, be16, List.length_append, List.length_cons,
              List.length_nil]
            omega
          have hbody : ∀ j, j ≤ pos + 5 → ¬ Over j := by
            intro j hj ho
            have := (hnext j ho hCp).lt
            omega
          rw [List.nil_append] at hW₁
          have hsize : (be16 packetId ++ codes).length = 3 := by
            simp only [be16, List.length_append, List.length_cons, List.length_nil]
            omega
          refine follows_seq (follows_field h₂ (drop_append hW₁) hsize (fun m hm => hbody _ ?_)) ?_
          · omega
          rintro data t₃ ⟨hdata, h₃⟩
          rw [hsize] at h₃
          refine follows_check h₃ (hbody _ (Nat.le_refl _)) (fun _ => ?_)
          refine follows_check h₃ (hbody _ (Nat.le_refl _)) (fun _ => ?_)
          refine follows_ite (fun _ => follows_abort h₃) (fun _ => ?_)
          exact ⟨pos + 5, h₃, hbody _ (Nat.le_refl _), hlen ▸ Aligned.zero.cons hCp⟩

theorem follows_awaitPingresp {rounds : Nat} (hC : ∀ p, C p ↔ p.Whole)
    (hD : Clear C (fun p => ∀ lengthBytes packetId codes, p = .suback lengthBytes packetId codes →
      ∀ b ∈ lengthBytes.head?, RefusedByte b) rest)
    (hwf : ∀ p ∈ rest, p.WellFormed) (h : Reading W k pos s.net)
    (hW : W.drop pos = rest.flatMap ServerPacket.wire) (hover : ∀ j, Over j → Told C pos rest j) :
    Follows A W k Over (fun _ => Ends W k Over (fun j n => Aligned C pos rest j ∨ CameBackEmpty k n))
      (awaitPingresp host rounds) s := by
  induction rounds generalizing rest pos s with
  | zero => trivial
  | succ rounds ih =>
    have hpos : ¬ Over pos := fun hj => absurd (hover pos hj).lt (Nat.lt_irrefl _)
    cases rest with
    | nil =>
      refine follows_seq (follows_waitMsg_end h hW hpos) ?_
      rintro _ t ⟨rfl, ht, -⟩
      exact ⟨pos, ht, hpos, .inl .zero⟩
    | cons p later =>
      have hp := hwf p List.mem_cons_self
      have hlater := fun q hq => hwf q (List.mem_cons_of_mem p hq)
      have hfront := @told_front C p later pos (fun hw => (hC p).mpr hw)
      have hnext : ∀ j, Over j → C p → Told C (pos + p.wire.length) later j :=
        fun j hj hCp => told_skip hCp (hover j hj)
      refine follows_seq (follows_waitMsg hp h hW (fun j hj ho => hfront j hj (hover j ho))) ?_
      rintro answer t (⟨rfl, ht, -⟩ | ⟨hwhole, -, -, ht⟩ | ⟨hopen, hsome, ht⟩)
      · exact ⟨pos, ht, hpos, .inl .zero⟩
      · have hCp : C p := (hC p).mpr hwhole
        have hend : ¬ Over (pos + p.wire.length) :=
          fun ho => absurd (hnext _ ho hCp).lt (Nat.lt_irrefl _)
        refine follows_ite (fun _ => ?_) (fun _ => ?_)
        · exact ⟨_, ht, hend, .inl (Aligned.zero.cons hCp)⟩
        · refine follows_mono (ih (hD.tail hCp) hlater ht (drop_append hW)
            (fun j hj => hnext j hj hCp)) ?_
          exact fun _ _ hn => hn.mono (fun _ _ hj => hj.imp_left (fun ha => ha.cons hCp))
      · have hnot : ¬ C p := by
          rw [hC]
          cases p with
          | publish => exact (hsome hopen).elim
          | pingresp => exact (hsome hopen).elim
          | _ => exact id
        rw [if_neg hsome]
        have htwo : p.telling = 2 ∧ ∃ b tail, RefusedByte b ∧ W.drop (pos + 1) = b :: tail := by
          cases p with
          | publish => exact (hsome hopen).elim
          | pingresp => exact (hsome hopen).elim
          | puback packetId =>
            exact ⟨rfl, 0x02, _, by decide, drop_append (a := [0x40]) hW⟩
          | suback lengthBytes packetId codes =>
            obtain ⟨b, more, rfl⟩ := suback_head hp
            exact ⟨rfl, b, _, hD.head.resolve_left hnot _ _ _ rfl b rfl,
              drop_append (a := [0x90]) hW⟩
        obtain ⟨htelling, b, tail, hb, hWb⟩ := htwo
        refine follows_mono (follows_awaitPingresp_refused hb ht hWb (fun ho => ?_))
          (fun _ _ hn => hn.mono (fun _ _ hj => .inr hj))
        have := told_here hnot (hover _ ho)
        omega

def ByEvents (F : Nat → Network → Prop) : Prop :=
  ∀ j n n', n'.events = n.events → F j n → F j n'

theorem follows_settimeout {timeoutMs : Option Nat} {F : Nat → Network → Prop} (hF : ByEvents F)
    (h : Ends W k Over F s.net) :
    Follows A W k Over (fun _ => Ends W k Over F)
      (onNet (Network.settimeout timeoutMs) : NetProg σ κ Unit) s := by
  obtain ⟨j, hread, hover, hj⟩ := h
  refine Proc.wp_atomic (fun t ht i _ => ⟨trivial, ?_⟩)
  have hread' : Reading W k j (t.net.settimeout timeoutMs i.socket).2 :=
    (hread.broker ht).settimeout
  have hj' : F j (t.net.settimeout timeoutMs i.socket).2 :=
    hF j _ _ ((Network.settimeout_events _ _ _).1.trans ht.peer.events) hj
  dsimp only
  cases (t.net.settimeout timeoutMs i.socket).1 with
  | ok a => exact ⟨j, hread', hover, hj'⟩
  | error e => exact Reading.lost (s := ⟨_, t.app⟩) hread' hover

theorem follows_finish {α : Type} {F : Nat → Network → Prop} (hF : ByEvents F)
    {p : NetProg σ κ α} {Q : α → Network → Prop} (hQ : ∀ a n, Q a n → Ends W k Over F n)
    (hp : Follows A W k Over Q p s) :
    Follows A W k Over (fun _ => Ends W k Over F) (p.finish (onNet (Network.settimeout none))) s := by
  refine (Proc.wp_finish _ _ _).mpr (Proc.wp_mono hp (fun _ _ h => h) ?_ ?_)
  · exact fun a t ht => follows_settimeout hF (hQ a _ ht)
  · rintro e t ⟨j, hread, hlost⟩
    refine Proc.wp_atomic (fun u hu i _ => ⟨trivial, ?_⟩)
    have hread' : Reading W k j (u.net.settimeout none i.socket).2 :=
      (hread.broker hu).settimeout
    have hlost' : Lost A W k Over ⟨(u.net.settimeout none i.socket).2, u.app⟩ :=
      ⟨j, hread', fun hworks hj =>
        ((hlost hworks hj).broker hu).settimeout (hread.broker hu)⟩
    dsimp only
    cases (u.net.settimeout none i.socket).1 <;> exact hlost'

theorem follows_timed {timeoutMs : Option Nat} {F : Nat → Network → Prop} (hF : ByEvents F)
    {exchange : NetProg σ κ Unit} (h : Reading W k pos s.net) (hover : ¬ Over pos)
    (hp : ∀ t : Sys σ, Reading W k pos t.net →
      Follows A W k Over (fun _ => Ends W k Over F) exchange t) :
    Follows A W k Over (fun _ => Ends W k Over F) (timed timeoutMs exchange) s := by
  cases timeoutMs with
  | none => exact hp s h
  | some timeoutMs =>
    refine follows_seq (follows_onNet h hover (fun _ _ hn => hn.settimeout)) (fun _ t ht => ?_)
    exact follows_finish hF (fun _ _ hn => hn) (hp t ht)

theorem follows_segments {owner : Option Owner} (segments : List Bytes) (h : Reading W k pos s.net)
    (hover : ¬ Over pos) :
    Follows A W k Over (fun _ n => Reading W k pos n) (segments.forM (write host owner)) s := by
  induction segments generalizing s with
  | nil => exact h
  | cons bytes rest ih => exact follows_seq (follows_write h hover) (fun _ _ ht => ih ht)

theorem follows_nextPacketId (h : Reading W k pos s.net) (hover : ¬ Over pos) :
    Follows A W k Over (fun _ n => Reading W k pos n) (nextPacketId : NetProg σ κ Nat) s :=
  follows_onNet h hover (fun _ _ hn => ⟨hn.sock, hn.conn, hn.stream⟩)

def ClientCall.Finishes (call : ClientCall) (k pos : Nat) (rest : List ServerPacket) (j : Nat)
    (n : Network) : Prop :=
  match call with
  | .publish .. | .subscribe .. => Aligned call.Consumes pos rest j
  | .ping .. => Aligned call.Consumes pos rest j ∨ CameBackEmpty k n
  | .checkMsg _ => Aligned call.Consumes pos rest j ∨ ∃ p later, rest = p :: later ∧
      ¬ call.Consumes p ∧ ¬ call.Drops p ∧ j = pos + 1

theorem byEvents_aligned {C : ServerPacket → Prop} {pos : Nat} {rest : List ServerPacket} :
    ByEvents (fun j _ => Aligned C pos rest j) := fun _ _ _ _ h => h

theorem follows_publish {rounds : Nat} {owner : Option Owner} {topic : List Char} {msg : Payload}
    {packetId timeoutMs : Option Nat} {fragment : Option Bytes}
    (hC : ∀ p, C p ↔ p.Whole ∨ ∃ packetId, p = .puback packetId)
    (hD : Clear C (fun p => ∀ lengthBytes packetId codes, p = .suback lengthBytes packetId codes →
      ∀ b ∈ lengthBytes.head?, RefusedByte b) rest)
    (hwf : ∀ p ∈ rest, p.WellFormed) (h : Reading W k pos s.net)
    (hW : W.drop pos = rest.flatMap ServerPacket.wire) :
    Follows A W k (Told C pos rest) (fun _ => Landed W k (Told C pos rest) C pos rest)
      (publish host rounds owner topic msg packetId timeoutMs fragment) s := by
  have hpos : ¬ Told C pos rest pos := fun hj => absurd hj.lt (Nat.lt_irrefl _)
  have hexchange : ∀ pid, ∀ t : Sys σ, Reading W k pos t.net →
      Follows A W k (Told C pos rest) (fun _ => Landed W k (Told C pos rest) C pos rest)
        ((frameSegments topic msg pid fragment).forM (write host owner) >>= fun _ =>
          awaitPuback host pid rounds) t := by
    intro pid t ht
    refine follows_seq (follows_segments _ ht hpos) (fun _ u hu => ?_)
    exact follows_awaitPuback hC hD hwf hu hW (fun _ hj => hj)
  unfold publish
  refine follows_check h hpos (fun _ => ?_)
  cases packetId with
  | none =>
    refine follows_seq (follows_nextPacketId h hpos) (fun pid t ht => ?_)
    exact follows_timed byEvents_aligned ht hpos (hexchange pid)
  | some pid => exact follows_timed byEvents_aligned h hpos (hexchange pid)

theorem follows_subscribe {rounds : Nat} {topic : List Char}
    (hC : ∀ p, C p ↔ p.Whole ∨ ∃ packetId codes, p = .suback [0x03] packetId codes)
    (hwf : ∀ p ∈ rest, p.WellFormed) (h : Reading W k pos s.net)
    (hW : W.drop pos = rest.flatMap ServerPacket.wire) :
    Follows A W k (Told C pos rest) (fun _ => Landed W k (Told C pos rest) C pos rest)
      (subscribe host rounds topic) s := by
  have hpos : ¬ Told C pos rest pos := fun hj => absurd hj.lt (Nat.lt_irrefl _)
  unfold subscribe
  refine follows_check h hpos (fun _ => ?_)
  refine follows_seq (follows_nextPacketId h hpos) (fun pid t ht => ?_)
  refine follows_seq (follows_write ht hpos) (fun _ t ht => ?_)
  refine follows_seq (Q := fun _ n => Reading W k pos n) ?_ (fun _ t ht => ?_)
  · exact follows_seq (follows_write ht hpos) (fun _ t ht => follows_write ht hpos)
  refine follows_seq (follows_write ht hpos) (fun _ t ht => ?_)
  exact follows_awaitSuback hC hwf ht hW (fun _ hj => hj)

theorem follows_ping {rounds : Nat} {timeoutMs : Option Nat} (hC : ∀ p, C p ↔ p.Whole)
    (hD : Clear C (fun p => ∀ lengthBytes packetId codes, p = .suback lengthBytes packetId codes →
      ∀ b ∈ lengthBytes.head?, RefusedByte b) rest)
    (hwf : ∀ p ∈ rest, p.WellFormed) (h : Reading W k pos s.net)
    (hW : W.drop pos = rest.flatMap ServerPacket.wire) :
    Follows A W k (Told C pos rest)
      (fun _ => Ends W k (Told C pos rest) (fun j n => Aligned C pos rest j ∨ CameBackEmpty k n))
      (ping host rounds timeoutMs) s := by
  have hpos : ¬ Told C pos rest pos := fun hj => absurd hj.lt (Nat.lt_irrefl _)
  refine follows_timed ?_ h hpos (fun t ht => ?_)
  · rintro j n n' hevents (ha | ⟨tm, hmem⟩)
    · exact .inl ha
    · exact .inr ⟨tm, hevents ▸ hmem⟩
  · refine follows_seq (follows_write ht hpos) (fun _ u hu => ?_)
    exact follows_awaitPingresp hC hD hwf hu hW (fun _ hj => hj)

theorem follows_checkMsg {timeoutMs : Nat} (hC : ∀ p, C p ↔ p.Whole)
    (hwf : ∀ p ∈ rest, p.WellFormed) (h : Reading W k pos s.net)
    (hW : W.drop pos = rest.flatMap ServerPacket.wire) :
    Follows A W k (Told C pos rest)
      (fun _ => Ends W k (Told C pos rest) (fun j _ => Aligned C pos rest j ∨
        ∃ p later, rest = p :: later ∧ p.opens ≠ none ∧ j = pos + 1))
      (checkMsg host timeoutMs) s := by
  have hpos : ¬ Told C pos rest pos := fun hj => absurd hj.lt (Nat.lt_irrefl _)
  refine follows_seq (follows_onNet h hpos (fun n a hn => ?_)) (fun ready t ht => ?_)
  · rw [Network.onSocket_same (fun _ _ => by cases a <;> rfl)]
    exact hn
  refine follows_ite (fun _ => ⟨pos, ht, hpos, .inl .zero⟩) (fun _ => ?_)
  refine follows_seq (follows_onNet ht hpos (fun _ _ hn => hn.settimeout)) (fun _ t ht => ?_)
  refine follows_finish (Q := fun _ => Ends W k (Told C pos rest) (fun j _ =>
    Aligned C pos rest j ∨ ∃ p later, rest = p :: later ∧ p.opens ≠ none ∧ j = pos + 1))
    (fun _ _ _ _ h => h) (fun _ _ hn => hn) ?_
  cases rest with
  | nil =>
    refine follows_mono (follows_waitMsg_end ht hW hpos) ?_
    rintro _ n ⟨-, hn, -⟩
    exact ⟨pos, hn, hpos, .inl .zero⟩
  | cons p later =>
    have hfront := @told_front C p later pos (fun hw => (hC p).mpr hw)
    refine follows_mono (follows_waitMsg (hwf p List.mem_cons_self) ht hW hfront) ?_
    rintro answer n (⟨-, hn, -⟩ | ⟨hwhole, -, -, hn⟩ | ⟨hopen, hsome, hn⟩)
    · exact ⟨pos, hn, hpos, .inl .zero⟩
    · have ha : Aligned C pos (p :: later) (pos + p.wire.length) :=
        Aligned.zero.cons ((hC p).mpr hwhole)
      exact ⟨_, hn, ha.not_told, .inl ha⟩
    · refine ⟨_, hn, hfront _ (.inr ?_), .inr ⟨p, later, rfl, hopen ▸ hsome, rfl⟩⟩
      cases p with
      | publish => exact (hsome hopen).elim
      | pingresp => exact (hsome hopen).elim
      | _ => exact Nat.lt_succ_self _

/-- One call from the beginning of a packet. -/
theorem follows_call (call : ClientCall) (hwf : ∀ p ∈ rest, p.WellFormed)
    (hmeets : call.Meets rest pos 0) (h : Reading W k pos s.net) (hW : W.drop pos = rest.flatMap ServerPacket.wire) :
    Follows A W k (Told call.Consumes pos rest)
      (fun _ => Ends W k (Told call.Consumes pos rest) (call.Finishes k pos rest))
      (call.program host) s := by
  cases call with
  | publish rounds owner topic msg packetId timeoutMs fragment =>
    refine follows_publish (fun p => ?_) ?_ hwf h hW
    · cases p <;> simp [ClientCall.Consumes, ClientCall.Awaits]
    · exact Clear.mono hmeets (fun p hdrops _ _ _ hp => by rw [hp] at hdrops; exact hdrops)
  | subscribe rounds topic =>
    refine follows_subscribe (fun p => ?_) hwf h hW
    cases p <;> simp [ClientCall.Consumes, ClientCall.Awaits]
  | ping rounds timeoutMs =>
    refine follows_ping (fun p => ?_) ?_ hwf h hW
    · simp [ClientCall.Consumes, ClientCall.Awaits]
    · exact Clear.mono hmeets (fun p hdrops _ _ _ hp => by rw [hp] at hdrops; exact hdrops)
  | checkMsg timeoutMs =>
    refine follows_seq (follows_checkMsg (fun p => ?_) hwf h hW) (fun _ t ht => ht.mono ?_)
    · simp [ClientCall.Consumes, ClientCall.Awaits]
    · rintro j n (ha | ⟨p, later, rfl, hopen, rfl⟩)
      · exact .inl ha
      · refine .inr ⟨p, later, rfl, ?_, ?_, rfl⟩
        · cases p <;> simp_all [ClientCall.Consumes, ClientCall.Awaits, ServerPacket.Whole, ServerPacket.opens]
        · cases p <;> simp_all [ClientCall.Drops, ServerPacket.opens]

end Loops

section Sessions

variable {σ κ : Type}

def streamOf (packets : List ServerPacket) : Bytes := packets.flatMap ServerPacket.wire

/-- The client has read the packets `taken` of the stream and is in front of `rest`. -/
def InFront (packets : List ServerPacket) (k : Nat) (taken rest : List ServerPacket)
    (n : Network) : Prop :=
  packets = taken ++ rest ∧ Reading (streamOf packets) k (streamOf taken).length n

/-- At a packet boundary. -/
def AtPacket (packets : List ServerPacket) (k : Nat) (n : Network) : Prop :=
  ∃ taken rest, InFront packets k taken rest n

def arrivedOn (k : Nat) (n : Network) : Nat :=
  match n.connections[k]? with
  | some c => c.inbound.length
  | none => 0

/-- The call, made at `s` and over at `u`, met the conditions under which it keeps its place. -/
def Proper (packets : List ServerPacket) (k : Nat) (call : ClientCall) (s u : Network) : Prop :=
  ∀ taken rest, InFront packets k taken rest s →
    call.Meets rest (streamOf taken).length (arrivedOn k u)

/-- The calls on connection `k`, on which the broker sends `packets`: each of them returns
normally, since after an exception the connection is given up, and none of its reads came back
empty-handed, since the socket is a blocking one. -/
inductive Session (host : Host σ κ) (A : NetInput κ → Prop) (packets : List ServerPacket) (k : Nat)
    (s : Sys σ) : Sys σ → Prop where
  | start : Session host A packets k s s
  | between {t u : Sys σ} : Session host A packets k s t → Broker (streamOf packets) k t u →
      Session host A packets k s u
  | call {t u : Sys σ} (call : ClientCall) : Session host A packets k s t →
      Proc.Reaches A (Broker (streamOf packets) k) (call.program host) t (.ret ()) u →
      ¬ CameBackEmpty k u.net → Proper packets k call t.net u.net →
      Session host A packets k s u

variable {host : Host σ κ} {A : NetInput κ → Prop} {packets : List ServerPacket} {k : Nat}
  {s t : Sys σ}

theorem InFront.drop {taken rest : List ServerPacket} {n : Network}
    (h : InFront packets k taken rest n) :
    (streamOf packets).drop (streamOf taken).length = rest.flatMap ServerPacket.wire := by
  rw [h.1]
  unfold streamOf
  rw [List.flatMap_append]
  exact List.drop_left

theorem ClientCall.Meets.zero {call : ClientCall} {rest : List ServerPacket} {pos arrived : Nat}
    (h : call.Meets rest pos arrived) : call.Meets rest pos 0 := by
  cases call with
  | checkMsg timeoutMs => exact fun _ _ _ hlt => absurd hlt (Nat.not_lt_zero _)
  | _ => exact h

theorem ClientCall.Finishes.aligned {call : ClientCall} {rest : List ServerPacket}
    {pos j arrived : Nat} {n : Network} (h : call.Finishes k pos rest j n)
    (hempty : ¬ CameBackEmpty k n) (hmeets : call.Meets rest pos arrived) (hj : j ≤ arrived) :
    Aligned call.Consumes pos rest j := by
  cases call with
  | publish => exact h
  | subscribe => exact h
  | ping => exact h.resolve_right hempty
  | checkMsg timeoutMs =>
    rcases h with h | ⟨p, later, rfl, hconsumes, hdrops, rfl⟩
    · exact h
    · rcases hmeets p later rfl (by omega) with hp | hp
      · exact (hconsumes hp).elim
      · exact (hdrops hp).elim

/-- What a call leaves behind that was made in front of `rest`. -/
theorem call_outcome {call : ClientCall} {taken rest : List ServerPacket} {q : NetProg σ κ Unit}
    {u : Sys σ} (hwf : ∀ p ∈ packets, p.WellFormed) (ht : InFront packets k taken rest t.net)
    (h : Proc.Reaches A (Broker (streamOf packets) k) (call.program host) t q u)
    (hproper : Proper packets k call t.net u.net) :
    (q = .ret () → ¬ CameBackEmpty k u.net → ∃ more later, rest = more ++ later ∧
        (∀ p ∈ more, call.Consumes p) ∧ InFront packets k (taken ++ more) later u.net) ∧
      (∀ e j, q = .raise e → (∀ i, A i → i.socket.Works) → Reading (streamOf packets) k j u.net →
        Told call.Consumes (streamOf taken).length rest j → Dropped k u.net) := by
  have hmeets := hproper taken rest ht
  have hrest : ∀ p ∈ rest, p.WellFormed := by
    intro p hp
    exact hwf p (by rw [ht.1]; exact List.mem_append_right _ hp)
  obtain ⟨-, v, hv, hw⟩ := Proc.wp_reaches (E := Broker (streamOf packets) k) (I := fun _ => True)
    Broker.refl Broker.trans (fun _ _ _ _ => trivial) (fun _ _ _ hb => ⟨hb, trivial⟩) trivial
    (follows_call call hrest hmeets.zero ht.2 ht.drop) h
  refine ⟨?_, ?_⟩
  · rintro rfl hempty
    obtain ⟨j, hread, -, hfin⟩ := hw
    have hread' := hread.broker hv
    obtain ⟨c, -, hc, -, hle, -⟩ := hread'.current
    have harrived : j ≤ arrivedOn k u.net := by
      rw [arrivedOn, hc]
      exact hle
    obtain ⟨more, later, rfl, hall, rfl⟩ :=
      hfin.aligned (fun he => hempty (he.broker hv)) hmeets harrived
    refine ⟨more, later, rfl, hall, ?_, ?_⟩
    · rw [ht.1, List.append_assoc]
    · simpa [streamOf] using hread'
  · rintro e j rfl hworks hj htold
    obtain ⟨j', hread, hlost⟩ := hw
    obtain ⟨c, -, hc, hcon, -⟩ := (hread.broker hv).current
    obtain ⟨c', -, hc', hcon', -⟩ := hj.current
    obtain rfl : c = c' := Option.some.inj (hc.symm.trans hc')
    exact (hlost hworks (hcon.symm.trans hcon' ▸ htold)).broker hv

/-- Every call of a session whose calls met their conditions starts and ends at a packet boundary
and has taken only packets that it consumes; when a call meets another packet it does not return
normally, and once it has read so much of the packet that it must give up, the connection is
closed, unless a socket operation failed. -/
theorem session_synchronised (hwf : ∀ p ∈ packets, p.WellFormed) (hstart : AtPacket packets k s.net)
    (h : Session host A packets k s t) :
    AtPacket packets k t.net ∧
      ∀ (call : ClientCall) (taken rest : List ServerPacket) (q : NetProg σ κ Unit) (u : Sys σ),
        InFront packets k taken rest t.net →
        Proc.Reaches A (Broker (streamOf packets) k) (call.program host) t q u →
        Proper packets k call t.net u.net →
        (q = .ret () → ¬ CameBackEmpty k u.net → ∃ more later, rest = more ++ later ∧
          (∀ p ∈ more, call.Consumes p) ∧ InFront packets k (taken ++ more) later u.net) ∧
        (∀ e j, q = .raise e → (∀ i, A i → i.socket.Works) →
          Reading (streamOf packets) k j u.net →
          Told call.Consumes (streamOf taken).length rest j → Dropped k u.net) := by
  refine ⟨?_, fun call taken rest q u ht hrun hproper => call_outcome hwf ht hrun hproper⟩
  induction h with
  | start => exact hstart
  | between _ hb ih =>
    obtain ⟨taken, rest, hsplit, hread⟩ := ih
    exact ⟨taken, rest, hsplit, hread.broker hb⟩
  | call call _ hrun hempty hproper ih =>
    obtain ⟨taken, rest, ht⟩ := ih
    obtain ⟨more, later, -, -, hu⟩ := (call_outcome hwf ht hrun hproper).1 rfl hempty
    exact ⟨taken ++ more, later, hu⟩

end Sessions

def arrived (packets : List ServerPacket) : Sys Unit where
  net := { connections := [{ inbound := streamOf packets }], sock := some 0 }
  app := ()

theorem reading_arrived (packets : List ServerPacket) :
    Reading (streamOf packets) 0 0 (arrived packets).net := by
  refine ⟨rfl, ⟨_, rfl, rfl, Nat.zero_le _⟩, fun c hc => ?_⟩
  obtain rfl : { inbound := streamOf packets } = c := Option.some.inj hc
  exact List.prefix_refl _

theorem reaches_done {packets : List ServerPacket} {p : NetProg Unit Unit Unit} {s : Sys Unit}
    (h : (p.run ⟨.done, ()⟩ s).1 = .ret ()) :
    Proc.Reaches (fun i => i.socket = .done) (Broker (streamOf packets) 0) p s (.ret ())
      (p.run ⟨.done, ()⟩ s).2 := by
  obtain ⟨q, hq, hret, -⟩ := Proc.run_visits (fun i : NetInput Unit => i.socket = .done)
    (i := ⟨.done, ()⟩) rfl p s
  obtain rfl := hret () h
  exact hq.mono (fun _ h => h) (fun _ _ h => h.elim)

theorem not_cameBackEmpty {k : Nat} {n : Network}
    (h : ∀ e ∈ n.events, e.readBytes = [] → e.request? = none) : ¬ CameBackEmpty k n := by
  rintro ⟨tm, hmem⟩
  cases h _ hmem rfl

/-- A ping takes its PINGRESP and leaves the PUBACK behind it for the next call. -/
theorem session_synchronised_pinged :
    AtPacket [.pingresp, .puback 1] 0
      (((ClientCall.ping 1 none).program quietHost).run ⟨.done, ()⟩
        (arrived [.pingresp, .puback 1])).2.net := by
  have hwf : ∀ p ∈ [ServerPacket.pingresp, .puback 1], p.WellFormed := by
    simp [ServerPacket.WellFormed]
  refine (@session_synchronised _ _ quietHost _ _ _ _ _ hwf
    ⟨[], _, rfl, reading_arrived _⟩ (.call (.ping 1 none) .start (reaches_done rfl) ?_ ?_)).1
  · exact not_cameBackEmpty (by decide)
  · rintro taken rest hfront more p later rfl -
    have hp : p ∈ [ServerPacket.pingresp, .puback 1] := by
      rw [hfront.1]
      simp
    simp only [List.mem_cons, List.not_mem_nil, or_false] at hp
    rcases hp with rfl | rfl
    · exact .inl (.inl trivial)
    · exact .inr trivial

/-- An acknowledgement that nobody waits for: `check_msg` returns normally with the first byte of a
PUBACK read and its body left in the stream. -/
theorem checkMsg_desynchronises :
    (ServerPacket.puback 1).WellFormed ∧ AtPacket [.puback 1] 0 (arrived [.puback 1]).net ∧
      ∃ u, Proc.Reaches (fun i => i.socket = .done) (Broker (streamOf [.puback 1]) 0)
          ((ClientCall.checkMsg 5000).program quietHost) (arrived [.puback 1]) (.ret ()) u ∧
        ¬ CameBackEmpty 0 u.net ∧ ¬ AtPacket [.puback 1] 0 u.net := by
  refine ⟨by simp [ServerPacket.WellFormed], ⟨[], _, rfl, reading_arrived _⟩, _,
    reaches_done rfl, ?_, ?_⟩
  · exact not_cameBackEmpty (by decide)
  · rintro ⟨taken, rest, hsplit, hread⟩
    obtain ⟨c, hc, hcon, -⟩ := hread.conn
    have hone : 1 = (streamOf taken).length := by
      rw [← hcon]
      exact congrArg (fun c => c.elim 0 Connection.consumed) hc
    cases taken with
    | nil => cases hone
    | cons p more =>
      obtain ⟨rfl, -⟩ := List.cons.inj hsplit
      simp only [streamOf, List.flatMap_cons, ServerPacket.wire, be16, List.length_append,
        List.length_cons] at hone
      omega

end MqttClient
end PicoDualCore
