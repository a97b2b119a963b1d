import PicoDualCore.MqttPublish
set_option autoImplicit false

namespace PicoDualCore
open AtomicProgram

theorem Network.current_sock {n : Network} {socket : Nat × Connection}
    (h : n.current = some socket) : n.sock = some socket.1 := by
  obtain ⟨k, hk, hmap⟩ := Option.bind_eq_some_iff.mp h
  obtain ⟨c, -, rfl⟩ := Option.map_eq_some_iff.mp hmap
  exact hk

def SocketEvent.On (sock : Option Nat) : SocketEvent → Prop
  | .wrote k _ _ _ | .read k _ _ _ | .closed k => sock = some k
  | .delivered _ _ => True
  | .opened _ | .connecting _ _ => False

namespace MqttClient

attribute [local irreducible] Proc.wp

def pubackReads (k : Nat) (pid : Nat) (reads : List SocketEvent) : Prop :=
  ∃ t₁ t₂ t₃ rcv, be16Value rcv = pid ∧
    reads = [.read k t₁ 1 [0x40], .read k t₂ 1 [0x02], .read k t₃ 2 rcv]

def PubackAfter (base : List SocketEvent) (pid : Nat) (events : List SocketEvent) : Prop :=
  ∃ k between reads, pubackReads k pid reads ∧ events = base ++ between ++ reads

section Reading

variable {σ κ α β : Type} {host : Host σ κ} {A : NetInput κ → Prop} {R : Sys σ → Sys σ → Prop}
  {Q : α → Sys σ → Prop} {s : Sys σ} {base : List SocketEvent}

abbrev Ending (A : NetInput κ → Prop) (R : Sys σ → Sys σ → Prop) (Q : α → Sys σ → Prop)
    (p : NetProg σ κ α) (s : Sys σ) : Prop :=
  p.wp A R (fun _ _ => True) Q (fun _ _ => True) s

theorem ending_seq {Q' : β → Sys σ → Prop} {p : NetProg σ κ α} {f : α → NetProg σ κ β}
    (hp : Ending A R Q p s) (hf : ∀ a t, Q a t → Ending A R Q' (f a) t) :
    Ending A R Q' (p >>= f) s :=
  (Proc.wp_seq _ _ _).mpr (Proc.wp_mono hp (fun _ _ h => h) hf (fun _ _ h => h))

theorem ending_then {Q' : β → Sys σ → Prop} {p : NetProg σ κ α} {f : α → NetProg σ κ β}
    (hf : ∀ a t, Ending A R Q' (f a) t) : Ending A R Q' (p >>= f) s :=
  ending_seq (wp_any p s) (fun a t _ => hf a t)

theorem ending_ite {c : Prop} [Decidable c] {p q : NetProg σ κ α} (hp : c → Ending A R Q p s)
    (hq : ¬ c → Ending A R Q q s) : Ending A R Q (if c then p else q) s := by
  by_cases h : c
  · rw [if_pos h]
    exact hp h
  · rw [if_neg h]
    exact hq h

theorem ending_abort {reason : String} :
    Ending A R Q (abortCorruptInbound reason : NetProg σ κ α) s :=
  ending_then (fun _ _ => Proc.wp_throw.mpr trivial)

theorem ending_guard {c : Prop} [Decidable c] {reason : String}
    {rest : Unit → NetProg σ κ α} (h : ¬ c → Ending A R Q (rest ()) s) :
    Ending A R Q (if c then abortCorruptInbound reason >>= rest else rest ()) s :=
  ending_ite (fun _ => ending_seq (Q := fun _ _ => False) ending_abort (fun _ _ h => h.elim)) h

theorem ending_pure {a : α} (h : Q a s) : Ending A R Q (pure a) s := Proc.wp_pure.mpr h

def Stands (sock : Option Nat) (events : List SocketEvent) (n : Network) : Prop :=
  n.events = events ∧ n.sock = sock

def Grown (sock : Option Nat) (base : List SocketEvent) (n : Network) : Prop :=
  base <+: n.events ∧ n.sock = sock

def Apart (R : Sys σ → Sys σ → Prop) : Prop :=
  ∀ s t, R s t → t.net.events = s.net.events ∧ t.net.sock = s.net.sock

variable {sock : Option Nat} {events : List SocketEvent}

theorem ending_service (hR : Apart R) (h : Stands sock events s.net) :
    Ending A R (fun _ t => Stands sock events t.net) (service host) s := by
  have hstable : ∀ s t, R s t → Stands sock events s.net → Stands sock events t.net :=
    fun s t hr hs => ⟨(hR s t hr).1.trans hs.1, (hR s t hr).2.trans hs.2⟩
  refine ending_seq (Proc.wp_mono (keeping_onApp (K := Stands sock events)
    (G := fun _ _ => True) hstable (fun _ _ _ => trivial) host.service h) (fun _ _ h => h)
    (fun _ _ h => h) (fun _ _ _ => trivial)) (fun _ t ht => ?_)
  exact Proc.wp_atomic (fun u hu _ _ => ⟨trivial, hstable t u hu ht⟩)

theorem read_some {n : Network} {size : Nat} {a : SocketAnswer} {bytes : Bytes}
    (h : (n.read size a).1 = .ok (some bytes)) :
    bytes.length ≤ size ∧ (n.read size a).2.sock = n.sock ∧
      ∃ k tm, n.sock = some k ∧ (n.read size a).2.events = n.events ++ [.read k tm size bytes] := by
  unfold Network.read Network.onSocket at h ⊢
  cases hc : n.current with
  | none => simp [hc] at h
  | some socket =>
    have hsock := Network.current_sock hc
    simp only [hc] at h ⊢
    cases a with
    | memory => cases h
    | fail count => cases h
    | nothing => cases h
    | short count =>
      cases h
      refine ⟨Nat.le_trans (List.length_take_le _ _) (Nat.min_le_right _ _), rfl, _, _, hsock, rfl⟩
    | done =>
      cases h
      refine ⟨List.length_take_le _ _, rfl, socket.1, socket.2.timeoutMs, hsock, ?_⟩
      simp [Network.record, Network.put]

theorem ending_onRead (hR : Apart R) {size : Nat} (h : Stands sock events s.net) :
    Ending A R (fun data t => ∀ bytes, data = some bytes → bytes.length ≤ size ∧
        ∃ k tm, sock = some k ∧ Stands sock (events ++ [.read k tm size bytes]) t.net)
      (onNet (Network.read size)) s := by
  refine Proc.wp_atomic (fun t ht i _ => ⟨trivial, ?_⟩)
  have hnet : Stands sock events t.net :=
    ⟨(hR s t ht).1.trans h.1, (hR s t ht).2.trans h.2⟩
  dsimp only
  cases hread : (t.net.read size i.socket).1 with
  | error e => trivial
  | ok data =>
    rintro bytes rfl
    obtain ⟨hlength, hsock, k, tm, hk, hevents⟩ := read_some hread
    refine ⟨hlength, k, tm, hnet.2.symm.trans hk, ?_, hsock.trans hnet.2⟩
    rw [hevents, hnet.1]

theorem ending_readRequired (hR : Apart R) {size : Nat} (h : Stands sock events s.net) :
    Ending A R (fun bytes t =>
        ∃ k tm, sock = some k ∧ Stands sock (events ++ [.read k tm size bytes]) t.net)
      (readRequired host size) s := by
  refine ending_seq (ending_service hR h) (fun _ t ht => ?_)
  refine ending_seq (ending_onRead hR ht) (fun data u hu => ?_)
  cases data with
  | none => exact Proc.wp_throw.mpr trivial
  | some bytes =>
    refine ending_ite (fun _ => Proc.wp_throw.mpr trivial) (fun _ => ending_pure ?_)
    exact (hu bytes rfl).2

theorem ending_receivePublish {op : UInt8} (hop : op ≠ 0x40) :
    Ending A R (fun result _ => result ≠ some 0x40) (receivePublish host op) s := by
  have hdone : (some op : Option UInt8) ≠ some 0x40 := by simpa using hop
  unfold receivePublish
  refine ending_then (fun _ _ => ending_guard (fun _ => ending_guard (fun _ => ?_)))
  refine ending_then (fun _ _ => ending_guard (fun _ => ?_))
  refine ending_then (fun _ _ => ending_ite (fun _ => ?_) (fun _ => ?_))
  · refine ending_guard (fun _ => ?_)
    refine ending_then (fun _ _ => ending_then (fun _ _ => ending_then (fun _ _ => ?_)))
    refine ending_ite (fun _ => ?_) (fun _ => ending_pure hdone)
    exact ending_then (fun _ _ => ending_pure hdone)
  · exact ending_then (fun _ _ => ending_then (fun _ _ => ending_pure hdone))

theorem ending_dispatch {op : UInt8} (hop : op ≠ 0x40) :
    Ending A R (fun result _ => result ≠ some 0x40) (dispatch host op) s := by
  have hdone : (some op : Option UInt8) ≠ some 0x40 := by simpa using hop
  unfold dispatch
  refine ending_ite (fun _ => ?_) (fun _ => ending_ite (fun _ => ?_) (fun _ => ?_))
  · refine ending_then (fun _ _ => ending_guard (fun _ => ending_pure (by simp)))
  · refine ending_ite (fun _ => ending_pure hdone) (fun _ => ?_)
    exact ending_ite (fun _ => ending_abort) (fun _ => ending_abort)
  · refine ending_ite (fun _ => ending_abort) (fun _ => ?_)
    exact ending_ite (fun _ => ending_abort) (fun _ => ending_receivePublish hop)

theorem ending_waitMsg (hR : Apart R) (h : Stands sock events s.net) :
    Ending A R (fun result t => result = some 0x40 →
        ∃ k tm, sock = some k ∧ Stands sock (events ++ [.read k tm 1 [0x40]]) t.net)
      (waitMsg host) s := by
  refine ending_seq (ending_service hR h) (fun _ t ht => ?_)
  refine ending_seq (ending_onRead hR ht) (fun data u hu => ?_)
  cases data with
  | none => exact ending_pure (by simp)
  | some bytes =>
    obtain ⟨hlength, hread⟩ := hu bytes rfl
    match bytes, hlength, hread with
    | [], _, _ => exact Proc.wp_throw.mpr trivial
    | _ :: _ :: _, hlength, _ => simp at hlength
    | [op], _, hread =>
      by_cases hop : op = 0x40
      · subst hop
        exact ending_pure (fun _ => hread)
      · exact Proc.wp_mono (ending_dispatch hop) (fun _ _ h => h)
          (fun _ _ hne heq => (hne heq).elim) (fun _ _ h => h)

theorem ClientStep.grown {n n' : Network} {sock : Option Nat} {base : List SocketEvent}
    (h : ClientStep n n') (hn : Grown sock base n) : Grown sock base n' := by
  suffices hmore : n.events <+: n'.events ∧ n'.sock = n.sock from
    ⟨hn.1.trans hmore.1, hmore.2.trans hn.2⟩
  cases h with
  | read size a =>
    unfold Network.read Network.onSocket
    cases n.current with
    | none => exact ⟨List.prefix_refl _, rfl⟩
    | some socket => cases a <;> simp [Network.record, Network.put]
  | write bytes a =>
    unfold Network.write Network.onSocket
    cases n.current with
    | none => exact ⟨List.prefix_refl _, rfl⟩
    | some socket =>
      cases a <;> by_cases hc : socket.2.closed <;> simp [Network.record, Network.put, hc]
  | close a =>
    unfold Network.close Network.onSocket
    cases n.current with
    | none => exact ⟨List.prefix_refl _, rfl⟩
    | some socket => cases a <;> simp [Network.record, Network.put]
  | settimeout timeoutMs a =>
    unfold Network.settimeout Network.onSocket
    cases n.current with
    | none => exact ⟨List.prefix_refl _, rfl⟩
    | some socket => cases a <;> simp [Network.put]
  | deliver topic payload => simp [Network.record]
  | idle => exact ⟨List.prefix_refl _, rfl⟩
  | serviced => exact ⟨List.prefix_refl _, rfl⟩
  | packetId pid => exact ⟨List.prefix_refl _, rfl⟩

theorem grownRule (hR : Apart R) {base : List SocketEvent} :
    ClientRule host A R (fun _ _ => True) (fun t => Grown sock base t.net) := by
  refine ClientRule.ofNet ?_ (fun _ _ _ => trivial) (fun n n' hn h => h.grown hn)
  exact fun s t hr hs => ⟨(hR s t hr).1.symm ▸ hs.1, (hR s t hr).2.trans hs.2⟩

/-- When the wait returns, the last thing it did was to take the PUBACK in. -/
theorem ending_awaitPuback (hR : Apart R) {base : List SocketEvent} {pid rounds : Nat}
    (h : Grown sock base s.net) :
    Ending A R (fun _ t => t.net.sock = sock ∧ PubackAfter base pid t.net.events)
      (awaitPuback host pid rounds) s := by
  induction rounds generalizing s with
  | zero => exact Proc.wp_stop
  | succ rounds ih =>
    obtain ⟨⟨between, hevents⟩, hsock⟩ := h
    have hstands : Stands sock (base ++ between) s.net := ⟨hevents.symm, hsock⟩
    have hgrown : Grown sock base s.net := ⟨⟨between, hevents⟩, hsock⟩
    have hend : Ending A R (fun result t => result = some 0x40 →
        ∃ k tm, sock = some k ∧
          Stands sock (base ++ between ++ [.read k tm 1 [0x40]]) t.net) (waitMsg host) s :=
      ending_waitMsg hR hstands
    have hwait := Proc.wp_and hend ((grownRule hR).exchange.waitMsg hgrown)
    unfold awaitPuback
    refine (Proc.wp_seq _ _ _).mpr (Proc.wp_mono hwait (fun _ _ _ => trivial) ?_
      (fun _ _ _ => trivial))
    rintro result t ⟨htaken, ht⟩
    refine ending_ite (fun hkind => ?_) (fun _ => ih ht)
    obtain ⟨k, t₁, hk, hfirst⟩ := htaken hkind
    refine ending_seq (ending_readRequired hR hfirst) ?_
    rintro size u ⟨k₂, t₂, hk₂, hsecond⟩
    refine ending_guard (fun htwo => ?_)
    have hsize : size = [0x02] := Decidable.not_not.mp htwo
    refine ending_seq (ending_readRequired hR hsecond) ?_
    rintro rcv v ⟨k₃, t₃, hk₃, hthird⟩
    obtain rfl : k₂ = k := Option.some.inj (hk₂.symm.trans hk)
    obtain rfl : k₃ = k₂ := Option.some.inj (hk₃.symm.trans hk)
    subst hsize
    refine ending_ite (fun hpid => ending_pure ?_) (fun _ => ?_)
    · refine ⟨hthird.2, k₃, between, _, ⟨t₁, t₂, t₃, rcv, hpid.symm, rfl⟩, ?_⟩
      simp [hthird.1]
    · refine ih ⟨?_, hthird.2⟩
      rw [hthird.1]
      simp only [List.append_assoc]
      exact List.prefix_append _ _

end Reading

section Publishing

variable {σ κ : Type} {host : Host σ κ} {A : NetInput κ → Prop} {R G : Sys σ → Sys σ → Prop}
  {s : Sys σ} {J : Bytes → Sys σ → Prop} {owner : Option Owner} {total : Bytes}

def Acknowledged (J : Sys σ → Prop) (pid : Nat) (t : Sys σ) : Prop :=
  J t ∧ ∃ u, J u ∧ u.net.sock = t.net.sock ∧ PubackAfter u.net.events pid t.net.events

theorem SendRule.exchange (send : SendRule host A R G owner total J) (hR : Apart R)
    {rounds pid : Nat} {segments : List Bytes} (htotal : total = segments.flatten) (hs : J [] s) :
    (do segments.forM (MqttClient.write host owner)
        awaitPuback host pid rounds : NetProg σ κ Unit).wp A R G
      (fun _ => Acknowledged (J total) pid)
      (fun _ t => ∃ sent, sent <+: total ∧ J sent t) s := by
  refine (Proc.wp_seq _ _ _).mpr ?_
  have hfits : [] ++ segments.flatten <+: total := by
    rw [htotal]
    exact List.prefix_refl _
  refine Proc.wp_mono (send.writeAll segments hfits hs) (fun _ _ h => h) (fun _ u hu => ?_)
    (fun _ _ h => h)
  rw [List.nil_append, ← htotal] at hu
  have hread : Ending A R
      (fun _ t => t.net.sock = u.net.sock ∧ PubackAfter u.net.events pid t.net.events)
      (awaitPuback host pid rounds) u := ending_awaitPuback hR ⟨List.prefix_refl _, rfl⟩
  refine Proc.wp_mono (Proc.wp_and ((send.rule (List.prefix_refl _)).exchange.awaitPuback hu) hread)
    (fun _ _ h => h.1) ?_ (fun _ _ h => ⟨total, List.prefix_refl _, h.1⟩)
  exact fun _ t ⟨ht, hsock, hpuback⟩ => ⟨ht, u, hu, hsock.symm, hpuback⟩

theorem ending_settimeout (hR : Apart R) {sock : Option Nat} {events : List SocketEvent}
    {timeoutMs : Option Nat} (h : Stands sock events s.net) :
    Ending A R (fun _ t => Stands sock events t.net)
      (onNet (Network.settimeout timeoutMs) : NetProg σ κ Unit) s := by
  refine Proc.wp_atomic (fun t ht i _ => ⟨trivial, ?_⟩)
  have hnet := Network.settimeout_events t.net timeoutMs i.socket
  dsimp only
  cases (t.net.settimeout timeoutMs i.socket).1 with
  | error e => trivial
  | ok a =>
    exact ⟨hnet.1.trans ((hR s t ht).1.trans h.1), hnet.2.trans ((hR s t ht).2.trans h.2)⟩

theorem SendRule.timedExchange (send : SendRule host A R G owner total J) (hR : Apart R)
    {pid : Nat} {timeoutMs : Option Nat} {exchange : NetProg σ κ Unit} (hs : J [] s)
    (h : ∀ t, J [] t → exchange.wp A R G (fun _ => Acknowledged (J total) pid)
      (fun _ t => ∃ sent, sent <+: total ∧ J sent t) t) :
    (MqttClient.timed timeoutMs exchange).wp A R G (fun _ => Acknowledged (J total) pid)
      (fun _ t => ∃ sent, sent <+: total ∧ J sent t) s := by
  have hall : total <+: total := List.prefix_refl _
  cases timeoutMs with
  | none => exact h s hs
  | some ms =>
    refine (Proc.wp_seq _ _ _).mpr (Proc.wp_mono ((send.rule List.nil_prefix).settimeout hs)
      (fun _ _ h => h) (fun _ u hu => ?_) (fun _ u hu => ⟨[], List.nil_prefix, hu⟩))
    refine (Proc.wp_finish _ _ _).mpr (Proc.wp_mono (h u hu) (fun _ _ h => h) ?_ ?_)
    · rintro _ v ⟨hv, w, hw, hsock, hpuback⟩
      have hsame : Ending A R (fun _ t => Stands v.net.sock v.net.events t.net)
          (onNet (Network.settimeout none) : NetProg σ κ Unit) v :=
        ending_settimeout hR ⟨rfl, rfl⟩
      refine Proc.wp_mono (Proc.wp_and ((send.rule hall).settimeout hv) hsame)
        (fun _ _ h => h.1) ?_ (fun _ _ h => ⟨total, hall, h.1⟩)
      rintro _ x ⟨hx, hevents, hsock'⟩
      exact ⟨hx, w, hw, hsock.trans hsock'.symm, by rw [hevents]; exact hpuback⟩
    · rintro _ v ⟨sent, hsent, hv⟩
      exact Proc.wp_mono ((send.rule hsent).settimeout hv) (fun _ _ h => h)
        (fun _ _ h => ⟨sent, hsent, h⟩) (fun _ _ h => ⟨sent, hsent, h⟩)

/-- A publish that returns has been acknowledged. -/
theorem SendRule.publish_acknowledged (send : SendRule host A R G owner total J) (hR : Apart R)
    {rounds pid : Nat} {topic : List Char} {msg : Payload} {timeoutMs : Option Nat}
    {fragment : Option Bytes} (htotal : total = frame topic msg pid fragment) (hs : J [] s) :
    (MqttClient.publish host rounds owner topic msg (some pid) timeoutMs fragment).wp A R G
      (fun _ => Acknowledged (J total) pid)
      (fun _ t => ∃ sent, sent <+: total ∧ J sent t) s := by
  unfold MqttClient.publish
  by_cases hsize : MAX_PUBLISH_SIZE < publishSize topic msg fragment
  · rw [if_pos hsize]
    exact Proc.wp_throw.mpr ⟨[], List.nil_prefix, hs⟩
  · rw [if_neg hsize]
    exact send.timedExchange hR hs (fun t ht => send.exchange hR htotal ht)

end Publishing
/-- Since `before` the client has stayed on one socket and has written `sent` for the owner. -/
structure Exchange (o : Owner) (before : List SocketEvent) (sock : Option Nat) (sent : Bytes)
    (n : Network) : Prop where
  socket : n.sock = sock
  events : ∃ during, n.events = before ++ during ∧ (∀ e ∈ during, e.On sock) ∧
    writtenFor o during = sent

/-- The whole frame went out on one connection, and then its PUBACK was read there. -/
def AckedFrame (o : Owner) (wire : Nat → Bytes) (events : List SocketEvent) : Prop :=
  ∃ before during reads k pid, events = before ++ during ++ reads ∧ pubackReads k pid reads ∧
    (∀ e ∈ during, e.On (some k)) ∧ writtenFor o during = wire pid

section Exchange

variable {o : Owner} {before : List SocketEvent} {sock : Option Nat} {sent : Bytes}
  {n n' : Network}

theorem Exchange.start (o : Owner) (n : Network) : Exchange o n.events n.sock [] n :=
  ⟨rfl, [], by simp, by simp, rfl⟩

theorem Exchange.more (h : Exchange o before sock sent n) {e : SocketEvent} (he : e.On sock)
    (hsock : n'.sock = n.sock) (hevents : n'.events = n.events ++ [e]) :
    Exchange o before sock (sent ++ e.wroteFor o) n' := by
  obtain ⟨during, hd, hon, hw⟩ := h.events
  refine ⟨hsock.trans h.socket, during ++ [e], ?_, ?_, ?_⟩
  · rw [hevents, hd, List.append_assoc]
  · intro e' he'
    rcases List.mem_append.mp he' with h' | h'
    · exact hon e' h'
    · rw [List.mem_singleton.mp h']
      exact he
  · simp [hw]

theorem Exchange.same (h : Exchange o before sock sent n) (hsock : n'.sock = n.sock)
    (hevents : n'.events = n.events) : Exchange o before sock sent n' :=
  ⟨hsock.trans h.socket, hevents ▸ h.events⟩

theorem ClientStep.exchange (hstep : ClientStep n n') (h : Exchange o before sock sent n) :
    Exchange o before sock sent n' := by
  have hquiet : ∀ e : SocketEvent, n'.events = n.events ++ [e] → n'.sock = n.sock → e.On sock →
      e.wroteFor o = [] → Exchange o before sock sent n' := by
    intro e hevents hsock hon he
    have := h.more hon hsock hevents
    rwa [he, List.append_nil] at this
  cases hstep with
  | read size a =>
    unfold Network.read Network.onSocket at hquiet ⊢
    cases hc : n.current with
    | none => exact h.same rfl rfl
    | some socket =>
      have hk : sock = some socket.1 := h.socket.symm.trans (Network.current_sock hc)
      simp only [hc] at hquiet
      cases a with
      | memory => exact h.same rfl rfl
      | fail count => exact hquiet _ rfl rfl hk rfl
      | nothing => exact hquiet _ rfl rfl hk rfl
      | short count => exact hquiet _ rfl rfl hk rfl
      | done => exact hquiet _ rfl rfl hk rfl
  | write bytes a =>
    unfold Network.write Network.onSocket at hquiet ⊢
    cases hc : n.current with
    | none => exact h.same rfl rfl
    | some socket =>
      have hk : sock = some socket.1 := h.socket.symm.trans (Network.current_sock hc)
      simp only [hc] at hquiet
      cases a with
      | memory => exact h.same rfl rfl
      | fail count => exact hquiet _ rfl rfl hk rfl
      | _ =>
        by_cases hclosed : socket.2.closed = true
        · simp only [hclosed, if_true]
          exact h.same rfl rfl
        · simp only [hclosed, Bool.false_eq_true, if_false] at hquiet ⊢
          exact hquiet _ rfl rfl hk rfl
  | close a =>
    unfold Network.close Network.onSocket at hquiet ⊢
    cases hc : n.current with
    | none => exact h.same rfl rfl
    | some socket =>
      have hk : sock = some socket.1 := h.socket.symm.trans (Network.current_sock hc)
      simp only [hc] at hquiet
      cases a with
      | memory => exact h.same rfl rfl
      | fail count => exact h.same rfl rfl
      | _ => exact hquiet _ rfl rfl hk rfl
  | settimeout timeoutMs a =>
    have hkept := Network.settimeout_events n timeoutMs a
    exact h.same hkept.2 hkept.1
  | deliver topic payload => exact hquiet (.delivered topic payload) rfl rfl trivial rfl
  | idle => exact h
  | serviced => exact h.same rfl rfl
  | packetId pid => exact h.same rfl rfl

theorem Exchange.write (h : Exchange o before sock sent n) (bytes : Bytes) (a : SocketAnswer) :
    ∃ part, part <+: bytes ∧ Exchange o before sock (sent ++ part) (n.write (some o) bytes a).2 ∧
      ((n.write (some o) bytes a).1 = .ok () → part = bytes) := by
  have hnothing : Exchange o before sock (sent ++ []) n := by simpa using h
  unfold Network.write Network.onSocket
  cases hc : n.current with
  | none => exact ⟨[], List.nil_prefix, hnothing, by simp⟩
  | some socket =>
    have hk : sock = some socket.1 := h.socket.symm.trans (Network.current_sock hc)
    have hwrote : ∀ part, Exchange o before sock (sent ++ part)
        ((n.put socket.1 { socket.2 with written := socket.2.written ++ part }).record
          (.wrote socket.1 socket.2.timeoutMs (some o) part)) := by
      intro part
      let e : SocketEvent := .wrote socket.1 socket.2.timeoutMs (some o) part
      have hon : e.On sock := hk
      have hsent := @Exchange.more _ _ _ _ _
        ((n.put socket.1 { socket.2 with written := socket.2.written ++ part }).record e) h e hon
        rfl rfl
      simpa [e] using hsent
    cases a with
    | memory => exact ⟨[], List.nil_prefix, hnothing, by simp⟩
    | fail count => exact ⟨bytes.take count, List.take_prefix _ _, hwrote _, by simp⟩
    | _ =>
      by_cases hclosed : socket.2.closed = true
      · exact ⟨[], List.nil_prefix, by simpa [hclosed] using h, by simp [hclosed]⟩
      · exact ⟨bytes, List.prefix_refl _, by simpa [hclosed] using hwrote bytes, by simp⟩

/-- An acknowledged exchange has put one whole frame on one connection. -/
theorem ackedFrame {σ : Type} {J : Sys σ → Prop} {pid : Nat} {wire : Nat → Bytes} {t : Sys σ}
    (hJ : ∀ u, J u → Exchange o before sock (wire pid) u.net) (h : Acknowledged J pid t) :
    AckedFrame o wire t.net.events := by
  obtain ⟨ht, u, hu, -, k, between, reads, hreads, hevents⟩ := h
  obtain ⟨d₁, hd₁, -, hw₁⟩ := (hJ u hu).events
  obtain ⟨d₂, hd₂, hon, hw₂⟩ := (hJ t ht).events
  have hd : d₂ = d₁ ++ between ++ reads := by
    rw [hd₁, hd₂] at hevents
    simpa using hevents
  subst hd
  have hk : sock = some k := by
    obtain ⟨t₁, t₂, t₃, rcv, -, rfl⟩ := hreads
    exact hon (.read k t₁ 1 [0x40]) (by simp)
  subst hk
  refine ⟨before, d₁ ++ between, reads, k, pid, ?_, hreads, ?_, ?_⟩
  · rw [hd₂]
    simp
  · exact fun e he => hon e (List.mem_append_left _ he)
  · have hnone : writtenFor o reads = [] := by
      obtain ⟨t₁, t₂, t₃, rcv, -, rfl⟩ := hreads
      simp
    rw [writtenFor_append, hnone, List.append_nil] at hw₂
    exact hw₂

end Exchange
end MqttClient
end PicoDualCore
