import PicoDualCore.Core0Effects
import Mathlib.Data.List.Nodup
set_option autoImplicit false

namespace PicoDualCore
open AtomicProgram MqttClient

def Backstage (b b' : Board) : Prop := AsideStep b b' ∧ b'.core0.mqtt = b.core0.mqtt

def InHand (c : Container) (P : Stamps → Prop) (b : Board) : Prop :=
  ∃ stamps, Held c stamps b ∧ P stamps

structure Due (c : Container) (b : Board) : Prop where
  held : InHand c (fun _ => True) b
  free : b.outbound.inFlight = none
  connected : b.core0.mqtt.isConnected = true
  tried : Tried none b

structure Serving (c : Container) (sequence : Nat) (P : Stamps → Prop) (b : Board) : Prop where
  held : InHand c (fun stamps => stamps.wireSequence = some sequence ∧ P stamps) b
  free : b.outbound.inFlight = none
  connected : b.core0.mqtt.isConnected = true
  tried : Tried (some (.container c.uid)) b
  turn : OnTurn b (.container c.uid) sequence

structure Going (c : Container) (sequence : Nat) (body : Bytes) (b : Board) : Prop where
  held : InHand c (fun stamps => stamps.wireSequence = some sequence ∧
    stamps.payloadBytes = some body) b
  free : b.outbound.inFlight = none
  tried : Tried none b

structure Failing (boot : Boot) (c : Container) (b : Board) : Prop where
  held : InHand c (fun stamps => stamps.permanentFailure.isSome = true ∧ Unsendable boot stamps) b
  free : b.outbound.inFlight = none
  tried : Tried (some (.container c.uid)) b

section Containers

variable {c : Container} {sequence : Nat} {body : Bytes} {P P' : Stamps → Prop} {boot : Boot}
  {b b' : Board}

theorem InHand.others (hb : InHand c P b) (h : Others b b') : InHand c P b' := by
  obtain ⟨stamps, hheld, hP⟩ := hb
  refine ⟨stamps, ?_, hP⟩
  cases c with
  | response p => exact (congrArg (fun k : CommandState => k.pendingResponses.head?) h.command).trans hheld
  | reboot r => exact ⟨hheld.1, (congrArg CommandState.pendingReboot h.command).trans hheld.2⟩

theorem InHand.aside (hb : InHand c P b) (h : AsideStep b b') : InHand c P b' := by
  obtain ⟨stamps, hheld, hP⟩ := hb
  exact ⟨stamps, h.held hheld, hP⟩

theorem InHand.mono (hb : InHand c P b) (h : ∀ stamps, P stamps → P' stamps) : InHand c P' b := by
  obtain ⟨stamps, hheld, hP⟩ := hb
  exact ⟨stamps, hheld, h stamps hP⟩

theorem InHand.record (hb : InHand c P b) (event : CoreEvent) :
    InHand c P (b.withCommand (b.command.record event)) := by
  obtain ⟨stamps, hheld, hP⟩ := hb
  refine ⟨stamps, ?_, hP⟩
  cases c with
  | response p => exact hheld
  | reboot r => exact hheld

theorem InHand.stampsOf (hb : InHand c P b) (hn : b.command.Numbered) :
    P (b.command.stampsOf c.uid) ∧ Held c (b.command.stampsOf c.uid) b := by
  obtain ⟨stamps, hheld, hP⟩ := hb
  rw [hheld.stampsOf hn]
  exact ⟨hP, hheld⟩

theorem OnTurn.later {owner : Owner} {n : Nat} (h : OnTurn b owner n)
    (hnext : b'.command.nextSequence = b.command.nextSequence)
    (hhistory : ∃ new, b'.command.history = b.command.history ++ new)
    (hheld : ∀ c stamps, Held c stamps b → ∃ stamps', Held c stamps' b' ∧
      stamps'.permanentFailure = stamps.permanentFailure) : OnTurn b' owner n := by
  obtain ⟨new, hnew⟩ := hhistory
  rcases h with hnewest | hattempted | ⟨c, stamps, howner, hc, hstuck⟩
  · exact .inl (hnext ▸ hnewest)
  · rw [OnTurn, hnew]
    exact .inr (.inl hattempted.more)
  · obtain ⟨stamps', hc', hsame⟩ := hheld c stamps hc
    refine .inr (.inr ⟨c, stamps', howner, hc', ?_⟩)
    cases c with
    | response p => exact ⟨hstuck.1, hsame ▸ hstuck.2⟩
    | reboot r => exact (congrArg Option.isSome hsame).trans hstuck

theorem OnTurn.others {owner : Owner} {n : Nat} (hb : OnTurn b owner n) (h : Others b b') :
    OnTurn b' owner n :=
  hb.later (by rw [h.command]) ⟨[], by rw [h.command, List.append_nil]⟩ (fun c stamps hc => by
    obtain ⟨stamps', hc', rfl⟩ := @InHand.others c (· = stamps) b b' ⟨stamps, hc, rfl⟩ h
    exact ⟨_, hc', rfl⟩)

theorem OnTurn.aside {owner : Owner} {n : Nat} (hb : OnTurn b owner n) (h : AsideStep b b') :
    OnTurn b' owner n := by
  obtain ⟨new, hnew, -⟩ := h.history
  exact hb.later h.nextSequence ⟨new, hnew⟩ (fun _ stamps hc => ⟨stamps, h.held hc, rfl⟩)

theorem due_others : Undisturbed (Due c) := fun _ _ h hb =>
  ⟨hb.held.others h, h.inFlight.trans hb.free, (congrArg (·.mqtt.isConnected) h.core0).trans
    hb.connected, hb.tried.others h⟩

theorem serving_others : Undisturbed (Serving c sequence P) := fun _ _ h hb =>
  ⟨hb.held.others h, h.inFlight.trans hb.free, (congrArg (·.mqtt.isConnected) h.core0).trans
    hb.connected, hb.tried.others h, hb.turn.others h⟩

theorem Serving.backstage (hb : Serving c sequence P b) (h : Backstage b b') :
    Serving c sequence P b' where
  held := hb.held.aside h.1
  free := h.1.outbound ▸ hb.free
  connected := h.2 ▸ hb.connected
  tried := hb.tried.aside h.1
  turn := hb.turn.aside h.1

theorem Serving.mono (hb : Serving c sequence P b) (h : ∀ stamps, P stamps → P' stamps) :
    Serving c sequence P' b :=
  { hb with held := hb.held.mono (fun stamps hs => ⟨hs.1, h stamps hs.2⟩) }

theorem enduring_going : Enduring (Going c sequence body) where
  others := fun _ _ h hb => ⟨hb.held.others h, h.inFlight.trans hb.free, hb.tried.others h⟩
  aside := fun h hb => ⟨hb.held.aside h, h.outbound ▸ hb.free, hb.tried.aside h⟩

theorem enduring_failing : Enduring (Failing boot c) where
  others := fun _ _ h hb => ⟨hb.held.others h, h.inFlight.trans hb.free, hb.tried.others h⟩
  aside := fun h hb => ⟨hb.held.aside h, h.outbound ▸ hb.free, hb.tried.aside h⟩

theorem enduring_tried : Enduring (Tried none) :=
  ⟨fun _ _ h hb => hb.others h, fun h hb => hb.aside h⟩

theorem Going.record (hb : Going c sequence body b) (event : CoreEvent) :
    Going c sequence body (b.withCommand (b.command.record event)) :=
  ⟨hb.held.record event, hb.free, hb.tried.record event⟩

theorem Tried.attempted {owner : Owner} {n : Nat} (hb : Tried (some owner) b) {a : Attempt}
    (htag : a.tag = some (owner, n))
    (hresponses : ∀ p ∈ b.command.pendingResponses, owner = .container p.uid → ∀ m,
      p.stamps.wireSequence = some m → m = n)
    (hreboot : ∀ r, b.command.pendingReboot = some r → owner = .container r.uid → ∀ m,
      r.stamps.wireSequence = some m → m = n)
    (hentry : ∀ e, b.outbound.inFlight = some e → owner = .entry e.ref → ∀ m,
      e.wireSequence = some m → m = n) :
    Tried none (b.withCommand (b.command.record (.attempt a))) := by
  have hnew : Attempted (b.command.history ++ [.attempt a]) owner n :=
    ⟨a, by simp [attempts, CoreEvent.attempt?], htag⟩
  constructor
  · intro p hp m hm
    rcases hb.responses p hp m hm with heq | hrest
    · cases heq
      exact .inr (.inl (hresponses p hp rfl m hm ▸ hnew))
    · exact .inr (hrest.imp Attempted.more id)
  · intro r hr m hm
    rcases hb.reboot r hr m hm with heq | hrest
    · cases heq
      exact .inr (.inl (hreboot r hr rfl m hm ▸ hnew))
    · exact .inr (hrest.imp Attempted.more id)
  · intro e he m hm
    rcases hb.entry e he m hm with heq | hrest
    · cases heq
      exact .inr (hentry e he rfl m hm ▸ hnew)
    · exact .inr hrest.more

theorem Held.only {stamps : Stamps} (hc : Held c stamps b) (hn : b.command.Numbered) :
    (∀ p ∈ b.command.pendingResponses, p.uid = c.uid → p.stamps = stamps) ∧
      ∀ r, b.command.pendingReboot = some r → r.uid = c.uid → r.stamps = stamps := by
  cases c with
  | response p =>
    have hmem := hc.mem
    refine ⟨fun p' hp' huid => ?_, fun r hr huid => (hn.rebootApart r hr _ hmem huid.symm).elim⟩
    have heq : p' = { p with stamps } := List.inj_on_of_nodup_map hn.nodup hp' hmem huid
    rw [heq]
  | reboot r =>
    refine ⟨fun p hp huid => (hn.rebootApart _ hc.2 p hp huid).elim, fun r' hr' huid => ?_⟩
    have heq := hc.2.symm.trans hr'
    cases heq
    rfl

end Containers

section Publishing

variable {boot : Boot} {rounds : Nat} {A : NetInput CoreInput → Prop} {c : Container}
  {sequence : Nat} {body : Bytes} {s : Sys Board} {α : Type}

abbrev Staged (p : BoardProg α) : Prop := p.Steps Backstage

theorem onApp_seq {β : Type} (p : BoardProg α) (f : α → BoardProg β) :
    (onApp (p >>= f) : CoreProg β) = onApp p >>= fun a => onApp (f a) := Proc.zoom_bind p f

theorem backstage_refl (b : Board) : Backstage b b := ⟨.refl b, rfl⟩

theorem staged_uptimeMs : Staged uptimeMs :=
  Proc.steps_atomic (fun _ _ => ⟨.quiet ⟨rfl, rfl, rfl, id⟩, rfl⟩)

theorem staged_look {f : Board → α} : Staged (look f) :=
  Proc.steps_atomic (fun b _ => backstage_refl b)

theorem staged_currentUtcTimestamp : Staged (currentUtcTimestamp boot) := by
  refine Proc.steps_bind staged_look (fun snapshot => ?_)
  cases snapshot with
  | none => trivial
  | some snapshot =>
    exact Proc.steps_bind staged_uptimeMs (fun _ => Proc.steps_bind (Proc.steps_ofExcept _)
      (fun _ => trivial))

/-- It raises what is no transport error, which goes through to the top. -/
theorem raises_currentUtcTimestamp :
    (currentUtcTimestamp boot).Raises (fun e => e.transport = false) := by
  refine Proc.raises_bind raises_look (fun snapshot => ?_)
  cases snapshot with
  | none => trivial
  | some snapshot =>
    refine Proc.raises_bind (Proc.raises_atomic (fun _ _ _ he => by cases he)) (fun uptime => ?_)
    refine Proc.raises_bind (Proc.raises_ofExcept (fun e he => ?_)) (fun _ => trivial)
    cases hformat : boot.formatUtcEpochMs (snapshot.runtimeStartEpochMs + uptime) with
    | ok timestamp =>
      rw [hformat] at he
      cases he
    | error err =>
      rw [hformat] at he
      cases he
      rfl

abbrev Unwinds (H : Board → Prop) (e : Exc) (t : Sys Board) : Prop :=
  e.transport = true → Owes none H t.app

theorem effects_staged {H : Board → Prop} {p : BoardProg α} {X : Exc → Sys Board → Prop}
    (hH : Undisturbed H) (hback : ∀ {b b'}, Backstage b b' → H b → H b') (hp : Staged p)
    (hraises : p.Raises (fun e => e.transport = false))
    (hX : ∀ e t, e.transport = false → X e t) (hs : Owes none H s.app) :
    Effects boot A (fun _ t => Owes none H t.app) X (onApp p) s := by
  have hwp : Effects boot A (fun _ t => Owes none H t.app) (fun _ _ => True) (onApp p) s := by
    refine Proc.wp_zoom (J := fun t => Owes none H t.app) (fun _ _ => trivial) ?_ ?_ ?_ ?_ hs
      (Proc.wp_steps (A := fun _ => True) (R := Others) hp s.app)
    · exact fun t u ht hr => ⟨hr.1.board, ht.beside hH hr⟩
    · intro t b ht hb
      obtain ⟨new, hnew, hquiet⟩ := hb.1.history
      refine ⟨.board (.aside hb.1), ⟨hb.1.sound ht.sound, ?_, hback hb ht.kept⟩, rfl⟩
      show owed b.command.history = none
      rw [hnew, owed_aside hquiet]
      exact ht.owed
    · exact fun _ _ ht _ => ht
    · exact fun _ _ _ _ => trivial
  exact effects_mono (Proc.wp_raises (Proc.raises_zoom hraises (fun _ h => h)) hwp)
    (fun _ _ h => h) (fun e t h => hX e t h.2)

theorem effects_claim {X : Exc → Sys Board → Prop} (hs : Owes none (Due c) s.app) :
    Effects boot A (fun sequence t => Owes none (Serving c sequence (fun _ => True)) t.app) X
      (onApp (onState (fun k => k.claimWireSequence c.uid))) s := by
  refine wp_onApp_atomic (fun t ht _ _ => ?_)
  have hdue := hs.beside due_others ht
  obtain ⟨-, hheld⟩ := hdue.kept.held.stampsOf ht.2.numbered
  dsimp only [CommandState.claimWireSequence]
  cases hsequence : (t.app.command.stampsOf c.uid).wireSequence with
  | some sequence =>
    refine ⟨.board (.aside (.quiet ⟨rfl, rfl, rfl, id⟩)), hdue.sound, hdue.owed, ?_⟩
    refine ⟨⟨_, hheld, hsequence, trivial⟩, hdue.kept.free, hdue.kept.connected,
      hdue.kept.tried.weaken, ?_⟩
    have htried : none = some (Owner.container c.uid) ∨
        Attempted t.app.command.history (.container c.uid) sequence ∨
        c.Stuck (t.app.command.stampsOf c.uid) := by
      cases c with
      | response p => exact hdue.kept.tried.responses _ hheld.mem sequence hsequence
      | reboot r => exact hdue.kept.tried.reboot _ hheld.2 sequence hsequence
    rcases htried with hnone | hattempted | hstuck
    · cases hnone
    · exact .inr (.inl hattempted)
    · exact .inr (.inr ⟨c, _, rfl, hheld, hstuck⟩)
  | none =>
    have hstep : CommandStep boot t.net t.app _ :=
      .sequence c _ hheld hsequence hdue.kept.tried
    refine ⟨.board (.command hstep ⟨rfl, rfl, rfl, rfl⟩), hdue.sound, hdue.owed, ?_⟩
    exact ⟨⟨_, hheld.modify (f := fun s => { s with wireSequence := some t.app.command.nextSequence })
        rfl rfl, rfl, trivial⟩, hdue.kept.free, hdue.kept.connected,
      @Tried.modify t.app c.uid hdue.kept.tried.weaken
        (fun s => { s with wireSequence := some t.app.command.nextSequence }) _ rfl rfl rfl,
      .inl rfl⟩

/-- A permanent failure goes on record on the container. -/
theorem effects_recordFailure {failure : PermanentFailure} {P : Stamps → Prop}
    {X : Exc → Sys Board → Prop}
    (hP : ∀ stamps, stamps.wireSequence = some sequence → P stamps → Unsendable boot stamps)
    (hs : Owes none (Serving c sequence P) s.app) :
    Effects boot A (fun _ t => Owes none (Failing boot c) t.app) X
      (onApp (update (fun k => k.recordFailure c.uid failure))) s := by
  refine effects_update (fun t ht => ?_)
  have hserving := hs.beside serving_others ht
  obtain ⟨stamps, hheld, hsequence, hstamps⟩ := hserving.kept.held
  have hwhy := hP stamps hsequence hstamps
  refine ⟨.failed c stamps failure hheld hwhy, hserving.sound, hserving.owed, ?_⟩
  refine ⟨⟨_, hheld.modify (f := fun s => { s with permanentFailure := some failure }) rfl rfl, rfl, ?_⟩,
    hserving.kept.free, hserving.kept.tried.modify
      (f := fun s => { s with permanentFailure := some failure }) rfl rfl rfl⟩
  exact hwhy

def Prepared (boot : Boot) (c : Container) (sequence : Nat) : Option Bytes → Board → Prop
  | some body => Serving c sequence (fun stamps => stamps.payloadBytes = some body)
  | none => Failing boot c

theorem effects_responsePayload {X : Exc → Sys Board → Prop}
    (hX : ∀ e t, e.transport = false → X e t)
    (hs : Owes none (Serving c sequence (fun _ => True)) s.app) :
    Effects boot A (fun payload t => Owes none (Prepared boot c sequence payload) t.app) X
      (onApp (responsePayload boot c.uid c.content)) s := by
  unfold responsePayload
  rw [onApp_seq]
  refine effects_seq (Q := fun payload t =>
    Owes none (Serving c sequence (fun stamps => stamps.payloadBytes = payload)) t.app) ?_ ?_
  · refine effects_look (fun t ht => ?_)
    have hserving := hs.beside serving_others ht
    obtain ⟨⟨hsequence, -⟩, hheld⟩ := hserving.kept.held.stampsOf ht.2.numbered
    exact hserving.mono (fun h => { h with held := ⟨_, hheld, hsequence, rfl⟩ })
  intro payload t ht
  cases payload with
  | some payload => exact ht
  | none =>
    have hstage : ∀ {β : Type} {p : BoardProg β} {u : Sys Board}, Staged p →
        p.Raises (fun e => e.transport = false) →
        Owes none (Serving c sequence (fun stamps => stamps.payloadBytes = none)) u.app →
        Effects boot A (fun _ t =>
          Owes none (Serving c sequence (fun stamps => stamps.payloadBytes = none)) t.app) X
          (onApp p) u := fun hp hraises hu =>
      effects_staged serving_others (fun h hb => hb.backstage h) hp hraises hX hu
    dsimp only
    simp only [onApp_seq]
    refine effects_seq (hstage staged_uptimeMs
      (Proc.raises_atomic (fun _ _ _ he => by cases he)) ht) (fun uptime t ht => ?_)
    refine effects_seq (hstage staged_currentUtcTimestamp raises_currentUtcTimestamp ht)
      (fun timestamp t ht => ?_)
    refine effects_seq (hstage (Proc.steps_atomic (fun b _ => backstage_refl b))
      (Proc.raises_atomic (fun b i e he => ?_)) ht) (fun _ t ht => ?_)
    · by_cases hm : i.memoryError = true
      · simp only [hm, if_true] at he
        cases he
        rfl
      · simp [hm] at he
    have hfail : ∀ failure, Effects boot A
        (fun payload t => Owes none (Prepared boot c sequence payload) t.app) X
        (onApp (update (fun k => k.recordFailure c.uid failure)) >>= fun _ => pure none) t :=
      fun failure => effects_seq (effects_recordFailure (fun _ _ hnone => .inl hnone) ht)
        (fun _ _ h => h)
    cases hpayload : serializeAndValidateMessage (.dict (c.content.message uptime timestamp)) with
    | ok payload =>
      dsimp only
      rw [onApp_seq]
      refine effects_seq (Q := fun _ t =>
        Owes none (Prepared boot c sequence (some payload)) t.app) ?_ (fun _ _ h => h)
      refine effects_update (fun u hu => ?_)
      have hserving := ht.beside serving_others hu
      obtain ⟨stamps, hheld, hsequence, hnone⟩ := hserving.kept.held
      refine ⟨.frozen c stamps payload hheld hnone ⟨uptime, timestamp, hpayload⟩, hserving.sound,
        hserving.owed, ?_⟩
      refine ⟨⟨_, hheld.modify (f := fun s => { s with payloadBytes := some payload }) rfl rfl, hsequence,
        rfl⟩, hserving.kept.free, hserving.kept.connected, hserving.kept.tried.modify
        (f := fun s => { s with payloadBytes := some payload }) rfl rfl rfl, ?_⟩
      refine hserving.kept.turn.later rfl ⟨[], (List.append_nil _).symm⟩ (fun c' stamps' hc' => ?_)
      refine ⟨_, @Held.modified u.app c' stamps' hc' c.uid
        (fun s => { s with payloadBytes := some payload }) _ rfl rfl, ?_⟩
      by_cases huid : c'.uid = c.uid <;> simp [huid]
    | error err => cases err <;> exact hfail _

structure SpliceFailure (boot : Boot) (body : Bytes) (sequence : Nat) (H : Board → Prop) (e : Exc)
    (t : Sys Board) : Prop where
  ceiling : e.oversized = true → Owes none H t.app ∧
    MAX_OUTBOUND_MESSAGE_BYTES < wireLength body (boot.fragment sequence)
  transport : Unwinds (Tried none) e t

theorem effects_publishSpliced {owner : Owner} {topic : String} {H H' : Board → Prop}
    (hpub : wireLength body (boot.fragment sequence) ≤ MAX_OUTBOUND_MESSAGE_BYTES →
      Publishable boot (some (owner, sequence)) topic (.bytes body) (some (boot.fragment sequence))
        H H')
    (hrecord : ∀ b event, H' b → H' (b.withCommand (b.command.record event)))
    (htried : ∀ b, H' b → Tried none b) (hs : Owes none H s.app) :
    Effects boot A (fun _ t => Owes (some owner) H' t.app) (SpliceFailure boot body sequence H)
      (publishSpliced boot rounds owner topic body sequence) s := by
  refine effects_ite (fun hlarge => ⟨fun _ => ⟨hs, hlarge⟩, fun he => by cases he⟩) ?_
  intro hfits
  have hready := hpub (Nat.le_of_not_lt hfits)
  refine effects_seq (effects_mono (effects_publishQos1 hready hs) (fun _ _ h => h) ?_)
    (fun _ t ht => effects_completed hready.after hready.sends' hrecord ht)
  intro e t ht
  refine ⟨fun he => ?_, fun _ => ht.1.mono (htried _)⟩
  rw [ht.2] at he
  cases he

theorem effects_publishEntry {owner : Owner} {topic : String} {claim : BoardProg Nat}
    {X : Exc → Sys Board → Prop} {Q : Sys Board → Prop}
    (hX : ∀ m t, X (.valueError m) t)
    (h : body.getLast? = some 0x7D → Effects boot A (fun _ => Q) X (do
      let sequence ← onApp claim
      publishSpliced boot rounds owner topic body sequence) s) :
    Effects boot A (fun _ => Q) X (publishEntry boot rounds owner topic body claim) s :=
  effects_ite (fun _ => hX _ _) (fun hbrace => h (Decidable.not_not.mp hbrace))

theorem publishable_container (hbrace : body.getLast? = some 0x7D)
    (hfits : wireLength body (boot.fragment sequence) ≤ MAX_OUTBOUND_MESSAGE_BYTES) :
    Publishable boot (some (.container c.uid, sequence)) boot.config.topicCommandResponse
      (.bytes body) (some (boot.fragment sequence))
      (Serving c sequence (fun stamps => stamps.payloadBytes = some body))
      (Going c sequence body) where
  before := serving_others
  after := enduring_going
  connected := fun _ hb => .inl hb.connected
  sends := fun _ _ hb => by
    obtain ⟨stamps, hheld, hsequence, hbody⟩ := hb.held
    exact ⟨c, stamps, body, rfl, hheld, hsequence, hbody, rfl, rfl, rfl, hfits, hbrace⟩
  sends' := fun _ _ hb => by
    obtain ⟨stamps, hheld, hsequence, hbody⟩ := hb.held
    exact ⟨c, stamps, body, rfl, hheld, hsequence, hbody, rfl, rfl, rfl, hfits, hbrace⟩
  turn := fun _ _ _ hb heq => by
    cases heq
    exact hb.turn
  attempted := fun b startedMs horderly hb => by
    obtain ⟨stamps, hheld, hsequence, hbody⟩ := hb.held
    obtain ⟨honlyP, honlyR⟩ := hheld.only horderly.numbered
    refine ⟨InHand.record ⟨stamps, hheld, hsequence, hbody⟩ _, hb.free, hb.tried.attempted rfl ?_ ?_ ?_⟩
    · intro p hp howner m hm
      rw [honlyP p hp (Owner.container.inj howner).symm, hsequence] at hm
      exact (Option.some.inj hm).symm
    · intro r hr howner m hm
      rw [honlyR r hr (Owner.container.inj howner).symm, hsequence] at hm
      exact (Option.some.inj hm).symm
    · exact fun _ _ howner => by cases howner

def Answered (boot : Boot) (c : Container) (published : Bool) (b : Board) : Prop :=
  if published then ∃ sequence body, Owes (some (.container c.uid)) (Going c sequence body) b
  else Owes none (Failing boot c) b

theorem effects_publishContainer (hs : Owes none (Serving c sequence (fun _ => True)) s.app) :
    Effects boot A (fun published t => Answered boot c published t.app) (Unwinds (Tried none))
      (publishCore0CommandResponse boot rounds c.uid c.content sequence) s := by
  refine effects_seq (effects_responsePayload (fun e t he h => by rw [he] at h; cases h) hs) ?_
  intro payload t ht
  cases payload with
  | none => exact ht
  | some body =>
    have hserving : Owes none (Serving c sequence (fun stamps => stamps.payloadBytes = some body))
      t.app := ht
    have hentry : Effects boot A
        (fun _ t => Owes (some (.container c.uid)) (Going c sequence body) t.app)
        (SpliceFailure boot body sequence
          (Serving c sequence (fun stamps => stamps.payloadBytes = some body)))
        (publishEntry boot rounds (.container c.uid) boot.config.topicCommandResponse body
          (pure sequence)) t := by
      refine effects_publishEntry (fun _ _ => ⟨fun he => (by cases he), fun he => (by cases he)⟩) ?_
      intro hbrace
      exact effects_publishSpliced (fun hfits => publishable_container hbrace hfits)
        (fun _ event hb => hb.record event) (fun _ hb => hb.tried) hserving
    refine effects_handle (effects_seq hentry (fun _ u hu => ⟨sequence, body, hu⟩)) ?_
    intro e u hu
    have hthrow : e.oversized = false → Effects boot A (fun published t =>
        Answered boot c published t.app) (Unwinds (Tried none)) (throw e) u :=
      fun _ => hu.transport
    cases e with
    | messageTooLarge m =>
      obtain ⟨hready, hlarge⟩ := hu.ceiling rfl
      refine effects_seq (effects_recordFailure (fun stamps hsequence hbody =>
        .inr ⟨body, sequence, hbody, hsequence, hlarge⟩) hready) (fun _ _ h => h)
    | _ => exact hthrow rfl

def substituteOf (uid : Nat) (p : PendingResponse) (failure : PermanentFailure) :
    PendingResponse where
  uid
  response := substituteFor p.response.commandId p.response.targeted p.response.command failure

theorem Tried.release {owner : Owner} {b : Board} (hb : Tried (some owner) b)
    (hresponses : ∀ p ∈ b.command.pendingResponses, owner = .container p.uid →
      p.stamps.wireSequence = none ∨ (Container.response p).Stuck p.stamps)
    (hreboot : ∀ r, b.command.pendingReboot = some r → owner = .container r.uid →
      (Container.reboot r).Stuck r.stamps)
    (hentry : ∀ e, b.outbound.inFlight = some e → owner ≠ .entry e.ref) : Tried none b := by
  constructor
  · intro p hp n hn
    rcases hb.responses p hp n hn with heq | hrest
    · rcases hresponses p hp (Option.some.inj heq) with hnone | hstuck
      · rw [hnone] at hn
        cases hn
      · exact .inr (.inr hstuck)
    · exact .inr hrest
  · intro r hr n hn
    rcases hb.reboot r hr n hn with heq | hrest
    · exact .inr (.inr (hreboot r hr (Option.some.inj heq)))
    · exact .inr hrest
  · intro e he n hn
    rcases hb.entry e he n hn with heq | hrest
    · exact (hentry e he (Option.some.inj heq)).elim
    · exact .inr hrest

theorem effects_popPublished {p : PendingResponse} {X : Exc → Sys Board → Prop}
    (hs : Owes (some (.container p.uid)) (Going (.response p) sequence body) s.app) :
    Effects boot A (fun _ t => Owes none (Tried none) t.app) X
      (onApp (update (fun k => k.popPublished p))) s := by
  refine effects_update (fun t ht => ?_)
  have hgoing := hs.beside enduring_going.others ht
  obtain ⟨stamps, hheld, -⟩ := hgoing.kept.held
  have hstep : CommandStep boot t.net t.app (t.app.command.popPublished p) :=
    .answered p stamps hheld hgoing.owed
  refine ⟨hstep, hgoing.sound, ?_, ?_⟩
  · show owed (t.app.command.popPublished p).history = none
    unfold CommandState.popPublished
    by_cases hclears : p.clearsPendingReboot = true
    · cases hreboot : t.app.command.pendingReboot <;>
        simp [hclears, owed, CoreEvent.settle]
    · simp [hclears, owed, CoreEvent.settle]
  · refine hgoing.kept.tried.grow ?_ (fun p' hp' => .inl ?_) (fun r hr => .inl ?_)
      (fun _ he => .inl he)
    · show ∃ new, (t.app.command.popPublished p).history = _
      unfold CommandState.popPublished
      by_cases hclears : p.clearsPendingReboot = true
      · exact ⟨_, by simp [hclears]; rfl⟩
      · exact ⟨_, by simp [hclears]; rfl⟩
    · have hdrop : (t.app.command.popPublished p).pendingResponses =
          t.app.command.pendingResponses.drop 1 := by
        unfold CommandState.popPublished
        by_cases hclears : p.clearsPendingReboot = true <;> simp [hclears]
      exact List.mem_of_mem_drop (hdrop ▸ hp')
    · change (t.app.command.popPublished p).pendingReboot = some r at hr
      unfold CommandState.popPublished at hr
      by_cases hclears : p.clearsPendingReboot = true
      · simp [hclears] at hr
      · simpa [hclears] using hr

theorem effects_substituteHead {p : PendingResponse} {X : Exc → Sys Board → Prop}
    (hs : Owes none (Failing boot (.response p)) s.app) :
    Effects boot A (fun _ t => Owes none (Tried none) t.app) X
      (onApp (update (fun k => k.substituteHead p))) s := by
  refine effects_update (fun t ht => ?_)
  have hfailing := hs.beside enduring_failing.others ht
  obtain ⟨stamps, hheld, hfailed, hwhy⟩ := hfailing.kept.held
  have hstep : CommandStep boot t.net t.app (t.app.command.substituteHead p) :=
    .substituted p stamps hheld hfailing.owed hwhy
  have htried := hfailing.kept.tried
  have hstamps : t.app.command.stampsOf p.uid = stamps := hheld.stampsOf ht.2.numbered
  have honly := hheld.only ht.2.numbered
  have happart : ∀ r, t.app.command.pendingReboot = some r →
      Owner.container p.uid = .container r.uid → (Container.reboot r).Stuck r.stamps :=
    fun r hr howner => (ht.2.numbered.rebootApart r hr _ hheld.mem
      (Owner.container.inj howner)).elim
  obtain ⟨failure, hfailure⟩ := Option.isSome_iff_exists.mp hfailed
  by_cases hsub : isResponseSubstitute p.response = true
  · have hsame : t.app.command.substituteHead p = t.app.command := by
      unfold CommandState.substituteHead
      rw [hstamps, hfailure]
      simp [hsub]
    rw [hsame] at hstep ⊢
    refine ⟨hstep, hfailing.sound, hfailing.owed, htried.release ?_ happart
      (fun _ _ howner => by cases howner)⟩
    intro p' hp' howner
    have heq : p' = { p with stamps } := List.inj_on_of_nodup_map ht.2.numbered.nodup hp'
      hheld.mem (Owner.container.inj howner).symm
    rw [heq]
    exact .inr ⟨hsub, hfailed⟩
  · cases hresponses : t.app.command.pendingResponses with
    | nil => simp [Held, hresponses] at hheld
    | cons head rest =>
      have hhead : head = { p with stamps } := by simpa [Held, hresponses] using hheld
      have hnew : t.app.command.substituteHead p = { t.app.command with
          pendingResponses := substituteOf t.app.command.nextUid p failure :: rest
          nextUid := t.app.command.nextUid + 1
          history := t.app.command.history ++ [.substituted p.uid t.app.command.nextUid] } := by
        unfold CommandState.substituteHead
        rw [hstamps, hfailure, hresponses]
        simp [hsub, substituteOf]
      rw [hnew] at hstep ⊢
      have hmem : ∀ p' ∈ rest, p' ∈ t.app.command.pendingResponses := fun p' hp' => by
        rw [hresponses]
        exact List.mem_cons_of_mem _ hp'
      refine ⟨hstep, hfailing.sound, (owed_snoc _ _).trans hfailing.owed, ?_⟩
      refine Tried.release ?_ ?_ happart (fun _ _ howner => by cases howner)
      · refine htried.grow ⟨_, rfl⟩ (fun p' hp' => ?_) (fun _ hr => .inl hr) (fun _ he => .inl he)
        rcases List.mem_cons.mp hp' with rfl | hp'
        · exact .inr rfl
        · exact .inl (hmem p' hp')
      · intro p' hp' howner
        rcases List.mem_cons.mp hp' with rfl | hp'
        · exact .inl rfl
        · have hnodup := ht.2.numbered.nodup
          rw [hresponses, List.map_cons, List.nodup_cons] at hnodup
          refine (hnodup.1 (List.mem_map.mpr ⟨p', hp', ?_⟩)).elim
          rw [hhead]
          exact (Owner.container.inj howner).symm

abbrev Idle (t : Sys Board) : Prop := Owes none (Tried none) t.app

abbrev Idling (boot : Boot) (A : NetInput CoreInput → Prop) (p : CoreProg α) (s : Sys Board) :
    Prop := Effects boot A (fun _ => Idle) (Unwinds (Tried none)) p s

theorem idling_of_keeping {p : CoreProg α} (h : Keeping A Beside (CoreStep boot) Idle p s) :
    Idling boot A p s := effects_mono h (fun _ _ h => h) (fun _ _ h _ => h)

theorem idling_ignoreTransport {p : CoreProg Unit} (h : Idling boot A p s) :
    Idling boot A (ignoreTransport p) s :=
  effects_handle h (fun _ _ hu => effects_ite (fun he => hu he) (fun _ => hu))

structure Cleared (b : Board) : Prop where
  free : b.outbound.inFlight = none
  connected : b.core0.mqtt.isConnected = true
  tried : Tried none b

theorem cleared_others : Undisturbed Cleared := fun _ _ h hb =>
  ⟨h.inFlight.trans hb.free, (congrArg (·.mqtt.isConnected) h.core0).trans hb.connected,
    hb.tried.others h⟩

theorem idling_servicePending (hs : Owes none Cleared s.app) :
    Idling boot A (servicePendingCore0Response boot rounds) s := by
  refine effects_seq (Q := fun head t => Idle t ∧ ∀ pending, head = some pending →
    Owes none (Due (.response pending)) t.app) ?_ ?_
  · refine effects_look (fun t ht => ?_)
    have hcleared := hs.beside cleared_others ht
    exact ⟨hcleared.mono (fun h => h.tried), fun pending hhead => hcleared.mono (fun h =>
      ⟨⟨pending.stamps, hhead, trivial⟩, h.free, h.connected, h.tried⟩)⟩
  · intro head t ht
    cases head with
    | none => exact ht.1
    | some pending =>
      refine effects_seq (effects_claim (ht.2 pending rfl)) (fun sequence t ht => ?_)
      refine effects_seq (effects_publishContainer ht) (fun published t ht => ?_)
      cases published with
      | true =>
        obtain ⟨sequence, body, hgoing⟩ := ht
        exact effects_popPublished hgoing
      | false => exact effects_substituteHead ht

theorem idling_serviceResponses (hs : Idle s) :
    Idling boot A (serviceResponses boot rounds) s := by
  refine effects_seq (Q := fun isOpen t => Idle t ∧ (isOpen = true → Cleared t.app)) ?_ ?_
  · refine effects_look (fun t ht => ?_)
    have hidle : Idle t := hs.beside enduring_tried.others ht
    refine ⟨hidle, fun hopen => ?_⟩
    simp only [Bool.and_eq_true] at hopen
    exact ⟨by simpa [OutboundQueue.hasInFlight] using hopen.1.2, hopen.1.1.1, hidle.kept⟩
  · rintro isOpen t ⟨ht, hopen⟩
    refine effects_ite (fun h => idling_ignoreTransport (idling_servicePending ?_)) (fun _ => ht)
    exact ht.mono (fun _ => hopen h)

theorem CommandState.answerUnsentReboot_cases (k : CommandState) (request : RebootRequest) :
    k.answerUnsentReboot request = k ∨ ∃ failure,
      (k.stampsOf request.uid).permanentFailure = some failure ∧ k.queueFull = false ∧
      k.answerUnsentReboot request = { k with
        pendingResponses := k.pendingResponses ++ [{
          uid := k.nextUid
          response := substituteFor request.commandId request.targeted (some COMMAND_REBOOT) failure
          clearsPendingReboot := true }]
        pendingReboot := k.pendingReboot.map (fun pending =>
          if pending.uid = request.uid then { pending with permanentFailureAnswerQueued := true }
          else pending)
        nextUid := k.nextUid + 1
        history := k.history ++ [.rebootSubstituted request.uid k.nextUid] } := by
  unfold CommandState.answerUnsentReboot CommandState.queueResponse
  cases (k.stampsOf request.uid).permanentFailure with
  | none => exact .inl rfl
  | some failure =>
    by_cases hfull : k.queueFull = true
    · exact .inl (by simp [hfull])
    · exact .inr ⟨failure, rfl, by simpa using hfull, by simp [hfull]⟩

theorem effects_answerUnsentReboot {r : RebootRequest} {X : Exc → Sys Board → Prop}
    (hs : Owes none (Failing boot (.reboot r)) s.app) :
    Effects boot A (fun _ => Idle) X (onApp (update (fun k => k.answerUnsentReboot r))) s := by
  refine effects_update (fun t ht => ?_)
  have hfailing := hs.beside enduring_failing.others ht
  obtain ⟨stamps, hheld, hfailed, hwhy⟩ := hfailing.kept.held
  have hstep : CommandStep boot t.net t.app (t.app.command.answerUnsentReboot r) :=
    .rebootSubstituted r stamps hheld hfailing.owed hwhy
  have hresponses : ∀ p ∈ t.app.command.pendingResponses, r.uid ≠ p.uid := fun p hp heq =>
    ht.2.numbered.rebootApart _ hheld.2 p hp heq.symm
  have hreboot : t.app.command.pendingReboot = some { r with stamps } := hheld.2
  rcases t.app.command.answerUnsentReboot_cases r with hsame | ⟨failure, -, -, hnew⟩
  · rw [hsame] at hstep ⊢
    refine ⟨hstep, hfailing.sound, hfailing.owed, hfailing.kept.tried.release ?_ ?_
      (fun _ _ howner => by cases howner)⟩
    · exact fun p hp howner => (hresponses p hp (Owner.container.inj howner)).elim
    · intro r' hr' _
      rw [show r' = { r with stamps } from Option.some.inj (hr'.symm.trans hreboot)]
      exact hfailed
  · rw [hnew] at hstep ⊢
    refine ⟨hstep, hfailing.sound, (owed_snoc _ _).trans hfailing.owed, ?_⟩
    refine @Tried.release (.container r.uid) _ ?_ ?_ ?_ (fun _ _ howner => by cases howner)
    · constructor
      · intro p hp n hn
        rcases List.mem_append.mp hp with hp | hp
        · exact (hfailing.kept.tried.responses p hp n hn).imp id (Or.imp Attempted.more id)
        · rw [List.mem_singleton.mp hp] at hn
          cases hn
      · intro r' hr' n hn
        obtain ⟨r₀, hr₀, rfl⟩ := Option.map_eq_some_iff.mp hr'
        by_cases huid : r₀.uid = r.uid
        · exact .inl (by simp [huid])
        · simp only [huid, if_false] at hn ⊢
          exact (hfailing.kept.tried.reboot r₀ hr₀ n hn).imp id (Or.imp Attempted.more id)
      · exact fun e he n hn =>
          (hfailing.kept.tried.entry e he n hn).imp id Attempted.more
    · intro p hp howner
      rcases List.mem_append.mp hp with hp | hp
      · exact (hresponses p hp (Owner.container.inj howner)).elim
      · rw [List.mem_singleton.mp hp]
        exact .inl rfl
    · intro r' hr' _
      obtain ⟨r₀, hr₀, rfl⟩ := Option.map_eq_some_iff.mp hr'
      rw [show r₀ = { r with stamps } from Option.some.inj (hr₀.symm.trans hreboot)]
      simpa [Container.Stuck] using hfailed

structure Resetting (uid : Nat) (b : Board) : Prop where
  started : .rebooting uid ∈ b.command.history
  free : b.outbound.inFlight = none
  tried : Tried none b

theorem enduring_resetting {uid : Nat} : Enduring (Resetting uid) where
  others := fun _ _ h hb => ⟨h.command ▸ hb.started, h.inFlight.trans hb.free, hb.tried.others h⟩
  aside := fun h hb => by
    obtain ⟨new, hnew, -⟩ := h.history
    refine ⟨?_, h.outbound ▸ hb.free, hb.tried.aside h⟩
    rw [hnew]
    exact List.mem_append_left _ hb.started

theorem effects_startReboot {r : RebootRequest} {X : Exc → Sys Board → Prop}
    (hs : Owes (some (.container r.uid)) (Going (.reboot r) sequence body) s.app) :
    Effects boot A (fun _ t => Owes none (Resetting r.uid) t.app) X
      (onApp (update (fun k => k.startReboot r))) s := by
  refine effects_update (fun t ht => ?_)
  have hgoing := hs.beside enduring_going.others ht
  obtain ⟨stamps, hheld, -⟩ := hgoing.kept.held
  refine ⟨.rebooting r stamps hheld hgoing.owed hgoing.kept.free, hgoing.sound, ?_,
    by simp [Board.withCommand, Board.command, CommandState.startReboot], hgoing.kept.free, ?_⟩
  · exact owed_snoc _ _
  · exact hgoing.kept.tried.grow ⟨_, rfl⟩ (fun _ hp => .inl hp) (fun _ hr => by cases hr)
      (fun _ he => .inl he)

theorem effects_machineReset {uid : Nat} {Q : Unit → Sys Board → Prop} {X : Exc → Sys Board → Prop}
    (hs : Owes none (Resetting uid) s.app) :
    Effects boot A Q X (onApp (machineReset (some uid))) s := by
  unfold machineReset
  rw [onApp_seq]
  refine effects_seq (Q := fun _ _ => True) ?_ (fun _ _ _ => trivial)
  refine effects_update (fun t ht => ?_)
  have hresetting := hs.beside enduring_resetting.others ht
  exact ⟨.reset uid hresetting.kept.started hresetting.kept.free, trivial⟩

structure Requested (r : RebootRequest) (b : Board) : Prop where
  pending : b.command.pendingReboot = some r
  connected : b.core0.mqtt.isConnected = true
  tried : Tried none b

theorem requested_others {r : RebootRequest} : Undisturbed (Requested r) := fun _ _ h hb =>
  ⟨h.command ▸ hb.pending, (congrArg (·.mqtt.isConnected) h.core0).trans hb.connected,
    hb.tried.others h⟩

theorem effects_publishReboot {r : RebootRequest} (hs : Owes none (Due (.reboot r)) s.app) :
    Effects boot A (fun result t => (result = none → Idle t) ∧ ∀ published,
        result = some published → Answered boot (.reboot r) published t.app)
      (Unwinds (Tried none)) (publishRebootAcknowledgement boot rounds r) s := by
  refine effects_handle (X := Unwinds (Tried none)) ?_ (fun e t ht => ?_)
  · refine effects_seq (effects_claim hs) (fun sequence t ht => ?_)
    refine effects_seq (effects_publishContainer ht) (fun published t ht => ⟨fun h => ?_, ?_⟩)
    · cases h
    · intro published' h
      cases h
      exact ht
  · exact effects_ite (fun he => ⟨fun _ => ht he, fun _ h => by cases h⟩) (fun _ => ht)

theorem idling_performReboot (hs : Owes none (fun b => b.core0.mqtt.isConnected = true ∧
    Tried none b) s.app) : Idling boot A (performReboot boot rounds) s := by
  have hstable : Undisturbed (fun b => b.core0.mqtt.isConnected = true ∧ Tried none b) :=
    fun _ _ h hb => ⟨(congrArg (·.mqtt.isConnected) h.core0).trans hb.1, hb.2.others h⟩
  refine effects_seq (Q := fun pending t => Idle t ∧ ∀ r, pending = some r →
    Owes none (Requested r) t.app) ?_ ?_
  · refine effects_look (fun t ht => ?_)
    have hknown := hs.beside hstable ht
    exact ⟨hknown.mono (fun h => h.2), fun r hpending => hknown.mono (fun h =>
      ⟨hpending, h.1, h.2⟩)⟩
  intro pending t ht
  cases pending with
  | none => exact ht.1
  | some r =>
    replace ht := ht.2 r rfl
    refine effects_seq (Q := fun busy t => Owes none (Requested r) t.app ∧
      (busy = false → t.app.outbound.inFlight = none)) ?_ ?_
    · refine effects_look (fun u hu => ?_)
      refine ⟨Owes.beside requested_others ht hu, fun hbusy => ?_⟩
      simpa [OutboundQueue.hasInFlight] using hbusy
    rintro busy t ⟨ht, hfree⟩
    refine effects_ite (fun _ => ht.mono (fun h => h.tried)) (fun hidle => ?_)
    refine effects_ite (fun _ => ht.mono (fun h => h.tried)) (fun hanswered => ?_)
    have hdue : Owes none (Due (.reboot r)) t.app := ht.mono (fun h =>
      ⟨⟨r.stamps, ⟨by simpa using hanswered, h.pending⟩, trivial⟩, hfree (by simpa using hidle),
        h.connected, h.tried⟩)
    refine effects_seq (effects_publishReboot hdue) (fun result t ht => ?_)
    cases result with
    | none => exact ht.1 rfl
    | some published =>
      replace ht := ht.2 published rfl
      cases published with
      | false => exact effects_answerUnsentReboot ht
      | true =>
        obtain ⟨sequence, body, hgoing⟩ := ht
        refine effects_seq (effects_startReboot hgoing) (fun _ t ht => ?_)
        refine effects_seq (effects_mono (effects_upkeep enduring_resetting upkeep_sleepSliced ht)
          (fun _ _ h => h) (fun _ _ h _ => h.mono (fun h => h.tried)))
          (fun _ t ht => effects_machineReset ht)

theorem idling_rebootIfDue (hs : Idle s) : Idling boot A (rebootIfDue boot rounds) s := by
  refine effects_seq (Q := fun due t => Idle t ∧
    (due = true → t.app.core0.mqtt.isConnected = true)) ?_ ?_
  · refine effects_look (fun t ht => ⟨hs.beside enduring_tried.others ht, fun hdue => ?_⟩)
    simp only [Bool.and_eq_true] at hdue
    exact hdue.1.2
  · rintro due t ⟨ht, hdue⟩
    exact effects_ite (fun h => idling_performReboot (ht.mono (fun htried => ⟨hdue h, htried⟩)))
      (fun _ => ht)

end Publishing
end PicoDualCore
