import PicoDualCore.Core0Books
import PicoDualCore.PublishRaises
import PicoDualCore.ScheduleSteps
set_option autoImplicit false

/-!
Every step of Core 0, from power-on, is one of `CoreStep`: the walk through its program, with what
is known of the containers and of the entry in flight at each point.
-/

namespace PicoDualCore
open AtomicProgram MqttClient

section Still

variable {α β : Type}

abbrev Still (p : BoardProg α) : Prop := p.Steps AsideStep

theorem Upkeep.still {p : BoardProg α} (h : Upkeep p) : Still p :=
  Proc.steps_of_wp (fun b => Proc.wp_mono (h b) (fun _ _ hs => hs.aside) (fun _ _ h => h)
    (fun _ _ h => h))

theorem still_quiet {f : Board → CoreInput → Except Exc α × Board} (h : ∀ b i, Quiet b (f b i).2) :
    Still (.atomic f) := Proc.steps_atomic (fun b i => .quiet (h b i))

theorem still_look {f : Board → α} : Still (look f) := still_quiet (fun b _ => .refl b)

theorem still_utcSyncDue {boot : Boot} : Still (utcSyncDue boot) := by
  refine Proc.steps_bind still_look (fun snapshot => ?_)
  cases snapshot with
  | none => trivial
  | some snapshot => exact Proc.steps_bind upkeep_uptimeMs.still (fun _ => trivial)

theorem still_utcShouldSendRequest {boot : Boot} : Still (utcShouldSendRequest boot) := by
  refine Proc.steps_bind still_look (fun _ => Proc.steps_ite trivial ?_)
  refine Proc.steps_bind still_utcSyncDue (fun _ => Proc.steps_ite trivial ?_)
  exact Proc.steps_bind still_look (fun _ => trivial)

theorem still_utcDeadlinePassed : Still utcDeadlinePassed := by
  refine still_quiet (fun b _ => ?_)
  cases b.core0.utcRequestDeadlineMs <;> exact .refl b

theorem still_clearPending : Still (adjust (fun c _ => c.utcClearPending)) :=
  still_quiet (fun _ _ => ⟨rfl, rfl, rfl, id⟩)

theorem still_utcRequestExpired : Still utcRequestExpired := by
  refine Proc.steps_bind still_look (fun _ => Proc.steps_ite ?_ trivial)
  exact Proc.steps_bind still_utcDeadlinePassed
    (fun _ => Proc.steps_ite still_clearPending trivial)

theorem still_utcDisarm : Still utcDisarm := still_quiet (fun _ _ => ⟨rfl, rfl, rfl, id⟩)

theorem still_utcNoteSent {boot : Boot} : Still (utcNoteSent boot) :=
  still_quiet (fun _ _ => ⟨rfl, rfl, rfl, id⟩)

theorem still_noteCommandPolled {nowMs : Nat} : Still (noteCommandPolled nowMs) :=
  still_quiet (fun _ _ => ⟨rfl, rfl, rfl, id⟩)

theorem still_touchPublished : Still Mqtt.touchPublished :=
  still_quiet (fun _ _ => ⟨rfl, rfl, rfl, id⟩)

theorem still_publishUtcSnapshot : Still publishUtcSnapshot := by
  refine still_quiet (fun b _ => ?_)
  dsimp only
  cases b.core0.utcSnapshot <;> exact ⟨rfl, rfl, rfl, id⟩

theorem still_armWatchdog : Still (adjust (fun c _ => { c with watchdogArmed := true })) :=
  still_quiet (fun _ _ => ⟨rfl, rfl, rfl, id⟩)

end Still

structure Enduring (H : Board → Prop) : Prop where
  others : Undisturbed H
  aside : ∀ {b b'}, AsideStep b b' → H b → H b'

structure Owes (owner : Option Owner) (H : Board → Prop) (b : Board) : Prop where
  sound : b.disk.dir.Sound firmwareRules
  owed : owed b.command.history = owner
  kept : H b

def Framed (K : Network → Prop) : Prop :=
  ∀ {n n' : Network}, n'.events = n.events → n'.sock = n.sock → K n → K n'

def Beside (s t : Sys Board) : Prop := Around s t ∧ Orderly t.app

section Known

variable {H : Board → Prop} {owner : Option Owner} {b b' : Board} {s t : Sys Board}

theorem Owes.others (hH : Undisturbed H) (hb : Owes owner H b) (h : Others b b') :
    Owes owner H b' :=
  ⟨h.disk ▸ hb.sound, h.command ▸ hb.owed, hH _ _ h hb.kept⟩

theorem Owes.aside (hH : Enduring H) (hb : Owes owner H b) (h : AsideStep b b') :
    Owes owner H b' := by
  obtain ⟨new, hnew, hquiet⟩ := h.history
  refine ⟨h.sound hb.sound, ?_, hH.aside h hb.kept⟩
  rw [hnew, owed_aside hquiet]
  exact hb.owed

theorem Owes.mono {H' : Board → Prop} (hb : Owes owner H b) (h : H b → H' b) : Owes owner H' b :=
  ⟨hb.sound, hb.owed, h hb.kept⟩

theorem Owes.beside (hH : Undisturbed H) (hs : Owes owner H s.app) (h : Beside s t) :
    Owes owner H t.app := hs.others hH h.1.board

theorem Framed.beside {K : Network → Prop} (hK : Framed K) (hs : K s.net) (h : Beside s t) :
    K t.net := hK h.1.peer.events h.1.peer.sock hs

theorem framed_true : Framed (fun _ => True) := fun _ _ h => h

theorem apart_beside : Apart Beside := fun _ _ h => ⟨h.1.peer.events, h.1.peer.sock⟩

end Known

section Rules

variable {boot : Boot} {rounds : Nat} {A : NetInput CoreInput → Prop} {H H' : Board → Prop}
  {K : Network → Prop} {owner : Option Owner} {s : Sys Board} {α β : Type}

abbrev Effects (boot : Boot) (A : NetInput CoreInput → Prop) (Q : α → Sys Board → Prop)
    (X : Exc → Sys Board → Prop) (p : CoreProg α) (s : Sys Board) : Prop :=
  p.wp A Beside (CoreStep boot) Q X s

theorem effects_seq {Q : α → Sys Board → Prop} {Q' : β → Sys Board → Prop}
    {X : Exc → Sys Board → Prop} {p : CoreProg α} {f : α → CoreProg β} (hp : Effects boot A Q X p s)
    (hf : ∀ a t, Q a t → Effects boot A Q' X (f a) t) : Effects boot A Q' X (p >>= f) s :=
  (Proc.wp_seq _ _ _).mpr (Proc.wp_mono hp (fun _ _ h => h) hf (fun _ _ h => h))

theorem effects_mono {Q Q' : α → Sys Board → Prop} {X X' : Exc → Sys Board → Prop}
    {p : CoreProg α} (hp : Effects boot A Q X p s) (hQ : ∀ a t, Q a t → Q' a t)
    (hX : ∀ e t, X e t → X' e t) : Effects boot A Q' X' p s :=
  Proc.wp_mono hp (fun _ _ h => h) hQ hX

theorem effects_handle {Q : α → Sys Board → Prop} {X X' : Exc → Sys Board → Prop}
    {p : CoreProg α} {h : Exc → CoreProg α} (hp : Effects boot A Q X p s)
    (hh : ∀ e t, X e t → Effects boot A Q X' (h e) t) : Effects boot A Q X' (p.handle h) s :=
  (Proc.wp_handle _ _ _).mpr (Proc.wp_mono hp (fun _ _ h => h) (fun _ _ h => h) hh)

theorem effects_ite {Q : α → Sys Board → Prop} {X : Exc → Sys Board → Prop} {c : Prop}
    [Decidable c] {p q : CoreProg α} (hp : c → Effects boot A Q X p s)
    (hq : ¬ c → Effects boot A Q X q s) : Effects boot A Q X (if c then p else q) s := by
  by_cases h : c
  · rw [if_pos h]
    exact hp h
  · rw [if_neg h]
    exact hq h

theorem effects_onApp {p : BoardProg α} {Q : α → Board → Prop} {X : Exc → Board → Prop}
    (hH : Enduring H) (hK : Framed K) (hs : Owes owner H s.app) (hn : K s.net)
    (hp : p.wp (fun _ => True) Others AsideStep Q X s.app) :
    Effects boot A (fun a t => (Owes owner H t.app ∧ K t.net) ∧ Q a t.app)
      (fun _ t => Owes owner H t.app ∧ K t.net) (onApp p) s := by
  refine Proc.wp_zoom (J := fun t => Owes owner H t.app ∧ K t.net) (fun _ _ => trivial) ?_ ?_ ?_ ?_
    ⟨hs, hn⟩ hp
  · exact fun t u ht hr => ⟨hr.1.board, ht.1.beside hH.others hr, hK.beside ht.2 hr⟩
  · exact fun t b ht hb => ⟨.board (.aside hb), ⟨ht.1.aside hH hb, ht.2⟩, rfl⟩
  · exact fun _ _ ht hQ => ⟨ht, hQ⟩
  · exact fun _ _ ht _ => ht

theorem effects_still {p : BoardProg α} (hH : Enduring H) (hp : Still p)
    (hs : Owes owner H s.app) :
    Keeping A Beside (CoreStep boot) (fun t => Owes owner H t.app) (onApp p) s :=
  effects_mono (effects_onApp hH framed_true hs trivial
    (Proc.wp_steps hp s.app))
    (fun _ _ h => h.1.1) (fun _ _ h => h.1)

theorem effects_upkeep {p : BoardProg α} (hH : Enduring H) (hp : Upkeep p)
    (hs : Owes owner H s.app) :
    Keeping A Beside (CoreStep boot) (fun t => Owes owner H t.app) (onApp p) s :=
  effects_still hH hp.still hs

theorem effects_look {f : Board → α} {Q : α → Sys Board → Prop} {X : Exc → Sys Board → Prop}
    (h : ∀ t, Beside s t → Q (f t.app) t) : Effects boot A Q X (onApp (look f)) s :=
  wp_onApp_atomic (fun t ht _ _ => ⟨.board (.aside (.refl t.app)), h t ht⟩)

theorem effects_onState {f : CommandState → α × CommandState} {Q : α → Sys Board → Prop}
    {X : Exc → Sys Board → Prop}
    (h : ∀ t, Beside s t → CommandStep boot t.net t.app (f t.app.command).2 ∧
      Q (f t.app.command).1 { t with app := t.app.withCommand (f t.app.command).2 }) :
    Effects boot A Q X (onApp (onState f)) s := by
  refine wp_onApp_atomic (fun t ht _ _ => ?_)
  obtain ⟨hstep, hQ⟩ := h t ht
  exact ⟨.board (.command hstep ⟨rfl, rfl, rfl, rfl⟩), hQ⟩

theorem effects_update {f : CommandState → CommandState} {Q : Unit → Sys Board → Prop}
    {X : Exc → Sys Board → Prop}
    (h : ∀ t, Beside s t → CommandStep boot t.net t.app (f t.app.command) ∧
      Q () { t with app := t.app.withCommand (f t.app.command) }) :
    Effects boot A Q X (onApp (update f)) s :=
  effects_onState (f := fun k => ((), f k)) h

theorem clientRule_owes (hH : Enduring H) (hK : Framed K)
    (hstep : ∀ {n n'}, ClientStep n n' → K n → K n') :
    ClientRule (Mqtt.host boot) A Beside (CoreStep boot)
      (fun t => Owes owner H t.app ∧ K t.net) where
  stable := fun ht hs => ⟨hs.1.beside hH.others ht, hK.beside hs.2 ht⟩
  step := fun hs h => ⟨.client h, hs.1, hstep h hs.2⟩
  hook := fun {s} hs => effects_mono (effects_onApp hH hK hs.1 hs.2
    (Proc.wp_steps upkeep_serviceWait.still s.app))
    (fun _ _ h => h.1) (fun _ _ h => h)
  callback := fun {s} topic payload hs _ => by
    have hmessage := @delivers_message (fun _ => True) boot s.app topic payload hs.1.sound
    exact effects_mono (effects_onApp hH hK hs.1 hs.2
      (Proc.wp_rely hmessage (fun _ _ _ _ => trivial) (fun _ _ h => h)))
      (fun _ _ h => h.1) (fun _ _ h => h)

theorem sessionRule_owes (hH : Enduring H) :
    SessionRule (Mqtt.host boot) A Beside (CoreStep boot) (fun t => Owes owner H t.app) := by
  have hrule : ClientRule (Mqtt.host boot) A Beside (CoreStep boot)
      (fun t => Owes owner H t.app ∧ True) := clientRule_owes hH framed_true (fun _ h => h)
  simp only [and_true] at hrule
  exact { hrule with session := fun hs h => ⟨.session h, hs⟩ }

theorem linkRule_owes (hH : Enduring H) :
    LinkRule boot rounds A Beside (CoreStep boot) (fun t => Owes owner H t.app) :=
  LinkRule.ofSession (sessionRule_owes hH) (fun hp hs => effects_upkeep hH hp hs)

def Trying (H : Board → Prop) (a : Attempt) (b : Board) : Prop :=
  H b ∧ lastAttempt b.command.history = some a

theorem enduring_trying (hH : Enduring H) (a : Attempt) : Enduring (Trying H a) where
  others := fun b b' h hb => ⟨hH.others b b' h hb.1, h.command ▸ hb.2⟩
  aside := fun {b b'} h hb => by
    obtain ⟨new, hnew, hquiet⟩ := h.history
    refine ⟨hH.aside h hb.1, ?_⟩
    rw [lastAttempt, hnew, attempts_append, attempts_aside hquiet, List.append_nil]
    exact hb.2

theorem sendRule_owes (hH : Enduring H) {a : Attempt} {o : Owner} {before : List SocketEvent}
    {sock : Option Nat} {total : Bytes} (hsends : ∀ b, H b → Sends boot b a)
    (howner : a.tag.map Prod.fst = some o) :
    SendRule (Mqtt.host boot) A Beside (CoreStep boot) (some o) total
      (fun sent t => Owes none (Trying H a) t.app ∧ Exchange o before sock sent t.net) where
  rule := fun _ => clientRule_owes (enduring_trying hH a)
    (fun hevents hsock h => h.same hsock hevents) (fun hstep h => hstep.exchange h)
  owned := fun {sent s} bytes answer _ hs => by
    obtain ⟨part, hpart, hexchange, hall⟩ := hs.2.write bytes answer
    refine ⟨.owned o bytes answer a hs.1.kept.2 howner (hsends _ hs.1.kept.1) hs.1.owed, ?_⟩
    cases hout : (s.net.write (some o) bytes answer).1 with
    | ok done => exact ⟨hs.1, hall hout ▸ hexchange⟩
    | error e => exact ⟨part, hpart, hs.1, hexchange⟩

/-- A publish of the client that returns has been acknowledged. -/
theorem effects_clientPublish (hH : Enduring H) {a : Attempt} {packetId timeoutMs : Option Nat}
    (hsends : ∀ b, H b → Sends boot b a) (hpid : a.tag.isSome = true → packetId = none)
    (hs : Owes none (Trying H a) s.app) :
    Effects boot A (fun _ t => Owes none (Trying H a) t.app ∧ Acked a t.net.events)
      (fun _ t => Owes none (Trying H a) t.app)
      (publish (Mqtt.host boot) rounds (a.tag.map Prod.fst) a.topic.toList a.message packetId
        timeoutMs a.fragment) s := by
  have hsession : SessionRule (Mqtt.host boot) A Beside (CoreStep boot)
      (fun t => Owes none (Trying H a) t.app) := sessionRule_owes (enduring_trying hH a)
  have hclient := hsession.toClientRule
  cases htag : a.tag with
  | none =>
    have hwrite : ∀ bytes t, Owes none (Trying H a) t.app → Keeping A Beside (CoreStep boot)
        (fun t => Owes none (Trying H a) t.app) (MqttClient.write (Mqtt.host boot) none bytes) t :=
      fun bytes t ht => hclient.exchange.write bytes ht
    refine effects_mono (hclient.publish hwrite hs) (fun _ t ht => ⟨ht, ?_⟩) (fun _ _ h => h)
    intro o sequence heq
    rw [htag] at heq
    cases heq
  | some named =>
    obtain ⟨o, sequence⟩ := named
    obtain rfl : packetId = none := hpid (by rw [htag]; rfl)
    rw [Option.map_some, publish_none]
    refine effects_ite (fun _ => hs) (fun _ => ?_)
    refine effects_seq (hclient.exchange.nextPacketId hs) (fun pid t ht => ?_)
    have hsend : SendRule (Mqtt.host boot) A Beside (CoreStep boot) (some o)
        (frame a.topic.toList a.message pid a.fragment)
        (fun sent u => Owes none (Trying H a) u.app ∧
          Exchange o t.net.events t.net.sock sent u.net) :=
      sendRule_owes hH hsends (by rw [htag]; rfl)
    refine effects_mono (hsend.publish_acknowledged apart_beside rfl ⟨ht, Exchange.start o t.net⟩)
      (fun _ u hu => ⟨hu.1.1, ?_⟩) (fun _ u hu => ?_)
    · intro o' sequence' heq
      rw [htag] at heq
      cases heq
      exact ackedFrame (fun _ hJ => hJ.2) hu
    · obtain ⟨_, _, hu⟩ := hu
      exact hu.1

structure Publishable (boot : Boot) (tag : Option (Owner × Nat)) (topic : String)
    (message : Payload) (fragment : Option Bytes) (H H' : Board → Prop) : Prop where
  before : Undisturbed H
  after : Enduring H'
  connected : ∀ b, H b → b.core0.mqtt.isConnected = true ∨ H' b
  sends : ∀ b startedMs, H b → Sends boot b ⟨tag, topic, message, fragment, startedMs⟩
  sends' : ∀ b startedMs, H' b → Sends boot b ⟨tag, topic, message, fragment, startedMs⟩
  turn : ∀ b owner n, H b → tag = some (owner, n) → OnTurn b owner n
  attempted : ∀ b startedMs, Orderly b → H b →
    H' (b.withCommand (b.command.record (.attempt ⟨tag, topic, message, fragment, startedMs⟩)))

variable {tag : Option (Owner × Nat)} {topic : String} {message : Payload}
  {fragment : Option Bytes}

def Published (tag : Option (Owner × Nat)) (topic : String) (message : Payload)
    (fragment : Option Bytes) (H : Board → Prop) (t : Sys Board) : Prop :=
  ∃ startedMs, Owes none (Trying H ⟨tag, topic, message, fragment, startedMs⟩) t.app ∧
    Acked ⟨tag, topic, message, fragment, startedMs⟩ t.net.events

theorem effects_attempting (hpub : Publishable boot tag topic message fragment H H')
    (hs : Owes none H s.app) {X : Exc → Sys Board → Prop} :
    Effects boot A (fun _ t => ∃ startedMs, Owes none (Trying H' ⟨tag, topic, message, fragment,
        startedMs⟩) t.app) X (onApp (Mqtt.attempting tag topic message fragment)) s := by
  refine wp_onApp_atomic (fun t ht _ _ => ?_)
  have hknown := hs.beside hpub.before ht
  let a : Attempt := ⟨tag, topic, message, fragment, t.app.nowMs⟩
  have hstep : CommandStep boot t.net t.app (t.app.command.record (.attempt a)) :=
    .attempt a (hpub.sends _ _ hknown.kept) hknown.owed
      (fun owner n htag => hpub.turn _ owner n hknown.kept htag)
  have hnoted : Owes none (Trying H' a) (t.app.withCommand (t.app.command.record (.attempt a))) := by
    refine ⟨hknown.sound, ?_, hpub.attempted _ _ ht.2 hknown.kept, ?_⟩
    · exact (owed_snoc _ _).trans hknown.owed
    · simp [lastAttempt, Board.withCommand, Board.command, CommandState.record, attempts,
        CoreEvent.attempt?]
  refine ⟨.board (.command hstep ⟨rfl, rfl, rfl, rfl⟩), t.app.nowMs, ?_⟩
  exact hnoted.aside (enduring_trying hpub.after a) (.quiet ⟨rfl, rfl, rfl, id⟩)

theorem effects_published {p : BoardProg α} (hH : Enduring H) (hp : Still p)
    (hs : Published tag topic message fragment H s) :
    Keeping A Beside (CoreStep boot) (Published tag topic message fragment H) (onApp p) s := by
  obtain ⟨startedMs, howes, hacked⟩ := hs
  have hframed : Framed (fun n => Acked ⟨tag, topic, message, fragment, startedMs⟩ n.events) :=
    fun hevents _ h => by
      dsimp only
      rw [hevents]
      exact h
  refine effects_mono (effects_onApp (enduring_trying hH _) hframed howes hacked
    (Proc.wp_steps hp s.app)) ?_ ?_
  · exact fun _ _ h => ⟨startedMs, h.1.1, h.1.2⟩
  · exact fun _ _ h => ⟨startedMs, h.1, h.2⟩

theorem Published.owes (h : Published tag topic message fragment H s) : Owes none H s.app := by
  obtain ⟨_, howes, _⟩ := h
  exact howes.mono (fun h => h.1)

theorem effects_publishQos1 (hpub : Publishable boot tag topic message fragment H H')
    (hs : Owes none H s.app) :
    Effects boot A (fun _ => Published tag topic message fragment H')
      (fun e t => Owes none H' t.app ∧ e.oversized = false)
      (Mqtt.publishQos1 boot rounds tag topic message fragment) s := by
  refine Proc.wp_raises raises_publishQos1 ?_
  have hlink : LinkRule boot rounds A Beside (CoreStep boot) (fun t => Owes none H' t.app) :=
    linkRule_owes hpub.after
  refine effects_seq (effects_look (Q := fun connected t => Owes none H t.app ∧
    (connected = t.app.core0.mqtt.isConnected)) (fun t ht => ⟨hs.beside hpub.before ht, rfl⟩)) ?_
  rintro connected t ⟨ht, rfl⟩
  refine effects_ite (fun hdown => ?_) (fun _ => ?_)
  · rcases hpub.connected _ ht.kept with hup | hidle
    · rw [hup] at hdown
      cases hdown
    · exact ht.mono (fun _ => hidle)
  · refine effects_seq (Q := fun _ => Published tag topic message fragment H') ?_
      (fun _ u hu => effects_mono (effects_published hpub.after still_touchPublished hu)
        (fun _ _ h => h) (fun _ _ h => h.owes))
    refine effects_handle (X := fun _ t => Owes none H' t.app) ?_ (fun e u hu => ?_)
    · refine effects_seq (effects_attempting hpub ht) ?_
      rintro _ u ⟨startedMs, hu⟩
      exact effects_mono (effects_clientPublish (a := ⟨tag, topic, message, fragment, startedMs⟩)
        hpub.after (fun b hb => hpub.sends' b startedMs hb) (fun _ => rfl) hu)
        (fun _ _ h => ⟨startedMs, h⟩) (fun _ _ h => h.mono (fun h => h.1))
    · refine effects_ite (fun _ => ?_) (fun _ => hu)
      exact effects_seq (effects_mono (hlink.upkeep upkeep_session hu) (fun _ _ h => h)
        (fun _ _ h => h)) (fun _ _ h => h)

/-- The PUBACK is noted; its owner is owed the rest from here on. -/
theorem effects_completed (hH : Enduring H) {X : Exc → Sys Board → Prop}
    (hsends : ∀ b startedMs, H b → Sends boot b ⟨tag, topic, message, fragment, startedMs⟩)
    (hrecord : ∀ b event, H b → H (b.withCommand (b.command.record event)))
    (hs : Published tag topic message fragment H s) :
    Effects boot A (fun _ t => Owes (tag.map Prod.fst) H t.app) X
      (onApp (noteMqttPublishCompleted tag)) s := by
  obtain ⟨startedMs, howes, hacked⟩ := hs
  refine wp_onApp_atomic (fun t ht _ _ => ?_)
  have hknown := howes.beside (enduring_trying hH _).others ht
  have hstep : CommandStep boot t.net t.app (t.app.command.record (.published tag t.app.nowMs)) :=
    .published ⟨tag, topic, message, fragment, startedMs⟩ t.app.nowMs
      (hsends _ _ hknown.kept.1) hknown.owed hknown.kept.2 (ht.1.peer.events.symm ▸ hacked)
  have hnoted : Owes (tag.map Prod.fst) H
      (t.app.withCommand (t.app.command.record (.published tag t.app.nowMs))) := by
    refine ⟨hknown.sound, ?_, hrecord _ _ hknown.kept.1⟩
    have hsettle : owed (t.app.command.history ++ [.published tag t.app.nowMs]) =
        CoreEvent.settle none (.published tag t.app.nowMs) := by
      rw [owed_snoc, hknown.owed]
    refine hsettle.trans ?_
    rcases tag with _ | ⟨o, sequence⟩ <;> rfl
  refine ⟨.board (.command hstep ⟨rfl, rfl, rfl, rfl⟩), ?_⟩
  exact hnoted.aside hH (.quiet ⟨rfl, rfl, rfl, id⟩)

end Rules
end PicoDualCore
