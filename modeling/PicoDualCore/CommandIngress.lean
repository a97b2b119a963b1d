import PicoDualCore.Interleaving
import PicoDualCore.StoredConfig
set_option autoImplicit false

namespace PicoDualCore
open AtomicProgram

structure Quiet (b b' : Board) : Prop where
  command : b'.command = b.command
  outbound : b'.outbound = b.outbound
  events : b'.events.queue = b.events.queue
  disk : b.disk.dir.Sound firmwareRules → b'.disk.dir.Sound firmwareRules

theorem Quiet.refl (b : Board) : Quiet b b := ⟨rfl, rfl, rfl, id⟩

inductive AsideStep (b : Board) : Board → Prop where
  | quiet {b' : Board} (h : Quiet b b') : AsideStep b b'
  | claimed (id : String) (hnew : b.command.isRecentCommandId id = false)
      (hroom : b.command.queueFull = false) :
      AsideStep b (b.withCommand (b.command.rememberCommandId id))
  | replied (r : CommandResponse) (hroom : b.command.queueFull = false)
      (hclaim : b.command.history.getLast? = some (.claimed r.commandId)) :
      AsideStep b (b.withCommand (b.command.reply r))
  | rebootAccepted (id : String) (targeted : Bool) (hfree : b.command.pendingReboot = none)
      (hclaim : b.command.history.getLast? = some (.claimed id)) :
      AsideStep b (b.withCommand (b.command.acceptReboot id targeted))
  | dispatched {b' : Board} (event : CommandEvent)
      (hclaim : b.command.history.getLast? = some (.claimed event.commandId))
      (hcommand : b'.command = b.command.record (.dispatched event))
      (houtbound : b'.outbound = b.outbound)
      (hevents : b'.events.queue = b.events.queue ++ [event]) (hdisk : b'.disk = b.disk) :
      AsideStep b b'
  | silenced (id : String) (hclaim : b.command.history.getLast? = some (.claimed id)) :
      AsideStep b (b.withCommand (b.command.record (.silenced id)))
  | writeRaised (e : Exc) : AsideStep b (b.withCommand (b.command.record (.writeRaised e)))
  | reset : AsideStep b (b.withCommand (b.command.record (.reset none)))

theorem AsideStep.refl (b : Board) : AsideStep b b := .quiet (.refl b)

structure Unmoved (k : CommandState) (events : List CommandEvent) (b : Board) : Prop where
  command : b.command = k
  events : b.events.queue <:+ events
  disk : b.disk.dir.Sound firmwareRules

section Aside

variable {α β : Type} {A : CoreInput → Prop} {k : CommandState} {events : List CommandEvent}
  {Q : α → Board → Prop} {X : Exc → Board → Prop} {b b' : Board}

theorem unmoved_settled : Undisturbed (Unmoved k events) := fun _ _ h hu =>
  ⟨h.command.trans hu.command, h.events.trans hu.events, by rw [h.disk]; exact hu.disk⟩

theorem Unmoved.quiet (hu : Unmoved k events b) (h : Quiet b b') : Unmoved k events b' :=
  ⟨h.command.trans hu.command, h.events ▸ hu.events, h.disk hu.disk⟩

abbrev Aside (A : CoreInput → Prop) (Q : α → Board → Prop) (X : Exc → Board → Prop)
    (p : BoardProg α) (b : Board) : Prop :=
  Boarding A AsideStep Q X p b

theorem aside_quiet {f : Board → CoreInput → Except Exc α × Board} (hu : Unmoved k events b)
    (h : ∀ t i, A i → Quiet t (f t i).2 ∧ (∀ a, (f t i).1 = .ok a →
      Unmoved k events (f t i).2 → Q a (f t i).2) ∧
      ∀ e, (f t i).1 = .error e → Unmoved k events (f t i).2 → X e (f t i).2) :
    Aside A Q X (.atomic f) b := by
  refine boarding_atomic unmoved_settled hu (fun t i hi ht => ?_)
  obtain ⟨hq, hok, herr⟩ := h t i hi
  exact ⟨.quiet hq, fun a ha => hok a ha (ht.quiet hq), fun e he => herr e he (ht.quiet hq)⟩

theorem aside_look {f : Board → α} (hu : Unmoved k events b)
    (h : ∀ t, Unmoved k events t → Q (f t) t) : Aside A Q X (look f) b :=
  boarding_look unmoved_settled hu (fun t ht => ⟨.refl t, h t ht⟩)

theorem aside_uptimeMs {Q : Int → Board → Prop} (hu : Unmoved k events b)
    (h : ∀ uptime t, Unmoved k events t → Q uptime t) : Aside A Q X uptimeMs b :=
  aside_quiet hu (fun _ _ _ => ⟨⟨rfl, rfl, rfl, id⟩, fun a _ hu => h a _ hu, fun _ he => by cases he⟩)

theorem aside_onDisk {p : FsProg α} {X' : FsError → FsState → Prop} (hu : Unmoved k events b)
    (hp : ∀ disk : FsState, disk.dir.Sound firmwareRules →
      Storing firmwareRules (fun _ t => t.dir.Sound firmwareRules) X' p disk)
    (hQ : ∀ a t, Unmoved k events t → Q a t)
    (hX : ∀ e t, Unmoved k events t → X' e t.disk → X e.raised t) :
    Aside A Q X (onDisk p) b := by
  refine Proc.wp_zoom (J := Unmoved k events) (fun _ _ => trivial) ?_ ?_
    (fun a t ht _ => hQ a t ht) (fun e t ht he => hX e t ht he) hu (hp b.disk hu.disk)
  · exact fun t u ht hr => ⟨hr.disk.symm, unmoved_settled t u hr ht⟩
  · exact fun t disk ht hd => ⟨.quiet ⟨rfl, rfl, rfl, fun _ => hd⟩, ⟨ht.command, ht.events, hd⟩, rfl⟩

end Aside

def SilentWrite (doc : PyDict) : Prop :=
  (doc.getD "command").isText COMMAND_WRITE_CONFIG = true ∧
    (doc.getD "target").isText BROADCAST_TARGET = true

inductive Outcome (doc : PyDict) (id : String) (k : CommandState) (events : List CommandEvent)
    (b : Board) : Prop where
  | responded (r : CommandResponse) (hid : r.commandId = id) (hroom : k.queueFull = false)
      (hmoved : Unmoved (k.reply r) events b)
  | dispatched (event : CommandEvent) (hid : event.commandId = id)
      (hmoved : Unmoved (k.record (.dispatched event)) (events ++ [event]) b)
  | rebootAccepted (targeted : Bool) (hfree : k.pendingReboot = none)
      (hmoved : Unmoved (k.acceptReboot id targeted) events b)
  | silenced (hsilent : SilentWrite doc) (hmoved : Unmoved (k.record (.silenced id)) events b)

/-- The callback raised: an allocation failed, or a write raised something unforeseen. -/
inductive Escape (k : CommandState) (events : List CommandEvent) (e : Exc) (b : Board) : Prop where
  | memory (he : e = .memoryError) (hmoved : Unmoved k events b)
  | write (hmoved : Unmoved (k.record (.writeRaised e)) events b)

theorem CommandState.reply_of_room {k : CommandState} (r : CommandResponse)
    (hroom : k.queueFull = false) : k.reply r = { k with
      pendingResponses := k.pendingResponses ++
        [{ uid := k.nextUid, response := r, clearsPendingReboot := false }]
      nextUid := k.nextUid + 1
      history := k.history ++ [.responded k.nextUid r.commandId] } := by
  simp [reply, queueResponse, hroom]

section Handlers

variable {A : CoreInput → Prop} {doc : PyDict} {id : String} {k : CommandState}
  {events : List CommandEvent} {b : Board} {targeted : Bool}

structure Claimed (id : String) (k : CommandState) : Prop where
  room : k.queueFull = false
  claim : k.history.getLast? = some (.claimed id)

abbrev Handles (A : CoreInput → Prop) (doc : PyDict) (id : String) (k : CommandState)
    (events : List CommandEvent) (p : BoardProg Unit) (b : Board) : Prop :=
  Aside A (fun _ => Outcome doc id k events) (Escape k events) p b

theorem handles_reply {r : CommandResponse} (hid : r.commandId = id) (hk : Claimed id k)
    (hu : Unmoved k events b) : Handles A doc id k events (reply r) b := by
  unfold reply
  refine boarding_onState unmoved_settled hu (fun t ht => ?_)
  have hcommand := ht.command
  refine ⟨.replied r (hcommand ▸ hk.room) (by rw [hcommand, hid]; exact hk.claim), ?_⟩
  exact .responded r hid hk.room ⟨congrArg (CommandState.reply · r) hcommand, ht.events, ht.disk⟩

theorem handles_reboot {payload : PyDict} (hk : Claimed id k) (hu : Unmoved k events b) :
    Handles A doc id k events
      (update (fun k => k.handleRebootCommand id targeted payload)) b := by
  refine boarding_onState unmoved_settled hu (fun t ht => ?_)
  have hcommand := ht.command
  have hanswer : ∀ r : CommandResponse, r.commandId = id →
      AsideStep t (t.withCommand (t.command.reply r)) ∧
        Outcome doc id k events (t.withCommand (t.command.reply r)) := by
    intro r hid
    refine ⟨.replied r (hcommand ▸ hk.room) (by rw [hcommand, hid]; exact hk.claim), ?_⟩
    exact .responded r hid hk.room ⟨congrArg (CommandState.reply · r) hcommand, ht.events, ht.disk⟩
  simp only [CommandState.handleRebootCommand]
  split
  · exact hanswer _ rfl
  · by_cases hp : t.command.pendingReboot.isSome = true
    · rw [if_pos hp]
      exact hanswer _ rfl
    · rw [if_neg hp]
      have hfree : t.command.pendingReboot = none := by simpa using hp
      refine ⟨.rebootAccepted id targeted hfree (hcommand ▸ hk.claim), ?_⟩
      exact .rebootAccepted targeted (hcommand ▸ hfree)
        ⟨congrArg (CommandState.acceptReboot · id targeted) hcommand, ht.events, ht.disk⟩

def Admission (event : CommandEvent) (k : CommandState) (events : List CommandEvent) :
    Bool → Board → Prop
  | true => Unmoved (k.record (.dispatched event)) (events ++ [event])
  | false => Unmoved k events

theorem aside_append {event : CommandEvent} (hid : event.commandId = id) (hk : Claimed id k)
    (hu : Unmoved k events b) :
    Aside A (Admission event k events) (Escape k events) (EventQueue.append event) b := by
  refine boarding_atomic unmoved_settled hu (fun u i _ hu => ?_)
  dsimp only
  by_cases hm : i.memoryError = true
  · simp only [hm, if_true]
    exact ⟨.refl u, by simp, fun e he => by cases he; exact .memory rfl hu⟩
  simp only [hm, Bool.false_eq_true, if_false]
  by_cases hfree : i.memFree < u.events.minimumFreeHeapBytes
  · simp only [hfree, if_true]
    exact ⟨.refl u, fun _ he => by cases he; exact hu, by simp⟩
  simp only [hfree, if_false]
  refine ⟨.dispatched event (by rw [hu.command, hid]; exact hk.claim) rfl rfl rfl rfl,
    fun _ he => ?_, by simp⟩
  cases he
  refine ⟨congrArg (CommandState.record · _) hu.command, ?_, hu.disk⟩
  obtain ⟨taken, htaken⟩ := hu.events
  exact ⟨taken, by rw [← htaken, List.append_assoc]⟩

theorem aside_put {event : CommandEvent} (hid : event.commandId = id) (hk : Claimed id k)
    (hu : Unmoved k events b) :
    Aside A (Admission event k events) (Escape k events) (EventQueue.put event) b := by
  have hcollect : ∀ t, Unmoved k events t → Aside A (fun _ => Unmoved k events)
      (Escape k events) EventQueue.gcCollect t :=
    fun t ht => aside_look ht (fun _ h => h)
  have hrestored : ∀ t, Unmoved k events t → Aside A (fun _ => Unmoved k events)
      (Escape k events) EventQueue.reserveRestored t :=
    fun t ht => aside_quiet ht (fun u _ _ => ⟨.refl u, fun _ _ h => h, by simp⟩)
  have hrefused : ∀ t, Unmoved k events t → Aside A (Admission event k events)
      (Escape k events) (EventQueue.countRejection >>= fun _ => pure false) t := by
    refine fun t ht => boarding_seq (Q := fun _ => Unmoved k events) ?_ (fun _ _ hu => hu)
    exact aside_quiet ht (fun u _ _ => ⟨⟨rfl, rfl, rfl, fun h => h⟩, fun _ _ h => h, by simp⟩)
  have hsecond : ∀ t, Unmoved k events t → Aside A (Admission event k events) (Escape k events)
      (EventQueue.reserveRestored >>= fun restored => if restored = true
        then EventQueue.append event >>= fun admitted => if admitted = true then pure true
          else EventQueue.gcCollect >>= fun _ => EventQueue.countRejection >>= fun _ => pure false
        else EventQueue.countRejection >>= fun _ => pure false) t := by
    refine fun t ht => boarding_seq (hrestored t ht) (fun restored u hu => ?_)
    refine boarding_ite (fun _ => ?_) (fun _ => hrefused u hu)
    refine boarding_seq (aside_append hid hk hu) (fun admitted v hv => ?_)
    cases admitted with
    | true => exact hv
    | false => exact boarding_seq (hcollect v hv) (fun _ w hw => hrefused w hw)
  unfold EventQueue.put
  refine boarding_seq (hrestored b hu) (fun restored t ht => ?_)
  cases restored with
  | true => exact hsecond t ht
  | false => exact boarding_seq (hcollect t ht) (fun _ u hu => hsecond u hu)

theorem handles_getDetails {payload : PyDict} (hk : Claimed id k) (hu : Unmoved k events b) :
    Handles A doc id k events (handleGetDetailsCommand id targeted payload) b := by
  unfold handleGetDetailsCommand
  refine boarding_ite (fun _ => handles_reply rfl hk hu) (fun _ => ?_)
  refine boarding_seq (aside_put rfl hk hu) (fun admitted t ht => ?_)
  cases admitted with
  | true => exact .dispatched _ rfl ht
  | false => exact handles_reply rfl hk ht

theorem handles_readConfig {payload : PyDict} (hk : Claimed id k) (hu : Unmoved k events b) :
    Handles A doc id k events (handleReadConfigCommand id targeted payload) b := by
  unfold handleReadConfigCommand catchConfig
  refine boarding_ite (fun _ => handles_reply rfl hk hu) (fun _ => ?_)
  refine boarding_seq (Q := fun _ => Unmoved k events) ?_ (fun result t ht => ?_)
  · refine (Proc.wp_handle _ _ _).mpr ((Proc.wp_bind _ _ _).mpr ?_)
    refine aside_onDisk hu (fun disk hd => Proc.wp_mono (storing_readPersisted hd)
      (fun _ _ h => h) (fun _ _ h => h) (fun _ _ h => h.2)) (fun _ _ ht => ht) ?_
    rintro e t ht (rfl | ⟨err, rfl⟩)
    · exact .memory rfl ht
    · exact ht
  · cases result with
    | error err => exact handles_reply rfl hk ht
    | ok config =>
      exact boarding_seq (Q := fun _ => Unmoved k events) (aside_look ht (fun _ h => h))
        (fun _ u hu => handles_reply rfl hk hu)

theorem aside_beginWrite {candidate : PyValue} (hu : Unmoved k events b) :
    Aside A (fun _ => Unmoved k events) (Escape k events) (beginWriteCommand candidate) b := by
  unfold beginWriteCommand catchConfig
  refine (Proc.wp_handle _ _ _).mpr ((Proc.wp_handle _ _ _).mpr ((Proc.wp_bind _ _ _).mpr ?_))
  refine aside_onDisk hu (fun disk hd => stores_beginWriteResult hd) (fun _ _ ht => ht) ?_
  intro e t ht _
  have hraised : ∀ e : Exc, Aside A (fun (_ : Except ConfigError WriteResult) => Unmoved k events)
      (Escape k events) (update (fun k => k.record (.writeRaised e)) >>= fun _ => throw e) t := by
    intro e
    refine boarding_seq (Q := fun _ => Unmoved (k.record (.writeRaised e)) events) ?_
      (fun _ _ hv => .write hv)
    refine boarding_onState unmoved_settled ht (fun v hv => ⟨.writeRaised e, ?_⟩)
    exact ⟨congrArg (CommandState.record · _) hv.command, hv.events, hv.disk⟩
  cases e with
  | config err => exact ht
  | memory => exact hraised _
  | os errno => exact hraised _
  | python e => exact hraised _

theorem handles_writeConfig {payload : PyDict} (hk : Claimed id k) (hu : Unmoved k events b) :
    Handles A doc id k events (handleWriteConfigCommand id targeted payload) b := by
  unfold handleWriteConfigCommand
  refine boarding_ite (fun _ => handles_reply rfl hk hu) (fun _ => ?_)
  cases payload.get? "config" with
  | none => exact handles_reply rfl hk hu
  | some candidate =>
    refine boarding_ite (fun _ => handles_reply rfl hk hu) (fun _ => ?_)
    refine boarding_seq (aside_beginWrite hu) (fun result t ht => ?_)
    cases result with
    | error err => exact handles_reply rfl hk ht
    | ok result =>
      exact boarding_seq (Q := fun _ => Unmoved k events) (aside_look ht (fun _ h => h))
        (fun _ u hu => handles_reply rfl hk hu)

theorem nonEmptyStr?_isText {v : PyValue} {s : String} (h : nonEmptyStr? v = some s) :
    v.isText s = true := by
  cases v with
  | str t =>
    simp only [nonEmptyStr?, Option.ite_none_left_eq_some, Option.some.injEq] at h
    simp [PyValue.isText, h.2]
  | _ => cases h

/-- Every supported command has its handler. -/
theorem handles_dispatch {name : String} {payload : PyDict} (hk : Claimed id k)
    (hname : (doc.getD "command").isText name = true)
    (htarget : targeted = false → (doc.getD "target").isText BROADCAST_TARGET = true)
    (hu : Unmoved k events b) :
    Handles A doc id k events (answerCommand.dispatch id targeted name payload) b := by
  unfold answerCommand.dispatch
  refine boarding_ite (fun _ => handles_reply rfl hk hu) (fun hsupported => ?_)
  refine boarding_ite (fun hsilent => ?_) (fun _ => ?_)
  · refine boarding_onState unmoved_settled hu (fun t ht => ?_)
    refine ⟨.silenced id (ht.command ▸ hk.claim), .silenced ?_ ⟨?_, ht.events, ht.disk⟩⟩
    · exact ⟨hsilent.1 ▸ hname, htarget hsilent.2⟩
    · exact congrArg (CommandState.record · _) ht.command
  refine boarding_ite (fun _ => handles_reboot hk hu) (fun h₁ => ?_)
  refine boarding_ite (fun _ => handles_getDetails hk hu) (fun h₂ => ?_)
  refine boarding_ite (fun _ => handles_readConfig hk hu) (fun h₃ => ?_)
  refine boarding_ite (fun _ => handles_writeConfig hk hu) (fun h₄ => ?_)
  simp [SUPPORTED_COMMANDS, h₁, h₂, h₃, h₄] at hsupported

theorem handles_answer (hk : Claimed id k)
    (htarget : targeted = false → (doc.getD "target").isText BROADCAST_TARGET = true)
    (hu : Unmoved k events b) :
    Handles A doc id k events (answerCommand id targeted doc) b := by
  unfold answerCommand
  refine boarding_ite (fun _ => handles_reply rfl hk hu) (fun _ => ?_)
  cases hname : nonEmptyStr? (doc.getD "command") with
  | none => exact handles_reply rfl hk hu
  | some name =>
    cases doc.get? "payload" with
    | none => exact handles_reply rfl hk hu
    | some payload =>
      refine boarding_ite (fun _ => handles_reply rfl hk hu) (fun _ => ?_)
      cases payload with
      | dict payload => exact handles_dispatch hk (nonEmptyStr?_isText hname) htarget hu
      | _ => exact handles_reply rfl hk hu

end Handlers

/-- A target that the device answers to. `own` are the addresses that Wi-Fi may report. -/
def MeantFor (own : String → Prop) (boot : Boot) (target : PyValue) : Prop :=
  ∃ name, boundedTarget? target = some name ∧ (name = BROADCAST_TARGET ∨
    name.toLower = boot.config.source.toLower ∨ ∃ address, own address ∧
      name.toLower = address.toLower)

structure Passes (own : String → Prop) (boot : Boot) (k : CommandState) (topic payload : Bytes)
    (doc : PyDict) (id : String) : Prop where
  topic : (utf8Decode topic).map String.ofList = some boot.config.topicCommand
  shape : loadsBytes payload = .ok (.dict doc)
  version : ∃ n, doc.getD "message_schema_version" = .int n ∧ n = MESSAGE_SCHEMA_VERSION
  messageType : (doc.getD "message_type").isText "command" = true
  target : MeantFor own boot (doc.getD "target")
  bounded : boundedCommandId? (doc.getD "command_id") = some id
  fresh : id ∉ k.recentCommandIds
  room : k.pendingResponses.length < MAX_PENDING_CORE0_RESPONSES

/-- What one message has done by the time the callback returns. -/
inductive Delivered (own : String → Prop) (boot : Boot) (topic payload : Bytes) (b b' : Board) :
    Prop where
  | ignored (h : Unmoved b.command b.events.queue b')
  | claimed (doc : PyDict) (id : String) (hgates : Passes own boot b.command topic payload doc id)
      (hout : Outcome doc id (b.command.rememberCommandId id) b.events.queue b')

/-- What a message has done when the callback raises. -/
inductive Aborted (own : String → Prop) (boot : Boot) (topic payload : Bytes) (b : Board) (e : Exc)
    (b' : Board) : Prop where
  | unclaimed (he : e = .memoryError) (h : Unmoved b.command b.events.queue b')
  | claimed (doc : PyDict) (id : String) (hgates : Passes own boot b.command topic payload doc id)
      (h : Escape (b.command.rememberCommandId id) b.events.queue e b')

section Callback

variable {own : String → Prop} {boot : Boot} {k : CommandState} {events : List CommandEvent}
  {b : Board}

def Addressed (own : String → Prop) (i : CoreInput) : Prop := ∀ a, i.ipAddress = some a → own a

/-- A message that is no command to be claimed. -/
abbrev Ignores (own : String → Prop) (k : CommandState) (events : List CommandEvent)
    (p : BoardProg Unit) (b : Board) : Prop :=
  Aside (Addressed own) (fun _ => Unmoved k events) (fun _ _ => False) p b

theorem ignores_setUtcSnapshot {snapshot : UtcSnapshot} (hu : Unmoved k events b) :
    Ignores own k events (setUtcSnapshot snapshot) b :=
  aside_quiet hu (fun _ _ _ => ⟨⟨rfl, rfl, rfl, id⟩, fun _ _ h => h, by simp⟩)

theorem ignores_reachableFailure (hu : Unmoved k events b) :
    Ignores own k events utcNoteReachableFailure b :=
  aside_quiet hu (fun _ _ _ => ⟨⟨rfl, rfl, rfl, id⟩, fun _ _ h => h, by simp⟩)

theorem ignores_acceptUtc {epoch : Int} (hu : Unmoved k events b) :
    Ignores own k events (acceptUtc boot epoch) b := by
  unfold acceptUtc
  cases boot.formatUtcEpochMs epoch with
  | error e => exact ignores_reachableFailure hu
  | ok timestamp =>
    exact boarding_seq (Q := fun _ => Unmoved k events) (aside_uptimeMs hu (fun _ _ h => h))
      (fun _ _ ht => ignores_setUtcSnapshot ht)

theorem ignores_infoResponse {doc : PyDict} (hu : Unmoved k events b) :
    Ignores own k events (handleInfoResponse boot doc) b := by
  unfold handleInfoResponse
  refine boarding_ite (fun _ => hu) (fun _ => boarding_ite (fun _ => hu) (fun _ => ?_))
  refine boarding_ite (fun _ => hu) (fun _ => ?_)
  refine boarding_seq (Q := fun _ => Unmoved k events) (aside_look hu (fun _ h => h)) ?_
  intro requestId t ht
  cases requestId with
  | none => exact ht
  | some requestId =>
    refine boarding_ite (fun _ => ht) (fun _ => ?_)
    cases doc.getD "payload" with
    | dict payload =>
      dsimp only
      cases utcEpoch? payload with
      | some epoch => exact ignores_acceptUtc ht
      | none => exact ignores_reachableFailure ht
    | _ => exact ignores_reachableFailure ht

theorem aside_targetMatches {X : Exc → Board → Prop} {target : PyValue}
    (hu : Unmoved k events b) :
    Aside (Addressed own)
      (fun found t => Unmoved k events t ∧ (found = true → MeantFor own boot target)) X
      (targetMatches boot target) b := by
  unfold targetMatches
  cases hname : boundedTarget? target with
  | none => exact ⟨hu, by simp⟩
  | some name =>
    refine boarding_ite (fun h => ⟨hu, fun _ => ⟨name, hname, .inl h⟩⟩) (fun _ => ?_)
    refine boarding_ite (fun h => ⟨hu, fun _ => ⟨name, hname, .inr (.inl h)⟩⟩) (fun _ => ?_)
    refine boarding_seq
      (Q := fun reported t => Unmoved k events t ∧ ∀ a, reported = some a → own a) ?_ ?_
    · refine boarding_sense unmoved_settled hu (fun t i hi ht => ⟨.refl t, ht, fun a ha => ?_⟩)
      by_cases hw : i.wifiConnected = true
      · rw [if_pos hw] at ha
        exact hi a ha
      · rw [if_neg hw] at ha
        cases ha
    · rintro reported t ⟨ht, hown⟩
      cases reported with
      | none => exact ⟨ht, by simp⟩
      | some address =>
        refine ⟨ht, fun h => ⟨name, hname, .inr (.inr ⟨address, hown address rfl, ?_⟩)⟩⟩
        exact eq_of_beq h

theorem delivers_command {topic payload : Bytes} {doc : PyDict} {b₀ : Board}
    (htopic : (utf8Decode topic).map String.ofList = some boot.config.topicCommand)
    (hshape : loadsBytes payload = .ok (.dict doc))
    (hversion : ∃ n, doc.getD "message_schema_version" = .int n ∧ n = MESSAGE_SCHEMA_VERSION)
    (htype : (doc.getD "message_type").isText "command" = true)
    (hu : Unmoved b₀.command b₀.events.queue b) :
    Aside (Addressed own) (fun _ => Delivered own boot topic payload b₀)
      (Aborted own boot topic payload b₀) (onCommand boot doc) b := by
  unfold onCommand
  have hmatches : Aside (Addressed own)
      (fun found t => Unmoved b₀.command b₀.events.queue t ∧
        (found = true → MeantFor own boot (doc.getD "target")))
      (Aborted own boot topic payload b₀) (targetMatches boot (doc.getD "target")) b :=
    aside_targetMatches hu
  refine boarding_seq hmatches ?_
  rintro found t ⟨ht, hfound⟩
  refine boarding_ite (fun _ => .ignored ht) (fun hmatch => ?_)
  have htarget : MeantFor own boot (doc.getD "target") := hfound (by simpa using hmatch)
  cases hid : boundedCommandId? (doc.getD "command_id") with
  | none => exact .ignored ht
  | some id =>
    refine boarding_seq (Q := fun duplicate t => Unmoved b₀.command b₀.events.queue t ∧
      duplicate = b₀.command.isRecentCommandId id)
      (aside_look ht (fun u hu => ⟨hu, congrArg (CommandState.isRecentCommandId · id) hu.command⟩)) ?_
    rintro duplicate t ⟨ht, hduplicate⟩
    refine boarding_ite (fun _ => .ignored ht) (fun hfresh => ?_)
    refine boarding_seq (Q := fun full t => Unmoved b₀.command b₀.events.queue t ∧
      full = b₀.command.queueFull)
      (aside_look ht (fun u hu => ⟨hu, congrArg CommandState.queueFull hu.command⟩)) ?_
    rintro full t ⟨ht, hfull⟩
    refine boarding_ite (fun _ => .ignored ht) (fun hroom => ?_)
    have hnew : b₀.command.isRecentCommandId id = false := by simpa [hduplicate] using hfresh
    have hfree : b₀.command.queueFull = false := by simpa [hfull] using hroom
    have hpasses : Passes own boot b₀.command topic payload doc id :=
      ⟨htopic, hshape, hversion, htype, htarget, hid,
        by simpa [CommandState.isRecentCommandId] using hnew,
        by simpa [CommandState.queueFull] using hfree⟩
    have hclaimed : Claimed id (b₀.command.rememberCommandId id) :=
      ⟨hfree, by simp [CommandState.rememberCommandId]⟩
    refine boarding_seq
      (Q := fun _ => Unmoved (b₀.command.rememberCommandId id) b₀.events.queue) ?_ ?_
    · refine boarding_onState unmoved_settled ht (fun u hu => ?_)
      refine ⟨.claimed id (hu.command ▸ hnew) (hu.command ▸ hfree), ?_, hu.events, hu.disk⟩
      exact congrArg (CommandState.rememberCommandId · id) hu.command
    · intro _ u hu
      exact boarding_mono (handles_answer hclaimed (by simp) hu)
        (fun _ _ h => .claimed doc id hpasses h) (fun _ _ h => .claimed doc id hpasses h)

/-- Every message is ignored, or it is claimed and has its outcome. -/
theorem delivers_message (topic payload : Bytes) (hdisk : b.disk.dir.Sound firmwareRules) :
    Aside (Addressed own) (fun _ => Delivered own boot topic payload b)
      (Aborted own boot topic payload b) (onMqttMessage boot topic payload) b := by
  have hu : Unmoved b.command b.events.queue b := ⟨rfl, List.suffix_refl _, hdisk⟩
  unfold onMqttMessage
  refine boarding_seq (Q := fun parsed t => Unmoved b.command b.events.queue t ∧
    ∀ name doc, parsed = some (name, doc) →
      (utf8Decode topic).map String.ofList = some name ∧ loadsBytes payload = .ok doc) ?_ ?_
  · refine aside_quiet hu (fun t i _ => ?_)
    by_cases hm : i.memoryError = true
    · simp only [hm, if_true]
      exact ⟨.refl t, by simp, fun e he ht => .unclaimed (by cases he; rfl) ht⟩
    · simp only [hm, Bool.false_eq_true, if_false]
      split
      · next htopic hdoc =>
        refine ⟨.refl t, fun parsed he ht => ?_, by simp⟩
        cases he
        refine ⟨ht, ?_⟩
        rintro name doc ⟨⟩
        exact ⟨by simp [htopic], hdoc⟩
      · refine ⟨.refl t, fun parsed he ht => ?_, by simp⟩
        cases he
        exact ⟨ht, by simp⟩
  · rintro parsed t ⟨ht, hparsed⟩
    split
    · next name doc =>
      obtain ⟨htopic, hshape⟩ := hparsed _ _ rfl
      split
      · next version hversion =>
        refine boarding_ite (fun _ => .ignored ht) (fun hv => ?_)
        refine boarding_ite (fun _ => ?_) (fun _ => ?_)
        · refine boarding_ite (fun _ => ?_) (fun _ => .ignored ht)
          have hinfo : Ignores own b.command b.events.queue (handleInfoResponse boot doc) t :=
            ignores_infoResponse ht
          exact boarding_seq (boarding_mono hinfo (fun _ _ h => h) (fun _ _ h => False.elim h))
            (fun _ _ hu => .ignored hu)
        refine boarding_ite (fun _ => .ignored ht) (fun hname => ?_)
        refine boarding_ite (fun _ => .ignored ht) (fun htype => ?_)
        exact delivers_command (by simpa [htopic] using hname) hshape
          ⟨version, hversion, by simpa using hv⟩ (by simpa using htype) ht
      · exact .ignored ht
    · exact .ignored ht

end Callback

end PicoDualCore
