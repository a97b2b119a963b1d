import PicoDualCore.RecentWindow
import PicoDualCore.SequenceNumbers
set_option autoImplicit false

namespace PicoDualCore
open AtomicProgram MqttClient

def CoreEvent.claim? : CoreEvent → Option String
  | .claimed id => some id
  | _ => none

/-- The command that the event settles. -/
def CoreEvent.outcome? : CoreEvent → Option String
  | .responded _ id => some id
  | .dispatched event => some event.commandId
  | .rebootAccepted _ id => some id
  | .silenced id => some id
  | _ => none

/-- The claimed ids, in order. -/
def claims (history : List CoreEvent) : List String := history.filterMap CoreEvent.claim?

/-- The cache is the end of the record of claims, and an outcome comes right after its claim. -/
structure IngressLedger (k : CommandState) : Prop where
  cache : k.recentCommandIds = (claims k.history).rtake RECENT_COMMAND_ID_CAPACITY
  spaced : RecentWindow.Spaced RECENT_COMMAND_ID_CAPACITY (claims k.history)
  settled : ∀ before e after id, k.history = before ++ e :: after → e.outcome? = some id →
    before.getLast? = some (.claimed id)

structure IngressKept (k k' : CommandState) : Prop where
  cache : k'.recentCommandIds = k.recentCommandIds
  history : ∃ new, k'.history = k.history ++ new ∧ ∀ e ∈ new, e.claim? = none ∧ e.outcome? = none

inductive IngressChange (k k' : CommandState) : Prop where
  | kept (h : IngressKept k k')
  | claimed (id : String) (hnew : k.isRecentCommandId id = false)
      (h : k' = k.rememberCommandId id)
  | settled (e : CoreEvent) (id : String) (he : e.outcome? = some id) (hclaim : e.claim? = none)
      (hcache : k'.recentCommandIds = k.recentCommandIds) (hhistory : k'.history = k.history ++ [e])
      (hlast : k.history.getLast? = some (.claimed id))

section Ingress

variable {boot : Boot} {rounds : Nat} {n : Network} {s t : Sys Board} {b b' : Board}
  {k k' : CommandState} {q : CoreProg Unit}

theorem claims_append (history new : List CoreEvent) :
    claims (history ++ new) = claims history ++ claims new := List.filterMap_append

theorem IngressKept.refl (k : CommandState) : IngressKept k k :=
  ⟨rfl, [], (List.append_nil _).symm, by simp⟩

theorem IngressKept.record (k : CommandState) {e : CoreEvent} (hclaim : e.claim? = none)
    (houtcome : e.outcome? = none) : IngressKept k (k.record e) :=
  ⟨rfl, [e], rfl, by simp [hclaim, houtcome]⟩

theorem IngressKept.modify (k : CommandState) (uid : Nat) (f : Stamps → Stamps) :
    IngressKept k (k.modifyStamps uid f) :=
  ⟨rfl, [], by simp [CommandState.modifyStamps], by simp⟩

theorem AsideStep.ingress (h : AsideStep b b') : IngressChange b.command b'.command := by
  cases h with
  | quiet h => exact .kept (h.command ▸ .refl _)
  | claimed id hnew => exact .claimed id hnew rfl
  | replied r hroom hclaim =>
    rw [CommandState.reply_of_room r hroom]
    exact .settled _ r.commandId rfl rfl rfl rfl hclaim
  | rebootAccepted id targeted hfree hclaim => exact .settled _ id rfl rfl rfl rfl hclaim
  | dispatched event hclaim hcommand =>
    rw [hcommand]
    exact .settled _ event.commandId rfl rfl rfl rfl hclaim
  | silenced id hclaim => exact .settled _ id rfl rfl rfl rfl hclaim
  | writeRaised e => exact .kept (.record _ rfl rfl)
  | reset => exact .kept (.record _ rfl rfl)

theorem CommandState.popPublished_ingress (k : CommandState) (p : PendingResponse) :
    IngressKept k (k.popPublished p) := by
  unfold CommandState.popPublished
  by_cases hclears : p.clearsPendingReboot = true
  · rw [if_pos hclears]
    refine ⟨rfl, _, List.append_assoc _ _ _, fun e he => ?_⟩
    simp only [List.cons_append, List.nil_append, List.mem_cons, List.mem_map] at he
    rcases he with rfl | ⟨r, -, rfl⟩ <;> exact ⟨rfl, rfl⟩
  · rw [if_neg hclears]
    exact ⟨rfl, _, rfl, by simp [CoreEvent.claim?, CoreEvent.outcome?]⟩

theorem CommandState.substituteHead_ingress (k : CommandState) (p : PendingResponse) :
    IngressKept k (k.substituteHead p) := by
  unfold CommandState.substituteHead
  cases (k.stampsOf p.uid).permanentFailure with
  | none => exact .refl k
  | some failure =>
    by_cases hsub : isResponseSubstitute p.response = true
    · simpa only [hsub, if_true] using .refl k
    · simp only [hsub, Bool.false_eq_true, if_false]
      exact ⟨rfl, _, rfl, by simp [CoreEvent.claim?, CoreEvent.outcome?]⟩

/-- Core 0's own steps neither claim nor settle. -/
theorem CommandStep.ingress (h : CommandStep boot n b k) : IngressKept b.command k := by
  cases h with
  | sequence c => exact ⟨rfl, [], by simp [CommandState.modifyStamps], by simp⟩
  | frozen c => exact .modify _ _ _
  | failed c => exact .modify _ _ _
  | attempt a => exact .record _ rfl rfl
  | published a => exact .record _ rfl rfl
  | answered p => exact b.command.popPublished_ingress p
  | substituted p => exact b.command.substituteHead_ingress p
  | rebootSubstituted r =>
    rcases b.command.answerUnsentReboot_cases r with hsame | ⟨failure, -, -, hnew⟩
    · rw [hsame]
      exact .refl _
    · rw [hnew]
      exact ⟨rfl, _, rfl, by simp [CoreEvent.claim?, CoreEvent.outcome?]⟩
  | rebooting r => exact ⟨rfl, _, rfl, by simp [CoreEvent.claim?, CoreEvent.outcome?]⟩
  | reset uid => exact .record _ rfl rfl
  | discardAnswered e r =>
    unfold CommandState.queueResponse
    by_cases hfull : b.command.queueFull = true
    · rw [if_pos hfull]
      exact .refl _
    · rw [if_neg hfull]
      exact ⟨rfl, _, rfl, by simp [CoreEvent.claim?, CoreEvent.outcome?]⟩

theorem CoreStep.ingress (h : CoreStep boot s t) : IngressChange s.app.command t.app.command := by
  cases h with
  | board h =>
    cases h with
    | aside h => exact h.ingress
    | command h hmoved => exact .kept (hmoved.command ▸ h.ingress)
    | released e discarded => exact .kept (.record _ rfl rfl)
    | _ => exact .kept ⟨rfl, [], by simp [Board.command], by simp⟩
  | _ => exact .kept (.refl _)

theorem settled_append {history new : List CoreEvent} (h : ∀ before e after id,
      history = before ++ e :: after → e.outcome? = some id →
        before.getLast? = some (.claimed id))
    (hnew : ∀ e ∈ new, e.outcome? = none) : ∀ before e after id,
      history ++ new = before ++ e :: after → e.outcome? = some id →
        before.getLast? = some (.claimed id) := by
  intro before e after id hsplit he
  have hold : e ∉ new := fun hmem => by simp [hnew e hmem] at he
  rcases List.append_eq_append_iff.mp hsplit with ⟨rest, -, hrest⟩ | ⟨rest, hrest, hafter⟩
  · simp [hrest] at hold
  · cases rest with
    | nil => simp [← List.nil_append new ▸ hafter] at hold
    | cons y ys =>
      obtain ⟨rfl, rfl⟩ := List.cons.inj hafter
      exact h before e ys id hrest he

theorem IngressLedger.change (h : IngressChange k k') (hk : IngressLedger k) : IngressLedger k' := by
  cases h with
  | kept h =>
    obtain ⟨hcache, new, hhistory, hnew⟩ := h
    have hclaims : claims k'.history = claims k.history := by
      have hnone : claims new = [] := List.filterMap_eq_nil_iff.mpr (fun e he => (hnew e he).1)
      rw [hhistory, claims_append, hnone, List.append_nil]
    refine ⟨by rw [hcache, hclaims]; exact hk.cache, hclaims ▸ hk.spaced, ?_⟩
    rw [hhistory]
    exact settled_append hk.settled (fun e he => (hnew e he).2)
  | claimed id hnew h =>
    subst h
    have hclaims : claims (k.rememberCommandId id).history = claims k.history ++ [id] :=
      claims_append _ _
    refine ⟨?_, ?_, settled_append hk.settled (by simp [CoreEvent.outcome?])⟩
    · rw [hclaims, RecentWindow.rtake_append, ← hk.cache]
      rfl
    · rw [hclaims]
      refine .come _ _ hk.spaced ?_
      rw [← hk.cache]
      simpa [CommandState.isRecentCommandId] using hnew
  | settled e id he hclaim hcache hhistory hlast =>
    have hclaims : claims k'.history = claims k.history := by
      rw [hhistory, claims_append]
      simp [claims, hclaim]
    refine ⟨by rw [hcache, hclaims]; exact hk.cache, hclaims ▸ hk.spaced, ?_⟩
    intro before e' after id' hsplit he'
    rw [hhistory] at hsplit
    rcases List.eq_nil_or_concat after with rfl | ⟨rest, last, rfl⟩
    · obtain ⟨rfl, hend⟩ := List.append_inj' hsplit rfl
      obtain rfl : e = e' := by simpa using hend
      rw [he] at he'
      exact Option.some.inj he' ▸ hlast
    · have hcut : k.history ++ [e] = (before ++ e' :: rest) ++ [last] := by simpa using hsplit
      exact hk.settled before e' rest id' (List.append_inj' hcut rfl).1 he'

theorem Started.ingressLedger (hs : Started boot s) : IngressLedger s.app.command := by
  obtain ⟨bootMs, nowMs, minimum, preferred, maxMessages, disk, happ⟩ := hs.board
  have hhistory := hs.blank.1
  refine ⟨?_, by simpa [hhistory, claims] using .nil, by simp [hhistory]⟩
  simp [happ, Board.initial, Board.command, claims]

theorem CoreRun.ingressLedger (hs : Started boot s) (h : CoreRun boot rounds s q t) :
    IngressLedger t.app.command := by
  refine (h.holds (I := fun u => IngressLedger u.app.command) hs hs.ingressLedger ?_ ?_).2
  · exact fun a b _ hI hab => hI.change hab.ingress
  · intro a b hI hab
    rw [hab.board.command]
    exact hI

theorem CoreStep.sound (h : CoreStep boot s t) (hs : s.app.disk.dir.Sound firmwareRules) :
    t.app.disk.dir.Sound firmwareRules := by
  cases h with
  | board h =>
    cases h with
    | aside h => exact h.sound hs
    | command h hmoved => exact hmoved.disk ▸ hs
    | _ => exact hs
  | _ => exact hs

/-- The files are sound at every moment. -/
theorem CoreRun.sound (hs : Started boot s) (h : CoreRun boot rounds s q t) :
    t.app.disk.dir.Sound firmwareRules := by
  refine (h.holds (I := fun u => u.app.disk.dir.Sound firmwareRules) hs hs.idle.sound ?_ ?_).2
  · exact fun a b _ hI hab => hab.sound hI
  · intro a b hI hab
    rw [hab.board.disk]
    exact hI

/-- The cache is the end of the record of claims, and claims of one id stand apart. -/
theorem CoreRun.cached (hs : Started boot s) (h : CoreRun boot rounds s q t) :
    t.app.command.recentCommandIds =
      (claims t.app.command.history).rtake RECENT_COMMAND_ID_CAPACITY ∧
    t.app.command.recentCommandIds.Nodup ∧
    ∀ before id between after, claims t.app.command.history =
        before ++ id :: between ++ id :: after →
      ∃ others, others <:+ between ∧ others.length = RECENT_COMMAND_ID_CAPACITY ∧
        others.Nodup ∧ id ∉ others := by
  have hledger := h.ingressLedger hs
  refine ⟨hledger.cache, ?_, fun _ _ _ _ hsplit => hledger.spaced.apart hsplit⟩
  rw [hledger.cache]
  exact hledger.spaced.nodup

/-- In every run of Core 0: the cache holds the last sixteen claimed ids, no two of them equal;
between two claims of one id sixteen different others have been claimed; an outcome comes right
after its own claim; and whatever message arrives at any moment, it is ignored, or it is claimed
and has one outcome, or its handling is aborted: by `MemoryError`, or by what escapes the body of a
claimed `write-config`, which leaves the id claimed and without an outcome. -/
theorem ingress_record (hs : Started boot s) (h : CoreRun boot rounds s q t) :
    t.app.command.recentCommandIds =
      (claims t.app.command.history).rtake RECENT_COMMAND_ID_CAPACITY ∧
    t.app.command.recentCommandIds.Nodup ∧
    (∀ before id between after, claims t.app.command.history =
        before ++ id :: between ++ id :: after →
      ∃ others, others <:+ between ∧ others.length = RECENT_COMMAND_ID_CAPACITY ∧
        others.Nodup ∧ id ∉ others) ∧
    (∀ before e after id, t.app.command.history = before ++ e :: after → e.outcome? = some id →
      before.getLast? = some (.claimed id)) ∧
    ∀ own topic payload, Aside (Addressed own) (fun _ => Delivered own boot topic payload t.app)
      (Aborted own boot topic payload t.app) (onMqttMessage boot topic payload) t.app := by
  obtain ⟨hcache, hnodup, hspaced⟩ := h.cached hs
  exact ⟨hcache, hnodup, hspaced, (h.ingressLedger hs).settled,
    fun _ topic payload => delivers_message topic payload (h.sound hs)⟩

/-- What the handling of a message leaves that an allocation has cut short. -/
inductive CutShort (own : String → Prop) (boot : Boot) (topic payload : Bytes) (b b' : Board) :
    Prop where
  | unclaimed (h : Unmoved b.command b.events.queue b')
  | claimed (doc : PyDict) (id : String) (hgates : Passes own boot b.command topic payload doc id)
      (h : Unmoved (b.command.rememberCommandId id) b.events.queue b')

theorem Aborted.cutShort {own : String → Prop} {topic payload : Bytes} {e : Exc}
    (h : Aborted own boot topic payload b e b')
    (hwrites : ∀ e', .writeRaised e' ∉ b'.command.history) :
    e = .memoryError ∧ CutShort own boot topic payload b b' := by
  cases h with
  | unclaimed he h => exact ⟨he, .unclaimed h⟩
  | claimed doc id hgates h =>
    cases h with
    | memory he h => exact ⟨he, .claimed doc id hgates h⟩
    | write h =>
      refine (hwrites e ?_).elim
      simp [h.command, CommandState.record]

/-- A message that a gate rejects changes nothing of the command state. -/
theorem rejects_message {own : String → Prop} {topic payload : Bytes}
    (hdisk : b.disk.dir.Sound firmwareRules)
    (hrejected : ∀ doc id, ¬ Passes own boot b.command topic payload doc id) :
    Aside (Addressed own) (fun _ => Unmoved b.command b.events.queue)
      (fun _ => Unmoved b.command b.events.queue) (onMqttMessage boot topic payload) b := by
  refine boarding_mono (delivers_message topic payload hdisk) ?_ ?_
  · intro _ b' h
    cases h with
    | ignored h => exact h
    | claimed doc id hgates => exact (hrejected doc id hgates).elim
  · intro e b' h
    cases h with
    | unclaimed he h => exact h
    | claimed doc id hgates => exact (hrejected doc id hgates).elim

/-- In every run of Core 0: the cache holds the last sixteen claimed ids, no two of them equal;
between two claims of one id sixteen different others have been claimed; a message that a gate
rejects leaves the command state as it is; and as long as `begin_write` raises only `ConfigError`,
a message is ignored, or is claimed with its one outcome, or an allocation fails while it is handled
and leaves at most its claim. -/
theorem claims_settled (hs : Started boot s) (h : CoreRun boot rounds s q t) :
    t.app.command.recentCommandIds =
      (claims t.app.command.history).rtake RECENT_COMMAND_ID_CAPACITY ∧
    t.app.command.recentCommandIds.Nodup ∧
    (∀ before id between after, claims t.app.command.history =
        before ++ id :: between ++ id :: after →
      ∃ others, others <:+ between ∧ others.length = RECENT_COMMAND_ID_CAPACITY ∧
        others.Nodup ∧ id ∉ others) ∧
    ∀ own topic payload,
      ((∀ doc id, ¬ Passes own boot t.app.command topic payload doc id) →
        Aside (Addressed own) (fun _ => Unmoved t.app.command t.app.events.queue)
          (fun _ => Unmoved t.app.command t.app.events.queue) (onMqttMessage boot topic payload)
          t.app) ∧
      Aside (Addressed own) (fun _ => Delivered own boot topic payload t.app)
        (fun e b' => (∀ e', .writeRaised e' ∉ b'.command.history) →
          e = .memoryError ∧ CutShort own boot topic payload t.app b')
        (onMqttMessage boot topic payload) t.app := by
  obtain ⟨hcache, hnodup, hspaced⟩ := h.cached hs
  have hsound := h.sound hs
  refine ⟨hcache, hnodup, hspaced,
    fun _ topic payload => ⟨fun hrejected => rejects_message hsound hrejected, ?_⟩⟩
  exact boarding_mono (delivers_message topic payload hsound) (fun _ _ h => h)
    (fun _ _ h hwrites => h.cutShort hwrites)

end Ingress

theorem ingress_record_session :
    (claims shippedSession.2.app.command.history).rtake RECENT_COMMAND_ID_CAPACITY = ["a", "b"] :=
  (ingress_record recovered_started shippedSession_run).1.symm.trans
    shippedSession_record.2.2.1

theorem claims_settled_session :
    shippedSession.2.app.command.recentCommandIds.Nodup ∧
    Aside (Addressed (fun _ => False)) (fun _ => Unmoved shippedSession.2.app.command
        shippedSession.2.app.events.queue)
      (fun _ => Unmoved shippedSession.2.app.command shippedSession.2.app.events.queue)
      (onMqttMessage shippedBoot [] []) shippedSession.2.app := by
  obtain ⟨-, hnodup, -, hmessages⟩ := claims_settled recovered_started shippedSession_run
  refine ⟨hnodup, (hmessages (fun _ => False) [] []).1 (fun doc id hgates => ?_)⟩
  exact absurd hgates.topic (by decide +kernel)

def earlyCommand : Bytes :=
  [0x20, 2, 0, 0] ++ [0x90, 3, 0, 1, 0] ++ [0x90, 3, 0, 2, 0] ++ commandPacket "c" "get-details"

/-- A command for Core 1, read while the first probe waits for its PUBACK, whose event finds no
memory. -/
def exhausted : CoreProg Unit × Sys Board :=
  let claimed := enact [⟨0, [], none, 12⟩, ⟨0, earlyCommand, none, 141⟩]
    (core0Main shippedBoot 12, recovered)
  Proc.advance ⟨.done, { memFree := 100000, memoryError := true }⟩ 4 claimed.1 claimed.2

theorem exhausted_run : CoreRun shippedBoot 12 recovered exhausted.1 exhausted.2 :=
  Proc.reaches_advance trivial 4 (enact_run _ .refl)

def ranOutOfMemory : CoreProg Unit → Bool
  | .raise .memoryError => true
  | _ => false

def CoreEvent.writeRaised? : CoreEvent → Option Exc
  | .writeRaised e => some e
  | _ => none

set_option maxRecDepth 100000 in
theorem exhausted_record : claims exhausted.2.app.command.history = ["c"] ∧
    exhausted.2.app.command.history.filterMap CoreEvent.outcome? = [] ∧
    (exhausted.2.app.command.history.filterMap CoreEvent.writeRaised?).length = 0 ∧
    ranOutOfMemory exhausted.1 = true := by
  decide +kernel

/-- The run has ended in a `MemoryError`, `begin_write` has raised nothing, and the claimed command
has no outcome. -/
theorem claim_unsettled : Started shippedBoot recovered ∧
    CoreRun shippedBoot 12 recovered exhausted.1 exhausted.2 ∧ ranOutOfMemory exhausted.1 = true ∧
    claims exhausted.2.app.command.history = ["c"] ∧
    (∀ e, .writeRaised e ∉ exhausted.2.app.command.history) ∧
    ∀ e ∈ exhausted.2.app.command.history, e.outcome? ≠ some "c" := by
  obtain ⟨hclaims, houtcomes, hwrites, hended⟩ := exhausted_record
  refine ⟨recovered_started, exhausted_run, hended, hclaims, fun e he => ?_, fun e he houtcome => ?_⟩
  · have hmem : e ∈ exhausted.2.app.command.history.filterMap CoreEvent.writeRaised? :=
      List.mem_filterMap.mpr ⟨_, he, rfl⟩
    simp [List.length_eq_zero_iff.mp hwrites] at hmem
  · have hmem : "c" ∈ exhausted.2.app.command.history.filterMap CoreEvent.outcome? :=
      List.mem_filterMap.mpr ⟨e, he, houtcome⟩
    simp [houtcomes] at hmem

end PicoDualCore
