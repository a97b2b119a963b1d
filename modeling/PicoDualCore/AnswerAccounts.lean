import PicoDualCore.IngressRecord
import PicoDualCore.RebootSafety
set_option autoImplicit false

namespace PicoDualCore
open AtomicProgram MqttClient

def CoreEvent.stored? : CoreEvent → Option Nat
  | .responded uid _ => some uid
  | .substituted _ substitute => some substitute
  | .rebootSubstituted _ substitute => some substitute
  | .discardAnswered _ substitute => some substitute
  | _ => none

def CoreEvent.left? : CoreEvent → Option Nat
  | .answered uid => some uid
  | .substituted uid _ => some uid
  | _ => none

def CoreEvent.dispatched? : CoreEvent → Option CommandEvent
  | .dispatched event => some event
  | _ => none

def storedAnswers (history : List CoreEvent) : List Nat := history.filterMap CoreEvent.stored?

def answersLeft (history : List CoreEvent) : List Nat := history.filterMap CoreEvent.left?

def dispatchedEvents (history : List CoreEvent) : List CommandEvent :=
  history.filterMap CoreEvent.dispatched?

/-- The pending answers under their identities. -/
def CommandState.answers (k : CommandState) : List (Nat × CommandResponse) :=
  k.pendingResponses.map (fun p => (p.uid, p.response))

def CommandResponse.substitute (response : CommandResponse) (failure : PermanentFailure) :
    CommandResponse :=
  substituteFor response.commandId response.targeted response.command failure

/-- Stored at the end, answered at the head, or replaced at the head. -/
inductive AnswerChange (boot : Boot) (events : List SocketEvent) (k k' : CommandState) : Prop where
  | kept (hqueue : k'.answers = k.answers) (hnext : k.nextUid ≤ k'.nextUid) (new : List CoreEvent)
      (hhistory : k'.history = k.history ++ new)
      (hnew : ∀ e ∈ new, e.stored? = none ∧ e.left? = none)
  | stored (e : CoreEvent) (response : CommandResponse) (hroom : k.queueFull = false)
      (hqueue : k'.answers = k.answers ++ [(k.nextUid, response)]) (hnext : k.nextUid < k'.nextUid)
      (hhistory : k'.history = k.history ++ [e]) (hstored : e.stored? = some k.nextUid)
      (hleft : e.left? = none) (hid : ∀ uid id, e = .responded uid id → response.commandId = id)
  | answered (uid : Nat) (response : CommandResponse) (new : List CoreEvent)
      (hqueue : k.answers = (uid, response) :: k'.answers) (hnext : k.nextUid ≤ k'.nextUid)
      (hhistory : k'.history = k.history ++ .answered uid :: new)
      (hnew : ∀ e ∈ new, e.stored? = none ∧ e.left? = none)
      (hacked : ResponseAcked boot uid response events)
  | substituted (uid : Nat) (response : CommandResponse) (failure : PermanentFailure)
      (rest : List (Nat × CommandResponse)) (hplain : isResponseSubstitute response = false)
      (hqueue : k.answers = (uid, response) :: rest)
      (hqueue' : k'.answers = (k.nextUid, response.substitute failure) :: rest)
      (hnext : k.nextUid < k'.nextUid)
      (hhistory : k'.history = k.history ++ [.substituted uid k.nextUid])

section Change

variable {boot : Boot} {n : Network} {s t : Sys Board} {b b' : Board} {k k' : CommandState}
  {events : List SocketEvent}

theorem storedAnswers_append (history new : List CoreEvent) :
    storedAnswers (history ++ new) = storedAnswers history ++ storedAnswers new :=
  List.filterMap_append

theorem answersLeft_append (history new : List CoreEvent) :
    answersLeft (history ++ new) = answersLeft history ++ answersLeft new :=
  List.filterMap_append

theorem AnswerChange.refl (k : CommandState) : AnswerChange boot events k k :=
  .kept rfl (Nat.le_refl _) [] (List.append_nil _).symm (by simp)

theorem AnswerChange.record (k : CommandState) {e : CoreEvent} (hstored : e.stored? = none)
    (hleft : e.left? = none) : AnswerChange boot events k (k.record e) :=
  .kept rfl (Nat.le_refl _) [e] rfl (by simp [hstored, hleft])

theorem CommandState.answers_modifyStamps (k : CommandState) (uid : Nat) (f : Stamps → Stamps) :
    (k.modifyStamps uid f).answers = k.answers := by
  simp only [answers, modifyStamps, List.map_map]
  refine List.map_congr_left (fun p _ => ?_)
  by_cases h : p.uid = uid <;> simp [h]

theorem AnswerChange.modify (k : CommandState) (uid : Nat) (f : Stamps → Stamps) :
    AnswerChange boot events k (k.modifyStamps uid f) :=
  .kept (k.answers_modifyStamps uid f) (Nat.le_refl _) []
    (by simp [CommandState.modifyStamps]) (by simp)

theorem AnswerChange.queueResponse (k : CommandState) (response : CommandResponse)
    {note : Nat → CoreEvent} (hstored : ∀ uid, (note uid).stored? = some uid)
    (hleft : ∀ uid, (note uid).left? = none)
    (hid : ∀ uid uid' id, note uid = .responded uid' id → response.commandId = id) :
    AnswerChange boot events k (k.queueResponse response false note).2 := by
  unfold CommandState.queueResponse
  by_cases hfull : k.queueFull = true
  · rw [if_pos hfull]
    exact .refl k
  · rw [if_neg hfull]
    exact .stored _ response (by simpa using hfull) (by simp [CommandState.answers])
      (Nat.lt_succ_self _) rfl (hstored _) (hleft _) (hid _)

theorem AsideStep.answers (h : AsideStep b b') :
    AnswerChange boot events b.command b'.command := by
  cases h with
  | quiet h => exact h.command ▸ .refl _
  | claimed id =>
    exact .kept rfl (Nat.le_refl _) [.claimed id] rfl (by simp [CoreEvent.stored?, CoreEvent.left?])
  | replied r =>
    refine .queueResponse _ r (fun _ => rfl) (fun _ => rfl) (fun uid uid' id hnote => ?_)
    simp only [CoreEvent.responded.injEq] at hnote
    exact hnote.2
  | rebootAccepted id targeted =>
    refine .kept rfl (Nat.le_succ _) [.rebootAccepted b.command.nextUid id] rfl ?_
    simp [CoreEvent.stored?, CoreEvent.left?]
  | dispatched event _ hcommand => exact hcommand ▸ .record _ rfl rfl
  | silenced id => exact .record _ rfl rfl
  | writeRaised e => exact .record _ rfl rfl
  | reset => exact .record _ rfl rfl

theorem Held.answers {p : PendingResponse} {stamps : Stamps} (h : Held (.response p) stamps b) :
    b.command.answers = (p.uid, p.response) :: (b.command.pendingResponses.drop 1).map
      (fun p => (p.uid, p.response)) := by
  change b.command.pendingResponses.head? = _ at h
  cases hqueue : b.command.pendingResponses with
  | nil => simp [hqueue] at h
  | cons q rest =>
    simp only [hqueue, List.head?_cons, Option.some.injEq] at h
    simp [CommandState.answers, hqueue, h]

theorem Held.popPublished {p : PendingResponse} {stamps : Stamps}
    (h : Held (.response p) stamps b) (hacked : ResponseAcked boot p.uid p.response events) :
    AnswerChange boot events b.command (b.command.popPublished p) := by
  unfold CommandState.popPublished
  by_cases hclears : p.clearsPendingReboot = true
  · rw [if_pos hclears]
    refine .answered p.uid p.response _ h.answers (Nat.le_refl _) (List.append_assoc _ _ _)
      (fun e he => ?_) hacked
    obtain ⟨r, -, rfl⟩ := List.mem_map.mp he
    exact ⟨rfl, rfl⟩
  · rw [if_neg hclears]
    exact .answered p.uid p.response [] h.answers (Nat.le_refl _) rfl (by simp) hacked

theorem Held.substituteHead {p : PendingResponse} {stamps : Stamps}
    (h : Held (.response p) stamps b) :
    AnswerChange boot events b.command (b.command.substituteHead p) := by
  unfold CommandState.substituteHead
  cases (b.command.stampsOf p.uid).permanentFailure with
  | none => exact .refl _
  | some failure =>
    by_cases hsub : isResponseSubstitute p.response = true
    · simpa only [hsub, if_true] using .refl _
    · simp only [hsub, Bool.false_eq_true, if_false]
      have hqueue := h.answers
      refine .substituted p.uid p.response failure _ (by simpa using hsub) hqueue ?_
        (Nat.lt_succ_self _) rfl
      cases hpending : b.command.pendingResponses with
      | nil => simp [CommandState.answers, hpending] at hqueue
      | cons q rest => simp [CommandState.answers, CommandResponse.substitute]

theorem CommandStep.answers (h : CommandStep boot n b k) (hacked : ∀ p stamps,
      Held (.response p) stamps b → owed b.command.history = some (.container p.uid) →
      ResponseAcked boot p.uid p.response n.events) :
    AnswerChange boot n.events b.command k := by
  cases h with
  | sequence c =>
    refine .kept ?_ (Nat.le_refl _) [] (by simp [CommandState.modifyStamps]) (by simp)
    exact b.command.answers_modifyStamps c.uid
      (fun s => { s with wireSequence := some b.command.nextSequence })
  | frozen c => exact .modify _ _ _
  | failed c => exact .modify _ _ _
  | attempt a => exact .record _ rfl rfl
  | published a => exact .record _ rfl rfl
  | answered p stamps hheld howed => exact hheld.popPublished (hacked p stamps hheld howed)
  | substituted p stamps hheld => exact hheld.substituteHead
  | rebootSubstituted r =>
    rcases b.command.answerUnsentReboot_cases r with hsame | ⟨failure, -, hroom, hnew⟩
    · rw [hsame]
      exact .refl _
    · rw [hnew]
      exact .stored _ _ hroom (by simp [CommandState.answers]; rfl) (Nat.lt_succ_self _) rfl rfl rfl
        (fun _ _ he => by cases he)
  | rebooting r =>
    exact .kept rfl (Nat.le_refl _) _ rfl (by simp [CoreEvent.stored?, CoreEvent.left?])
  | reset uid => exact .record _ rfl rfl
  | discardAnswered e r =>
    exact .queueResponse _ r (fun _ => rfl) (fun _ => rfl) (fun _ _ _ he => by cases he)

theorem CoreStep.answers (h : CoreStep boot s t) (hs : InOrder boot s)
    (hfrozen : Frozen s.app.command) :
    AnswerChange boot s.net.events s.app.command t.app.command := by
  cases h with
  | board h =>
    cases h with
    | aside h => exact h.answers
    | command h hmoved =>
      rw [hmoved.command]
      exact h.answers (fun p stamps hheld howed =>
        hs.containerAcked hfrozen (c := .response p) hheld.contained howed)
    | released e discarded => exact .record _ rfl rfl
    | _ => exact .kept rfl (Nat.le_refl _) [] (by simp [Board.command]) (by simp)
  | _ => exact .refl _

end Change

def Carried (boot : Boot) (events : List SocketEvent) (k : CommandState) (uid : Nat)
    (response : CommandResponse) : Prop :=
  (uid, response) ∈ k.answers ∨
    .answered uid ∈ k.history ∧ ResponseAcked boot uid response events

/-- What has become of the answer to a command: it is carried, or its one substitute is. -/
def AnswerFate (boot : Boot) (events : List SocketEvent) (k : CommandState) (id : String)
    (uid : Nat) : Prop :=
  ∃ response : CommandResponse, response.commandId = id ∧ (Carried boot events k uid response ∨
    ∃ u failure, .substituted uid u ∈ k.history ∧
      Carried boot events k u (response.substitute failure))

structure AnswerLedger (boot : Boot) (events : List SocketEvent) (k : CommandState) : Prop where
  given : ∀ uid ∈ storedAnswers k.history, uid < k.nextUid
  nodup : (storedAnswers k.history).Nodup
  balance : (storedAnswers k.history).Perm (answersLeft k.history ++ k.answers.map Prod.fst)
  room : k.pendingResponses.length ≤ MAX_PENDING_CORE0_RESPONSES
  fate : ∀ uid id, .responded uid id ∈ k.history → AnswerFate boot events k id uid

section Accounts

variable {boot : Boot} {rounds : Nat} {s t : Sys Board} {k k' : CommandState}
  {events events' : List SocketEvent} {uid : Nat} {response : CommandResponse} {q : CoreProg Unit}

theorem isResponseSubstitute_substitute (response : CommandResponse) (failure : PermanentFailure) :
    isResponseSubstitute (response.substitute failure) = true := by
  cases failure <;> rfl

theorem AnswerChange.grows (h : AnswerChange boot events k k') : k.history <+: k'.history := by
  cases h with
  | kept hqueue hnext new hhistory => exact ⟨new, hhistory.symm⟩
  | stored e response hroom hqueue hnext hhistory => exact ⟨_, hhistory.symm⟩
  | answered uid response new hqueue hnext hhistory => exact ⟨_, hhistory.symm⟩
  | substituted uid response failure rest hplain hqueue hqueue' hnext hhistory =>
    exact ⟨_, hhistory.symm⟩

/-- A response that is carried stays so, or gives way to its substitute. -/
theorem Carried.change (h : AnswerChange boot events k k') (hmore : events <+: events')
    (hc : Carried boot events k uid response) : Carried boot events' k' uid response ∨
      isResponseSubstitute response = false ∧ ∃ u failure, .substituted uid u ∈ k'.history ∧
        Carried boot events' k' u (response.substitute failure) := by
  have hgrows := h.grows
  rcases hc with hpending | ⟨hanswered, hacked⟩
  · cases h with
    | kept hqueue => exact .inl (.inl (hqueue ▸ hpending))
    | stored e response hroom hqueue => exact .inl (.inl (by simp [hqueue, hpending]))
    | answered uid' response' new hqueue hnext hhistory hnew hacked =>
      simp only [hqueue, List.mem_cons, Prod.mk.injEq] at hpending
      rcases hpending with ⟨rfl, rfl⟩ | hrest
      · exact .inl (.inr ⟨by simp [hhistory], hacked.more hmore⟩)
      · exact .inl (.inl hrest)
    | substituted uid' response' failure rest hplain hqueue hqueue' hnext hhistory =>
      simp only [hqueue, List.mem_cons, Prod.mk.injEq] at hpending
      rcases hpending with ⟨rfl, rfl⟩ | hrest
      · exact .inr ⟨hplain, k.nextUid, failure, by simp [hhistory], .inl (by simp [hqueue'])⟩
      · exact .inl (.inl (by simp [hqueue', hrest]))
  · exact .inl (.inr ⟨hgrows.subset hanswered, hacked.more hmore⟩)

theorem AnswerFate.change {id : String} (h : AnswerChange boot events k k')
    (hmore : events <+: events') (hf : AnswerFate boot events k id uid) :
    AnswerFate boot events' k' id uid := by
  obtain ⟨response, hid, hcarried | ⟨u, failure, hsub, hcarried⟩⟩ := hf
  · rcases hcarried.change h hmore with hstays | ⟨-, hgone⟩
    · exact ⟨response, hid, .inl hstays⟩
    · exact ⟨response, hid, .inr hgone⟩
  · rcases hcarried.change h hmore with hstays | ⟨hplain, -⟩
    · exact ⟨response, hid, .inr ⟨u, failure, h.grows.subset hsub, hstays⟩⟩
    · simp [isResponseSubstitute_substitute] at hplain

theorem storedAnswers_none {new : List CoreEvent}
    (hnew : ∀ e ∈ new, e.stored? = none ∧ e.left? = none) :
    storedAnswers new = [] ∧ answersLeft new = [] :=
  ⟨List.filterMap_eq_nil_iff.mpr (fun e he => (hnew e he).1),
    List.filterMap_eq_nil_iff.mpr (fun e he => (hnew e he).2)⟩

theorem not_responded {new : List CoreEvent}
    (hnew : ∀ e ∈ new, e.stored? = none ∧ e.left? = none) (id : String) :
    .responded uid id ∉ new := by
  intro hmem
  cases (hnew _ hmem).1

theorem AnswerLedger.nodup_next (hk : AnswerLedger boot events k) :
    (storedAnswers k.history ++ [k.nextUid]).Nodup := by
  refine List.nodup_append'.mpr ⟨hk.nodup, List.nodup_singleton _, ?_⟩
  exact List.disjoint_singleton.mpr (fun hmem => Nat.lt_irrefl _ (hk.given _ hmem))

theorem AnswerLedger.given_next (hk : AnswerLedger boot events k) (hnext : k.nextUid < k'.nextUid) :
    ∀ uid ∈ storedAnswers k.history ++ [k.nextUid], uid < k'.nextUid := by
  intro uid huid
  rw [List.mem_append, List.mem_singleton] at huid
  rcases huid with hold | rfl
  · exact Nat.lt_trans (hk.given uid hold) hnext
  · exact hnext

theorem AnswerLedger.change (h : AnswerChange boot events k k') (hmore : events <+: events')
    (hk : AnswerLedger boot events k) : AnswerLedger boot events' k' := by
  have hfate : ∀ uid id, .responded uid id ∈ k.history → AnswerFate boot events' k' id uid :=
    fun uid id hmem => (hk.fate uid id hmem).change h hmore
  have hlength : ∀ {c : CommandState}, c.answers.length = c.pendingResponses.length :=
    List.length_map _
  have hroom := hk.room
  rw [← hlength] at hroom
  cases h with
  | kept hqueue hnext new hhistory hnew =>
    obtain ⟨hstored, hleft⟩ := storedAnswers_none hnew
    have hsame : storedAnswers k'.history = storedAnswers k.history := by
      rw [hhistory, storedAnswers_append, hstored, List.append_nil]
    refine ⟨fun uid huid => ?_, hsame ▸ hk.nodup, ?_, by rw [← hlength, hqueue]; exact hroom,
      fun uid id hmem => ?_⟩
    · exact Nat.lt_of_lt_of_le (hk.given uid (hsame ▸ huid)) hnext
    · rw [hsame, hqueue, hhistory, answersLeft_append, hleft, List.append_nil]
      exact hk.balance
    · rw [hhistory] at hmem
      exact hfate uid id ((List.mem_append.mp hmem).resolve_right (not_responded hnew id))
  | stored e response hfree hqueue hnext hhistory hstored hleft hid =>
    have hnew : storedAnswers k'.history = storedAnswers k.history ++ [k.nextUid] := by
      rw [hhistory, storedAnswers_append]
      simp [storedAnswers, hstored]
    have hsame : answersLeft k'.history = answersLeft k.history := by
      rw [hhistory, answersLeft_append]
      simp [answersLeft, hleft]
    refine ⟨fun uid huid => ?_, ?_, ?_, ?_, fun uid id hmem => ?_⟩
    · exact hk.given_next hnext uid (hnew ▸ huid)
    · exact hnew ▸ hk.nodup_next
    · rw [hnew, hsame, hqueue, List.map_append, ← List.append_assoc]
      exact hk.balance.append_right _
    · rw [CommandState.queueFull, decide_eq_false_iff_not, ← hlength] at hfree
      rw [← hlength, hqueue, List.length_append]
      simp only [List.length_singleton]
      omega
    · rw [hhistory, List.mem_append, List.mem_singleton] at hmem
      rcases hmem with hold | rfl
      · exact hfate uid id hold
      · have huid : uid = k.nextUid := Option.some.inj hstored
        exact ⟨response, hid uid id rfl, .inl (.inl (by simp [hqueue, huid]))⟩
  | answered uid response new hqueue hnext hhistory hnew hacked =>
    obtain ⟨hstored, hleft⟩ := storedAnswers_none hnew
    have hsame : storedAnswers k'.history = storedAnswers k.history := by
      rw [hhistory, storedAnswers_append]
      change _ ++ storedAnswers new = _
      rw [hstored, List.append_nil]
    have hgone : answersLeft k'.history = answersLeft k.history ++ [uid] := by
      rw [hhistory, answersLeft_append]
      change _ ++ uid :: answersLeft new = _
      rw [hleft]
    refine ⟨fun u hu => ?_, hsame ▸ hk.nodup, ?_, ?_, fun u id hmem => ?_⟩
    · exact Nat.lt_of_lt_of_le (hk.given u (hsame ▸ hu)) hnext
    · rw [hsame, hgone, List.append_assoc]
      simpa [hqueue] using hk.balance
    · rw [hqueue, List.length_cons] at hroom
      rw [← hlength]
      omega
    · rw [hhistory, List.mem_append, List.mem_cons] at hmem
      rcases hmem with hold | hnow | hlater
      · exact hfate u id hold
      · cases hnow
      · exact (not_responded hnew id hlater).elim
  | substituted uid response failure rest hplain hqueue hqueue' hnext hhistory =>
    have hnew : storedAnswers k'.history = storedAnswers k.history ++ [k.nextUid] := by
      rw [hhistory, storedAnswers_append]
      rfl
    have hgone : answersLeft k'.history = answersLeft k.history ++ [uid] := by
      rw [hhistory, answersLeft_append]
      rfl
    refine ⟨fun u hu => ?_, ?_, ?_, ?_, fun u id hmem => ?_⟩
    · exact hk.given_next hnext u (hnew ▸ hu)
    · exact hnew ▸ hk.nodup_next
    · have hold : (storedAnswers k.history).Perm
          (answersLeft k.history ++ uid :: rest.map Prod.fst) := by
        simpa [hqueue] using hk.balance
      rw [hnew, hgone, hqueue', List.map_cons, List.append_assoc]
      -- the substitute takes the place of what it replaces
      refine (hold.append_right [k.nextUid]).trans ?_
      rw [List.append_assoc]
      refine List.Perm.append_left _ (List.Perm.cons _ ?_)
      exact List.perm_append_comm
    · rw [hqueue, List.length_cons] at hroom
      rw [← hlength, hqueue', List.length_cons]
      exact hroom
    · rw [hhistory, List.mem_append, List.mem_singleton] at hmem
      rcases hmem with hold | hnow
      · exact hfate u id hold
      · cases hnow

theorem Started.answerLedger (hs : Started boot s) :
    AnswerLedger boot s.net.events s.app.command := by
  obtain ⟨hhistory, hresponses, -⟩ := hs.blank
  constructor <;> simp [hhistory, hresponses, storedAnswers, answersLeft, CommandState.answers]

theorem CoreRun.answerLedger (hs : Started boot s) (h : CoreRun boot rounds s q t) :
    Frozen t.app.command ∧ AnswerLedger boot t.net.events t.app.command := by
  refine (h.holds (I := fun u => Frozen u.app.command ∧
    AnswerLedger boot u.net.events u.app.command) hs
      ⟨hs.rebootLedger.frozen, hs.answerLedger⟩ ?_ ?_).2
  · rintro a b ha ⟨hfrozen, hledger⟩ hab
    exact ⟨hfrozen.step hab ha.orderly, hledger.change (hab.answers ha hfrozen) hab.events⟩
  · intro a b hI hab
    rw [hab.board.command, hab.peer.events]
    exact hI

theorem dispatchedEvents_append (history new : List CoreEvent) :
    dispatchedEvents (history ++ new) = dispatchedEvents history ++ dispatchedEvents new :=
  List.filterMap_append

theorem IngressKept.dispatched (h : IngressKept k k') :
    dispatchedEvents k'.history = dispatchedEvents k.history := by
  obtain ⟨-, new, hhistory, hnew⟩ := h
  have hnone : dispatchedEvents new = [] := by
    refine List.filterMap_eq_nil_iff.mpr (fun e he => ?_)
    have houtcome := (hnew e he).2
    cases e <;> first | rfl | cases houtcome
  rw [hhistory, dispatchedEvents_append, hnone, List.append_nil]

theorem lane_other {queue : List CommandEvent} {history : List CoreEvent} {e : CoreEvent}
    (hb : queue <:+ dispatchedEvents history) (he : e.dispatched? = none) :
    queue <:+ dispatchedEvents (history ++ [e]) := by
  rw [dispatchedEvents_append]
  simpa [dispatchedEvents, he] using hb

theorem AsideStep.lane {b b' : Board} (h : AsideStep b b')
    (hb : b.events.queue <:+ dispatchedEvents b.command.history) :
    b'.events.queue <:+ dispatchedEvents b'.command.history := by
  cases h with
  | quiet h => rwa [h.events, h.command]
  | replied r hroom =>
    rw [CommandState.reply_of_room r hroom]
    exact lane_other hb rfl
  | rebootAccepted id targeted => exact lane_other hb rfl
  | dispatched event _ hcommand _ hevents =>
    obtain ⟨taken, htaken⟩ := hb
    rw [hevents, hcommand, CommandState.record, dispatchedEvents_append, ← htaken]
    exact ⟨taken, (List.append_assoc _ _ _).symm⟩
  | _ => exact lane_other hb rfl

theorem CoreStep.lane (h : CoreStep boot s t)
    (hs : s.app.events.queue <:+ dispatchedEvents s.app.command.history) :
    t.app.events.queue <:+ dispatchedEvents t.app.command.history := by
  cases h with
  | board h =>
    cases h with
    | aside h => exact h.lane hs
    | command h hmoved => rwa [hmoved.events, hmoved.command, h.ingress.dispatched]
    | released e discarded => exact lane_other hs rfl
    | _ => exact hs
  | _ => exact hs

/-- The lane to Core 1 holds the end of what has been dispatched. -/
theorem CoreRun.lane (hs : Started boot s) (h : CoreRun boot rounds s q t) :
    t.app.events.queue <:+ dispatchedEvents t.app.command.history := by
  obtain ⟨bootMs, nowMs, minimum, preferred, maxMessages, disk, happ⟩ := hs.board
  refine (h.holds (I := fun u => u.app.events.queue <:+ dispatchedEvents u.app.command.history)
    hs ?_ (fun a b _ hI hab => hab.lane hI) ?_).2
  · simp [happ, Board.initial]
  · intro a b hI hab
    rw [hab.board.command]
    exact hab.board.events.trans hI

/-- In every run of Core 0: no answer is stored under an identity twice; the stored answers are
those that have left and those that are pending, at most four; the answer to a command is pending
or has been acknowledged, or its one substitute is or has; the lane to Core 1 holds the end of what
has been dispatched; and the queue of answers moves at its ends only. -/
theorem answers_accounted (hs : Started boot s) (h : CoreRun boot rounds s q t) :
    (storedAnswers t.app.command.history).Nodup ∧
    (storedAnswers t.app.command.history).Perm
      (answersLeft t.app.command.history ++ t.app.command.answers.map Prod.fst) ∧
    t.app.command.pendingResponses.length ≤ MAX_PENDING_CORE0_RESPONSES ∧
    (∀ uid id, .responded uid id ∈ t.app.command.history →
      AnswerFate boot t.net.events t.app.command id uid) ∧
    t.app.events.queue <:+ dispatchedEvents t.app.command.history ∧
    ∀ act next, q = .step act next → ∀ i,
      AnswerChange boot t.net.events t.app.command (act t i).app.command := by
  obtain ⟨hfrozen, hledger⟩ := h.answerLedger hs
  refine ⟨hledger.nodup, hledger.balance, hledger.room, hledger.fate, h.lane hs,
    fun act next hq i => ?_⟩
  subst hq
  exact (h.coreStep hs i).answers (h.inOrder hs) hfrozen

end Accounts

theorem answers_accounted_session : AnswerFate shippedBoot shippedSession.2.net.events
    shippedSession.2.app.command "a" 0 := by
  refine (answers_accounted recovered_started shippedSession_run).2.2.2.1 0 "a" ?_
  have hresponded : (0, "a") ∈
      shippedSession.2.app.command.history.filterMap CoreEvent.responded? := by
    simp [shippedSession_record.2.2.2.2.2]
  obtain ⟨event, hevent, hsome⟩ := List.mem_filterMap.mp hresponded
  cases event with
  | responded uid id =>
    simp only [CoreEvent.responded?, Option.some.injEq, Prod.mk.injEq] at hsome
    rwa [hsome.1, hsome.2] at hevent
  | _ => cases hsome

end PicoDualCore
