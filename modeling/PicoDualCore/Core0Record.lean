import PicoDualCore.Core0Turns
set_option autoImplicit false

namespace PicoDualCore
open AtomicProgram MqttClient

def Contained (k : CommandState) : Container → Stamps → Prop
  | .response p, stamps => { p with stamps } ∈ k.pendingResponses
  | .reboot r, stamps => k.pendingReboot = some { r with stamps }

def Container.Same : Container → Container → Prop
  | .response p, .response p' => p'.uid = p.uid ∧ p'.response = p.response ∧
      p'.clearsPendingReboot = p.clearsPendingReboot
  | .reboot r, .reboot r' => r'.uid = r.uid ∧ r'.commandId = r.commandId ∧ r'.targeted = r.targeted
  | _, _ => False

inductive Restamped (boot : Boot) (b : Board) (k : CommandState) (numbered : Option Nat)
    (c : Container) (stamps : Stamps) : Stamps → Prop where
  | same : Restamped boot b k numbered c stamps stamps
  | sequence (hnone : stamps.wireSequence = none) (hc : numbered = some c.uid)
      (hnext : k.nextSequence = b.command.nextSequence + 1) :
      Restamped boot b k numbered c stamps
        { stamps with wireSequence := some b.command.nextSequence }
  | frozen (payload : Bytes) (hnone : stamps.payloadBytes = none)
      (hdoc : ∃ uptime timestamp, serializeAndValidateMessage
        (.dict (c.content.message uptime timestamp)) = .ok payload) :
      Restamped boot b k numbered c stamps { stamps with payloadBytes := some payload }
  | failed (failure : PermanentFailure) (hwhy : Unsendable boot stamps) :
      Restamped boot b k numbered c stamps { stamps with permanentFailure := some failure }

inductive Origin (boot : Boot) (b : Board) (k : CommandState) (numbered : Option Nat)
    (c : Container) (stamps : Stamps) : Prop where
  | kept (c₀ : Container) (stamps₀ : Stamps) (h : Contained b.command c₀ stamps₀)
      (hsame : c₀.Same c) (hstamps : Restamped boot b k numbered c₀ stamps₀ stamps)
  | opened (hc : c.uid = b.command.nextUid) (hnext : k.nextUid = b.command.nextUid + 1)
      (hstamps : stamps = {})

section Containers

variable {boot : Boot} {n : Network} {b b' : Board} {k : CommandState} {c c' : Container}
  {stamps stamps' : Stamps} {numbered : Option Nat}

theorem Container.same_refl (c : Container) : c.Same c := by cases c <;> exact ⟨rfl, rfl, rfl⟩

theorem Container.Same.uid (h : c.Same c') : c'.uid = c.uid := by
  cases c <;> cases c' <;> first | exact h.1 | exact h.elim

theorem Container.Same.content (h : c.Same c') : c'.content = c.content := by
  cases c with
  | response p =>
    cases c' with
    | response p' => exact h.2.1
    | reboot r' => exact h.elim
  | reboot r =>
    cases c' with
    | response p' => exact h.elim
    | reboot r' => simp [Container.content, rebootAcknowledgement, h.2.1, h.2.2]

theorem Held.contained (h : Held c stamps b) : Contained b.command c stamps := by
  cases c with
  | response p => exact h.mem
  | reboot r => exact h.2

theorem contained_response {p : PendingResponse} (h : p ∈ k.pendingResponses) :
    Contained k (.response p) p.stamps := h

theorem Contained.given (h : Contained k c stamps) (hk : k.Numbered) : c.uid < k.nextUid := by
  cases c with
  | response p => exact hk.given { p with stamps } h
  | reboot r => exact hk.rebootGiven { r with stamps } h

/-- A container has one identity, which no other has. -/
theorem Contained.unique (h : Contained k c stamps) (h' : Contained k c' stamps')
    (hk : k.Numbered) (huid : c'.uid = c.uid) : stamps' = stamps ∧ c.Same c' := by
  cases c with
  | response p =>
    cases c' with
    | response p' =>
      have heq : { p' with stamps := stamps' } = { p with stamps } :=
        List.inj_on_of_nodup_map hk.nodup h' h huid
      cases p
      cases p'
      cases heq
      exact ⟨rfl, rfl, rfl, rfl⟩
    | reboot r' => exact (hk.rebootApart _ h' _ h huid.symm).elim
  | reboot r =>
    cases c' with
    | response p' => exact (hk.rebootApart _ h _ h' huid).elim
    | reboot r' =>
      have heq := Option.some.inj (Eq.trans (Eq.symm h') h)
      cases r
      cases r'
      cases heq
      exact ⟨rfl, rfl, rfl, rfl⟩

theorem contained_modify {uid : Nat} {f : Stamps → Stamps}
    (h : Contained (k.modifyStamps uid f) c stamps) :
    ∃ stamps₀, Contained k c stamps₀ ∧ stamps = if c.uid = uid then f stamps₀ else stamps₀ := by
  cases c with
  | response p =>
    obtain ⟨p₀, hp₀, heq⟩ := List.mem_map.mp h
    by_cases huid : p₀.uid = uid
    · rw [if_pos huid] at heq
      cases p₀
      cases p
      cases heq
      exact ⟨_, hp₀, (if_pos huid).symm⟩
    · rw [if_neg huid] at heq
      cases p₀
      cases p
      cases heq
      exact ⟨_, hp₀, (if_neg huid).symm⟩
  | reboot r =>
    obtain ⟨r₀, hr₀, heq⟩ := Option.map_eq_some_iff.mp h
    by_cases huid : r₀.uid = uid
    · rw [if_pos huid] at heq
      cases r₀
      cases r
      cases heq
      exact ⟨_, hr₀, (if_pos huid).symm⟩
    · rw [if_neg huid] at heq
      cases r₀
      cases r
      cases heq
      exact ⟨_, hr₀, (if_neg huid).symm⟩

theorem Origin.old (h : Contained b.command c stamps) : Origin boot b k numbered c stamps :=
  .kept c stamps h c.same_refl .same

theorem Origin.fewer (hresponses : ∀ p ∈ k.pendingResponses, p ∈ b.command.pendingResponses)
    (hreboot : ∀ r, k.pendingReboot = some r → b.command.pendingReboot = some r)
    (h : Contained k c stamps) : Origin boot b k numbered c stamps := by
  refine .old ?_
  cases c with
  | response p => exact hresponses _ h
  | reboot r => exact hreboot _ h

theorem Origin.added {p : PendingResponse} (hp : p.uid = b.command.nextUid) (hblank : p.stamps = {})
    (hresponses : ∀ p' ∈ k.pendingResponses, p' ∈ b.command.pendingResponses ∨ p' = p)
    (hreboot : ∀ r, k.pendingReboot = some r → ∃ flag, b.command.pendingReboot =
      some { r with permanentFailureAnswerQueued := flag })
    (hnext : k.nextUid = b.command.nextUid + 1) (h : Contained k c stamps) :
    Origin boot b k numbered c stamps := by
  cases c with
  | response p' =>
    rcases hresponses _ h with hold | hnew
    · exact .old hold
    · refine .opened ?_ hnext ?_
      · rw [← hp, ← hnew]
        rfl
      · rw [← hblank, ← hnew]
  | reboot r =>
    obtain ⟨flag, hflag⟩ := hreboot _ h
    exact .kept (.reboot { r with permanentFailureAnswerQueued := flag }) stamps hflag
      ⟨rfl, rfl, rfl⟩ .same

theorem Origin.restamped {f : Stamps → Stamps} (hc : Held c stamps b) (hk : b.command.Numbered)
    (hf : ∀ c', c.Same c' → Restamped boot b k numbered c' stamps (f stamps))
    (hresponses : k.pendingResponses = (b.command.modifyStamps c.uid f).pendingResponses)
    (hreboot : k.pendingReboot = (b.command.modifyStamps c.uid f).pendingReboot)
    (h : Contained k c' stamps') : Origin boot b k numbered c' stamps' := by
  have hmodified : Contained (b.command.modifyStamps c.uid f) c' stamps' := by
    cases c' with
    | response p =>
      rw [Contained, ← hresponses]
      exact h
    | reboot r =>
      rw [Contained, ← hreboot]
      exact h
  obtain ⟨stamps₀, hcontained, heq⟩ := contained_modify hmodified
  by_cases huid : c'.uid = c.uid
  · obtain ⟨rfl, hsame⟩ := hc.contained.unique hcontained hk huid
    rw [if_pos huid] at heq
    exact .kept c' stamps₀ hcontained c'.same_refl (heq ▸ hf c' hsame)
  · rw [if_neg huid] at heq
    exact .old (heq ▸ hcontained)

theorem CommandState.queueResponse_origin {response : CommandResponse} {clears : Bool}
    {note : Nat → CoreEvent}
    (h : Contained (b.command.queueResponse response clears note).2 c stamps) :
    Origin boot b (b.command.queueResponse response clears note).2 numbered c stamps := by
  unfold CommandState.queueResponse at h ⊢
  by_cases hfull : b.command.queueFull = true
  · rw [if_pos hfull] at h ⊢
    exact .old h
  · rw [if_neg hfull] at h ⊢
    refine Origin.added (p := { uid := b.command.nextUid, response, clearsPendingReboot := clears })
      rfl rfl (fun p hp => ?_) (fun r hr => ⟨r.permanentFailureAnswerQueued, hr⟩) rfl h
    simpa using hp

theorem AsideStep.origin (h : AsideStep b b') (hc : Contained b'.command c stamps) :
    Origin boot b b'.command numbered c stamps := by
  cases h with
  | quiet h => exact .old (h.command ▸ hc)
  | replied r => exact CommandState.queueResponse_origin hc
  | rebootAccepted id targeted hfree =>
    cases c with
    | response p => exact .old hc
    | reboot r =>
      cases r
      cases hc
      exact .opened rfl rfl rfl
  | dispatched event _ hcommand =>
    rw [hcommand] at hc
    refine .old ?_
    cases c <;> exact hc
  | _ =>
    refine .old ?_
    cases c <;> exact hc

/-- The container that gets a sequence in this step. -/
theorem CommandStep.origin (h : CommandStep boot n b k) (hb : b.command.Numbered) :
    ∃ numbered, ∀ c stamps, Contained k c stamps → Origin boot b k numbered c stamps := by
  cases h with
  | sequence c stamps hc hnone =>
    refine ⟨some c.uid, fun c' stamps' h => ?_⟩
    exact Origin.restamped (f := fun s => { s with wireSequence := some b.command.nextSequence })
      hc hb (fun c₁ hsame => .sequence hnone (congrArg some hsame.uid.symm) rfl) rfl rfl h
  | frozen c stamps payload hc hnone hdoc =>
    refine ⟨none, fun c' stamps' h => .restamped hc hb (fun c₁ hsame => ?_) rfl rfl h⟩
    exact .frozen payload hnone (hsame.content ▸ hdoc)
  | failed c stamps failure hc hwhy =>
    exact ⟨none, fun c' stamps' h => .restamped hc hb (fun _ _ => .failed failure hwhy) rfl rfl h⟩
  | answered p stamps hc =>
    refine ⟨none, fun c' stamps' h => .fewer (fun p' hp' => ?_) (fun r hr => ?_) h⟩
    · unfold CommandState.popPublished at hp'
      by_cases hclears : p.clearsPendingReboot = true
      · rw [if_pos hclears] at hp'
        exact List.mem_of_mem_drop hp'
      · rw [if_neg hclears] at hp'
        exact List.mem_of_mem_drop hp'
    · unfold CommandState.popPublished at hr
      by_cases hclears : p.clearsPendingReboot = true
      · rw [if_pos hclears] at hr
        cases hr
      · rw [if_neg hclears] at hr
        exact hr
  | substituted p stamps hc =>
    refine ⟨none, fun c' stamps' h => ?_⟩
    revert h
    unfold CommandState.substituteHead
    cases (b.command.stampsOf p.uid).permanentFailure with
    | none => exact fun h => .old h
    | some failure =>
      by_cases hsub : isResponseSubstitute p.response = true
      · simp only [hsub, if_true]
        exact fun h => .old h
      · simp only [hsub, Bool.false_eq_true, if_false]
        intro h
        refine Origin.added (p := substituteOf b.command.nextUid p failure) rfl rfl (fun p' hp' => ?_)
          (fun r hr => ⟨r.permanentFailureAnswerQueued, hr⟩) rfl h
        exact (List.mem_or_eq_of_mem_set hp').imp id id
  | rebootSubstituted r stamps hc =>
    refine ⟨none, fun c' stamps' h => ?_⟩
    rcases b.command.answerUnsentReboot_cases r with hsame | ⟨failure, -, -, hnew⟩
    · rw [hsame] at h ⊢
      exact .old h
    · rw [hnew] at h ⊢
      refine Origin.added (p := { uid := b.command.nextUid, response := _, clearsPendingReboot := true })
        rfl rfl (fun p' hp' => by simpa using hp') (fun r' hr' => ?_) rfl h
      obtain ⟨r₀, hr₀, rfl⟩ := Option.map_eq_some_iff.mp hr'
      refine ⟨r₀.permanentFailureAnswerQueued, ?_⟩
      rw [hr₀]
      by_cases huid : r₀.uid = r.uid
      · rw [if_pos huid]
      · rw [if_neg huid]
  | rebooting r stamps hc =>
    exact ⟨none, fun c' stamps' h => .fewer (fun _ hp => hp) (fun _ hr => by cases hr) h⟩
  | discardAnswered e r => exact ⟨none, fun c' stamps' h => CommandState.queueResponse_origin h⟩
  | _ =>
    refine ⟨none, fun c' stamps' h => .old ?_⟩
    cases c' <;> exact h

end Containers

def Attempt.numbered? (a : Attempt) : Option (Owner × Nat × String × Bytes) :=
  match a.tag, a.message with
  | some (owner, sequence), .bytes body => some (owner, sequence, a.topic, body)
  | _, _ => none

def CoreEvent.calm : CoreEvent → Bool
  | .attempt _ | .published (some _) _ => false
  | _ => true

inductive Recorded (boot : Boot) (n : Network) (b : Board) (k : CommandState) : Prop where
  | calm (new : List CoreEvent) (h : k.history = b.command.history ++ new)
      (hcalm : ∀ e ∈ new, e.calm = true) (howed : owed k.history = owed b.command.history)
  | attempt (a : Attempt) (h : k = b.command.record (.attempt a)) (hsends : Sends boot b a)
      (hturn : ∀ owner n, a.tag = some (owner, n) → OnTurn b owner n)
  | published (a : Attempt) (completedMs : Nat)
      (h : k = b.command.record (.published a.tag completedMs)) (hsends : Sends boot b a)
      (hidle : owed b.command.history = none) (hlast : lastAttempt b.command.history = some a)
      (hacked : Acked a n.events)
  | left (c : Container) (stamps : Stamps) (hheld : Held c stamps b)
      (howed : owed b.command.history = some (.container c.uid)) (new : List CoreEvent)
      (h : k.history = b.command.history ++ new) (hcalm : ∀ e ∈ new, e.calm = true)
      (hidle : owed k.history = none) (hgone : ∀ c' stamps', Contained k c' stamps' →
        c'.uid ≠ c.uid)

section Record

variable {boot : Boot} {n : Network} {b b' : Board} {k : CommandState}

@[simp] theorem acknowledged_append (history new : List CoreEvent) :
    acknowledged (history ++ new) = acknowledged history ++ acknowledged new :=
  List.filterMap_append

theorem attempts_calm {new : List CoreEvent} (h : ∀ e ∈ new, e.calm = true) : attempts new = [] := by
  refine List.filterMap_eq_nil_iff.mpr (fun e he => ?_)
  have hcalm := h e he
  cases e <;> first | rfl | cases hcalm

theorem acknowledged_calm {new : List CoreEvent} (h : ∀ e ∈ new, e.calm = true) :
    acknowledged new = [] := by
  refine List.filterMap_eq_nil_iff.mpr (fun e he => ?_)
  have hcalm := h e he
  cases e with
  | published tag ms =>
    cases tag with
    | none => rfl
    | some named => cases hcalm
  | _ => rfl

theorem CoreEvent.calm_of_aside {e : CoreEvent} (h : e.aside = true) : e.calm = true := by
  cases e <;> first | rfl | cases h

theorem CommandState.queueResponse_history (k : CommandState) (response : CommandResponse)
    (clears : Bool) (note : Nat → CoreEvent) :
    (k.queueResponse response clears note).2.history = k.history ∨
      (k.queueResponse response clears note).2.history = k.history ++ [note k.nextUid] := by
  unfold CommandState.queueResponse
  by_cases hfull : k.queueFull = true
  · exact .inl (by rw [if_pos hfull])
  · exact .inr (by rw [if_neg hfull])

theorem Recorded.nothing (h : k.history = b.command.history) : Recorded boot n b k :=
  .calm [] (by rw [h, List.append_nil]) (by simp) (by rw [h])

theorem Recorded.one {e : CoreEvent} (h : k.history = b.command.history ++ [e])
    (hcalm : e.calm = true) (hsettle : ∀ owner, e.settle owner = owner) : Recorded boot n b k := by
  refine .calm [e] h (by simpa using hcalm) ?_
  rw [h, owed_snoc, hsettle]

theorem CommandStep.recorded (h : CommandStep boot n b k) (hb : b.command.Numbered) :
    Recorded boot n b k := by
  cases h with
  | attempt a hsends hidle hturn => exact .attempt a rfl hsends hturn
  | published a completedMs hsends hidle hlast hacked =>
    exact .published a completedMs rfl hsends hidle hlast hacked
  | answered p stamps hc howed =>
    refine .left (.response p) stamps hc howed ([.answered p.uid] ++ if p.clearsPendingReboot then
      b.command.pendingReboot.toList.map (fun r => .rebootReleased r.uid) else []) ?_ ?_ ?_ ?_
    · unfold CommandState.popPublished
      by_cases hclears : p.clearsPendingReboot = true <;> simp [hclears]
    · intro e he
      rcases List.mem_append.mp he with he | he
      · rw [List.mem_singleton.mp he]
        rfl
      · by_cases hclears : p.clearsPendingReboot = true
        · rw [if_pos hclears] at he
          obtain ⟨r, -, rfl⟩ := List.mem_map.mp he
          rfl
        · rw [if_neg hclears] at he
          cases he
    · unfold CommandState.popPublished
      by_cases hclears : p.clearsPendingReboot = true
      · cases hreboot : b.command.pendingReboot <;> simp [hclears, owed, CoreEvent.settle]
      · simp [hclears, owed, CoreEvent.settle]
    · intro c' stamps' hc'
      cases hresponses : b.command.pendingResponses with
      | nil => simp [Held, hresponses] at hc
      | cons head rest =>
        have hhead : head = { p with stamps } := by simpa [Held, hresponses] using hc
        have hnodup := hb.nodup
        rw [hresponses, List.map_cons, List.nodup_cons, hhead] at hnodup
        cases c' with
        | response p' =>
          have hmem : { p' with stamps := stamps' } ∈ rest := by
            have hdrop : (b.command.popPublished p).pendingResponses = rest := by
              unfold CommandState.popPublished
              by_cases hclears : p.clearsPendingReboot = true <;> simp [hclears, hresponses]
            rw [← hdrop]
            exact hc'
          exact fun heq => hnodup.1 (List.mem_map.mpr ⟨_, hmem, heq⟩)
        | reboot r =>
          have hreboot : b.command.pendingReboot = some { r with stamps := stamps' } := by
            change (b.command.popPublished p).pendingReboot = _ at hc'
            unfold CommandState.popPublished at hc'
            by_cases hclears : p.clearsPendingReboot = true
            · simp [hclears] at hc'
            · simpa [hclears] using hc'
          exact fun heq => hb.rebootApart _ hreboot _ hc.mem heq.symm
  | rebooting r stamps hc howed =>
    refine .left (.reboot r) stamps hc howed [.rebooting r.uid] rfl (by simp [CoreEvent.calm])
      (owed_snoc _ _) (fun c' stamps' hc' => ?_)
    cases c' with
    | response p => exact fun heq => hb.rebootApart _ hc.2 _ hc' heq
    | reboot r' => cases hc'
  | substituted p =>
    unfold CommandState.substituteHead
    cases (b.command.stampsOf p.uid).permanentFailure with
    | none => exact .nothing rfl
    | some failure =>
      by_cases hsub : isResponseSubstitute p.response = true
      · simp only [hsub, if_true]
        exact .nothing rfl
      · simp only [hsub, Bool.false_eq_true, if_false]
        exact .one rfl rfl (fun _ => rfl)
  | rebootSubstituted r =>
    rcases b.command.answerUnsentReboot_cases r with hsame | ⟨failure, -, -, hnew⟩
    · exact .nothing (by rw [hsame])
    · exact .one (by rw [hnew]) rfl (fun _ => rfl)
  | reset uid => exact .one rfl rfl (fun _ => rfl)
  | discardAnswered e r =>
    rcases b.command.queueResponse_history r false (fun uid => .discardAnswered e.ref uid) with
      hsame | hnew
    · exact .nothing hsame
    · exact .one hnew rfl (fun _ => rfl)
  | _ => exact .nothing rfl

end Record

end PicoDualCore
