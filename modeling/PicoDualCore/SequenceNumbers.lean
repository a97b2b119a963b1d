import PicoDualCore.Core0Sender
set_option autoImplicit false

namespace PicoDualCore
open AtomicProgram MqttClient

section Sequences

variable {boot : Boot} {rounds : Nat} {s t : Sys Board} {q : CoreProg Unit}

/-- The same message of the same owner, under the same envelope. -/
structure Attempt.Repeats (a a' : Attempt) : Prop where
  tag : a'.tag = a.tag
  topic : a'.topic = a.topic
  message : a'.message = a.message
  fragment : a'.fragment = a.fragment

theorem InOrder.repeats (hs : InOrder boot s) {a a' : Attempt} {o o' : Owner} {n n' : Nat}
    (ha : a ∈ attempts s.app.command.history) (ha' : a' ∈ attempts s.app.command.history)
    (htag : a.tag = some (o, n)) (htag' : a'.tag = some (o', n')) (hsame : n = n' ∨ o = o') :
    a.Repeats a' := by
  obtain ⟨body, hmessage, hfragment, -, hsent⟩ := hs.sent ha htag
  obtain ⟨body', hmessage', hfragment', -, hsent'⟩ := hs.sent ha' htag'
  have hn : n = n' := by
    rcases hsame with hn | ho
    · exact hn
    · exact hs.numbered.once o n n' _ _ hsent (ho ▸ hsent')
  subst hn
  obtain ⟨ho, hcontent⟩ := hs.numbered.same o o' n _ _ hsent hsent'
  obtain ⟨htopic, hbody⟩ := Prod.mk.inj hcontent
  constructor
  · simp [htag, htag', ho]
  · exact htopic.symm
  · simp [hmessage, hmessage', hbody]
  · simp [hfragment, hfragment']

/-- In every run of Core 0: attempts with the same sequence, or of the same owner, are the same
message byte for byte; and no message is acknowledged twice. -/
theorem sequences_identify (hs : Started boot s) (h : CoreRun boot rounds s q t) :
    (∀ a ∈ attempts t.app.command.history, ∀ a' ∈ attempts t.app.command.history,
      ∀ o o' n n', a.tag = some (o, n) → a'.tag = some (o', n') → n = n' ∨ o = o' →
        a.Repeats a') ∧
    (acknowledged t.app.command.history).Nodup := by
  have horder := h.inOrder hs
  refine ⟨?_, horder.released.nodup⟩
  intro a ha a' ha' o o' n n' htag htag' hsame
  exact horder.repeats ha ha' htag htag' hsame

end Sequences

theorem started_recovery {boot : Boot} {d : Dir} {config : PyDict}
    {bootMs nowMs minimum preferred : Nat} {maxMessages : Option Nat}
    (hret : (recovery firmwareRules d).1 = .ret (.dict config))
    (hconfig : boot.config = splitConfigCore0 config)
    (hid : ∃ uid nonce, boot.runtimeId = runtimeIdOf uid nonce) :
    Started boot ⟨{}, Board.initial bootMs nowMs minimum preferred maxMessages
      ⟨(recovery firmwareRules d).2.dir, false, []⟩⟩ where
  net := rfl
  board := ⟨_, _, _, _, _, _, rfl⟩
  recovered := ⟨d, config, hret, rfl, hconfig⟩
  runtimeId := hid

theorem recovered_started : Started shippedBoot recovered :=
  started_recovery (recovery_settled shippedText_valid_1) rfl
    ⟨some [0xe6, 0x61, 0x41, 0x04, 0x03, 0x96, 0x96, 0x2a], [0x0b, 0xad, 0xf0, 0x0d],
      by decide +kernel⟩

theorem sequences_identify_session :
    (acknowledged shippedSession.2.app.command.history).length = 3 ∧
    (acknowledged shippedSession.2.app.command.history).Nodup := by
  refine ⟨?_, (sequences_identify recovered_started shippedSession_run).2⟩
  simp [shippedSession_record.2.1]

end PicoDualCore
