import PicoDualCore.ConfigSpec
import PicoDualCore.JsonSize
import PicoDualCore.SequenceNumbers
set_option autoImplicit false

namespace PicoDualCore
open AtomicProgram MqttClient

def wide (text : List Char) : Nat := (text.map (fun c => c.utf8Size - 1)).sum

section Wide

variable (c : Char) (s t : List Char)

@[simp] theorem wide_nil : wide [] = 0 := rfl

@[simp] theorem wide_cons : wide (c :: s) = c.utf8Size - 1 + wide s := by simp [wide]

@[simp] theorem wide_append : wide (s ++ t) = wide s + wide t := by simp [wide]

theorem length_utf8 : (utf8 s).length = s.length + wide s := by
  induction s with
  | nil => rfl
  | cons c s ih =>
    have hsize := Char.utf8Size_pos c
    simp only [utf8_cons, List.length_append, String.length_utf8EncodeChar, ih, List.length_cons,
      wide_cons]
    omega

variable {c s t}

theorem utf8Size_of_ascii (h : c.toNat < 128) : c.utf8Size = 1 :=
  Char.utf8Size_eq_one_iff.mpr (UInt32.le_iff_toNat_le.mpr (Nat.le_of_lt_succ h))

theorem wide_eq_zero_iff : wide s = 0 ↔ ∀ c ∈ s, c.toNat < 128 := by
  induction s with
  | nil => simp
  | cons c s ih =>
    have hsize := Char.utf8Size_pos c
    have hone : c.utf8Size = 1 ↔ c.toNat < 128 :=
      Char.utf8Size_eq_one_iff.trans (UInt32.le_iff_toNat_le.trans (Nat.lt_succ_iff).symm)
    simp only [wide_cons, List.forall_mem_cons, ← ih, ← hone]
    omega

theorem wide_quoteChar (c : Char) : wide (Json.quoteChar c) = c.utf8Size - 1 := by
  have hlow : ∀ n : Fin 128, wide (Json.quoteChar (Char.ofNat n)) = 0 := by decide
  by_cases h : c.toNat < 128
  · have hc := hlow ⟨c.toNat, h⟩
    simp only [Char.ofNat_toNat] at hc
    simp [hc, utf8Size_of_ascii h]
  · have hquote : Json.quoteChar c = [c] := by
      unfold Json.quoteChar
      rw [if_neg (by rintro rfl; exact h (by decide)), if_neg (by rintro rfl; exact h (by decide)),
        if_pos (by omega)]
    simp [hquote]

theorem wide_quote (s : String) : wide (Json.quote s) = wide s.toList := by
  have hbody : ∀ text : List Char, wide (text.flatMap Json.quoteChar) = wide text := by
    intro text
    induction text with
    | nil => rfl
    | cons c rest ih => simp [List.flatMap_cons, wide_quoteChar, ih]
  simp [Json.quote, hbody, utf8Size_of_ascii (show ('"').toNat < 128 by decide)]

theorem wide_intText (n : Int) : wide (Json.intText n) = 0 :=
  wide_eq_zero_iff.mpr (fun c hc => Json.ascii_of_isNumberChar (Json.intText_numberChars n c hc))

theorem wide_plain {text : List Char} (h : text.all (fun c => c.toNat < 128) = true) :
    wide text = 0 :=
  wide_eq_zero_iff.mpr (by simpa using h)

end Wide

section Documents

variable {boot : Boot}

theorem wide_toString (n : Nat) : wide (toString n).toList = 0 := by
  refine wide_eq_zero_iff.mpr (fun c hc => ?_)
  rw [Nat.toString_eq_repr, Nat.toList_repr] at hc
  have hdigit := Nat.isDigit_of_mem_toDigits (by decide) (by decide) hc
  simp only [Char.isDigit, Bool.and_eq_true, decide_eq_true_eq, UInt32.le_iff_toNat_le] at hdigit
  have hhigh : c.toNat ≤ 57 := hdigit.2
  omega

theorem wide_hexBytes (bytes : Bytes) : wide (hexBytes bytes).toList = 0 := by
  have hdigit : ∀ n : Fin 16, (Json.hexDigit n).toNat < 128 := by decide
  refine wide_eq_zero_iff.mpr (fun c hc => ?_)
  simp only [hexBytes, String.toList_ofList, List.mem_flatMap, List.mem_cons, List.not_mem_nil,
    or_false] at hc
  obtain ⟨b, -, rfl | rfl⟩ := hc
  · exact hdigit ⟨b.toNat / 16, by have := b.toNat_lt; omega⟩
  · exact hdigit ⟨b.toNat % 16, by omega⟩

theorem wide_runtimeIdOf (uid : Option Bytes) (nonce : Bytes) :
    wide (runtimeIdOf uid nonce).toList = 0 := by
  have hplain : wide "unknown".toList = 0 := by decide
  have hprefix : wide "runtime_".toList = 0 := by decide
  cases uid <;> simp only [runtimeIdOf, String.toList_append, wide_append, wide_hexBytes, hprefix,
    Option.map_none, Option.map_some, Option.getD_none, Option.getD_some, hplain]

def Boot.requestId (boot : Boot) (counter : Nat) : String := s!"{boot.runtimeId}_{counter}"

theorem wide_requestId (h : wide boot.runtimeId.toList = 0) (counter : Nat) :
    wide (boot.requestId counter).toList = 0 := by
  have hbar : wide "_".toList = 0 := by decide
  change wide (boot.runtimeId ++ "_" ++ toString counter).toList = 0
  simp only [String.toList_append, wide_append, wide_toString, h, hbar]

theorem wide_utcRequest (h : wide boot.runtimeId.toList = 0) (counter : Nat) :
    wide (Json.dumps (.dict (utcRequest boot (boot.requestId counter)))) =
      wide boot.config.source.toList := by
  have hid := wide_requestId h counter
  simp only [utcRequest, Json.dumps, Json.dumpPairs, Json.dumpMorePairs, PyKey.text, wide_cons,
    wide_append, wide_quote, wide_intText, wide_nil, hid]
  simp (disch := decide) only [wide_plain, utf8Size_of_ascii]
  omega

theorem wide_networkProbe (h : wide boot.runtimeId.toList = 0) (uptime : Int) (packetId : Nat) :
    wide (Json.dumps (.dict (networkProbeMessage boot uptime packetId))) = 0 := by
  simp only [networkProbeMessage, Json.dumps, Json.dumpPairs, Json.dumpMorePairs, PyKey.text,
    wide_cons, wide_append, wide_quote, wide_intText, wide_nil, h]
  simp (disch := decide) only [wide_plain, utf8Size_of_ascii]

end Documents

theorem Started.accepted {boot : Boot} {s : Sys Board} (hs : Started boot s) :
    ∃ items, boot.config = splitConfigCore0 items ∧ AcceptedConfig items := by
  obtain ⟨d, config, hrecovered, -, hconfig⟩ := hs.recovered
  obtain ⟨hvalue, -⟩ := recovery_dir (recovery_ret_iff.mp hrecovered)
  obtain ⟨text, -, htext⟩ := Option.bind_eq_some_iff.mp hvalue
  have hdecoded : decodeConfig firmwareRules .config text = .ok (.dict config) :=
    validText_eq_some.mp htext
  unfold decodeConfig at hdecoded
  cases hloads : firmwareRules.loads text with
  | error e => simp [hloads] at hdecoded
  | ok value =>
    by_cases hdict : value.isDict = true
    · simp only [hloads, hdict, if_true] at hdecoded
      obtain ⟨heq, -⟩ := validateConfig_ok hdecoded
      have hvalid : validateConfig (.dict config) = .ok (.dict config) := heq ▸ hdecoded
      obtain ⟨items, hitems, haccepted⟩ := AcceptedConfig.of_ok hvalid
      cases hitems
      exact ⟨config, hconfig, haccepted⟩
    · simp [hloads, hdict] at hdecoded

def Core0Config.outboundTopics (config : Core0Config) : List String :=
  [config.topicTelemetry, config.topicLog, config.topicCommandResponse, config.topicInfoRequest,
    config.topicNetworkProbe, config.topicHealth]

theorem wide_topic {items : PyDict} (h : AcceptedConfig items) :
    ∀ topic ∈ (splitConfigCore0 items).outboundTopics, wide topic.toList = 0 := by
  have htopic : ∀ key ∈ MQTT_TOPIC_KEYS, wide ((items.getD key).asStr).toList = 0 := by
    intro key hkey
    obtain ⟨topic, htopic⟩ := h.topics key hkey
    rw [htopic.text.1]
    refine wide_eq_zero_iff.mpr (fun c hc => ?_)
    have hascii := htopic.ascii c hc
    simp only [topicChar, Bool.and_eq_true, decide_eq_true_eq] at hascii
    omega
  simp only [Core0Config.outboundTopics, splitConfigCore0, List.forall_mem_cons, List.not_mem_nil,
    false_imp_iff, implies_true, and_true]
  simp (disch := decide) only [htopic, and_self]

/-- The bytes that follow the fixed header. -/
def Attempt.written (a : Attempt) (pid : Nat) : Nat :=
  (bodySegments a.topic.toList a.message pid a.fragment).flatten.length

/-- The remaining length in the fixed header. -/
def Attempt.announced (a : Attempt) : Nat := publishSize a.topic.toList a.message a.fragment

/-- The attempt is one for the time. -/
def Attempt.TimeRequest (boot : Boot) (a : Attempt) : Prop :=
  ∃ counter, a.message = .text (Json.dumps (.dict (utcRequest boot (boot.requestId counter))))

/-- More is written than announced by exactly the surplus of the source, and only in a request for
the time. -/
structure Measured (boot : Boot) (a : Attempt) : Prop where
  request : a.TimeRequest boot → ∀ pid,
    a.written pid = a.announced + wide boot.config.source.toList
  other : ¬ a.TimeRequest boot → ∀ pid, a.written pid = a.announced

section Measured

variable {boot : Boot} {rounds : Nat} {s t : Sys Board} {b : Board} {a : Attempt}
  {q : CoreProg Unit}

theorem written_text {text : List Char} (htopic : wide a.topic.toList = 0)
    (hmessage : a.message = .text text) (hfragment : a.fragment = none) (pid : Nat) :
    a.written pid = a.announced + wide text := by
  have hlength := length_utf8 text
  have htopicLength := length_utf8 a.topic.toList
  simp only [Attempt.written, Attempt.announced, bodySegments, publishSize, hmessage, hfragment,
    Payload.wire, Payload.len, List.flatten_append, List.length_append, List.flatten_cons,
    List.flatten_nil, List.append_nil, be16, List.length_cons, List.length_nil]
  omega

theorem written_spliced {body fragment : Bytes} (htopic : wide a.topic.toList = 0)
    (hmessage : a.message = .bytes body) (hfragment : a.fragment = some fragment) (hbody : body ≠ [])
    (pid : Nat) : a.written pid = a.announced := by
  have hlength := List.length_pos_iff.mpr hbody
  have htopicLength := length_utf8 a.topic.toList
  simp only [Attempt.written, Attempt.announced, bodySegments, publishSize, hmessage, hfragment,
    Payload.wire, Payload.len, List.flatten_append, List.length_append, List.flatten_cons,
    List.flatten_nil, List.append_nil, be16, List.length_cons, List.length_nil, List.length_take]
  omega

theorem topicForKind_mem (config : Core0Config) (kind : Kind) :
    topicForKind config kind ∈ config.outboundTopics := by
  cases kind <;> simp [topicForKind, Core0Config.outboundTopics]

theorem Sends.measured (h : Sends boot b a) (htopics : ∀ topic ∈ boot.config.outboundTopics,
    wide topic.toList = 0) (hid : wide boot.runtimeId.toList = 0) : Measured boot a := by
  have hspliced : ∀ {topic : String} {body : Bytes} {n : Nat}, topic ∈ boot.config.outboundTopics →
      Spliced boot a topic body n → Measured boot a := by
    intro topic body n htopic hspliced
    have hbody : body ≠ [] := by
      rintro rfl
      cases hspliced.brace
    have hexact := written_spliced (hspliced.topic ▸ htopics topic htopic) hspliced.message
      hspliced.fragment hbody
    refine ⟨?_, fun _ => hexact⟩
    rintro ⟨counter, hrequest⟩
    rw [hspliced.message] at hrequest
    cases hrequest
  unfold Sends at h
  split at h
  · obtain ⟨hfragment, hplain⟩ := h
    cases hplain with
    | probe uptime packetId htopic hmessage =>
      have hwritten := written_text (htopic ▸ htopics _ (by simp [Core0Config.outboundTopics]))
        hmessage hfragment
      rw [wide_networkProbe hid] at hwritten
      refine ⟨?_, fun _ => hwritten⟩
      rintro ⟨counter, hrequest⟩
      have hsource := wide_utcRequest hid counter
      rw [hmessage, Payload.text.injEq] at hrequest
      rw [← hrequest, wide_networkProbe hid] at hsource
      exact fun pid => hsource ▸ hwritten pid
    | utc counter htopic hmessage =>
      have hwritten := written_text (htopic ▸ htopics _ (by simp [Core0Config.outboundTopics]))
        hmessage hfragment
      have hsource := wide_utcRequest hid counter
      refine ⟨fun _ pid => hsource ▸ hwritten pid, fun hno => (hno ⟨counter, hmessage⟩).elim⟩
  · obtain ⟨c, stamps, body, -, -, -, -, hsp⟩ := h
    exact hspliced (by simp [Core0Config.outboundTopics]) hsp
  · obtain ⟨e, -, -, -, hsp⟩ := h
    exact hspliced (topicForKind_mem _ _) hsp

theorem CoreRun.measured (hs : Started boot s) (h : CoreRun boot rounds s q t) :
    ∀ a ∈ attempts t.app.command.history, Measured boot a := by
  obtain ⟨items, hconfig, haccepted⟩ := hs.accepted
  obtain ⟨uid, nonce, hruntime⟩ := hs.runtimeId
  have htopics : ∀ topic ∈ boot.config.outboundTopics, wide topic.toList = 0 :=
    hconfig ▸ wide_topic haccepted
  have hid : wide boot.runtimeId.toList = 0 := hruntime ▸ wide_runtimeIdOf uid nonce
  refine (h.holds (I := fun u => ∀ a ∈ attempts u.app.command.history, Measured boot a) hs
    (by simp [hs.blank.1]) ?_ ?_).2
  · intro u v hu hI huv a ha
    rcases huv.attempts hu.orderly with hsame | ⟨new, hnew, hsends, -⟩
    · exact hI a (hsame ▸ ha)
    · simp only [hnew, CommandState.record, attempts_append, List.mem_append] at ha
      rcases ha with ha | ha
      · exact hI a ha
      · rw [List.mem_singleton.mp ha]
        exact hsends.measured htopics hid
  · intro u v hI huv
    rw [huv.board.command]
    exact hI

theorem Measured.exact_iff (h : Measured boot a) : (∀ pid, a.written pid = a.announced) ↔
    (a.TimeRequest boot → ∀ c ∈ boot.config.source.toList, c.toNat < 128) := by
  constructor
  · intro hexact hrequest
    refine wide_eq_zero_iff.mp ?_
    have hwritten := h.request hrequest 0
    have hannounced := hexact 0
    omega
  · intro hascii pid
    by_cases hrequest : a.TimeRequest boot
    · rw [h.request hrequest pid, wide_eq_zero_iff.mpr (hascii hrequest), Nat.add_zero]
    · exact h.other hrequest pid

/-- In every run of Core 0, every PUBLISH announces as many bytes as it writes, but for a request
for the time, which writes more by what the UTF-8 of the source's characters takes beyond one byte
each. So every frame ends where the broker expects the next one, if and only if the source is ASCII
or no time is requested. -/
theorem frames_exact_iff (hs : Started boot s) (h : CoreRun boot rounds s q t) :
    (∀ a ∈ attempts t.app.command.history, Measured boot a) ∧
    ((∀ a ∈ attempts t.app.command.history, ∀ pid, a.written pid = a.announced) ↔
      (∀ c ∈ boot.config.source.toList, c.toNat < 128) ∨
        ∀ a ∈ attempts t.app.command.history, ¬ a.TimeRequest boot) := by
  have hmeasured := h.measured hs
  refine ⟨hmeasured, fun hexact => ?_, fun hplain a ha => (hmeasured a ha).exact_iff.mpr ?_⟩
  · by_cases hascii : ∀ c ∈ boot.config.source.toList, c.toNat < 128
    · exact .inl hascii
    · exact .inr (fun a ha hrequest =>
        hascii ((hmeasured a ha).exact_iff.mp (hexact a ha) hrequest))
  · intro hrequest
    rcases hplain with hascii | hnone
    · exact hascii
    · exact (hnone a ha hrequest).elim

/-- In every run of Core 0, the frame of a publish ends where it announces if and only if it is no
request for the time or the source is ASCII. -/
theorem publish_framed_iff (hs : Started boot s) (h : CoreRun boot rounds s q t) (a : Attempt)
    (ha : a ∈ attempts t.app.command.history) : (∀ pid, a.written pid = a.announced) ↔
      (a.TimeRequest boot → ∀ c ∈ boot.config.source.toList, c.toNat < 128) :=
  (h.measured hs a ha).exact_iff

end Measured

theorem timeRequest_of_last {boot : Boot} {history : List CoreEvent} {counter : Nat}
    (h : (attempts history).getLast?.map Attempt.message =
      some (.text (Json.dumps (.dict (utcRequest boot (boot.requestId counter)))))) :
    ∃ a ∈ attempts history, a.TimeRequest boot := by
  obtain ⟨a, ha, hmessage⟩ := Option.map_eq_some_iff.mp h
  exact ⟨a, List.mem_of_getLast? ha, counter, hmessage⟩

theorem shippedSource_ascii : ∀ c ∈ shippedBoot.config.source.toList, c.toNat < 128 := by
  have hsource : shippedBoot.config.source = "Soil-1" := rfl
  simp [hsource]

theorem frames_exact_session : (attempts shippedSession.2.app.command.history).length = 6 ∧
    ∀ a ∈ attempts shippedSession.2.app.command.history, ∀ pid, a.written pid = a.announced := by
  refine ⟨?_, (frames_exact_iff recovered_started shippedSession_run).2.mpr
    (.inl shippedSource_ascii)⟩
  simpa using congrArg List.length shippedSession_record.1

def accentedItems : PyDict := match shippedConfig "Süd-1" with
  | .dict items => items
  | _ => []

/-- The shipped configuration with a source that is not ASCII. -/
def accentedBoot : Boot := { shippedBoot with config := splitConfigCore0 accentedItems }

def accentedStart : Sys Board :=
  ⟨{}, Board.initial 0 1000 20000 30000 none
    ⟨(recovery firmwareRules (Dir.settled (shippedText "Süd-1"))).2.dir, false, []⟩⟩

/-- Startup up to the first request for the time. -/
def accentedStartup : CoreProg Unit × Sys Board :=
  onward 194 (enact [⟨0, [], none, 12⟩, ⟨0, startupInbound, none, 0⟩]
    (core0Main accentedBoot 12, accentedStart))

theorem accentedStartup_run :
    CoreRun accentedBoot 12 accentedStart accentedStartup.1 accentedStartup.2 :=
  onward_run 194 (enact_run _ .refl)

theorem accented_writable : Writable firmwareRules (shippedConfig "Süd-1") :=
  writable_firmware (by decide) (by decide) (by decide)

theorem accentedStart_started : Started accentedBoot accentedStart :=
  started_recovery (recovery_settled accented_writable.validText) rfl recovered_started.runtimeId

set_option maxRecDepth 100000 in
theorem accentedStartup_last :
    (attempts accentedStartup.2.app.command.history).getLast?.map Attempt.message =
      some (.text (Json.dumps (.dict (utcRequest accentedBoot (accentedBoot.requestId 1))))) := by
  decide +kernel

/-- The header of the request announces one byte less than follows it. -/
theorem accented_misframed : Started accentedBoot accentedStart ∧
    CoreRun accentedBoot 12 accentedStart accentedStartup.1 accentedStartup.2 ∧
    ∃ a ∈ attempts accentedStartup.2.app.command.history,
      ∀ pid, a.written pid = a.announced + 1 := by
  refine ⟨accentedStart_started, accentedStartup_run, ?_⟩
  obtain ⟨a, ha, hrequest⟩ := timeRequest_of_last accentedStartup_last
  have hmeasured := accentedStartup_run.measured accentedStart_started a ha
  exact ⟨a, ha, hmeasured.request hrequest⟩

set_option maxRecDepth 100000 in
theorem opening_last : (attempts (opening 194).2.app.command.history).getLast?.map Attempt.message =
    some (.text (Json.dumps (.dict (utcRequest shippedBoot (shippedBoot.requestId 1))))) := by
  decide +kernel

/-- The first request for the time of two boots, one of them with an accent in its source. -/
theorem publish_framed_startup :
    (∃ a ∈ attempts (opening 194).2.app.command.history, a.TimeRequest shippedBoot ∧
      ∀ pid, a.written pid = a.announced) ∧
    ∃ a ∈ attempts accentedStartup.2.app.command.history, a.TimeRequest accentedBoot ∧
      ¬ ∀ pid, a.written pid = a.announced := by
  constructor
  · obtain ⟨a, ha, hrequest⟩ := timeRequest_of_last opening_last
    exact ⟨a, ha, hrequest, (publish_framed_iff recovered_started (opening_run 194) a ha).mpr
      (fun _ => shippedSource_ascii)⟩
  · obtain ⟨a, ha, hrequest⟩ := timeRequest_of_last accentedStartup_last
    refine ⟨a, ha, hrequest, fun hexact => ?_⟩
    have hascii := (publish_framed_iff accentedStart_started accentedStartup_run a ha).mp hexact
      hrequest
    have hbound := hascii 'ü' (List.mem_of_getElem? (i := 1) rfl)
    exact absurd hbound (by decide)

end PicoDualCore
