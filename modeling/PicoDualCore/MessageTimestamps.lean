import PicoDualCore.CivilCalendar
import PicoDualCore.JsonSize
import PicoDualCore.Uptime
set_option autoImplicit false

namespace PicoDualCore
open CivilCalendar

/-- The fields of `"{:04d}-{:02d}-{:02d}T{:02d}:{:02d}:{:02d}Z"`. -/
def timestampPattern : List (Nat × Char) :=
  [(4, '-'), (2, '-'), (2, 'T'), (2, ':'), (2, ':'), (2, 'Z')]

def timestampText (tm : CivilTime) : String :=
  String.ofList (joinFields timestampPattern tm.fields)

/-- `format_utc_epoch_ms` of a known epoch; `gmtime` is the port's `time.gmtime`. -/
def formatUtcEpochMs (gmtime : Int → Except PyError CivilTime) (epochMs : Int) :
    Except PyError String := do
  let tm ← gmtime (epochMs / 1000)
  pure (timestampText tm)

/-- From 1970 on the port's calendar is the Gregorian one. -/
def Gregorian (gmtime : Int → Except PyError CivilTime) : Prop :=
  ∀ seconds : Nat, gmtime seconds = .ok (civilTime seconds)

/-- `_message_time` at these true times, with what the mailboxes hold at each. -/
def messageTimes (formatUtcEpochMs : Int → Except PyError String) :
    UptimeState → List (Nat × Mailboxes) → List (Except PyError (Int × Option String))
  | _, [] => []
  | state, (t, mailboxes) :: calls =>
    let (stamp, state) := messageTime formatUtcEpochMs mailboxes state (t % TICKS_PERIOD)
    stamp :: messageTimes formatUtcEpochMs state calls

/-- UTC at the true time of a call, as far as it is known. -/
def utcMs (bootMs : Nat) (call : Nat × Mailboxes) : Option Int :=
  call.2.utcSnapshot.map (fun snapshot =>
    snapshot.runtimeStartEpochMs + ((call.1 : Int) - bootMs))

/-- The text of an instant from 1970 on. -/
def timestampAt (ms : Int) : String := timestampText (civilTime (ms.toNat / 1000))

/-- From 1970 to the end of 9999. -/
def FourDigitYear (ms : Int) : Prop := 0 ≤ ms ∧ ms < 253402300800000

section Texts

variable {gmtime : Int → Except PyError CivilTime} {ms ms' : Int}

theorem formatUtcEpochMs_eq (hgmtime : Gregorian gmtime) (h : 0 ≤ ms) :
    formatUtcEpochMs gmtime ms = .ok (timestampAt ms) := by
  have hseconds : ms / 1000 = ((ms.toNat / 1000 : Nat) : Int) := by omega
  rw [formatUtcEpochMs, hseconds, hgmtime]
  rfl

theorem timestampFields_fit (h : FourDigitYear ms) :
    List.Forall₂ FieldFits (civilTime (ms.toNat / 1000)).fields timestampPattern := by
  have hseconds : ms.toNat / 1000 < 253402300800 := by
    have := h.2
    omega
  have hfits := civilTime_fits hseconds
  simp only [CivilTime.fields, timestampPattern, FieldFits, List.forall₂_cons] at hfits ⊢
  refine ⟨⟨by decide, ?_⟩, ⟨by decide, ?_⟩, ⟨by decide, ?_⟩, ⟨by decide, ?_⟩, ⟨by decide, ?_⟩,
    ⟨by decide, ?_⟩, .nil⟩ <;> omega

/-- Texts are ordered as the seconds they name. -/
theorem timestampAt_lt (h : FourDigitYear ms) (h' : FourDigitYear ms')
    (hlt : ms / 1000 < ms' / 1000) : timestampAt ms < timestampAt ms' := by
  have hseconds : ms.toNat / 1000 < ms'.toNat / 1000 := by
    have := h.1
    have := h'.1
    omega
  rw [String.lt_iff]
  simpa [timestampAt, timestampText] using
    joinFields_lt (timestampFields_fit h) (timestampFields_fit h') (civilTime_lt hseconds)

theorem timestampAt_lt_iff (h : FourDigitYear ms) (h' : FourDigitYear ms') :
    timestampAt ms < timestampAt ms' ↔ ms / 1000 < ms' / 1000 := by
  refine ⟨fun hlt => ?_, timestampAt_lt h h'⟩
  by_contra hnot
  rcases Int.lt_or_eq_of_le (Int.not_lt.mp hnot) with hgt | heq
  · exact String.lt_asymm hlt (timestampAt_lt h' h hgt)
  · have hsame : ms.toNat / 1000 = ms'.toNat / 1000 := by omega
    rw [timestampAt, timestampAt, hsame] at hlt
    exact String.lt_irrefl _ hlt

theorem timestampAt_length (h : FourDigitYear ms) : (timestampAt ms).toList.length = 20 := by
  have hfits := timestampFields_fit h
  simp only [CivilTime.fields, timestampPattern, List.forall₂_cons] at hfits
  obtain ⟨hyear, hmonth, hday, hhour, hminute, hsecond, -⟩ := hfits
  simp only [timestampAt, timestampText, String.toList_ofList, timestampPattern, CivilTime.fields,
    joinFields, List.length_append, List.length_cons, List.length_nil, hyear.length,
    hmonth.length, hday.length, hhour.length, hminute.length, hsecond.length]

theorem timestampAt_chars {c : Char} (hc : c ∈ (timestampAt ms).toList) :
    32 ≤ c.toNat ∧ c.toNat < 128 := by
  rw [timestampAt, timestampText, String.toList_ofList] at hc
  rcases joinFields_chars hc with hdigit | hseparator
  · obtain ⟨hlow, hhigh⟩ := Char.isDigit_iff_toNat.mp hdigit
    have h0 : '0'.toNat = 48 := rfl
    have h9 : '9'.toNat = 57 := rfl
    omega
  · simp only [timestampPattern, List.map_cons, List.map_nil, List.mem_cons, List.not_mem_nil,
      or_false] at hseparator
    rcases hseparator with rfl | rfl | rfl | rfl | rfl | rfl <;> exact ⟨by decide, by decide⟩

theorem timestampAt_plain (h : FourDigitYear ms) :
    (timestampAt ms).utf8ByteSize = 20 ∧ Json.escapesIn (timestampAt ms) = 0 := by
  refine ⟨?_, List.countP_eq_zero.mpr (fun c hc => ?_)⟩
  · rw [← length_utf8_toList, length_utf8_of_ascii (fun c hc => (timestampAt_chars hc).2),
      timestampAt_length h]
  · have hlow := (timestampAt_chars hc).1
    simp [Json.needsEscape, Nat.not_lt.mpr hlow]

end Texts

section Runs

variable {gmtime : Int → Except PyError CivilTime} {bootMs t : Nat}
  {calls : List (Nat × Mailboxes)} {state : UptimeState}

/-- The uptime and the text that a call is to return. -/
def stampOf (bootMs : Nat) (call : Nat × Mailboxes) : Int × Option String :=
  ((call.1 : Int) - bootMs, (utcMs bootMs call).map timestampAt)

theorem messageTime_eq (hgmtime : Gregorian gmtime) {mailboxes : Mailboxes}
    (hsample : ExactAt bootMs t (currentUptimeMs state (t % TICKS_PERIOD)))
    (hrange : ∀ ms, utcMs bootMs (t, mailboxes) = some ms → 0 ≤ ms) :
    (messageTime (formatUtcEpochMs gmtime) mailboxes state (t % TICKS_PERIOD)).1 =
      .ok (stampOf bootMs (t, mailboxes)) := by
  simp only [messageTime, hsample.uptime, core1UtcTimestamp, stampOf, utcMs] at hrange ⊢
  cases hsnapshot : mailboxes.utcSnapshot with
  | none => rfl
  | some snapshot =>
    rw [hsnapshot] at hrange
    simp only [formatUtcEpochMs_eq hgmtime (hrange _ rfl)]
    rfl

theorem messageTimes_eq (hgmtime : Gregorian gmtime) (hexact : ExactAt bootMs t state)
    (hchain : List.IsChain (fun a b => a ≤ b ∧ b - a < TICKS_PERIOD / 2)
      (t :: calls.map Prod.fst))
    (hrange : ∀ call ∈ calls, ∀ ms, utcMs bootMs call = some ms → 0 ≤ ms) :
    messageTimes (formatUtcEpochMs gmtime) state calls =
      calls.map (fun call => .ok (stampOf bootMs call)) := by
  induction calls generalizing t state with
  | nil => rfl
  | cons call calls ih =>
    obtain ⟨t', mailboxes⟩ := call
    obtain ⟨⟨hle, hlt⟩, hrest⟩ := List.isChain_cons_cons.mp hchain
    have hsample := hexact.sample hle hlt
    have hstamp := messageTime_eq hgmtime hsample (hrange _ List.mem_cons_self)
    have hlater := ih hsample hrest (fun call hcall => hrange call (List.mem_cons_of_mem _ hcall))
    rw [List.map_cons, ← hstamp, ← hlater]
    rfl

/-- As long as the snapshot is the same, UTC does not go back. -/
theorem utcMs_mono {a b : Nat × Mailboxes} (hle : a.1 ≤ b.1)
    (hsame : a.2.utcSnapshot = b.2.utcSnapshot) {ms ms' : Int} (ha : utcMs bootMs a = some ms)
    (hb : utcMs bootMs b = some ms') : ms ≤ ms' := by
  obtain ⟨snapshot, hsnapshot, rfl⟩ := Option.map_eq_some_iff.mp ha
  obtain ⟨snapshot', hsnapshot', rfl⟩ := Option.map_eq_some_iff.mp hb
  obtain rfl : snapshot = snapshot' :=
    Option.some.inj (hsnapshot.symm.trans (hsame.trans hsnapshot'))
  omega

/-- On the port's calendar, for every sequence of messages and whatever the mailboxes hold: each
message bears the true uptime and the text of the true UTC, a text of twenty plain bytes; texts are
ordered as the seconds they name, so they do not go back while the snapshot stays. -/
theorem message_times (hgmtime : Gregorian gmtime) (h : Sampled bootMs (calls.map Prod.fst))
    (hrange : ∀ call ∈ calls, ∀ ms, utcMs bootMs call = some ms → FourDigitYear ms) :
    messageTimes (formatUtcEpochMs gmtime) (createUptimeState (bootMs % TICKS_PERIOD)) calls =
      calls.map (fun call => .ok (stampOf bootMs call)) ∧
    (∀ call ∈ calls, ∀ text, (stampOf bootMs call).2 = some text →
      text.utf8ByteSize = 20 ∧ Json.escapesIn text = 0) ∧
    (∀ a ∈ calls, ∀ b ∈ calls, ∀ ms ms', utcMs bootMs a = some ms → utcMs bootMs b = some ms' →
      (timestampAt ms < timestampAt ms' ↔ ms / 1000 < ms' / 1000)) ∧
    calls.Pairwise (fun a b => a.2.utcSnapshot = b.2.utcSnapshot →
      ∀ text text', (stampOf bootMs a).2 = some text → (stampOf bootMs b).2 = some text' →
        ¬ text' < text) := by
  refine ⟨messageTimes_eq hgmtime (exactAt_create bootMs) h
    (fun call hcall ms hms => (hrange call hcall ms hms).1), ?_, ?_, ?_⟩
  · intro call hcall text htext
    obtain ⟨ms, hms, rfl⟩ := Option.map_eq_some_iff.mp htext
    exact timestampAt_plain (hrange call hcall ms hms)
  · intro a ha b hb ms ms' hms hms'
    exact timestampAt_lt_iff (hrange a ha ms hms) (hrange b hb ms' hms')
  · refine (List.pairwise_map.mp (sampled_sorted h)).imp_of_mem ?_
    intro a b ha hb hle hsame text text' htext htext' hback
    obtain ⟨ms, hms, rfl⟩ := Option.map_eq_some_iff.mp htext
    obtain ⟨ms', hms', rfl⟩ := Option.map_eq_some_iff.mp htext'
    have hmono := utcMs_mono hle hsame hms hms'
    have hseconds :=
      (timestampAt_lt_iff (hrange b hb ms' hms') (hrange a ha ms hms)).mp hback
    omega

end Runs

def portGmtime (seconds : Int) : Except PyError CivilTime :=
  if 0 ≤ seconds then .ok (civilTime seconds.toNat)
  else .error (.overflowError "timestamp out of range for platform time_t")

def synchronized : Mailboxes :=
  { utcSnapshot := some ⟨"2023-11-14T22:13:20Z", 1700000000000, 400, 1699999999600⟩ }

theorem message_times_synchronized :
    messageTimes (formatUtcEpochMs portGmtime) (createUptimeState (0 % TICKS_PERIOD))
      [(300, {}), (1400, synchronized), (5500, synchronized)] =
      [.ok (300, none), .ok (1400, some "2023-11-14T22:13:21Z"),
        .ok (5500, some "2023-11-14T22:13:25Z")] := by
  have hgmtime : Gregorian portGmtime := fun seconds => by simp [portGmtime]
  have hsampled : Sampled 0 ([(300, {}), (1400, synchronized), (5500, synchronized)].map
      (Prod.fst : Nat × Mailboxes → Nat)) := by decide
  refine (message_times hgmtime hsampled ?_).1.trans (by decide +kernel)
  intro call hcall ms hms
  simp only [List.mem_cons, List.not_mem_nil, or_false] at hcall
  rcases hcall with rfl | rfl | rfl <;> simp [utcMs, synchronized] at hms
  · subst hms
    exact ⟨by decide, by decide⟩
  · subst hms
    exact ⟨by decide, by decide⟩

end PicoDualCore
