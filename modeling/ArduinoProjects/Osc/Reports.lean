import ArduinoProjects.Osc.Board
import ArduinoProjects.Osc.RoundTrip

/-!
# What the board reports

In every pass of `loop` the board compares the digital pins with the ones before and one analog
channel with its last sample, reports what has changed, obeys the messages that have arrived and
reports those that are in error. `loop_spec` says which packets a pass sends and what the board
remembers.
-/

namespace ArduinoProjects.Osc

open Util

/-! ## The sketch -/

/-- The number of a pin as it stands in an address. -/
def numbers (i : ℕ) : List UInt8 :=
  text (["0", "1", "2", "3", "4", "5", "6", "7", "8", "9", "10", "11", "12"].getD i "")

/-- What a pass of `loop` finds: the levels of port B and port D, the analog readings, and the
bytes that have arrived. -/
structure Pass where
  state : UInt16
  analogRead : ℕ → ℕ
  arrived : List UInt8

/-- The reports of the digital pins, as they are sent. -/
def checkDiscreteInputs (b : Board) (state : UInt16) : Option (Board × List UInt8) :=
  (digitalPins.mapM fun i =>
    if bit b.pinDir i = false ∧ bit state i ≠ bit b.inputBuffer i then
      oscSendMessageInt (prefixIn ++ numbers i) (if bit state i then 0 else 1)
    else some []).map fun sent => ({ b with inputBuffer := state }, sent.flatten)

/-- `checkAnalogInput(channel)`, with what `analogRead` returns. -/
def checkAnalogInput (b : Board) (channel : ℕ) (reading : ℕ) : Option (Board × List UInt8) :=
  let result := reading >>> 2
  if result ≠ b.a2dBuffer channel then
    (oscSendMessageInt (prefixA2d ++ numbers channel) (UInt32.ofNat result)).map fun sent =>
      ({ b with a2dBuffer := Function.update b.a2dBuffer channel result }, sent)
  else some (b, [])

/-- What the parser wants done. -/
def act (atoi : List UInt8 → ℤ) (b : Board) : Action → Board × List UInt8
  | .oscReceiveMessageInt msg value => (oscReceiveMessageInt atoi b msg value, [])
  | .sent bytes => (b, bytes)

/-- The bytes that have arrived, one after the other, and what is sent meanwhile. -/
def handle (atoi : List UInt8 → ℤ) (b : Board) : List UInt8 → Option (Board × List UInt8)
  | [] => some (b, [])
  | c :: l =>
    (oscRxHandler b.rx c).bind fun (rx, as) =>
      let r := as.foldl (fun (b, sent) a => ((act atoi b a).1, sent ++ (act atoi b a).2))
        ({ b with rx := rx }, [])
      (handle atoi r.1 l).map fun (b, sent) => (b, r.2 ++ sent)

/-- `loop()`: the board afterwards and the bytes sent. -/
def loop (atoi : List UInt8 → ℤ) (b : Board) (p : Pass) : Option (Board × List UInt8) :=
  (if b.reportDigital then checkDiscreteInputs b p.state else some (b, [])).bind fun (b, sent) =>
    (if bit b.reportAnalog.toUInt16 b.k then checkAnalogInput b b.k (p.analogRead b.k)
      else some (b, [])).bind fun (b, sent') =>
        (handle atoi { b with k := (b.k + 1) % NUM_ANALOG_PINS } p.arrived).map
          fun (b, sent'') => (b, sent ++ sent' ++ sent'')

/-- One more pass, with all that the board has sent. -/
def more (atoi : List UInt8 → ℤ) (r : Option (Board × List UInt8)) (p : Pass) :
    Option (Board × List UInt8) :=
  r.bind fun (b, bytes) => (loop atoi b p).map fun (b, sent) => (b, bytes ++ sent)

/-- The board after some passes, and all that it has sent. -/
def runs (atoi : List UInt8 → ℤ) (ps : List Pass) : Option (Board × List UInt8) :=
  ps.foldl (more atoi) (some (.start, []))

/-! ## Reports -/

namespace Message

/-- A message as the firmware sends it. -/
def sent (address : List UInt8) (value : UInt32) (h : ∀ b ∈ address, b ≠ 0 ∧ b ≠ ascii ',')
    (hlen : address.length ≤ 20) : Message where
  address := address
  zeros := sentZeros address
  value := value
  address_ne := h
  aligned := by
    unfold sentZeros
    omega
  zeros_le := by
    unfold sentZeros
    omega
  length_lt := by
    rw [length_body, sentZeros]
    omega

/-- Those that arrive are handed over, one after the other. -/
lemma feed_flatMap_packet {s : Rx} (hs : s.oscRxNextOp = .WAITFORSTART) {ms : List Message}
    (h : ∀ m ∈ ms, m.Short ∧ 0 < m.zeros) :
    ∃ s', feed s (ms.flatMap packet) = some (s', ms.map received) := by
  induction ms generalizing s with
  | nil => exact ⟨s, rfl⟩
  | cons m ms ih =>
    obtain ⟨hshort, hzeros⟩ := h m List.mem_cons_self
    obtain ⟨s₁, hs₁, hfeed⟩ := m.feed_packet hs hshort hzeros (ms.flatMap packet)
    obtain ⟨s', hrest⟩ := ih hs₁ fun m hm => h m (List.mem_cons_of_mem _ hm)
    rw [List.flatMap_cons, hfeed, hrest]
    exact ⟨s', rfl⟩

end Message

/-- A longer run ends with a pass. -/
lemma more_eq_some_iff {atoi : List UInt8 → ℤ} {r : Option (Board × List UInt8)} {p : Pass}
    {b' : Board} {bytes' : List UInt8} :
    more atoi r p = some (b', bytes') ↔ ∃ b bytes sent, r = some (b, bytes) ∧
      loop atoi b p = some (b', sent) ∧ bytes' = bytes ++ sent := by
  constructor
  · intro h
    obtain ⟨⟨b, bytes⟩, hr, hmap⟩ := Option.bind_eq_some_iff.mp h
    obtain ⟨⟨b₁, sent⟩, hpass, heq⟩ := Option.map_eq_some_iff.mp hmap
    cases heq
    exact ⟨b, bytes, sent, hr, hpass, rfl⟩
  · rintro ⟨b, bytes, sent, rfl, hpass, rfl⟩
    exact congrArg (Option.map _) hpass

/-- No pin has a number from 13 on. -/
lemma numbers_of_ge {i : ℕ} (h : 13 ≤ i) : numbers i = [] := by
  rw [numbers, List.getD_eq_default _ _ h]
  rfl

/-- A number has neither a zero nor a comma. -/
lemma numbers_ne (i : ℕ) : ∀ b ∈ numbers i, b ≠ 0 ∧ b ≠ ascii ',' := by
  rcases Nat.lt_or_ge i 13 with h | h
  · have hall : ∀ i < 13, ∀ b ∈ numbers i, b ≠ 0 ∧ b ≠ ascii ',' := by decide +kernel
    exact hall i h
  · rw [numbers_of_ge h]
    exact fun b hb => absurd hb List.not_mem_nil

/-- A number has at most two digits. -/
lemma length_numbers (i : ℕ) : (numbers i).length ≤ 2 := by
  rcases Nat.lt_or_ge i 13 with h | h
  · have hall : ∀ i < 13, (numbers i).length ≤ 2 := by decide
    exact hall i h
  · rw [numbers_of_ge h]
    exact Nat.zero_le 2

/-- The address of a report fits into the buffer. -/
lemma length_report (kind : {l : List UInt8 // (∀ b ∈ l, b ≠ 0 ∧ b ≠ ascii ',') ∧ l.length ≤ 5})
    (i : ℕ) : (kind.1 ++ numbers i).length ≤ 20 := by
  have := kind.2.2
  have := length_numbers i
  rw [List.length_append]
  omega

/-- A report about a pin or a channel. -/
def report (kind : {l : List UInt8 // (∀ b ∈ l, b ≠ 0 ∧ b ≠ ascii ',') ∧ l.length ≤ 5}) (i : ℕ)
    (value : UInt32) : Message :=
  .sent (kind.1 ++ numbers i) value
    (fun b hb => (List.mem_append.mp hb).elim (kind.2.1 b) (numbers_ne i b))
    (length_report kind i)

/-- `/in/` and a number, with 0 for high and 1 for low. -/
def inReport (i : ℕ) (high : Bool) : Message :=
  report ⟨prefixIn, by decide +kernel, by decide⟩ i (if high then 0 else 1)

/-- `/adc/` and a number, with the sample. -/
def adcReport (channel result : ℕ) : Message :=
  report ⟨prefixA2d, by decide +kernel, by decide⟩ channel (UInt32.ofNat result)

/-- The digital pins that are reported in a pass. -/
def Board.Changed (b : Board) (state : UInt16) (i : ℕ) : Prop :=
  bit b.pinDir i = false ∧ bit state i ≠ bit b.inputBuffer i

instance (b : Board) (state : UInt16) (i : ℕ) : Decidable (b.Changed state i) :=
  inferInstanceAs (Decidable (_ ∧ _))

/-- The channel that is reported. -/
def Board.Sampled (b : Board) (p : Pass) : Prop :=
  bit b.reportAnalog.toUInt16 b.k = true ∧ p.analogRead b.k >>> 2 ≠ b.a2dBuffer b.k

instance (b : Board) (p : Pass) : Decidable (b.Sampled p) := inferInstanceAs (Decidable (_ ∧ _))

/-- The reports of the digital pins in a pass. -/
def Board.inReports (b : Board) (p : Pass) : List Message :=
  if b.reportDigital then
    digitalPins.flatMap fun i => if b.Changed p.state i then [inReport i (bit p.state i)] else []
  else []

/-- The report of the analog channel whose turn it is. -/
def Board.adcReports (b : Board) (p : Pass) : List Message :=
  if b.Sampled p then [adcReport b.k (p.analogRead b.k >>> 2)] else []

/-- The digital pins that changed are reported, and the levels kept. -/
lemma checkDiscreteInputs_eq (b : Board) (state : UInt16) :
    checkDiscreteInputs b state = some ({ b with inputBuffer := state },
      (digitalPins.flatMap fun i => if b.Changed state i then [inReport i (bit state i)]
        else []).flatMap Message.packet) := by
  have hsent : (fun i => if bit b.pinDir i = false ∧ bit state i ≠ bit b.inputBuffer i then
      oscSendMessageInt (prefixIn ++ numbers i) (if bit state i then 0 else 1) else some []) =
      fun i => some ((if b.Changed state i then [inReport i (bit state i)] else []).flatMap
        Message.packet) := by
    funext i
    by_cases h : b.Changed state i
    · rw [if_pos h, List.flatMap_singleton]
      exact (if_pos h).trans
        (oscSendMessageInt_eq (length_report ⟨prefixIn, by decide +kernel, by decide⟩ i) _)
    · rw [if_neg h]
      exact if_neg h
  rw [checkDiscreteInputs, hsent, List.flatMap_assoc]
  exact congrArg (Option.map _) (List.mapM_pure (m := Option))

/-- The channel is reported, and its sample kept. -/
lemma checkAnalogInput_eq (b : Board) (p : Pass) :
    (if bit b.reportAnalog.toUInt16 b.k then checkAnalogInput b b.k (p.analogRead b.k)
      else some (b, [])) =
    some ({ b with a2dBuffer := if b.Sampled p then
        Function.update b.a2dBuffer b.k (p.analogRead b.k >>> 2) else b.a2dBuffer },
      (b.adcReports p).flatMap Message.packet) := by
  unfold Board.adcReports
  by_cases hreport : bit b.reportAnalog.toUInt16 b.k = true
  · rw [if_pos hreport, checkAnalogInput]
    by_cases hchanged : p.analogRead b.k >>> 2 ≠ b.a2dBuffer b.k
    · have h : b.Sampled p := ⟨hreport, hchanged⟩
      rw [if_pos h, if_pos h, List.flatMap_singleton]
      refine (if_pos hchanged).trans ?_
      rw [oscSendMessageInt_eq (length_report ⟨prefixA2d, by decide +kernel, by decide⟩ b.k)]
      rfl
    · have h : ¬ b.Sampled p := fun h => hchanged h.2
      rw [if_neg h, if_neg h]
      exact if_neg hchanged
  · have h : ¬ b.Sampled p := fun h => hreport h.1
    rw [if_neg hreport, if_neg h, if_neg h]
    rfl

/-- The report of an error. -/
def Message.IsError (m : Message) : Prop := m.address ∈ errorAddresses

/-- An error report is a message. -/
lemma exists_error {address : List UInt8} (h : address ∈ errorAddresses) (value : UInt32) :
    ∃ m : Message, m.IsError ∧ packet address (sentZeros address) value = m.packet := by
  have hall : ∀ address ∈ errorAddresses,
      (∀ b ∈ address, b ≠ 0 ∧ b ≠ ascii ',') ∧ address.length ≤ 20 := by decide +kernel
  exact ⟨.sent address value (hall address h).1 (hall address h).2, h, rfl⟩

/-- An error report is short and has a zero behind its address. -/
lemma Message.IsError.short {m : Message} (h : m.IsError) : m.Short ∧ 0 < m.zeros := by
  have hall : ∀ address ∈ errorAddresses, address.length = 15 := by decide
  have hlen := hall m.address h
  have haligned := m.aligned
  have hle := m.zeros_le
  have hmax : OSC_MAX_RX_MSG_SIZE = 32 := rfl
  rw [Message.Short, length_body, hmax]
  omega

/-- What is sent when errors are reported. -/
def SendsErrors (sent : List UInt8) : Prop :=
  ∃ errors : List Message, (∀ m ∈ errors, m.IsError) ∧ sent = errors.flatMap Message.packet

/-- Error reports one after the other. -/
lemma SendsErrors.append {sent sent' : List UInt8} (h : SendsErrors sent)
    (h' : SendsErrors sent') : SendsErrors (sent ++ sent') := by
  obtain ⟨errors, herrors, rfl⟩ := h
  obtain ⟨errors', herrors', rfl⟩ := h'
  exact ⟨errors ++ errors', fun m hm => (List.mem_append.mp hm).elim (herrors m) (herrors' m),
    List.flatMap_append.symm⟩

/-- What the parser wants done sends nothing but error reports and leaves the samples alone. -/
lemma act_spec (atoi : List UInt8 → ℤ) (b : Board) {a : Action}
    (h : ∀ bytes, a = .sent bytes → SendsErrors bytes) :
    SendsErrors (act atoi b a).2 ∧ (act atoi b a).1.sampled = b.sampled := by
  cases a with
  | oscReceiveMessageInt msg value => exact ⟨⟨[], nofun, rfl⟩, receive_frame atoi b msg value⟩
  | sent bytes => exact ⟨h bytes rfl, rfl⟩

/-- What the actions for the bytes of a pass do: they send error reports at most, and no samples
change. -/
lemma foldl_act (atoi : List UInt8 → ℤ) {as : List Action}
    (h : ∀ bytes, .sent bytes ∈ as → SendsErrors bytes) (b : Board) {sent : List UInt8}
    (hsent : SendsErrors sent) :
    SendsErrors (as.foldl (fun (b, sent) a => ((act atoi b a).1, sent ++ (act atoi b a).2))
        (b, sent)).2 ∧
      (as.foldl (fun (b, sent) a => ((act atoi b a).1, sent ++ (act atoi b a).2))
        (b, sent)).1.sampled = b.sampled := by
  induction as generalizing b sent with
  | nil => exact ⟨hsent, rfl⟩
  | cons a as ih =>
    obtain ⟨hmore, hframe⟩ :=
      act_spec atoi b fun bytes heq => h bytes (heq ▸ List.mem_cons_self)
    obtain ⟨hall, hframe'⟩ := ih (fun bytes hmem => h bytes (List.mem_cons_of_mem a hmem))
      (act atoi b a).1 (hsent.append hmore)
    exact ⟨hall, hframe'.trans hframe⟩

/-- Bytes that arrive change nothing that is reported, and only errors are reported meanwhile. -/
lemma handle_spec (atoi : List UInt8 → ℤ) {b b' : Board} {l sent : List UInt8}
    (h : handle atoi b l = some (b', sent)) :
    SendsErrors sent ∧ b'.sampled = b.sampled := by
  induction l generalizing b sent with
  | nil =>
    cases h
    exact ⟨⟨[], nofun, rfl⟩, rfl⟩
  | cons c l ih =>
    obtain ⟨⟨rx, as⟩, hc, hrest⟩ := Option.bind_eq_some_iff.mp h
    have herrors (bytes : List UInt8) (hmem : .sent bytes ∈ as) : SendsErrors bytes := by
      obtain ⟨address, haddress, value, rfl⟩ := oscRxHandler_sent hc hmem
      obtain ⟨m, hm, heq⟩ := exists_error haddress value
      exact ⟨[m], fun m' hm' => List.mem_singleton.mp hm' ▸ hm,
        heq.trans (List.flatMap_singleton ..).symm⟩
    obtain ⟨hsent₁, hframe⟩ := foldl_act atoi herrors { b with rx := rx } ⟨[], nofun, rfl⟩
    obtain ⟨⟨b₂, sent₂⟩, hmore, heq⟩ := Option.map_eq_some_iff.mp hrest
    cases heq
    obtain ⟨hsent₂, hframe'⟩ := ih hmore
    exact ⟨hsent₁.append hsent₂, hframe'.trans hframe⟩

/-- What a pass of `loop` sends and remembers. -/
lemma loop_spec (atoi : List UInt8 → ℤ) {b b' : Board} {p : Pass} {sent : List UInt8}
    (h : loop atoi b p = some (b', sent)) :
    (∃ errors : List Message, (∀ m ∈ errors, m.IsError) ∧
      sent = (b.inReports p ++ b.adcReports p ++ errors).flatMap Message.packet) ∧
      b'.sampled = (if b.reportDigital then p.state else b.inputBuffer,
        if b.Sampled p then Function.update b.a2dBuffer b.k (p.analogRead b.k >>> 2)
          else b.a2dBuffer,
        (b.k + 1) % NUM_ANALOG_PINS) := by
  have hdigital : (if b.reportDigital then checkDiscreteInputs b p.state else some (b, [])) =
      some ({ b with inputBuffer := if b.reportDigital then p.state else b.inputBuffer },
        (b.inReports p).flatMap Message.packet) := by
    unfold Board.inReports
    by_cases hd : b.reportDigital = true
    · rw [if_pos hd, if_pos hd, if_pos hd, checkDiscreteInputs_eq]
    · rw [if_neg hd, if_neg hd, if_neg hd]
      rfl
  rw [loop, hdigital, Option.bind_some] at h
  have hanalog := checkAnalogInput_eq { b with
    inputBuffer := if b.reportDigital then p.state else b.inputBuffer } p
  dsimp only at h hanalog
  rw [hanalog, Option.bind_some] at h
  obtain ⟨⟨b₁, sent₁⟩, hhandle, heq⟩ := Option.map_eq_some_iff.mp h
  cases heq
  obtain ⟨⟨errors, herrors, rfl⟩, hframe⟩ := handle_spec atoi hhandle
  refine ⟨⟨errors, herrors, ?_⟩, hframe⟩
  rw [List.flatMap_append, List.flatMap_append]
  rfl

end ArduinoProjects.Osc
