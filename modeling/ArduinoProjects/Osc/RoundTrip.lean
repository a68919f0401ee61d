import ArduinoProjects.Osc.Receiver

/-!
# What comes out of a stream of packets

Packets one behind the other, with noise between them. A packet that says that it is too long
for the receiver is skipped. Of the others, those with a zero behind the address are handed
over, and those without are reported as errors, since the receiver puts a zero in place of a
comma before it adds up the bytes. `feed_packets` says so for every stream.
-/

namespace ArduinoProjects.Osc

open Util

/-- A message with the zeros that some sender puts behind its address. The firmware puts
up to three there, other senders one to four. -/
structure Message where
  address : List UInt8
  zeros : ℕ
  value : UInt32
  address_ne : ∀ b ∈ address, b ≠ 0 ∧ b ≠ ascii ','
  aligned : 4 ∣ address.length + zeros
  zeros_le : zeros ≤ 4
  length_lt : (body address zeros value).length < 256

namespace Message

variable (m : Message)

/-- The packet of a message. -/
def packet : List UInt8 := Osc.packet m.address m.zeros m.value

/-- The receiver reads it. -/
def Short : Prop := (body m.address m.zeros m.value).length < OSC_MAX_RX_MSG_SIZE - 1

instance : Decidable m.Short := inferInstanceAs (Decidable (_ < _))

/-- What the receiver does with the message. -/
def received : Action := .oscReceiveMessageInt m.address m.value

lemma toNat_size : (UInt8.ofNat (body m.address m.zeros m.value).length).toNat =
    (body m.address m.zeros m.value).length := by
  rw [UInt8.toNat_ofNat', Nat.mod_eq_of_lt m.length_lt]

/-- The receiver in front of the checksum, with what it has kept of the packet. -/
def kept (s : Rx) (l : List UInt8) : Rx :=
  { s with
    oscRxMsgSize := UInt8.ofNat (body m.address m.zeros m.value).length
    oscRxIntArg1 := m.value }.having .READCHECKSUM l

lemma packet_append (rest : List UInt8) :
    m.packet ++ rest = 0xBE :: UInt8.ofNat (body m.address m.zeros m.value).length ::
      (m.address ++ (List.replicate m.zeros 0 ++ (tag ++ (bytes m.value ++
        ((body m.address m.zeros m.value).sum :: rest))))) := by
  simp only [packet, Osc.packet, body, List.cons_append, List.append_assoc, List.nil_append]

/-- The receiver at the checksum of a packet with a zero behind the address. -/
lemma feed_zeros {s : Rx} (hs : s.oscRxNextOp = .WAITFORSTART) (hshort : m.Short)
    (hzeros : 0 < m.zeros) (rest : List UInt8) :
    feed s (m.packet ++ rest) = feed (m.kept s (body m.address m.zeros m.value))
      ((body m.address m.zeros m.value).sum :: rest) := by
  have hlen : m.address.length + m.zeros + 8 < OSC_MAX_RX_MSG_SIZE - 1 := by
    rw [← length_body]
    exact hshort
  have hmax : OSC_MAX_RX_MSG_SIZE = 32 := rfl
  have hpad : (m.address ++ List.replicate m.zeros 0).length = m.address.length + m.zeros := by
    rw [List.length_append, List.length_replicate]
  have htag : (m.address ++ List.replicate m.zeros 0 ++ tag).length =
      m.address.length + m.zeros + 4 := by
    rw [List.length_append, hpad, length_tag]
  rw [packet_append, feed_header hs (by rwa [toNat_size, length_body]),
    feed_address m.address_ne (by rw [List.nil_append]; omega), List.nil_append,
    Osc.feed_zeros ⟨hzeros, m.zeros_le⟩ m.aligned (by omega), feed_tag (by omega),
    feed_value (by omega)]
  rfl

/-- The receiver at the checksum of a packet without one: the comma has become a zero. -/
lemma feed_straight {s : Rx} (hs : s.oscRxNextOp = .WAITFORSTART) (hshort : m.Short)
    (hzeros : m.zeros = 0) (rest : List UInt8) :
    feed s (m.packet ++ rest) = feed (m.kept s (m.address ++ 0 :: tag.tail ++ bytes m.value))
      ((body m.address m.zeros m.value).sum :: rest) := by
  have hlen : m.address.length + m.zeros + 8 < OSC_MAX_RX_MSG_SIZE - 1 := by
    rw [← length_body]
    exact hshort
  have hmax : OSC_MAX_RX_MSG_SIZE = 32 := rfl
  have htag : (m.address ++ 0 :: tag.tail).length = m.address.length + 4 := List.length_append
  rw [packet_append, feed_header hs (by rwa [toNat_size, length_body]),
    feed_address m.address_ne (by rw [List.nil_append]; omega), List.nil_append, hzeros,
    List.replicate_zero, List.nil_append, feed_tag_straight (by omega), feed_value (by omega)]
  rw [kept, hzeros]

/-- A short message with zeros behind its address is handed over. -/
lemma feed_packet {s : Rx} (hs : s.oscRxNextOp = .WAITFORSTART) (hshort : m.Short)
    (hzeros : 0 < m.zeros) (rest : List UInt8) :
    ∃ s', s'.oscRxNextOp = .WAITFORSTART ∧ feed s (m.packet ++ rest) =
      (feed s' rest).map fun (s', as) => (s', m.received :: as) := by
  have hlen : (body m.address m.zeros m.value).length < OSC_MAX_RX_MSG_SIZE - 1 := hshort
  have hnul : (0 : UInt8) ∉ m.address := fun h => (m.address_ne 0 h).1 rfl
  have hbody : body m.address m.zeros m.value = m.address ++
      (List.replicate m.zeros 0 ++ tag ++ bytes m.value) := by
    simp only [body, List.append_assoc]
  have hhead : (List.replicate m.zeros 0 ++ tag ++ bytes m.value).headD 0 = 0 := by
    obtain ⟨k, hk⟩ := Nat.exists_eq_add_one.mpr hzeros
    rw [hk]
    rfl
  have hmsg : cstring (body m.address m.zeros m.value) = m.address := by
    rw [hbody]
    exact (cstring_append_eq_iff hnul _).mpr hhead
  have hmem : 0 ∈ body m.address m.zeros m.value := by
    rw [body, List.mem_append, List.mem_append, List.mem_append, List.mem_replicate]
    exact .inl (.inl (.inr ⟨hzeros.ne', rfl⟩))
  rw [m.feed_zeros hs hshort hzeros, feed, kept,
    oscRxHandler_checksum (by omega) hmem m.toNat_size, if_pos rfl, Option.bind_some, hmsg]
  exact ⟨_, rfl, rfl⟩

/-- What the receiver says of a packet whose checksum it finds wrong: the sum of what it has
stored, with a zero in place of the comma. -/
def checksumError : Action :=
  .sent (Osc.packet (text "/error/checksum") 1
    ((body m.address m.zeros m.value).sum - ascii ',').toUInt32)

/-- Without zeros its checksum is found wrong. -/
lemma feed_packet_straight {s : Rx} (hs : s.oscRxNextOp = .WAITFORSTART) (hshort : m.Short)
    (hzeros : m.zeros = 0) (rest : List UInt8) :
    ∃ s', s'.oscRxNextOp = .WAITFORSTART ∧ feed s (m.packet ++ rest) =
      (feed s' rest).map fun (s', as) => (s', m.checksumError :: as) := by
  have hlen : (body m.address m.zeros m.value).length < OSC_MAX_RX_MSG_SIZE - 1 := hshort
  have hkept : (m.address ++ 0 :: tag.tail ++ bytes m.value).length =
      (body m.address m.zeros m.value).length := by
    rw [hzeros, length_body, List.length_append, List.length_append]
    rfl
  have hsum : (m.address ++ 0 :: tag.tail ++ bytes m.value).sum =
      (body m.address m.zeros m.value).sum - ascii ',' := by
    simp only [body, hzeros, tag, List.replicate_zero, List.append_nil, List.sum_append,
      List.sum_cons, List.tail_cons]
    grind
  have hwrong : (body m.address m.zeros m.value).sum - ascii ',' ≠
      (body m.address m.zeros m.value).sum := by
    have hcomma : ascii ',' = 44 := by decide
    grind
  rw [m.feed_straight hs hshort hzeros, feed, kept, oscRxHandler_checksum (by omega) (by simp)
    (by rw [m.toNat_size, hkept]), hsum, if_neg hwrong, Option.bind_some]
  exact ⟨_, rfl, rfl⟩

/-- A long message is skipped. -/
lemma feed_packet_long {s : Rx} (hs : s.oscRxNextOp = .WAITFORSTART) (hlong : ¬ m.Short)
    (rest : List UInt8) : ∃ s', s'.oscRxNextOp = .WAITFORSTART ∧
      feed s (m.packet ++ rest) = feed s' rest := by
  have hsize := m.toNat_size
  have hodd : (body m.address m.zeros m.value).length ≠ 255 := by
    have hfour := m.aligned
    rw [length_body]
    omega
  have hskip := feed_skipped (s := { s with
      oscRxMsgSize := UInt8.ofNat (body m.address m.zeros m.value).length })
    (l := body m.address m.zeros m.value ++ [(body m.address m.zeros m.value).sum])
    (by rwa [hsize]) (by rw [hsize]; exact List.length_append) rest
  refine ⟨_, rfl, Eq.trans ?_ hskip⟩
  rw [← feed_long_header hs (by rw [hsize]; exact Nat.not_lt.mp hlong)]
  rfl

/-- What the receiver does about a packet. -/
def outcome : Option Action :=
  if m.Short then some (if m.zeros = 0 then m.checksumError else m.received) else none

/-- It does that, and waits for the next packet. -/
lemma feed_packet_append {s : Rx} (hs : s.oscRxNextOp = .WAITFORSTART) (rest : List UInt8) :
    ∃ s', s'.oscRxNextOp = .WAITFORSTART ∧ feed s (m.packet ++ rest) =
      (feed s' rest).map fun (s', as) => (s', m.outcome.toList ++ as) := by
  unfold outcome
  by_cases hshort : m.Short
  · rw [if_pos hshort]
    by_cases hzeros : m.zeros = 0
    · rw [if_pos hzeros]
      exact m.feed_packet_straight hs hshort hzeros rest
    · rw [if_neg hzeros]
      exact m.feed_packet hs hshort (Nat.pos_of_ne_zero hzeros) rest
  · rw [if_neg hshort]
    obtain ⟨s', hs', hfeed⟩ := m.feed_packet_long hs hshort rest
    exact ⟨s', hs', hfeed.trans (congrFun Option.map_id (feed s' rest)).symm⟩

end Message

/-- Packets one behind the other, each behind some noise. -/
def stream (ms : List (List UInt8 × Message)) : List UInt8 :=
  ms.flatMap fun (noise, m) => noise ++ m.packet

/-- The receiver gets through every stream whose noise has no start byte. Of the packets that it
does not skip it hands over the messages of those with a zero behind the address and reports the
others, each once and in order, and it waits for the next packet. -/
theorem feed_packets {s : Rx} (hs : s.oscRxNextOp = .WAITFORSTART)
    {ms : List (List UInt8 × Message)} (hnoise : ∀ n ∈ ms, 0xBE ∉ n.1) :
    ∃ s', s'.oscRxNextOp = .WAITFORSTART ∧
      feed s (stream ms) = some (s', ms.filterMap (·.2.outcome)) := by
  induction ms generalizing s with
  | nil => exact ⟨s, hs, rfl⟩
  | cons n ms ih =>
    obtain ⟨noise, m⟩ := n
    obtain ⟨s₁, hs₁, hfeed⟩ := m.feed_packet_append hs (stream ms)
    obtain ⟨s', hs', hrest⟩ := ih hs₁ fun n hn => hnoise n (List.mem_cons_of_mem _ hn)
    have hstream : stream ((noise, m) :: ms) = noise ++ (m.packet ++ stream ms) := by
      rw [stream, List.flatMap_cons, List.append_assoc]
      rfl
    refine ⟨s', hs', ?_⟩
    rw [hstream, feed_noise hs (hnoise _ List.mem_cons_self), hfeed, hrest, List.filterMap_cons]
    cases m.outcome <;> rfl

/-- The message that the board sends when pin 2 goes low. -/
def pinTwo : Message :=
  ⟨text "/in/2", 3, 1, by decide +kernel, by decide, by decide, by decide⟩

/-- Behind two bytes of noise it is handed over. -/
theorem feed_packets_pin_two :
    ∃ s', s'.oscRxNextOp = .WAITFORSTART ∧
      feed .start (stream [([1, 2], pinTwo)]) = some (s', [pinTwo.received]) := by
  have hnoise : ∀ m ∈ [(([1, 2] : List UInt8), pinTwo)], 0xBE ∉ m.1 := by decide
  exact feed_packets (s := .start) rfl hnoise

end ArduinoProjects.Osc
