import ArduinoProjects.Osc.Message
import ArduinoProjects.Util.CString

/-!
# OSC over the serial line: the receiver

`oscRxHandler` is given one byte after the other and keeps what it has read in a buffer of 32
bytes, which the length in front of a packet does not bound.
-/

namespace ArduinoProjects.Osc

open Util

/-- The size of `oscRxData`. -/
def OSC_MAX_RX_MSG_SIZE : ℕ := 32

/-- What the receiver expects next. -/
inductive RxOp
  | WAITFORSTART
  | READSIZE
  | READADDR
  | READCHECKSUM
  | SKIPMSG
  | READARG1BYTE1
  | READARG1BYTE2
  | READARG1BYTE3
  | READARG1BYTE4
  | READTAGBYTE1
  | READTAGBYTE2
  | READTAGBYTE3
  | READTAGBYTE4
deriving DecidableEq

/-- The globals of the receiver. -/
structure Rx where
  oscRxNextOp : RxOp
  oscRxData : ℕ → UInt8
  oscRxMsgSize : UInt8
  oscRxReadBytes : UInt8
  oscRxIntArg1 : UInt32
  oscRxChecksum : UInt8

/-- The parser's variables when the board starts. -/
def Rx.start : Rx := ⟨.WAITFORSTART, fun _ => 0, 0, 0, 0, 0⟩

/-- What the parser does besides reading: it hands a message over or sends a report. -/
inductive Action
  | oscReceiveMessageInt (msg : List UInt8) (value : UInt32)
  | sent (bytes : List UInt8)
deriving DecidableEq

/-- `oscRxData[oscRxReadBytes++] = c` and the next state. There is no result behind the end of
the buffer. -/
def Rx.keep (s : Rx) (c : UInt8) (next : RxOp) : Option (Rx × List Action) :=
  if s.oscRxReadBytes.toNat < OSC_MAX_RX_MSG_SIZE then
    some ({ s with
      oscRxData := Function.update s.oscRxData s.oscRxReadBytes.toNat c
      oscRxReadBytes := s.oscRxReadBytes + 1
      oscRxNextOp := next }, [])
  else none

/-- The report of an error, behind which the parser waits for the next packet. -/
def Rx.report (s : Rx) (address : String) (value : UInt32) : Option (Rx × List Action) :=
  (oscSendMessageInt (text address) value).map fun bytes =>
    ({ s with oscRxNextOp := .WAITFORSTART }, [.sent bytes])

/-- One byte in the receiver: its globals afterwards and what it does. -/
def oscRxHandler (s : Rx) (c : UInt8) : Option (Rx × List Action) :=
  match s.oscRxNextOp with
  | .WAITFORSTART =>
    some (if c = 0xBE then { s with oscRxNextOp := .READSIZE } else s, [])
  | .READSIZE =>
    some ({ s with
      oscRxMsgSize := c
      oscRxReadBytes := 0
      oscRxNextOp := if c.toNat < OSC_MAX_RX_MSG_SIZE - 1 then .READADDR else .SKIPMSG }, [])
  | .READADDR =>
    if c ≠ 0 ∧ c ≠ ascii ',' then s.keep c .READADDR
    else if c = ascii ',' then
      -- no zero behind the address: the buffer gets one in place of the comma
      s.keep 0 .READTAGBYTE2
    else s.keep 0 (if (s.oscRxReadBytes + 1) &&& 0x03 = 0 then .READTAGBYTE1 else .READADDR)
  | .READTAGBYTE1 =>
    if c = ascii ',' then s.keep c .READTAGBYTE2
    else { s with oscRxIntArg1 := c.toUInt32 <<< 0x18 }.keep c .READARG1BYTE2
  | .READTAGBYTE2 => s.keep c (if c = ascii 'i' then .READTAGBYTE3 else .SKIPMSG)
  | .READTAGBYTE3 => s.keep c (if c = 0 then .READTAGBYTE4 else .SKIPMSG)
  | .READTAGBYTE4 => s.keep c (if c = 0 then .READARG1BYTE1 else .SKIPMSG)
  | .READARG1BYTE1 => { s with oscRxIntArg1 := c.toUInt32 <<< 0x18 }.keep c .READARG1BYTE2
  | .READARG1BYTE2 =>
    { s with oscRxIntArg1 := s.oscRxIntArg1 ||| c.toUInt32 <<< 0x10 }.keep c .READARG1BYTE3
  | .READARG1BYTE3 =>
    { s with oscRxIntArg1 := s.oscRxIntArg1 ||| c.toUInt32 <<< 0x08 }.keep c .READARG1BYTE4
  | .READARG1BYTE4 =>
    { s with oscRxIntArg1 := s.oscRxIntArg1 ||| c.toUInt32 }.keep c .READCHECKSUM
  | .READCHECKSUM =>
    if s.oscRxReadBytes ≠ s.oscRxMsgSize then
      s.report "/error/msgsize/" s.oscRxReadBytes.toUInt32
    else
      let oscRxChecksum := (cut s.oscRxData 0 s.oscRxMsgSize.toNat).sum
      let s := { s with oscRxChecksum := oscRxChecksum }
      if oscRxChecksum = c then
        some ({ s with oscRxNextOp := .WAITFORSTART },
          [.oscReceiveMessageInt (cstring (cut s.oscRxData 0 OSC_MAX_RX_MSG_SIZE)) s.oscRxIntArg1])
      else s.report "/error/checksum" oscRxChecksum.toUInt32
  | .SKIPMSG =>
    let s := { s with oscRxReadBytes := s.oscRxReadBytes + 1 }
    some (if s.oscRxReadBytes.toNat = s.oscRxMsgSize.toNat + 1 then
      { s with oscRxNextOp := .WAITFORSTART } else s, [])

/-- The receiver on a stream of bytes, with what it does on the way. -/
def feed (s : Rx) : List UInt8 → Option (Rx × List Action)
  | [] => some (s, [])
  | c :: l =>
    (oscRxHandler s c).bind fun (s, as) => (feed s l).map fun (s, as') => (s, as ++ as')

/-- A byte that makes the receiver do nothing. -/
lemma feed_cons_of {s s' : Rx} {c : UInt8} (h : oscRxHandler s c = some (s', [])) (l : List UInt8) :
    feed s (c :: l) = feed s' l := by
  rw [feed, h, Option.bind_some]
  exact congrFun Option.map_id _

/-- The report of an error is sent like every message. -/
lemma report_eq (s : Rx) {address : String} (h : (text address).length ≤ 20) (value : UInt32) :
    s.report address value = some ({ s with oscRxNextOp := .WAITFORSTART },
      [.sent (packet (text address) (sentZeros (text address)) value)]) := by
  rw [Rx.report, oscSendMessageInt_eq h, Option.map_some]

/-- Storing a byte is all that happens. -/
lemma keep_actions {s s' : Rx} {c : UInt8} {next : RxOp} {as : List Action}
    (h : s.keep c next = some (s', as)) : as = [] := by
  unfold Rx.keep at h
  split at h
  · cases h
    rfl
  · exact absurd h nofun

/-- The addresses of the error reports. -/
def errorAddresses : List (List UInt8) := [text "/error/msgsize/", text "/error/checksum"]

/-- What an error report sends is the packet of one of the error addresses. -/
lemma report_sent {s s' : Rx} {address : String} (h : (text address).length ≤ 20)
    (hmem : text address ∈ errorAddresses) {value : UInt32} {as : List Action}
    (hreport : s.report address value = some (s', as)) {bytes : List UInt8}
    (hsent : .sent bytes ∈ as) :
    ∃ address ∈ errorAddresses, ∃ value, bytes = packet address (sentZeros address) value := by
  rw [report_eq s h] at hreport
  cases hreport
  cases List.mem_singleton.mp hsent
  exact ⟨_, hmem, value, rfl⟩

/-- Error reports are all that the receiver sends. -/
lemma oscRxHandler_sent {s s' : Rx} {c : UInt8} {as : List Action}
    (h : oscRxHandler s c = some (s', as)) {bytes : List UInt8} (hsent : .sent bytes ∈ as) :
    ∃ address ∈ errorAddresses, ∃ value, bytes = packet address (sentZeros address) value := by
  have hnil (has : as = []) : ∃ address ∈ errorAddresses, ∃ value,
      bytes = packet address (sentZeros address) value :=
    absurd hsent (has ▸ List.not_mem_nil)
  unfold oscRxHandler at h
  split at h
  · cases h
    exact hnil rfl
  · cases h
    exact hnil rfl
  · split_ifs at h <;> exact hnil (keep_actions h)
  · split_ifs at h <;> exact hnil (keep_actions h)
  · exact hnil (keep_actions h)
  · exact hnil (keep_actions h)
  · exact hnil (keep_actions h)
  · exact hnil (keep_actions h)
  · exact hnil (keep_actions h)
  · exact hnil (keep_actions h)
  · exact hnil (keep_actions h)
  · dsimp only at h
    split_ifs at h
    · exact report_sent (by decide) List.mem_cons_self h hsent
    · cases h
      exact absurd (List.mem_singleton.mp hsent) nofun
    · exact report_sent (by decide) (List.mem_cons_of_mem _ List.mem_cons_self) h hsent
  · cases h
    exact hnil rfl

/-! ## Reading -/

/-- The receiver when it has kept `l` of a packet. -/
def Rx.having (s : Rx) (op : RxOp) (l : List UInt8) : Rx :=
  { s with
    oscRxNextOp := op
    oscRxData := fill s.oscRxData l
    oscRxReadBytes := UInt8.ofNat l.length }

section
variable {s : Rx} {op : RxOp} {l : List UInt8}

lemma toNat_oscRxReadBytes (h : l.length ≤ OSC_MAX_RX_MSG_SIZE) :
    (s.having op l).oscRxReadBytes.toNat = l.length := by
  rw [Rx.having, UInt8.toNat_ofNat', Nat.mod_eq_of_lt (h.trans_lt (by decide))]

/-- A byte is stored behind those that are there. -/
lemma keep_having (h : l.length < OSC_MAX_RX_MSG_SIZE) (c : UInt8) (next : RxOp) :
    (s.having op l).keep c next = some (s.having next (l ++ [c]), []) := by
  rw [Rx.keep, toNat_oscRxReadBytes h.le, if_pos h, Rx.having, Rx.having, fill_concat,
    List.length_append, List.length_singleton, UInt8.ofNat_add]
  rfl

/-- A byte that is kept, as `c'`. -/
lemma feed_keep {s' : Rx} {c c' : UInt8} {next : RxOp} (h : l.length < OSC_MAX_RX_MSG_SIZE)
    (hc : oscRxHandler (s.having op l) c = (s'.having op l).keep c' next) (rest : List UInt8) :
    feed (s.having op l) (c :: rest) = feed (s'.having next (l ++ [c'])) rest :=
  feed_cons_of (hc.trans (keep_having h c' next)) rest

lemma length_concat_add {n : ℕ} (h : l.length + (n + 1) ≤ OSC_MAX_RX_MSG_SIZE) (c : UInt8) :
    (l ++ [c]).length + n ≤ OSC_MAX_RX_MSG_SIZE := by
  rw [List.length_append, List.length_singleton]
  omega

/-- The characters of the address. -/
lemma feed_address {a : List UInt8} (ha : ∀ b ∈ a, b ≠ 0 ∧ b ≠ ascii ',')
    (h : (l ++ a).length ≤ OSC_MAX_RX_MSG_SIZE) (rest : List UInt8) :
    feed (s.having .READADDR l) (a ++ rest) = feed (s.having .READADDR (l ++ a)) rest := by
  induction a generalizing l with
  | nil => rw [List.append_nil, List.nil_append]
  | cons b a ih =>
    have hlt : l.length < OSC_MAX_RX_MSG_SIZE := by
      rw [List.length_append, List.length_cons] at h
      omega
    have hb : oscRxHandler (s.having .READADDR l) b = (s.having .READADDR l).keep b .READADDR :=
      if_pos (ha b List.mem_cons_self)
    rw [List.append_cons l b a] at h ⊢
    rw [List.cons_append, feed_keep hlt hb]
    exact ih (fun c hc => ha c (List.mem_cons_of_mem b hc)) h

/-- A zero is the last one at a multiple of four. -/
lemma oscRxHandler_zero (h : l.length ≤ OSC_MAX_RX_MSG_SIZE) :
    oscRxHandler (s.having .READADDR l) 0 = (s.having .READADDR l).keep 0
      (if 4 ∣ l.length + 1 then .READTAGBYTE1 else .READADDR) := by
  have hnext : ((s.having .READADDR l).oscRxReadBytes + 1) &&& 0x03 = 0 ↔ 4 ∣ l.length + 1 := by
    have hone : (1 : UInt8).toNat = 1 := rfl
    have hmask (n : ℕ) : n &&& (0x03 : UInt8).toNat = n % 4 := Nat.and_two_pow_sub_one_eq_mod n 2
    have hsize : l.length ≤ 32 := h
    rw [← UInt8.toNat_inj, UInt8.toNat_and, UInt8.toNat_add, toNat_oscRxReadBytes h, hone,
      hmask, UInt8.toNat_zero]
    omega
  rw [← if_congr hnext rfl rfl]
  rfl

/-- The zeros behind it. -/
lemma feed_zeros {k : ℕ} (hk : 0 < k ∧ k ≤ 4) (hfour : 4 ∣ l.length + k)
    (h : l.length + k ≤ OSC_MAX_RX_MSG_SIZE) (rest : List UInt8) :
    feed (s.having .READADDR l) (List.replicate k 0 ++ rest) =
      feed (s.having .READTAGBYTE1 (l ++ List.replicate k 0)) rest := by
  induction k generalizing l with
  | zero => exact absurd hk.1 (Nat.lt_irrefl 0)
  | succ k ih =>
    rw [List.replicate_succ, List.cons_append, feed_keep (by omega) (oscRxHandler_zero (by omega)),
      List.append_cons l 0 (List.replicate k 0)]
    by_cases hlast : k = 0
    · subst hlast
      rw [if_pos hfour, List.replicate_zero, List.nil_append, List.append_nil]
    · have hlen : (l ++ [0]).length = l.length + 1 := List.length_append
      rw [if_neg (by omega)]
      exact ih ⟨by omega, by omega⟩ (by omega) (by omega)

/-- A type tag behind zeros. -/
lemma feed_tag (h : l.length + 4 ≤ OSC_MAX_RX_MSG_SIZE) (rest : List UInt8) :
    feed (s.having .READTAGBYTE1 l) (tag ++ rest) =
      feed (s.having .READARG1BYTE1 (l ++ tag)) rest := by
  have h1 := length_concat_add (n := 3) h (ascii ',')
  have h2 := length_concat_add (n := 2) h1 (ascii 'i')
  have h3 := length_concat_add (n := 1) h2 0
  calc feed (s.having .READTAGBYTE1 l) (tag ++ rest)
    _ = feed (s.having .READTAGBYTE2 (l ++ [ascii ','])) (ascii 'i' :: 0 :: 0 :: rest) :=
      feed_keep (by omega) rfl _
    _ = feed (s.having .READTAGBYTE3 (l ++ [ascii ','] ++ [ascii 'i'])) (0 :: 0 :: rest) :=
      feed_keep (by omega) rfl _
    _ = feed (s.having .READTAGBYTE4 (l ++ [ascii ','] ++ [ascii 'i'] ++ [0])) (0 :: rest) :=
      feed_keep (by omega) rfl _
    _ = feed (s.having .READARG1BYTE1 (l ++ [ascii ','] ++ [ascii 'i'] ++ [0] ++ [0])) rest :=
      feed_keep (by omega) rfl _
    _ = feed (s.having .READARG1BYTE1 (l ++ tag)) rest := by
      simp only [tag, List.append_assoc, List.cons_append, List.nil_append]

/-- A type tag straight behind the address. -/
lemma feed_tag_straight (h : l.length + 4 ≤ OSC_MAX_RX_MSG_SIZE) (rest : List UInt8) :
    feed (s.having .READADDR l) (tag ++ rest) =
      feed (s.having .READARG1BYTE1 (l ++ 0 :: tag.tail)) rest := by
  have h1 := length_concat_add (n := 3) h 0
  have h2 := length_concat_add (n := 2) h1 (ascii 'i')
  have h3 := length_concat_add (n := 1) h2 0
  calc feed (s.having .READADDR l) (tag ++ rest)
    _ = feed (s.having .READTAGBYTE2 (l ++ [0])) (ascii 'i' :: 0 :: 0 :: rest) :=
      feed_keep (by omega) rfl _
    _ = feed (s.having .READTAGBYTE3 (l ++ [0] ++ [ascii 'i'])) (0 :: 0 :: rest) :=
      feed_keep (by omega) rfl _
    _ = feed (s.having .READTAGBYTE4 (l ++ [0] ++ [ascii 'i'] ++ [0])) (0 :: rest) :=
      feed_keep (by omega) rfl _
    _ = feed (s.having .READARG1BYTE1 (l ++ [0] ++ [ascii 'i'] ++ [0] ++ [0])) rest :=
      feed_keep (by omega) rfl _
    _ = feed (s.having .READARG1BYTE1 (l ++ 0 :: tag.tail)) rest := by
      simp only [tag, List.tail_cons, List.append_assoc, List.cons_append, List.nil_append]

/-- Four bytes of an integer. -/
lemma feed_bytes (h : l.length + 4 ≤ OSC_MAX_RX_MSG_SIZE) (a b c d : UInt8) (rest : List UInt8) :
    feed (s.having .READARG1BYTE1 l) ([a, b, c, d] ++ rest) =
      feed ({ s with oscRxIntArg1 := word [a, b, c, d] }.having .READCHECKSUM (l ++ [a, b, c, d]))
        rest := by
  have h1 := length_concat_add (n := 3) h a
  have h2 := length_concat_add (n := 2) h1 b
  have h3 := length_concat_add (n := 1) h2 c
  calc feed (s.having .READARG1BYTE1 l) ([a, b, c, d] ++ rest)
    _ = feed ({ s with oscRxIntArg1 := a.toUInt32 <<< 0x18 }.having .READARG1BYTE2 (l ++ [a]))
        (b :: c :: d :: rest) := feed_keep (by omega) rfl _
    _ = feed ({ s with oscRxIntArg1 := a.toUInt32 <<< 0x18 ||| b.toUInt32 <<< 0x10 }.having
        .READARG1BYTE3 (l ++ [a] ++ [b])) (c :: d :: rest) := feed_keep (by omega) rfl _
    _ = feed ({ s with oscRxIntArg1 := a.toUInt32 <<< 0x18 ||| b.toUInt32 <<< 0x10 |||
        c.toUInt32 <<< 0x08 }.having .READARG1BYTE4 (l ++ [a] ++ [b] ++ [c])) (d :: rest) :=
      feed_keep (by omega) rfl _
    _ = feed ({ s with oscRxIntArg1 := word [a, b, c, d] }.having .READCHECKSUM
        (l ++ [a] ++ [b] ++ [c] ++ [d])) rest := feed_keep (by omega) rfl _
    _ = _ := by
      simp only [List.append_assoc, List.cons_append, List.nil_append]

/-- The integer. -/
lemma feed_value (h : l.length + 4 ≤ OSC_MAX_RX_MSG_SIZE) (value : UInt32) (rest : List UInt8) :
    feed (s.having .READARG1BYTE1 l) (bytes value ++ rest) =
      feed ({ s with oscRxIntArg1 := value }.having .READCHECKSUM (l ++ bytes value)) rest := by
  have hbytes := feed_bytes (s := s) h (value >>> 0x18).toUInt8 (value >>> 0x10).toUInt8
    (value >>> 0x08).toUInt8 value.toUInt8 rest
  have hword := word_bytes value
  rw [bytes] at hword
  rwa [hword] at hbytes

/-- A packet of another length than it says is reported. -/
lemma oscRxHandler_size (h : l.length ≤ OSC_MAX_RX_MSG_SIZE)
    (hsize : s.oscRxMsgSize.toNat ≠ l.length) (c : UInt8) :
    oscRxHandler (s.having .READCHECKSUM l) c = some (s.having .WAITFORSTART l,
      [.sent (packet (text "/error/msgsize/") 1 (UInt8.ofNat l.length).toUInt32)]) := by
  have hread : (s.having .READCHECKSUM l).oscRxReadBytes ≠ s.oscRxMsgSize := by
    rw [← UInt8.toNat_inj.ne, toNat_oscRxReadBytes h]
    exact hsize.symm
  exact (if_pos hread).trans (report_eq _ (by decide) _)

/-- The checksum: the message is handed over if it is right, and reported if not. -/
lemma oscRxHandler_checksum (h : l.length ≤ OSC_MAX_RX_MSG_SIZE) (hzero : 0 ∈ l)
    (hsize : s.oscRxMsgSize.toNat = l.length) (c : UInt8) :
    oscRxHandler (s.having .READCHECKSUM l) c =
      if l.sum = c then
        some ({ s with oscRxChecksum := l.sum }.having .WAITFORSTART l,
          [.oscReceiveMessageInt (cstring l) s.oscRxIntArg1])
      else some ({ s with oscRxChecksum := l.sum }.having .WAITFORSTART l,
        [.sent (packet (text "/error/checksum") 1 l.sum.toUInt32)]) := by
  have hread : (s.having .READCHECKSUM l).oscRxReadBytes = s.oscRxMsgSize := by
    rw [← UInt8.toNat_inj, toNat_oscRxReadBytes h, hsize]
  have hcut : cut (fill s.oscRxData l) 0 l.length = l := lies_fill _ _
  have hmsg : cstring (cut (fill s.oscRxData l) 0 OSC_MAX_RX_MSG_SIZE) = cstring l := by
    rw [← Nat.add_sub_cancel' h, cut_append, hcut, cstring_append_of_mem hzero]
  have hhandler : oscRxHandler (s.having .READCHECKSUM l) c =
      if (s.having .READCHECKSUM l).oscRxReadBytes ≠ s.oscRxMsgSize then
        (s.having .READCHECKSUM l).report "/error/msgsize/"
          (s.having .READCHECKSUM l).oscRxReadBytes.toUInt32
      else if (cut (fill s.oscRxData l) 0 s.oscRxMsgSize.toNat).sum = c then
        some ({ s with oscRxChecksum := (cut (fill s.oscRxData l) 0 s.oscRxMsgSize.toNat).sum
          }.having .WAITFORSTART l, [.oscReceiveMessageInt
            (cstring (cut (fill s.oscRxData l) 0 OSC_MAX_RX_MSG_SIZE)) s.oscRxIntArg1])
      else { s with oscRxChecksum := (cut (fill s.oscRxData l) 0 s.oscRxMsgSize.toNat).sum
        }.having .READCHECKSUM l |>.report "/error/checksum"
          (cut (fill s.oscRxData l) 0 s.oscRxMsgSize.toNat).sum.toUInt32 := rfl
  rw [hhandler, if_neg (not_not.mpr hread), hsize, hcut, hmsg, report_eq _ (by decide)]
  rfl

end

/-! ## Between packets -/

/-- The start byte and the length of a packet that is read. -/
lemma feed_header {s : Rx} (hs : s.oscRxNextOp = .WAITFORSTART) {size : UInt8}
    (h : size.toNat < OSC_MAX_RX_MSG_SIZE - 1) (rest : List UInt8) :
    feed s (0xBE :: size :: rest) =
      feed ({ s with oscRxMsgSize := size }.having .READADDR []) rest := by
  have hstart : oscRxHandler s 0xBE = some ({ s with oscRxNextOp := .READSIZE }, []) := by
    rw [oscRxHandler, hs]
    rfl
  have hsize : oscRxHandler { s with oscRxNextOp := .READSIZE } size =
      some ({ s with oscRxMsgSize := size }.having .READADDR [], []) := by
    simp only [oscRxHandler, if_pos h]
    rfl
  rw [feed_cons_of hstart, feed_cons_of hsize]

/-- The receiver when it has counted `k` bytes of a packet that it skips. -/
def Rx.skipping (s : Rx) (k : ℕ) : Rx :=
  { s with oscRxNextOp := .SKIPMSG, oscRxReadBytes := UInt8.ofNat k }

/-- A length that does not fit makes the receiver skip. -/
lemma feed_long_header {s : Rx} (hs : s.oscRxNextOp = .WAITFORSTART) {size : UInt8}
    (h : OSC_MAX_RX_MSG_SIZE - 1 ≤ size.toNat) (rest : List UInt8) :
    feed s (0xBE :: size :: rest) = feed ({ s with oscRxMsgSize := size }.skipping 0) rest := by
  have hstart : oscRxHandler s 0xBE = some ({ s with oscRxNextOp := .READSIZE }, []) := by
    rw [oscRxHandler, hs]
    rfl
  have hsize : oscRxHandler { s with oscRxNextOp := .READSIZE } size =
      some ({ s with oscRxMsgSize := size }.skipping 0, []) := by
    simp only [oscRxHandler, if_neg (Nat.not_lt.mpr h)]
    rfl
  rw [feed_cons_of hstart, feed_cons_of hsize]

section
variable {s : Rx}

/-- The counter is a byte, the length plus one is not. -/
lemma oscRxHandler_skip (k : ℕ) (c : UInt8) :
    oscRxHandler (s.skipping k) c = some (if (k + 1) % 256 = s.oscRxMsgSize.toNat + 1 then
      { s.skipping (k + 1) with oscRxNextOp := .WAITFORSTART } else s.skipping (k + 1), []) := by
  have hcount : UInt8.ofNat k + 1 = UInt8.ofNat (k + 1) := (UInt8.ofNat_add k 1).symm
  have hhandler : oscRxHandler (s.skipping k) c = some
      (if (UInt8.ofNat k + 1).toNat = s.oscRxMsgSize.toNat + 1 then
        { s with oscRxNextOp := .WAITFORSTART, oscRxReadBytes := UInt8.ofNat k + 1 }
      else { s with oscRxNextOp := .SKIPMSG, oscRxReadBytes := UInt8.ofNat k + 1 }, []) := rfl
  simp only [hhandler, hcount, UInt8.toNat_ofNat']
  rfl

/-- The bytes of a packet that is skipped, whatever they are. -/
lemma feed_skip {k : ℕ} {l : List UInt8} (h : k + l.length ≤ s.oscRxMsgSize.toNat)
    (rest : List UInt8) :
    feed (s.skipping k) (l ++ rest) = feed (s.skipping (k + l.length)) rest := by
  induction l generalizing k with
  | nil => rfl
  | cons c l ih =>
    have hsize := s.oscRxMsgSize.toNat_lt
    rw [List.length_cons, ← Nat.add_assoc, Nat.add_right_comm] at h ⊢
    have hc := oscRxHandler_skip (s := s) k c
    rw [if_neg (by omega)] at hc
    rw [List.cons_append, feed_cons_of hc]
    exact ih h

/-- To its last byte. -/
lemma feed_skipped (h : s.oscRxMsgSize.toNat ≠ 255) {l : List UInt8}
    (hl : l.length = s.oscRxMsgSize.toNat + 1) (rest : List UInt8) :
    feed (s.skipping 0) (l ++ rest) =
      feed { s.skipping l.length with oscRxNextOp := .WAITFORSTART } rest := by
  obtain ⟨l, c, rfl⟩ := l.eq_nil_or_concat'.resolve_left
    (List.ne_nil_of_length_eq_add_one hl)
  have hlen : (l ++ [c]).length = l.length + 1 := List.length_append
  have hsize := s.oscRxMsgSize.toNat_lt
  have hc := oscRxHandler_skip (s := s) l.length c
  rw [if_pos (by omega)] at hc
  rw [List.append_assoc, feed_skip (by omega), Nat.zero_add, hlen]
  exact feed_cons_of hc rest

/-- A packet of the length 255 never ends. -/
lemma feed_skip_forever (h : s.oscRxMsgSize.toNat = 255) (k : ℕ) (l : List UInt8) :
    feed (s.skipping k) l = some (s.skipping (k + l.length), []) := by
  induction l generalizing k with
  | nil => rfl
  | cons c l ih =>
    have hc := oscRxHandler_skip (s := s) k c
    rw [if_neg (by omega)] at hc
    rw [feed_cons_of hc, ih, List.length_cons, Nat.add_assoc, Nat.add_comm 1]

/-- Noise without a start byte. -/
lemma feed_noise (hs : s.oscRxNextOp = .WAITFORSTART) {noise : List UInt8}
    (h : 0xBE ∉ noise) (rest : List UInt8) : feed s (noise ++ rest) = feed s rest := by
  induction noise with
  | nil => rfl
  | cons c noise ih =>
    rw [List.mem_cons, not_or] at h
    have hc : oscRxHandler s c = some (s, []) := by
      rw [oscRxHandler, hs]
      exact congrArg (fun s => some (s, [])) (if_neg (Ne.symm h.1))
    rw [List.cons_append, feed_cons_of hc]
    exact ih h.2

end

/-- Behind a length of 31 or more the receiver waits for the next packet as soon as the packet
is over, and for a length of 255 never again. -/
theorem skips_iff {s : Rx} (hs : s.oscRxNextOp = .WAITFORSTART) {size : UInt8}
    (h : OSC_MAX_RX_MSG_SIZE - 1 ≤ size.toNat) {l : List UInt8}
    (hl : l.length ≤ size.toNat + 1 ∨ size = 255) :
    ∃ s', feed s (0xBE :: size :: l) = some (s', []) ∧
      (s'.oscRxNextOp = .WAITFORSTART ↔ l.length = size.toNat + 1 ∧ size ≠ 255) := by
  rw [feed_long_header hs h]
  by_cases hforever : size = 255
  · rw [feed_skip_forever (s := { s with oscRxMsgSize := size }) (congrArg UInt8.toNat hforever)]
    exact ⟨_, rfl, iff_of_false nofun (fun h => h.2 hforever)⟩
  · have hsize : size.toNat ≠ 255 := fun h => hforever (UInt8.toNat_inj.mp h)
    rcases (hl.resolve_right hforever).eq_or_lt with hend | hlt
    · have hfeed := feed_skipped (s := { s with oscRxMsgSize := size }) hsize hend []
      rw [List.append_nil] at hfeed
      exact ⟨_, hfeed, iff_of_true rfl ⟨hend, hforever⟩⟩
    · have hfeed := feed_skip (s := { s with oscRxMsgSize := size }) (k := 0) (l := l)
        (by rw [Nat.zero_add]; exact Nat.lt_succ_iff.mp hlt) []
      rw [List.append_nil] at hfeed
      exact ⟨_, hfeed, iff_of_false nofun (fun h => hlt.ne h.1)⟩

/-- A length of 255: behind it not even a start byte is seen. -/
theorem skips_iff_forever :
    ∃ s', feed .start (0xBE :: 255 :: [0xBE, 12]) = some (s', []) ∧
      s'.oscRxNextOp ≠ .WAITFORSTART := by
  have hlong : OSC_MAX_RX_MSG_SIZE - 1 ≤ (255 : UInt8).toNat := by decide
  obtain ⟨s', hfeed, hwait⟩ := skips_iff (s := .start) (l := [0xBE, 12]) rfl hlong (.inr rfl)
  exact ⟨s', hfeed, mt hwait.mp (fun h => h.2 rfl)⟩

end ArduinoProjects.Osc
