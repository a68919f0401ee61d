import ArduinoProjects.Core
import ArduinoProjects.Util.Overlay
import Mathlib.Data.UInt
import Mathlib.Algebra.BigOperators.Group.List.Basic

/-!
# OSC over the serial line: packets

A message is an address and an integer. `oscSendMessageInt` builds its packet in a buffer of
24 bytes: a start byte, the length of what follows, the address with zeros up to a multiple of
four, the type tag, the integer with its most significant byte first, and the sum of the bytes
behind the length. An address of more than twelve characters runs over the end of the buffer;
what lies behind it in memory is taken to be nobody's, so the packet is sent all the same
(`oscSendMessageInt_eq`).
-/

namespace ArduinoProjects.Osc

open Util

/-! ## Packets -/

/-- The type tag of a single integer. -/
def tag : List UInt8 := [ascii ',', ascii 'i', 0, 0]

/-- The bytes of an integer, the most significant one first. -/
def bytes (value : UInt32) : List UInt8 :=
  [(value >>> 0x18).toUInt8, (value >>> 0x10).toUInt8, (value >>> 0x08).toUInt8, value.toUInt8]

/-- What the length counts and the checksum adds up, with `zeros` zeros behind the address. -/
def body (address : List UInt8) (zeros : ℕ) (value : UInt32) : List UInt8 :=
  address ++ List.replicate zeros 0 ++ tag ++ bytes value

/-- A packet: start byte, length, body and checksum. -/
def packet (address : List UInt8) (zeros : ℕ) (value : UInt32) : List UInt8 :=
  0xBE :: UInt8.ofNat (body address zeros value).length ::
    (body address zeros value ++ [(body address zeros value).sum])

/-- The integer whose most significant bytes are `args`. -/
def word (args : List UInt8) : UInt32 :=
  (args.getD 0 0).toUInt32 <<< 0x18 ||| (args.getD 1 0).toUInt32 <<< 0x10 |||
    (args.getD 2 0).toUInt32 <<< 0x08 ||| (args.getD 3 0).toUInt32

lemma word_singleton (a : UInt8) : word [a] = a.toUInt32 <<< 0x18 := by
  simp [word]

/-- One byte more. -/
lemma word_concat {args : List UInt8} (h : args.length < 4) (c : UInt8) :
    word (args ++ [c]) = word args ||| c.toUInt32 <<< UInt32.ofNat (24 - 8 * args.length) := by
  match args, h with
  | [], _ => simp [word]
  | [a], _ => simp [word]
  | [a, b], _ => simp [word]
  | [a, b, d], _ => simp [word]

lemma word_bytes (value : UInt32) : word (bytes value) = value := by
  simp only [word, bytes, List.getD_cons_zero, List.getD_cons_succ, ← UInt32.toBitVec_inj]
  ext i hi
  simp [-UInt32.toUInt32_toUInt8]
  grind

lemma bytes_word (a b c d : UInt8) : bytes (word [a, b, c, d]) = [a, b, c, d] := by
  simp only [word, bytes, List.getD_cons_zero, List.getD_cons_succ, List.cons.injEq, and_true,
    ← UInt8.toBitVec_inj]
  refine ⟨?_, ?_, ?_, ?_⟩ <;> ext i hi <;> simp <;> grind

@[simp] lemma length_bytes (value : UInt32) : (bytes value).length = 4 := rfl

@[simp] lemma length_tag : tag.length = 4 := rfl

@[simp] lemma length_body (address : List UInt8) (zeros : ℕ) (value : UInt32) :
    (body address zeros value).length = address.length + zeros + 8 := by
  simp only [body, List.length_append, List.length_replicate, length_tag, length_bytes]

/-! ## The sender -/

/-- The size of `oscBuffer`. -/
def MAX_LENGTH : ℕ := 24

/-- `oscBuffer` and the offset of the next byte. The cells from 24 on stand for what follows the
array in memory; a cell nobody has written there has no known content. -/
structure Tx where
  oscBuffer : ℕ → Option UInt8
  offset : UInt8

/-- The buffer when it has been cleared. -/
def Tx.clear : Tx := ⟨fun j => if j < MAX_LENGTH then some 0 else none, 0⟩

/-- `oscBuffer[offset++] = b` -/
def Tx.put (s : Tx) (b : UInt8) : Tx :=
  ⟨Function.update s.oscBuffer s.offset.toNat (some b), s.offset + 1⟩

/-- Bytes are put one after the other. -/
def Tx.puts (s : Tx) (l : List UInt8) : Tx := l.foldl Tx.put s

/-- `strcpy` copies the NUL too and leaves the offset alone. -/
def Tx.strcpy (s : Tx) (address : List UInt8) : Tx :=
  { s.puts (address ++ [0]) with offset := s.offset }

/-- The bytes from `o` on up to the offset, if they are all known. -/
def Tx.written (s : Tx) (o : ℕ) : Option (List UInt8) :=
  (cut s.oscBuffer o (s.offset.toNat - o)).mapM id

/-- The length of the address and the zeros behind it. -/
def addrlen (address : List UInt8) : UInt8 :=
  let addrlen := UInt8.ofNat address.length
  if addrlen &&& 0x03 ≠ 0 then addrlen + (4 - (addrlen &&& 0x03)) else addrlen

/-- The bytes that are sent for an address without a NUL. -/
def oscSendMessageInt (address : List UInt8) (value : UInt32) : Option (List UInt8) :=
  let s := Tx.clear.put 0xBE
  let typetaglen := 4
  let arglen := 4
  let len := addrlen address + typetaglen + arglen
  let s := (s.put len).strcpy address
  let s := { s with offset := s.offset + addrlen address }
  let s := (s.puts tag).puts (bytes value)
  (s.written 2).bind fun l =>
    let checksum := l.sum
    (s.put checksum).written 0

/-! ## What the buffer holds -/

/-- The buffer after some bytes, which was cleared before. -/
def Tx.of (l : List UInt8) : Tx :=
  ⟨fill Tx.clear.oscBuffer (l.map some), UInt8.ofNat l.length⟩

namespace Tx

lemma toNat_offset_of {l : List UInt8} (h : l.length < 256) :
    (of l).offset.toNat = l.length := by
  rw [of, UInt8.toNat_ofNat', Nat.mod_eq_of_lt h]

lemma put_of {l : List UInt8} (h : l.length < 256) (b : UInt8) :
    (of l).put b = of (l ++ [b]) := by
  have hfill : Function.update (of l).oscBuffer l.length (some b) = (of (l ++ [b])).oscBuffer := by
    rw [of, of, List.map_append, List.map_singleton, fill_concat, List.length_map]
  rw [put, toNat_offset_of h, hfill, of, of, List.length_append, List.length_singleton,
    UInt8.ofNat_add]
  rfl

lemma puts_of {l bs : List UInt8} (h : (l ++ bs).length ≤ 256) :
    (of l).puts bs = of (l ++ bs) := by
  induction bs generalizing l with
  | nil => rw [List.append_nil]; rfl
  | cons b bs ih =>
    have hlen : (l ++ [b] ++ bs).length ≤ 256 := by rwa [← List.append_cons]
    have hlt : l.length < 256 := by
      rw [List.length_append, List.length_cons] at h
      omega
    rw [puts, List.foldl_cons, put_of hlt, List.append_cons l b bs]
    exact ih hlen

/-- Zeros change nothing in a buffer that was cleared. -/
lemma fill_zeros (l : List UInt8) {k : ℕ} (h : l.length + k ≤ MAX_LENGTH) :
    (of (l ++ List.replicate k 0)).oscBuffer = (of l).oscBuffer := by
  ext1 j
  show fill clear.oscBuffer ((l ++ List.replicate k 0).map some) j =
    fill clear.oscBuffer (l.map some) j
  rw [List.map_append, List.map_replicate, fill_apply, fill_apply]
  rcases Nat.lt_or_ge j l.length with hj | hj
  · rw [List.getD_append _ _ _ _ (by rwa [List.length_map])]
  · rw [List.getD_append_right _ _ _ _ (by rwa [List.length_map]),
      List.getD_eq_default (l.map some) _ (by rwa [List.length_map]), List.length_map]
    rcases Nat.lt_or_ge (j - l.length) k with hk | hk
    · rw [List.getD_replicate _ hk, clear]
      exact (if_pos (by omega)).symm
    · rw [List.getD_eq_default _ _ (by rwa [List.length_replicate])]

/-- `strcpy` copies the address and its zero, and leaves the offset alone. -/
lemma strcpy_of (l address : List UInt8) (h : (l ++ address).length < MAX_LENGTH) :
    (of l).strcpy address = ⟨(of (l ++ address)).oscBuffer, (of l).offset⟩ := by
  have hmax : MAX_LENGTH = 24 := rfl
  have hnul : (of (l ++ address ++ [0])).oscBuffer = (of (l ++ address)).oscBuffer :=
    fill_zeros (l ++ address) (k := 1) h
  rw [strcpy, puts_of, ← List.append_assoc, hnul]
  rw [← List.append_assoc, List.length_append, List.length_singleton]
  omega

/-- Bytes that are all there. -/
lemma mapM_some (l : List UInt8) : (l.map some).mapM id = some l := by
  induction l with
  | nil => rfl
  | cons b l ih =>
    rw [List.map_cons, List.mapM_cons, ih]
    rfl

/-- What has been written behind the first bytes. -/
lemma written_of {a b : List UInt8} (h : (a ++ b).length < 256) :
    (of (a ++ b)).written a.length = some b := by
  have hlies : Lies (of (a ++ b)).oscBuffer 0 ((a ++ b).map some) := lies_fill _ _
  rw [List.map_append, lies_append_iff, Nat.zero_add, List.length_map] at hlies
  have hcut := hlies.2
  rw [Lies, List.length_map] at hcut
  rw [written, toNat_offset_of h, List.length_append, Nat.add_sub_cancel_left, hcut, mapM_some]

end Tx

/-- The zeros behind the address in what is sent. -/
def sentZeros (address : List UInt8) : ℕ := (4 - address.length % 4) % 4

lemma toNat_addrlen {address : List UInt8} (h : address.length ≤ 20) :
    (addrlen address).toNat = address.length + sentZeros address := by
  have hlen : (UInt8.ofNat address.length).toNat = address.length := by
    rw [UInt8.toNat_ofNat', Nat.mod_eq_of_lt (by omega)]
  have hfour : (4 : UInt8).toNat = 4 := rfl
  have hlow : (UInt8.ofNat address.length &&& 0x03).toNat = address.length % 4 := by
    rw [UInt8.toNat_and, hlen]
    exact Nat.and_two_pow_sub_one_eq_mod _ 2
  unfold addrlen sentZeros
  dsimp only
  split
  · next hne =>
    have hpos : address.length % 4 ≠ 0 := fun h0 => hne (UInt8.toNat_inj.mp (hlow.trans h0))
    rw [UInt8.toNat_add, UInt8.toNat_sub_of_le _ _ (UInt8.le_iff_toNat_le.mpr
      (hlow.le.trans (by rw [hfour]; omega))), hlen, hlow, hfour]
    omega
  · next heq =>
    rw [not_not] at heq
    rw [heq] at hlow
    rw [hlen, ← hlow]
    rfl

/-- The first two bytes of the packet of an address. -/
private def header (address : List UInt8) : List UInt8 := [0xBE, addrlen address + 4 + 4]

lemma header_eq {address : List UInt8} (h : address.length ≤ 20) (value : UInt32) :
    header address = [0xBE, UInt8.ofNat (body address (sentZeros address) value).length] := by
  have hfour : (4 : UInt8).toNat = 4 := rfl
  rw [header, List.cons_inj_right, List.cons_eq_cons, ← UInt8.toNat_inj, UInt8.toNat_add,
    UInt8.toNat_add, toNat_addrlen h, UInt8.toNat_ofNat', length_body, hfour]
  refine ⟨?_, rfl⟩
  omega

/-- Behind the address. -/
lemma offset_addrlen {address : List UInt8} (h : address.length ≤ 20) :
    (⟨(Tx.of (header address ++ address)).oscBuffer,
        (Tx.of (header address)).offset + addrlen address⟩ : Tx) =
      Tx.of (header address ++ address ++ List.replicate (sentZeros address) 0) := by
  have hzeros : address.length + sentZeros address ≤ 20 := by
    unfold sentZeros
    omega
  have hlen : (header address ++ address).length = 2 + address.length := List.length_append
  have hoff : (Tx.of (header address)).offset + addrlen address =
      UInt8.ofNat (header address ++ address ++ List.replicate (sentZeros address) 0).length := by
    have htwo : (Tx.of (header address)).offset.toNat = 2 := rfl
    rw [← UInt8.toNat_inj, UInt8.toNat_add, toNat_addrlen h, htwo, UInt8.toNat_ofNat',
      List.length_append, hlen, List.length_replicate, Nat.add_assoc]
  have hmax : MAX_LENGTH = 24 := rfl
  exact congrArg₂ Tx.mk (Tx.fill_zeros _ (by omega)).symm hoff

lemma put_header (address : List UInt8) :
    (Tx.clear.put 0xBE).put (addrlen address + 4 + 4) = Tx.of (header address) := by
  have hclear : Tx.clear = Tx.of [] := rfl
  rw [hclear, Tx.put_of (by decide), List.nil_append, Tx.put_of (by decide)]
  rfl

/-- A message of an address of at most 20 characters is sent as its packet. Of those in the
program the longest has 15, and 27 bytes are sent of it. -/
lemma oscSendMessageInt_eq {address : List UInt8} (h : address.length ≤ 20) (value : UInt32) :
    oscSendMessageInt address value = some (packet address (sentZeros address) value) := by
  have hzeros : address.length + sentZeros address ≤ 20 := by
    unfold sentZeros
    omega
  have htwo : (header address).length = 2 := rfl
  have hbody : header address ++ address ++ List.replicate (sentZeros address) 0 ++ tag ++
      bytes value = header address ++ body address (sentZeros address) value := by
    simp only [body, List.append_assoc]
  have hlength : (header address ++ body address (sentZeros address) value).length ≤ 30 := by
    rw [List.length_append, length_body]
    omega
  have hcopy : (Tx.of (header address)).strcpy address =
      ⟨(Tx.of (header address ++ address)).oscBuffer, (Tx.of (header address)).offset⟩ := by
    apply Tx.strcpy_of
    rw [List.length_append, MAX_LENGTH]
    omega
  have htag : ((Tx.of (header address ++ address ++
      List.replicate (sentZeros address) 0)).puts tag).puts (bytes value) =
        Tx.of (header address ++ body address (sentZeros address) value) := by
    rw [← hbody] at hlength ⊢
    rw [List.length_append] at hlength
    rw [Tx.puts_of (by omega), Tx.puts_of (by rw [List.length_append]; omega)]
  have hsum : (Tx.of (header address ++ body address (sentZeros address) value)).written 2 =
      some (body address (sentZeros address) value) := Tx.written_of (by omega)
  have hall (l : List UInt8) (hl : l.length < 256) : (Tx.of l).written 0 = some l :=
    Tx.written_of (a := []) hl
  simp only [oscSendMessageInt, put_header, hcopy, offset_addrlen h, htag, hsum, Option.bind_some]
  rw [Tx.put_of (by omega), hall _ (by rw [List.length_append, List.length_singleton]; omega),
    header_eq h value, packet, List.append_assoc]
  rfl

end ArduinoProjects.Osc
