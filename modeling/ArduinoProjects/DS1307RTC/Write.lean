import ArduinoProjects.DS1307RTC.Chip
import ArduinoProjects.Util.RegisterFile

/-!
# `DS1307RTC::write`

The library stops the clock, writes everything but the seconds, and restarts it with the
seconds in a second transmission. Either transmission may break off after any byte, and
the chip may count on between any two bytes as long as it is not halted. Whatever happens,
a time that is later read as valid is the old one or the new one (`write_atomic`).
-/

namespace ArduinoProjects.DS1307RTC

open Util

/-- What becomes of a transmission: the result of `Wire.endTransmission()`, how many of its
bytes the chip takes, and how often the chip counts before each of them. -/
structure Attempt where
  result : UInt8
  taken : ℕ
  gaps : ℕ → ℕ

/-- The result is 0 only if the chip took all `n` bytes. -/
def Attempt.Honest (a : Attempt) (n : ℕ) : Prop := a.result = 0 → n ≤ a.taken

/-- The first byte of a transmission sets the register pointer, the others are stored. -/
def transmit (tick : Chip → Chip) (a : Attempt) (message : List UInt8) (r : Chip) : Chip :=
  match message.take a.taken with
  | [] => tick^[a.gaps 0] r
  | ptr :: data => deliver tick a.gaps 1 ptr.toNat data (tick^[a.gaps 0] r)

/-- The return value, the flag `exists` and the chip afterwards. -/
structure Written where
  ok : Bool
  chipPresent : Bool
  chip : Chip

/-- `DS1307RTC::write(tm)`: the clock is stopped, all registers are written, and the clock is
started with the seconds. -/
def write (tick : Chip → Chip) (tm : tmElements_t) (a₁ a₂ : Attempt) (r : Chip) : Written :=
  -- stop the clock, the seconds will be written last
  let r := transmit tick a₁ (0x00 :: 0x80 :: fields tm) r
  if a₁.result ≠ 0 then ⟨false, false, r⟩
  else
    -- now go back and set the seconds, starting the clock back up as a side effect
    let r := transmit tick a₂ [0x00, dec2bcd tm.Second] r
    if a₂.result ≠ 0 then ⟨false, false, r⟩
    else ⟨true, true, r⟩

lemma halted_update {r : Chip} {j : ℕ} (b : UInt8) (hj : 1 ≤ j) (h : r.Halted) :
    Chip.Halted (Function.update r j b) := by
  unfold Chip.Halted at *
  rwa [Function.update_of_ne (by omega)]

lemma halted_stop (r : Chip) : Chip.Halted (Function.update r 0 0x80) := by
  unfold Chip.Halted
  rw [Function.update_self]
  decide

section
variable {tick : Chip → Chip} (hhalt : ∀ r, r.Halted → tick r = r)
include hhalt

/-- What the first transmission leaves: the old registers, possibly counted on, or a halted
clock, with all of the fields if it got through. -/
lemma transmit_fields (tm : tmElements_t) (a : Attempt) (r : Chip) :
    (∃ n, transmit tick a (0x00 :: 0x80 :: fields tm) r = tick^[n] r ∧ a.taken < 2) ∨
      (transmit tick a (0x00 :: 0x80 :: fields tm) r).Halted ∧
        (8 ≤ a.taken → ∃ n, transmit tick a (0x00 :: 0x80 :: fields tm) r =
          fillFrom 1 (Function.update (tick^[n] r) 0 0x80) (fields tm)) := by
  unfold transmit
  rcases htaken : a.taken with _ | _ | k
  · exact Or.inl ⟨a.gaps 0, rfl, by norm_num⟩
  · refine Or.inl ⟨a.gaps 1 + a.gaps 0, ?_, by norm_num⟩
    rw [Function.iterate_add_apply]
    rfl
  · -- the second byte halts the clock, so the rest is stored undisturbed
    right
    simp only [List.take_succ_cons]
    rw [deliver_cons, ← Function.iterate_add_apply]
    obtain ⟨hfill, hhalted⟩ := deliver_of_frozen a.gaps hhalt
      (fun r j b => halted_update b) 2 (le_refl 1) ((fields tm).take k)
      (halted_stop (tick^[a.gaps 1 + a.gaps 0] r))
    refine ⟨hhalted, fun hlong => ⟨a.gaps 1 + a.gaps 0, ?_⟩⟩
    have hall : (fields tm).take k = fields tm :=
      List.take_of_length_le (show 6 ≤ k by omega)
    rw [hall] at hfill ⊢
    exact hfill

/-- The second transmission finds a halted clock and leaves it so, or sets the seconds. -/
lemma transmit_seconds (b : UInt8) (a : Attempt) {r : Chip} (hr : r.Halted) :
    (transmit tick a [0x00, b] r = r ∧ a.taken < 2) ∨
      transmit tick a [0x00, b] r = tick^[a.gaps 2] (Function.update r 0 b) := by
  have hfixed (n : ℕ) : tick^[n] r = r := Function.iterate_fixed (hhalt r hr) n
  unfold transmit
  rcases a.taken with _ | _ | k
  · exact Or.inl ⟨hfixed _, by norm_num⟩
  · refine Or.inl ⟨?_, by norm_num⟩
    show tick^[a.gaps 1] (tick^[a.gaps 0] r) = r
    rw [hfixed, hfixed]
  · right
    simp only [List.take_succ_cons, List.take_nil]
    rw [deliver_cons, deliver_nil, hfixed, hfixed]
    rfl

/-- Every write leaves the old registers, counted on, or a halted clock, or the new registers,
counted on; a successful one leaves the new registers. -/
lemma write_cases (tm : tmElements_t) {a₁ a₂ : Attempt} (h₁ : a₁.Honest 8) (h₂ : a₂.Honest 2)
    (r : Chip) :
    ((write tick tm a₁ a₂ r).ok = false ∧
      ((∃ n, (write tick tm a₁ a₂ r).chip = tick^[n] r) ∨
        (write tick tm a₁ a₂ r).chip.Halted)) ∨
      ∃ m, (write tick tm a₁ a₂ r).chip = tick^[a₂.gaps 2] ((tick^[m] r).store tm) := by
  unfold write
  dsimp only
  split
  · left
    rcases transmit_fields hhalt tm a₁ r with ⟨n, hn, -⟩ | ⟨hhalted, -⟩
    · exact ⟨rfl, Or.inl ⟨n, hn⟩⟩
    · exact ⟨rfl, Or.inr hhalted⟩
  · next hgood =>
    have htaken := h₁ (not_not.mp hgood)
    rcases transmit_fields hhalt tm a₁ r with ⟨n, -, hshort⟩ | ⟨hhalted, hall⟩
    · omega
    obtain ⟨m, hm⟩ := hall htaken
    rcases transmit_seconds hhalt (dec2bcd tm.Second) a₂ hhalted with ⟨hsame, hshort⟩ | hnew
    · -- the seconds did not arrive
      have hfailed : a₂.result ≠ 0 := fun h0 => by
        have := h₂ h0
        omega
      rw [if_pos hfailed, hsame]
      exact Or.inl ⟨rfl, Or.inr hhalted⟩
    · right
      refine ⟨m, ?_⟩
      have hstore : transmit tick a₂ [0x00, dec2bcd tm.Second]
          (transmit tick a₁ (0x00 :: 0x80 :: fields tm) r) =
            tick^[a₂.gaps 2] ((tick^[m] r).store tm) := by
        rw [hnew, hm, update_fillFrom (by norm_num), Function.update_idem]
        rfl
      split <;> exact hstore

/-- A write that reports success has stored the new time. If a read after a write reports a
valid time, the registers are the old or the new ones as a whole, counted on. -/
theorem write_atomic (tm : tmElements_t) {a₁ a₂ : Attempt} (h₁ : a₁.Honest 8)
    (h₂ : a₂.Honest 2) (r : Chip) (stack : tmElements_t) :
    ((write tick tm a₁ a₂ r).ok = true →
      ∃ m n, (write tick tm a₁ a₂ r).chip = tick^[n] ((tick^[m] r).store tm)) ∧
    ((read (.ofRegisters (write tick tm a₁ a₂ r).chip.registers) stack).1 = true →
      (∃ n, (write tick tm a₁ a₂ r).chip = tick^[n] r) ∨
        ∃ m n, (write tick tm a₁ a₂ r).chip = tick^[n] ((tick^[m] r).store tm)) := by
  rcases write_cases hhalt tm h₁ h₂ r with ⟨hfailed, hold | hhalted⟩ | ⟨m, hnew⟩
  · exact ⟨fun h => absurd (hfailed.symm.trans h) Bool.false_ne_true, fun _ => Or.inl hold⟩
  · exact ⟨fun h => absurd (hfailed.symm.trans h) Bool.false_ne_true,
      fun h => absurd ((read_of_halted hhalted stack).symm.trans h) Bool.false_ne_true⟩
  · exact ⟨fun _ => ⟨m, _, hnew⟩, fun _ => Or.inr ⟨m, _, hnew⟩⟩

end

/-- Nine o'clock on Friday, 1 July 2016. -/
def nineOClock : tmElements_t := ⟨0, 0, 9, 6, 1, 7, 46⟩

/-- Ten o'clock on the same day. -/
def tenOClock : tmElements_t := ⟨0, 0, 10, 6, 1, 7, 46⟩

/-- The bus breaks off behind the minutes; the chip counts before every byte. -/
def brokenOff : Attempt := ⟨2, 3, fun _ => 1⟩

/-- The clock goes on from nine, is set to ten as a whole, or cannot be read. -/
theorem write_atomic_broken_off :
    ((write Chip.count tenOClock brokenOff brokenOff
        (Chip.store (fun _ => 0) nineOClock)).ok = true →
      ∃ m n, (write Chip.count tenOClock brokenOff brokenOff
        (Chip.store (fun _ => 0) nineOClock)).chip =
          Chip.count^[n] ((Chip.count^[m] (Chip.store (fun _ => 0) nineOClock)).store
            tenOClock)) ∧
    ((read (.ofRegisters (write Chip.count tenOClock brokenOff brokenOff
        (Chip.store (fun _ => 0) nineOClock)).chip.registers) tenOClock).1 = true →
      (∃ n, (write Chip.count tenOClock brokenOff brokenOff
        (Chip.store (fun _ => 0) nineOClock)).chip =
          Chip.count^[n] (Chip.store (fun _ => 0) nineOClock)) ∨
        ∃ m n, (write Chip.count tenOClock brokenOff brokenOff
          (Chip.store (fun _ => 0) nineOClock)).chip =
            Chip.count^[n] ((Chip.count^[m] (Chip.store (fun _ => 0) nineOClock)).store
              tenOClock)) :=
  write_atomic keepsTime_count.halted tenOClock
    (show brokenOff.Honest 8 from fun h => absurd h (by decide))
    (show brokenOff.Honest 2 from fun h => absurd h (by decide)) _ tenOClock

end ArduinoProjects.DS1307RTC
