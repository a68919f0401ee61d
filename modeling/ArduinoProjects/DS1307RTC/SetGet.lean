import ArduinoProjects.DS1307RTC.Write

/-!
# `DS1307RTC::set` and `DS1307RTC::get`

A clock that was set shows, as long as it runs, the time it was set to and the seconds
since (`get_set`).
-/

namespace ArduinoProjects.DS1307RTC

open Util Time

/-- `get` reads into a local structure with some contents `stack`. -/
def get (wire : WireReply) (stack : tmElements_t) : UInt32 :=
  if (read wire stack).1 = false then 0 else makeTime (read wire stack).2

/-- `DS1307RTC::set(t)`. -/
def set (tick : Chip → Chip) (t : UInt32) (a₁ a₂ : Attempt) (r : Chip) : Written :=
  write tick (breakTime t) a₁ a₂ r

/-- A running clock that shows second `u` is read as `u`. -/
lemma get_of_registers {r : Chip} {u : UInt32} (hu : InCentury u.toNat)
    (hr : r.ShowsTime u) (stack : tmElements_t) : get (.ofRegisters r.registers) stack = u := by
  rw [get, hr, read_registersOf (storable_breakTime hu), makeTime_breakTime_with]
  rfl

/-- What the registers show some seconds after a successful `set`. -/
lemma showsTime_of_set {tick : Chip → Chip} (htick : KeepsTime tick) {t : UInt32}
    {a₁ a₂ : Attempt} (h₁ : a₁.Honest 8) (h₂ : a₂.Honest 2) {r : Chip}
    (hok : (set tick t a₁ a₂ r).ok = true) {n : ℕ} (ht : InCentury t.toNat)
    (hn : InCentury (t.toNat + (a₂.gaps 2 + n))) :
    Chip.ShowsTime (tick^[n] (set tick t a₁ a₂ r).chip)
      (t + UInt32.ofNat (a₂.gaps 2 + n)) := by
  rcases write_cases htick.halted (breakTime t) h₁ h₂ r with ⟨hfailed, -⟩ | ⟨m, hnew⟩
  · exact absurd (hfailed.symm.trans hok) Bool.false_ne_true
  · rw [set, hnew, ← Function.iterate_add_apply, Nat.add_comm n]
    exact htick.iterate ht (.of_eq (registers_store _ _)) _ hn

/-- From 2000 to 2099, a clock that was set successfully shows `n` seconds later the time it
was set to and these seconds, with those that passed behind the last byte of the write. -/
theorem get_set {tick : Chip → Chip} (htick : KeepsTime tick) {t : UInt32} {a₁ a₂ : Attempt}
    (h₁ : a₁.Honest 8) (h₂ : a₂.Honest 2) {r : Chip} (hok : (set tick t a₁ a₂ r).ok = true)
    {n : ℕ} (ht : InCentury t.toNat) (hn : InCentury (t.toNat + (a₂.gaps 2 + n)))
    (stack : tmElements_t) :
    get (.ofRegisters (tick^[n] (set tick t a₁ a₂ r).chip).registers) stack =
      t + UInt32.ofNat (a₂.gaps 2 + n) :=
  get_of_registers hn.add (showsTime_of_set htick h₁ h₂ hok ht hn) stack

/-- A transmission that gets through at once. -/
def undisturbed : Attempt := ⟨0, 8, fun _ => 0⟩

/-- An hour after a clock was set to noon of 1 July 2016. -/
theorem get_set_noon :
    get (.ofRegisters (Chip.count^[3600]
      (set Chip.count 1467374400 undisturbed undisturbed fun _ => 0x80).chip).registers)
        ⟨0, 0, 0, 0, 0, 0, 0⟩ = 1467378000 :=
  get_set (n := 3600) keepsTime_count (fun _ => le_rfl) (fun _ => by decide) rfl
    ⟨by decide, by decide⟩ ⟨by decide, by decide⟩ ⟨0, 0, 0, 0, 0, 0, 0⟩

end ArduinoProjects.DS1307RTC
