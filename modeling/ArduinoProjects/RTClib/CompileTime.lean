import ArduinoProjects.Core
import ArduinoProjects.RTClib.DateTime

/-!
# A `DateTime` from the texts of the compiler

Two constructors read the texts that the compiler puts in for `__DATE__` and `__TIME__`,
one of them from flash memory. Both recover every date and time that the compiler can write
(`ofText_compiler`); of the year they keep the last two digits.
-/

namespace ArduinoProjects.RTClib

open Util Util.Calendar

/-- Two characters of a number. In front of a single digit there is a blank. -/
def conv2d (p : List UInt8) : UInt8 :=
  let v := if ascii '0' ≤ p.getD 0 0 ∧ p.getD 0 0 ≤ ascii '9' then p.getD 0 0 - ascii '0' else 0
  10 * v + p.getD 1 0 - ascii '0'

/-- The `switch` over the name of the month. Without a case that matches, the member keeps
its contents `m`. -/
def monthOf (m : UInt8) (date : List UInt8) : UInt8 :=
  if date.getD 0 0 = ascii 'J' then
    if date.getD 1 0 = ascii 'a' then 1 else if date.getD 2 0 = ascii 'n' then 6 else 7
  else if date.getD 0 0 = ascii 'F' then 2
  else if date.getD 0 0 = ascii 'A' then if date.getD 2 0 = ascii 'r' then 4 else 8
  else if date.getD 0 0 = ascii 'M' then if date.getD 2 0 = ascii 'r' then 3 else 5
  else if date.getD 0 0 = ascii 'S' then 9
  else if date.getD 0 0 = ascii 'O' then 10
  else if date.getD 0 0 = ascii 'N' then 11
  else if date.getD 0 0 = ascii 'D' then 12
  else m

/-- The constructor `DateTime (const char* date, const char* time)`. -/
def DateTime.ofText (m : UInt8) (date time : List UInt8) : DateTime where
  yOff := conv2d (date.drop 9)
  m := monthOf m date
  d := conv2d (date.drop 4)
  hh := conv2d time
  mm := conv2d (time.drop 3)
  ss := conv2d (time.drop 6)

/-- The constructor that copies both texts from flash memory into one buffer. -/
def DateTime.ofFlash (m : UInt8) (date time : List UInt8) : DateTime :=
  let buff := date.take 11
  let yOff := conv2d (buff.drop 9)
  let m := monthOf m buff
  let d := conv2d (buff.drop 4)
  let buff := time.take 8 ++ buff.drop 8
  ⟨yOff, m, d, conv2d buff, conv2d (buff.drop 3), conv2d (buff.drop 6)⟩

/-! ## The texts -/

/-- The names of the months in `__DATE__`. -/
def monthName : List String :=
  ["Jan", "Feb", "Mar", "Apr", "May", "Jun", "Jul", "Aug", "Sep", "Oct", "Nov", "Dec"]

/-- `__DATE__`, of the form "Mmm dd yyyy". -/
def dateText (year month day : ℕ) : List UInt8 :=
  text (monthName.getD (month - 1) "") ++ text " " ++ column 2 day ++ text " " ++ decimal year

/-- `__TIME__`, of the form "hh:mm:ss". -/
def timeText (hour minute second : ℕ) : List UInt8 :=
  lastDigits 2 hour ++ text ":" ++ lastDigits 2 minute ++ text ":" ++ lastDigits 2 second

/-! ## Reading them -/

lemma conv2d_digits {a b : ℕ} (ha : a < 10) (hb : b < 10) (l : List UInt8) :
    conv2d (digit a :: digit b :: l) = UInt8.ofNat (10 * a + b) := by
  have hdigit : ascii '0' ≤ digit a ∧ digit a ≤ ascii '9' := by
    rw [UInt8.le_iff_toNat_le, UInt8.le_iff_toNat_le, toNat_digit ha]
    show 48 ≤ _ ∧ _ ≤ 57
    omega
  unfold conv2d
  simp only [List.getD_cons_zero, List.getD_cons_succ, if_pos hdigit]
  rw [← UInt8.toNat_inj, UInt8.toNat_sub, UInt8.toNat_add, UInt8.toNat_mul, UInt8.toNat_sub,
    toNat_digit ha, toNat_digit hb, UInt8.toNat_ofNat']
  show (2 ^ 8 - 48 +
    (10 * ((2 ^ 8 - 48 + (48 + a)) % 2 ^ 8) % 2 ^ 8 + (48 + b)) % 2 ^ 8) % 2 ^ 8 = _
  omega

lemma conv2d_blank {b : ℕ} (hb : b < 10) (l : List UInt8) :
    conv2d (ascii ' ' :: digit b :: l) = UInt8.ofNat b := by
  have hblank : ¬ (ascii '0' ≤ ascii ' ' ∧ ascii ' ' ≤ ascii '9') := by decide
  unfold conv2d
  simp only [List.getD_cons_zero, List.getD_cons_succ, if_neg hblank]
  interval_cases b <;> rfl

lemma conv2d_column {n : ℕ} (h : n < 100) (l : List UInt8) :
    conv2d (column 2 n ++ l) = UInt8.ofNat n := by
  rw [column_succ (w := 1) (by omega), leading, leading, List.nil_append, List.append_assoc]
  split
  · next h0 =>
    rw [List.singleton_append, List.singleton_append, conv2d_blank (Nat.mod_lt _ (by norm_num)),
      Nat.mod_eq_of_lt (by omega)]
  · rw [List.singleton_append, List.singleton_append,
      conv2d_digits (Nat.mod_lt _ (by norm_num)) (Nat.mod_lt _ (by norm_num))]
    congr 1
    omega

lemma conv2d_lastDigits (n : ℕ) (l : List UInt8) :
    conv2d (lastDigits 2 n ++ l) = UInt8.ofNat (n % 100) := by
  rw [lastDigits, lastDigits, lastDigits, List.nil_append, List.append_assoc,
    List.singleton_append, List.singleton_append,
    conv2d_digits (Nat.mod_lt _ (by norm_num)) (Nat.mod_lt _ (by norm_num))]
  congr 1
  omega

/-- A year of four digits ends in two. -/
lemma decimal_year {year : ℕ} (hlo : 1000 ≤ year) (hhi : year < 10000) :
    ∃ l, l.length = 2 ∧ decimal year = l ++ lastDigits 2 year := by
  refine ⟨decimal (year / 100), ?_, ?_⟩
  · rw [decimal_of_ge (by omega), decimal_of_lt (by omega)]
    rfl
  · rw [decimal_of_ge (by omega), decimal_of_ge (show 10 ≤ year / 10 by omega),
      List.append_assoc, Nat.div_div_eq_div_mul]
    rfl

/-- The three letters tell the twelve months apart. -/
lemma monthOf_name (m : UInt8) {month : ℕ} (h : 1 ≤ month ∧ month ≤ 12) (l : List UInt8) :
    (text (monthName.getD (month - 1) "")).length = 3 ∧
      monthOf m (text (monthName.getD (month - 1) "") ++ l) = UInt8.ofNat month := by
  obtain ⟨hlo, hhi⟩ := h
  interval_cases month <;> exact ⟨rfl, rfl⟩

/-- A number is read from the characters at two places. -/
lemma conv2d_drop_congr {p q : List UInt8} (i : ℕ) (h₀ : p[i]? = q[i]?)
    (h₁ : p[i + 1]? = q[i + 1]?) : conv2d (p.drop i) = conv2d (q.drop i) := by
  unfold conv2d
  simp only [List.getD_eq_getElem?_getD, List.getElem?_drop, Nat.add_zero, h₀, h₁]

/-- The copies hold all that is read. -/
lemma ofFlash_eq_ofText (m : UInt8) (date : List UInt8) {time : List UInt8}
    (h : time.length = 8) : DateTime.ofFlash m date time = DateTime.ofText m date time := by
  have hdate {i : ℕ} (hi : i < 11) : (date.take 11)[i]? = date[i]? :=
    List.getElem?_take_of_lt hi
  have htime {i : ℕ} (hi : i < 8) (l : List UInt8) : (time.take 8 ++ l)[i]? = time[i]? := by
    rw [List.take_of_length_le h.le, List.getElem?_append_left (by omega)]
  have hmonth : monthOf m (date.take 11) = monthOf m date := by
    unfold monthOf
    simp only [List.getD_eq_getElem?_getD, hdate (show 0 < 11 by norm_num),
      hdate (show 1 < 11 by norm_num), hdate (show 2 < 11 by norm_num)]
  unfold DateTime.ofFlash DateTime.ofText
  dsimp only
  rw [hmonth]
  congr 1
  · exact conv2d_drop_congr 9 (hdate (by norm_num)) (hdate (by norm_num))
  · exact conv2d_drop_congr 4 (hdate (by norm_num)) (hdate (by norm_num))
  · exact conv2d_drop_congr 0 (htime (by norm_num) _) (htime (by norm_num) _)
  · exact conv2d_drop_congr 3 (htime (by norm_num) _) (htime (by norm_num) _)
  · exact conv2d_drop_congr 6 (htime (by norm_num) _) (htime (by norm_num) _)

lemma toNat_ofNat_of_lt_100 {n : ℕ} (h : n < 100) : (UInt8.ofNat n).toNat = n := by
  rw [UInt8.toNat_ofNat']
  omega

/-- The texts of the compiler are read back, but for the century. -/
lemma reading_ofText (m : UInt8) {R : Reading} (hmonth : 1 ≤ R.month ∧ R.month ≤ 12)
    (hday : R.day ≤ 31) (hhour : R.hour < 24) (hminute : R.minute < 60) (hsecond : R.second < 60)
    (hyear : 1000 ≤ R.year ∧ R.year < 10000) :
    (DateTime.ofText m (dateText R.year R.month R.day)
      (timeText R.hour R.minute R.second)).reading = { R with year := R.year % 100 } := by
  obtain ⟨century, hcentury, hdecimal⟩ := decimal_year hyear.1 hyear.2
  obtain ⟨hname, hmonthOf⟩ := monthOf_name m hmonth
    (text " " ++ (column 2 R.day ++ (text " " ++ decimal R.year)))
  have hcolumn : (column 2 R.day).length = 2 :=
    length_column (by norm_num) (show R.day < 10 ^ 2 by omega)
  -- where the fields stand in the texts
  have hmonthText : dateText R.year R.month R.day = text (monthName.getD (R.month - 1) "") ++
      (text " " ++ (column 2 R.day ++ (text " " ++ decimal R.year))) := by
    simp only [dateText, List.append_assoc]
  have hyearText : (dateText R.year R.month R.day).drop 9 = lastDigits 2 R.year ++ [] := by
    rw [dateText, hdecimal, ← List.append_assoc, List.append_nil]
    refine List.drop_left' ?_
    simp only [List.length_append, hname, hcolumn, hcentury]
    rfl
  have hdayText : (dateText R.year R.month R.day).drop 4 =
      column 2 R.day ++ (text " " ++ decimal R.year) := by
    rw [dateText, List.append_assoc, List.append_assoc]
    refine List.drop_left' ?_
    rw [List.length_append, hname]
    rfl
  have hhourText : timeText R.hour R.minute R.second = lastDigits 2 R.hour ++
      (text ":" ++ (lastDigits 2 R.minute ++ (text ":" ++ lastDigits 2 R.second))) := by
    simp only [timeText, List.append_assoc]
  have hminuteText : (timeText R.hour R.minute R.second).drop 3 =
      lastDigits 2 R.minute ++ (text ":" ++ lastDigits 2 R.second) := rfl
  have hsecondText : (timeText R.hour R.minute R.second).drop 6 = lastDigits 2 R.second ++ [] := rfl
  unfold DateTime.ofText DateTime.reading
  dsimp only
  rw [hyearText, hdayText, hminuteText, hsecondText, hhourText, hmonthText, hmonthOf,
    conv2d_lastDigits, conv2d_lastDigits, conv2d_lastDigits, conv2d_lastDigits,
    conv2d_column (by omega), Nat.mod_eq_of_lt (show R.hour < 100 by omega),
    Nat.mod_eq_of_lt (show R.minute < 100 by omega),
    Nat.mod_eq_of_lt (show R.second < 100 by omega),
    toNat_ofNat_of_lt_100 (Nat.mod_lt _ (by norm_num)), toNat_ofNat_of_lt_100 (by omega),
    toNat_ofNat_of_lt_100 (by omega), toNat_ofNat_of_lt_100 (by omega),
    toNat_ofNat_of_lt_100 (by omega), toNat_ofNat_of_lt_100 (by omega)]

/-- Both constructors recover every date and time of a year with four digits from the texts
of the compiler, but for the century. -/
theorem ofText_compiler (m : UInt8) {R : Reading} (hmonth : 1 ≤ R.month ∧ R.month ≤ 12)
    (hday : R.day ≤ 31) (hhour : R.hour < 24) (hminute : R.minute < 60) (hsecond : R.second < 60)
    (hyear : 1000 ≤ R.year ∧ R.year < 10000) :
    (DateTime.ofText m (dateText R.year R.month R.day)
        (timeText R.hour R.minute R.second)).reading = { R with year := R.year % 100 } ∧
      DateTime.ofFlash m (dateText R.year R.month R.day)
          (timeText R.hour R.minute R.second) =
        DateTime.ofText m (dateText R.year R.month R.day)
          (timeText R.hour R.minute R.second) :=
  ⟨reading_ofText m hmonth hday hhour hminute hsecond hyear, ofFlash_eq_ofText m _ rfl⟩

/-- Five past nine on 1 July 2016. -/
theorem ofText_compiler_july :
    (DateTime.ofText 0 (dateText 2016 7 1) (timeText 9 5 0)).reading =
        ⟨⟨2016 % 100, 7, 1⟩, 9, 5, 0⟩ ∧
      DateTime.ofFlash 0 (dateText 2016 7 1) (timeText 9 5 0) =
        DateTime.ofText 0 (dateText 2016 7 1) (timeText 9 5 0) :=
  ofText_compiler 0 (R := ⟨⟨2016, 7, 1⟩, 9, 5, 0⟩) (by decide) (by decide) (by decide) (by decide)
    (by decide) (by decide)

end ArduinoProjects.RTClib
