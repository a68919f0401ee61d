import ArduinoProjects.Satsumaimo2.Framing
import ArduinoProjects.Util.Decimal

/-!
# The relay's odd seconds

The relay decides whether to read its thermocouple from `Moji[13]`, the last digit of the
second, but takes that byte before it receives the frame: what it looks at is the frame
of the pass before, and the zero of an empty buffer in the first pass (`Tracks`). So a
frame with an odd second carries a reading of its own only if the one before it had an
odd second, too (`odd_seconds_iff`).
-/

namespace ArduinoProjects.Satsumaimo2.SketchJul05d

open Util

/-- A frame of the sender's and the second it shows in its columns 12 and 13. -/
structure TimedFrame where
  bytes : Vector UInt8 30
  second : ℕ
  second_lt : second < 60
  shows : [bytes.get 12, bytes.get 13] = column 2 second

/-- The word that the branch `if (byou % 2 == 1)` reads, if it is taken. -/
def State.wordRead (s : State) (spi : SpiReply) : Option UInt16 :=
  if s.byou.tmod 2 = 1 then some spi.thermocouple else none

/-! ## The last digit of the second -/

/-- The byte that the relay looks at is the last digit of the second. -/
lemma TimedFrame.last_digit (f : TimedFrame) : f.bytes.get 13 = digit (f.second % 10) := by
  obtain ⟨l, hl⟩ := column_eq_concat 2 f.second
  have hcol : [f.bytes.get 12] ++ [f.bytes.get 13] = l ++ [digit (f.second % 10)] :=
    f.shows.trans hl
  exact (List.cons.inj (List.append_inj' hcol rfl).2).1

/-- The test on the character is a test on the second. -/
lemma TimedFrame.tmod_eq_one_iff (f : TimedFrame) :
    (char (f.bytes.get 13)).tmod 2 = 1 ↔ Odd f.second := by
  rw [f.last_digit, char_digit (Nat.mod_lt _ (by norm_num)),
    Int.tmod_eq_emod_of_nonneg (by omega), Nat.odd_iff]
  omega

/-! ## What a pass begins with -/

variable (A : Arduino) (f : ℕ → TimedFrame) (ev : ℕ → Event)

/-- The frames on the line. -/
def frames (k : ℕ) : Vector UInt8 30 := (f k).bytes

/-- How many passes have ended before step `n`: each writes one temperature. -/
def ended (n : ℕ) : ℕ := (before A (frames f) ev n).relay.out.countP Write.isText

/-- The byte that decides in the pass that receives frame `k`: the last digit of the second
before it, or the zero of an empty buffer. -/
def deciding : ℕ → UInt8
  | 0 => 0
  | k + 1 => digit ((f k).second % 10)

/-- The pass under way receives frame `k`: it took its decision from the frame before, and
has put its own bytes into the buffer as far as it has got. -/
structure Tracks (s : State) (k : ℕ) : Prop where
  byou : s.byou = char (deciding f k)
  Moji : ∀ j < s.i, s.Moji j = concat (frames f) (30 * k + j)

variable {f}

/-- A byte that is received keeps the relay in step with the frames. -/
lemma Tracks.receive {s : State} {k : ℕ} (h : Tracks f s k) (waiting : List UInt8) :
    Tracks f (s.receive (concat (frames f) (30 * k + s.i)) waiting) k where
  byou := h.byou
  Moji j hj := by
    show Function.update s.Moji s.i _ j = _
    rcases Nat.lt_succ_iff_lt_or_eq.mp hj with hlt | rfl
    · rw [Function.update_of_ne (by omega), h.Moji j hlt]
    · rw [Function.update_self]

/-- A pass that ends after a whole frame leaves that frame's digit to the next one. -/
lemma Tracks.finish {s : State} {k : ℕ} (h : Tracks f s k) (hi : s.i = 30) (spi : SpiReply) :
    Tracks f ((s.sample spi).append A).begin (k + 1) where
  byou := by
    have hMoji : ((s.sample spi).append A).Moji 13 = s.Moji 13 := by
      show (s.sample spi).Moji 13 = _
      unfold State.sample
      split <;> rfl
    show char (((s.sample spi).append A).Moji 13) = char (digit ((f k).second % 10))
    rw [hMoji, h.Moji 13 (by omega), concat_mul_add _ _ (by norm_num), ← TimedFrame.last_digit]
    rfl
  Moji j hj := absurd hj (Nat.not_lt_zero j)

variable (f)

/-- As long as every pass that ends has received one frame, the pass under way is that of
the next frame. -/
lemma exists_tracks {n : ℕ}
    (h : ∀ m < n, PassEnds A (frames f) ev m → (before A (frames f) ev m).relay.i = 30) :
    ∃ hs w, Aligned A (frames f) (before A (frames f) ev n) hs w ∧
      Tracks f (before A (frames f) ev n).relay hs.length := by
  apply aligned_induction A (frames f) ev _ _ _ _ h
  · exact ⟨rfl, fun j hj => absurd hj (Nat.not_lt_zero j)⟩
  · intro s k htracks
    exact ⟨htracks.byou, htracks.Moji⟩
  · intro s hs w spi hal htracks
    have hrx := hal.rx
    rw [segment_succ] at hrx
    show Tracks f (poll A s.relay spi) hs.length
    rw [poll_of_cons A hrx]
    exact htracks.receive _
  · intro s hs spi hal hi htracks
    show Tracks f (poll A s.relay spi) (hs.length + 1)
    rw [poll_of_nil_eq A (hal.rx.trans (segment_zero _ _))]
    exact htracks.finish A hi spi

/-- The pass that receives frame `k` takes its decision from the frame before it. -/
lemma byou_eq {n : ℕ}
    (h : ∀ m < n, PassEnds A (frames f) ev m → (before A (frames f) ev m).relay.i = 30) :
    (before A (frames f) ev n).relay.byou = char (deciding f (ended A f ev n)) := by
  obtain ⟨hs, w, hal, htracks⟩ := exists_tracks A f ev h
  have hended : ended A f ev n = hs.length := by
    rw [ended, hal.out, List.countP_append, countP_units, countP_bytes, Nat.add_zero]
  rw [hended, htracks.byou]

/-- The branch is taken iff there is a frame before and its second is odd. -/
lemma tmod_deciding_iff (k : ℕ) :
    (char (deciding f k)).tmod 2 = 1 ↔ ∃ j, k = j + 1 ∧ Odd (f j).second := by
  cases k with
  | zero =>
    refine iff_of_false (by rw [deciding]; decide) ?_
    intro ⟨j, hj, _⟩
    omega
  | succ k =>
    rw [deciding, ← TimedFrame.last_digit, TimedFrame.tmod_eq_one_iff]
    constructor
    · intro h
      exact ⟨k, rfl, h⟩
    · intro ⟨j, hj, hodd⟩
      obtain rfl : k = j := by omega
      exact hodd

/-! ## The text behind a frame -/

/-- The text written at the end of the pass, in step `n` with the sensor answering `spi`,
is that of a word read in the pass. -/
def RendersOwnWord (n : ℕ) (spi : SpiReply) : Prop :=
  ∃ word, (before A (frames f) ev n).relay.wordRead spi = some word ∧
    (before A (frames f) ev (n + 1)).relay.out =
      (before A (frames f) ev n).relay.out ++
        [.text (A.dtostrf (Thermocouple.decode word) 2 1)]

/-- A fault-free pass writes the text of the word it has read, if it has read one. -/
lemma rendersOwnWord_iff {n : ℕ} {spi : SpiReply} (hev : ev n = .poll spi)
    (hrx : (before A (frames f) ev n).relay.rx = []) (hfault : ¬ spi.fault) :
    RendersOwnWord A f ev n spi ↔ (before A (frames f) ev n).relay.byou.tmod 2 = 1 := by
  have hstep : (before A (frames f) ev (n + 1)).relay =
      (((before A (frames f) ev n).relay.sample spi).append A).begin := by
    rw [← poll_of_nil_eq A hrx]
    show (step A (frames f) (before A (frames f) ev n) (ev n)).relay = _
    rw [hev]
    rfl
  unfold RendersOwnWord State.wordRead
  by_cases hodd : (before A (frames f) ev n).relay.byou.tmod 2 = 1
  · refine iff_of_true ⟨spi.thermocouple, if_pos hodd, ?_⟩ hodd
    have hsample : (before A (frames f) ev n).relay.sample spi =
        { (before A (frames f) ev n).relay with
          Hanoura := Thermocouple.decode spi.thermocouple } := by
      rw [State.sample, if_pos hodd, Thermocouple.sample, if_neg hfault]
    rw [hstep, hsample]
    rfl
  · refine iff_of_false ?_ hodd
    intro ⟨word, hword, _⟩
    rw [if_neg hodd] at hword
    exact Option.some_ne_none word hword.symm

/-- In a run whose passes receive one frame each and whose sensor is without fault, the
text behind every frame of an odd second is that of a word read in its own pass iff every
such frame follows another one of an odd second. -/
theorem odd_seconds_iff
    (hwhole : ∀ n, PassEnds A (frames f) ev n → (before A (frames f) ev n).relay.i = 30)
    (hfault : ∀ n spi, ev n = .poll spi → ¬ spi.fault) :
    (∀ n spi, ev n = .poll spi → (before A (frames f) ev n).relay.rx = [] →
        Odd (f (ended A f ev n)).second → RendersOwnWord A f ev n spi) ↔
      ∀ n, PassEnds A (frames f) ev n → Odd (f (ended A f ev n)).second →
        ∃ j, ended A f ev n = j + 1 ∧ Odd (f j).second := by
  have hown {n : ℕ} {spi : SpiReply} (hev : ev n = .poll spi)
      (hrx : (before A (frames f) ev n).relay.rx = []) :
      RendersOwnWord A f ev n spi ↔ ∃ j, ended A f ev n = j + 1 ∧ Odd (f j).second := by
    rw [rendersOwnWord_iff A f ev hev hrx (hfault n spi hev),
      byou_eq A f ev fun m _ => hwhole m, tmod_deciding_iff]
  constructor
  · intro h n hends hodd
    obtain ⟨⟨spi, hev⟩, hrx⟩ := hends
    exact (hown hev hrx).mp (h n spi hev hrx hodd)
  · intro h n spi hev hrx hodd
    exact (hown hev hrx).mpr (h n ⟨⟨spi, hev⟩, hrx⟩ hodd)

/-! ## One pass -/

/-- One second past noon of 1 July 2016. -/
def noonBytes : Vector UInt8 30 := ⟨(text "2016 7 112 0 120.030025.039.1O").toArray, by decide⟩

lemma noonBytes_shows : [noonBytes.get 12, noonBytes.get 13] = column 2 1 := by decide

/-- A frame of second 1. -/
def noonFrame : TimedFrame where
  bytes := noonBytes
  second := 1
  second_lt := by norm_num
  shows := noonBytes_shows

/-- A frame arrives, one pass takes it, and more bytes arrive for good. -/
def onePass (n : ℕ) : Event :=
  if 30 ≤ n ∧ n ≤ 60 then .poll ⟨0x01, 0x90, 0, 0⟩ else .arrive

/-- The one pass ends with a whole frame. -/
lemma onePass_whole (n : ℕ) (h : PassEnds (.halfUp fun _ => 20) (frames fun _ => noonFrame)
    onePass n) :
    (before (.halfUp fun _ => 20) (frames fun _ => noonFrame) onePass n).relay.i = 30 := by
  obtain ⟨⟨spi, hev⟩, hrx⟩ := h
  have hrange : 30 ≤ n ∧ n ≤ 60 := by
    by_contra hout
    rw [onePass, if_neg hout] at hev
    exact Event.noConfusion hev
  have hall : ∀ k < 31,
      (before (.halfUp fun _ => 20) (frames fun _ => noonFrame) onePass (30 + k)).relay.rx = [] →
      (before (.halfUp fun _ => 20) (frames fun _ => noonFrame) onePass (30 + k)).relay.i =
        30 := by
    decide +kernel
  have hn := hall (n - 30) (by omega)
  rw [show 30 + (n - 30) = n by omega] at hn
  exact hn hrx

lemma onePass_faultless (n : ℕ) (spi : SpiReply) (h : onePass n = .poll spi) : ¬ spi.fault := by
  unfold onePass at h
  split at h
  · obtain rfl := Event.poll.inj h
    decide
  · exact Event.noConfusion h

/-- One frame, one pass, at an odd second. -/
theorem odd_seconds_iff_one_pass :
    (∀ n spi, onePass n = .poll spi →
        (before (.halfUp fun _ => 20) (frames fun _ => noonFrame) onePass n).relay.rx = [] →
        Odd noonFrame.second →
        RendersOwnWord (.halfUp fun _ => 20) (fun _ => noonFrame) onePass n spi) ↔
      ∀ n, PassEnds (.halfUp fun _ => 20) (frames fun _ => noonFrame) onePass n →
        Odd noonFrame.second →
        ∃ j, ended (.halfUp fun _ => 20) (fun _ => noonFrame) onePass n = j + 1 ∧
          Odd noonFrame.second :=
  odd_seconds_iff (.halfUp fun _ => 20) (fun _ => noonFrame) onePass onePass_whole
    onePass_faultless

/-- The first frame has an odd second, and the relay reads nothing in its pass. -/
theorem first_frame_unread :
    ¬ ∀ (A : Arduino) (f : ℕ → TimedFrame) (ev : ℕ → Event),
      (∀ n, PassEnds A (frames f) ev n → (before A (frames f) ev n).relay.i = 30) →
      (∀ n spi, ev n = .poll spi → ¬ spi.fault) →
      ∀ n spi, ev n = .poll spi → (before A (frames f) ev n).relay.rx = [] →
        Odd (f (ended A f ev n)).second → RendersOwnWord A f ev n spi := by
  intro h
  have hown := h (.halfUp fun _ => 20) (fun _ => noonFrame) onePass onePass_whole
    onePass_faultless 60 ⟨0x01, 0x90, 0, 0⟩ rfl (by decide +kernel) ⟨0, rfl⟩
  rw [rendersOwnWord_iff _ _ _ rfl (by decide +kernel) (by decide)] at hown
  revert hown
  decide +kernel

end ArduinoProjects.Satsumaimo2.SketchJul05d
