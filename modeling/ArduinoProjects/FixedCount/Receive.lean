import ArduinoProjects.Core
import ArduinoProjects.Util.Port

/-!
# Receive loops of a fixed length

Four sketches begin `loop()` with a `for` loop that reads a fixed number of bytes into
`Moji`, whether or not so many have arrived. They differ in the number, in a test of
`Serial.available()` in front of the loop, and in whether each byte is written back.

`step` is the machine of small steps: bytes arrive at any time, also between two
iterations. `Sketch.loop` is one pass as a whole, for given results of its reads. Every
run of small steps is a sequence of passes and the beginning of one more (`exists_passes`),
so what holds of all sequences of passes holds at any time.
-/

namespace ArduinoProjects.FixedCount

open Util

/-- The sketches that receive in a counted loop. -/
inductive Sketch
  | Satsumaimo2
  /-- `Satsumaimo2/Satsumaimo2.ino` -/
  | Satsumaimo2Guarded
  | SDServerSide
  | ArduinoServerside2
deriving DecidableEq

/-- The bound of the loop. -/
def Sketch.count : Sketch → ℕ
  | Satsumaimo2 => 50
  | Satsumaimo2Guarded => 38
  | SDServerSide => 38
  | ArduinoServerside2 => 38

/-- Whether the loop stands under `if (Serial.available())`. -/
def Sketch.guarded : Sketch → Bool
  | Satsumaimo2Guarded => true
  | Satsumaimo2 | SDServerSide | ArduinoServerside2 => false

/-- Whether the loop ends in `Serial.write(Moji[i])`. -/
def Sketch.echo : Sketch → Bool
  | Satsumaimo2 | Satsumaimo2Guarded => true
  | SDServerSide | ArduinoServerside2 => false

/-- `Serial.read()` as a `char`: -1 when nothing is waiting. -/
def read (waiting : List UInt8) : UInt8 := waiting.headD 0xFF

/-! ## Small steps -/

/-- Where a sketch is in its pass. -/
inductive Place
  | start
  | loop (i : ℕ)

/-- The buffer, the port, the bytes the loop has stored and written back so far, and the
variables of the rest of the sketch. -/
structure State (σ : Type*) where
  place : Place
  Moji : ℕ → UInt8
  port : Port UInt8 63
  stored : List UInt8
  echoed : List UInt8
  data : σ

variable {σ ι : Type*} (k : Sketch) (rest : σ → (ℕ → UInt8) → ι → σ)

/-- The sketch is about to begin its first pass. -/
def setup (data : σ) : State σ := ⟨.start, fun _ => 0, .empty, [], [], data⟩

/-- One iteration of the loop. -/
def iterate (s : State σ) (i : ℕ) : State σ :=
  let b := read s.port.waiting
  let Moji := Function.update s.Moji i b
  { s with
    place := .loop (i + 1)
    Moji := Moji
    port := s.port.pop
    stored := s.stored ++ [b]
    echoed := if k.echo then s.echoed ++ [Moji i] else s.echoed }

/-- What follows the loop, with the sensor and the card answering `env`. -/
def finish (s : State σ) (env : ι) : State σ :=
  { s with place := .start, data := rest s.data s.Moji env }

/-- The next step of the sketch. -/
def advance (s : State σ) (env : ι) : State σ :=
  match s.place with
  | .start =>
    if k.guarded ∧ s.port.waiting = [] then finish rest s env else { s with place := .loop 0 }
  | .loop i => if i < k.count then iterate k s i else finish rest s env

/-- A byte arrives, or the sketch takes a step. -/
def step (s : State σ) : Event UInt8 ι → State σ
  | .arrive b => { s with port := s.port.arrive b }
  | .poll env => advance k rest s env

/-- The state before step `n`. -/
def before (data : σ) (ev : ℕ → Event UInt8 ι) (n : ℕ) : State σ :=
  run (step k rest) (setup data) ev n

/-! ## Whole passes -/

/-- The first `n` iterations of the loop, when the reads return `reads`. -/
def store (reads : ℕ → UInt8) (Moji : ℕ → UInt8) : ℕ → ℕ → UInt8
  | 0 => Moji
  | i + 1 => Function.update (store reads Moji i) i (reads i)

/-- The first `n` places of the buffer are overwritten. -/
lemma store_apply (reads Moji : ℕ → UInt8) (n j : ℕ) :
    store reads Moji n j = if j < n then reads j else Moji j := by
  induction n with
  | zero => rfl
  | succ n ih =>
    rw [store]
    rcases Nat.lt_trichotomy j n with hlt | rfl | hgt
    · rw [Function.update_of_ne (by omega), ih, if_pos hlt, if_pos (by omega)]
    · rw [Function.update_self, if_pos (Nat.lt_succ_self j)]
    · rw [Function.update_of_ne (by omega), ih, if_neg (by omega), if_neg (by omega)]

/-- The first iterations depend on the first reads only. -/
lemma store_congr {reads reads' : ℕ → UInt8} (Moji : ℕ → UInt8) {n : ℕ}
    (h : ∀ j < n, reads j = reads' j) : store reads Moji n = store reads' Moji n := by
  ext j
  rw [store_apply, store_apply]
  split
  · next hj => rw [h j hj]
  · rfl

/-- What a pass meets: the answer of `Serial.available()`, the results of its reads, and
the sensor and the card. -/
structure Pass (ι : Type*) where
  available : Bool
  reads : ℕ → UInt8
  env : ι

/-- The buffer behind the receive loop of a pass. -/
def Sketch.receive (p : Pass ι) (Moji : ℕ → UInt8) : ℕ → UInt8 :=
  if k.guarded ∧ ¬ p.available then Moji else store p.reads Moji k.count

/-- One pass: the buffer and the variables it leaves. -/
def Sketch.loop (s : (ℕ → UInt8) × σ) (p : Pass ι) : (ℕ → UInt8) × σ :=
  let Moji := k.receive p s.1
  (Moji, rest s.2 Moji p.env)

/-- A state of the machine that whole passes have led to `a`, with a part of one more. -/
def Follows (s : State σ) (a : (ℕ → UInt8) × σ) : Prop :=
  s.data = a.2 ∧
  match s.place with
  | .start => s.Moji = a.1
  | .loop i => i ≤ k.count ∧ ∃ reads, s.Moji = store reads a.1 i

variable {k}

/-- One more iteration stores the result of one more read. -/
lemma Follows.iterate {s : State σ} {a : (ℕ → UInt8) × σ} (h : Follows k s a) {i : ℕ}
    (hs : s.place = .loop i) (hlt : i < k.count) : Follows k (iterate k s i) a := by
  obtain ⟨hdata, hplace⟩ := h
  simp only [hs] at hplace
  obtain ⟨-, reads, hMoji⟩ := hplace
  refine ⟨hdata, hlt, Function.update reads i (read s.port.waiting), ?_⟩
  have hbelow : store (Function.update reads i (read s.port.waiting)) a.1 i = store reads a.1 i :=
    store_congr a.1 fun j hj => Function.update_of_ne (by omega) ..
  rw [store, hbelow, Function.update_self, ← hMoji]
  rfl

/-- A pass whose loop has stored everything is completed by what follows the loop. -/
lemma Follows.finish {s : State σ} {a : (ℕ → UInt8) × σ} (h : Follows k s a)
    (hs : s.place = .loop k.count) (env : ι) :
    ∃ p, Follows k (finish rest s env) (k.loop rest a p) := by
  obtain ⟨hdata, hplace⟩ := h
  simp only [hs] at hplace
  obtain ⟨-, reads, hMoji⟩ := hplace
  have hreceive : k.receive ⟨true, reads, env⟩ a.1 = s.Moji := by
    rw [Sketch.receive, if_neg (fun h => h.2 rfl), hMoji]
  refine ⟨⟨true, reads, env⟩, ?_, ?_⟩
  · show rest s.data s.Moji env = rest a.2 (k.receive ⟨true, reads, env⟩ a.1) env
    rw [hreceive, hdata]
  · exact hreceive.symm

/-- So is a pass whose test in front of the loop finds nothing. -/
lemma Follows.skip {s : State σ} {a : (ℕ → UInt8) × σ} (h : Follows k s a)
    (hs : s.place = .start) (hguarded : k.guarded) (env : ι) :
    ∃ p, Follows k (FixedCount.finish rest s env) (k.loop rest a p) := by
  obtain ⟨hdata, hplace⟩ := h
  simp only [hs] at hplace
  have hreceive : k.receive ⟨false, fun _ => 0, env⟩ a.1 = s.Moji := by
    rw [Sketch.receive, if_pos ⟨hguarded, Bool.false_ne_true⟩, hplace]
  refine ⟨⟨false, fun _ => 0, env⟩, ?_, ?_⟩
  · show rest s.data s.Moji env = rest a.2 (k.receive ⟨false, fun _ => 0, env⟩ a.1) env
    rw [hreceive, hdata]
  · exact hreceive.symm

/-- A step either goes on with the pass or completes it. -/
lemma follows_step {s : State σ} {a : (ℕ → UInt8) × σ} (h : Follows k s a) (e : Event UInt8 ι) :
    Follows k (step k rest s e) a ∨ ∃ p, Follows k (step k rest s e) (k.loop rest a p) := by
  cases e with
  | arrive b => exact Or.inl ⟨h.1, h.2⟩
  | poll env =>
    unfold step advance
    cases hs : s.place with
    | start =>
      have hplace := h.2
      simp only [hs] at hplace ⊢
      by_cases hskip : k.guarded ∧ s.port.waiting = []
      · rw [if_pos hskip]
        exact Or.inr (h.skip rest hs hskip.1 env)
      · rw [if_neg hskip]
        exact Or.inl ⟨h.1, Nat.zero_le _, fun _ => 0, hplace⟩
    | loop i =>
      have hplace := h.2
      simp only [hs] at hplace ⊢
      by_cases hlt : i < k.count
      · rw [if_pos hlt]
        exact Or.inl (h.iterate hs hlt)
      · rw [if_neg hlt]
        obtain rfl : i = k.count := Nat.le_antisymm hplace.1 (Nat.le_of_not_lt hlt)
        exact Or.inr (h.finish rest hs env)

/-- At any time a run is a sequence of whole passes and a part of one more. -/
theorem exists_passes (data : σ) (ev : ℕ → Event UInt8 ι) (n : ℕ) :
    ∃ passes : List (Pass ι),
      Follows k (before k rest data ev n) (passes.foldl (k.loop rest) (fun _ => 0, data)) := by
  induction n with
  | zero => exact ⟨[], rfl, rfl⟩
  | succ n ih =>
    obtain ⟨passes, h⟩ := ih
    rcases follows_step rest h (ev n) with hsame | ⟨p, hnext⟩
    · exact ⟨passes, hsame⟩
    · refine ⟨passes ++ [p], ?_⟩
      rw [List.foldl_append]
      exact hnext

end ArduinoProjects.FixedCount
