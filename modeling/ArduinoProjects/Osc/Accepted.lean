import ArduinoProjects.Osc.Receiver

/-!
# What the receiver hands over

Whatever bytes arrive, and whatever errors have been reported before, the receiver hands a
message over only at the end of a packet that has the length it says and the right checksum
(`received_sound`). Besides the packets of a sender there are two forms that it accepts: without
a type tag, and with one straight behind an address that no zero ends, for which the comma does
not count in the checksum.
-/

namespace ArduinoProjects.Osc

open Util

/-! ## Packets -/

/-- How the type tag stands behind the address field. -/
inductive TagForm
  | tagged
  | untagged
  | straight
deriving DecidableEq

namespace TagForm

/-- The bytes of the tag in the packet. -/
def read : TagForm → List UInt8
  | .tagged => tag
  | .untagged => []
  | .straight => tag

/-- The bytes of the tag in the buffer. -/
def stored : TagForm → List UInt8
  | .tagged => tag
  | .untagged => []
  | .straight => 0 :: tag.tail

/-- Behind the comma the buffer holds what was read. -/
lemma take_succ {form : TagForm} (h : form ≠ .untagged) {k : ℕ} (hk : 0 < k ∧ k < 4) :
    form.read.take (k + 1) = form.read.take k ++ [tag.getD k 0] ∧
      form.stored.take (k + 1) = form.stored.take k ++ [tag.getD k 0] := by
  obtain ⟨hpos, hlt⟩ := hk
  cases form with
  | untagged => exact absurd rfl h
  | tagged => interval_cases k <;> decide
  | straight => interval_cases k <;> decide

lemma take_four (form : TagForm) :
    form.read.take 4 = form.read ∧ form.stored.take 4 = form.stored := by
  cases form <;> decide

@[simp] lemma length_stored (form : TagForm) : form.stored.length = form.read.length := by
  cases form <;> rfl

/-- An address field that goes with the form. -/
def Fits (form : TagForm) (a : List UInt8) : Prop := ascii ',' ∉ a ∧ (0 ∈ a ∨ form = .straight)

end TagForm

/-- A packet with a right length and a right checksum, which adds up the bytes as they are
stored. -/
def acceptable (a : List UInt8) (form : TagForm) (value : UInt32) : List UInt8 :=
  0xBE :: UInt8.ofNat (a ++ form.read ++ bytes value).length ::
    (a ++ form.read ++ bytes value ++ [(a ++ form.stored ++ bytes value).sum])

/-- A stream that ends with such a packet, which the receiver reads as `msg` and `value`. -/
def Ends (l msg : List UInt8) (value : UInt32) : Prop :=
  ∃ before a form, l = before ++ acceptable a form value ∧ form.Fits a ∧ msg = cstring a ∧
    (a ++ form.read ++ bytes value).length < OSC_MAX_RX_MSG_SIZE - 1

/-! ## What the receiver knows -/

/-- The state in which the first `k` bytes of a type tag have been read. -/
def tagOp : ℕ → RxOp
  | 0 => .READTAGBYTE1
  | 1 => .READTAGBYTE2
  | 2 => .READTAGBYTE3
  | 3 => .READTAGBYTE4
  | _ => .READARG1BYTE1

/-- The state in which the first `k` bytes of an integer have been read. -/
def argOp : ℕ → RxOp
  | 0 => .READARG1BYTE1
  | 1 => .READARG1BYTE2
  | 2 => .READARG1BYTE3
  | 3 => .READARG1BYTE4
  | _ => .READCHECKSUM

/-- What the state says about the end of the bytes that have arrived. -/
inductive Follows : List UInt8 → Rx → Prop
  | waits {l : List UInt8} {s : Rx}
      (h : s.oscRxNextOp = .WAITFORSTART ∨ s.oscRxNextOp = .SKIPMSG) : Follows l s
  | started {before : List UInt8} {s : Rx} (h : s.oscRxNextOp = .READSIZE) :
      Follows (before ++ [0xBE]) s
  | address {before a : List UInt8} {s : Rx}
      (hsize : s.oscRxMsgSize.toNat < OSC_MAX_RX_MSG_SIZE - 1)
      (hlen : a.length ≤ OSC_MAX_RX_MSG_SIZE) (ha : ascii ',' ∉ a) :
      Follows (before ++ 0xBE :: s.oscRxMsgSize :: a) (s.having .READADDR a)
  | padded {before a : List UInt8} {s : Rx}
      (hsize : s.oscRxMsgSize.toNat < OSC_MAX_RX_MSG_SIZE - 1)
      (hlen : a.length ≤ OSC_MAX_RX_MSG_SIZE) (ha : ascii ',' ∉ a) (hzero : 0 ∈ a) :
      Follows (before ++ 0xBE :: s.oscRxMsgSize :: a) (s.having .READTAGBYTE1 a)
  | tags {before a : List UInt8} {s : Rx} {form : TagForm} {k : ℕ}
      (hsize : s.oscRxMsgSize.toNat < OSC_MAX_RX_MSG_SIZE - 1)
      (hlen : (a ++ form.stored.take k).length ≤ OSC_MAX_RX_MSG_SIZE) (ha : form.Fits a)
      (hform : form ≠ .untagged) (hk : 0 < k ∧ k ≤ 4) :
      Follows (before ++ 0xBE :: s.oscRxMsgSize :: (a ++ form.read.take k))
        (s.having (tagOp k) (a ++ form.stored.take k))
  | args {before a : List UInt8} {s : Rx} {form : TagForm} {args : List UInt8}
      (hsize : s.oscRxMsgSize.toNat < OSC_MAX_RX_MSG_SIZE - 1)
      (hlen : (a ++ form.stored ++ args).length ≤ OSC_MAX_RX_MSG_SIZE) (ha : form.Fits a)
      (hargs : 0 < args.length ∧ args.length ≤ 4) (hword : s.oscRxIntArg1 = word args) :
      Follows (before ++ 0xBE :: s.oscRxMsgSize :: (a ++ form.read ++ args))
        (s.having (argOp args.length) (a ++ form.stored ++ args))

/-- In the middle of a type tag. -/
lemma oscRxHandler_tagOp {s : Rx} {l : List UInt8} {k : ℕ} (hk : 0 < k ∧ k < 4) (c : UInt8) :
    oscRxHandler (s.having (tagOp k) l) c = (s.having (tagOp k) l).keep c
      (if c = tag.getD k 0 then tagOp (k + 1) else .SKIPMSG) := by
  obtain ⟨hpos, hlt⟩ := hk
  interval_cases k <;> rfl

/-- In the middle of an integer. -/
lemma oscRxHandler_argOp {s : Rx} {l : List UInt8} {k : ℕ} (hk : 0 < k ∧ k < 4) (c : UInt8) :
    oscRxHandler (s.having (argOp k) l) c =
      ({ s with
        oscRxIntArg1 := s.oscRxIntArg1 ||| c.toUInt32 <<< UInt32.ofNat (24 - 8 * k)
        }.having (argOp k) l).keep c (argOp (k + 1)) := by
  obtain ⟨hpos, hlt⟩ := hk
  interval_cases k
  · rfl
  · rfl
  · have hzero : c.toUInt32 <<< UInt32.ofNat (24 - 8 * 3) = c.toUInt32 := by simp
    rw [hzero]
    rfl

/-- A byte that is kept leaves the room for it behind. -/
lemma keep_having_eq_some {s s' : Rx} {op next : RxOp} {l : List UInt8} {c : UInt8}
    {as : List Action} (hlen : l.length ≤ OSC_MAX_RX_MSG_SIZE)
    (h : (s.having op l).keep c next = some (s', as)) :
    (l ++ [c]).length ≤ OSC_MAX_RX_MSG_SIZE ∧ s' = s.having next (l ++ [c]) ∧ as = [] := by
  have hlt : l.length < OSC_MAX_RX_MSG_SIZE := by
    by_contra hfull
    rw [Rx.keep, toNat_oscRxReadBytes hlen, if_neg hfull] at h
    exact Option.some_ne_none _ h.symm
  rw [keep_having hlt] at h
  cases h
  rw [List.length_append, List.length_singleton]
  exact ⟨hlt, rfl, rfl⟩

/-- One byte more: the state still says what it says, and a message is handed over at the end of
a packet only. -/
def Sound (l : List UInt8) (s' : Rx) (as : List Action) : Prop :=
  Follows l s' ∧ ∀ msg value, .oscReceiveMessageInt msg value ∈ as → Ends l msg value

/-- A byte that hands nothing over only has to keep the state in step. -/
lemma Follows.sound {l : List UInt8} {s' : Rx} (h : Follows l s') : Sound l s' [] :=
  ⟨h, fun _ _ hmem => absurd hmem List.not_mem_nil⟩

/-- A report of an error hands nothing over. -/
lemma sound_of_sent {l bytes : List UInt8} {s' : Rx} (h : Follows l s') :
    Sound l s' [.sent bytes] :=
  ⟨h, fun _ _ hmem => absurd (List.mem_singleton.mp hmem) nofun⟩

section
variable {before a : List UInt8} {s s' : Rx} {c : UInt8} {as : List Action}

/-- A byte of the address field. -/
lemma sound_address (hsize : s.oscRxMsgSize.toNat < OSC_MAX_RX_MSG_SIZE - 1)
    (hlen : a.length ≤ OSC_MAX_RX_MSG_SIZE) (ha : ascii ',' ∉ a)
    (hc : oscRxHandler (s.having .READADDR a) c = some (s', as)) :
    Sound (before ++ 0xBE :: s.oscRxMsgSize :: (a ++ [c])) s' as := by
  have hmore (hne : c ≠ ascii ',') : ascii ',' ∉ a ++ [c] := by
    rw [List.mem_append, List.mem_singleton, not_or]
    exact ⟨ha, hne.symm⟩
  by_cases hcomma : c = ascii ','
  · have hhandler : oscRxHandler (s.having .READADDR a) c =
        (s.having .READADDR a).keep 0 .READTAGBYTE2 := by
      rw [hcomma]
      rfl
    obtain ⟨hlen', rfl, rfl⟩ := keep_having_eq_some hlen (hhandler.symm.trans hc)
    rw [hcomma]
    have hfits : TagForm.Fits .straight a := ⟨ha, .inr rfl⟩
    have hlen' : (a ++ TagForm.straight.stored.take 1).length ≤ OSC_MAX_RX_MSG_SIZE := hlen'
    exact (Follows.tags hsize hlen' hfits nofun (by omega)).sound
  · by_cases hzero : c = 0
    · subst hzero
      obtain ⟨hlen', rfl, rfl⟩ := keep_having_eq_some hlen ((oscRxHandler_zero hlen).symm.trans hc)
      split
      · exact (Follows.padded hsize hlen' (hmore hcomma) (by simp)).sound
      · exact (Follows.address hsize hlen' (hmore hcomma)).sound
    · obtain ⟨hlen', rfl, rfl⟩ := keep_having_eq_some hlen
        ((if_pos (c := c ≠ 0 ∧ c ≠ ascii ',') ⟨hzero, hcomma⟩).symm.trans hc)
      exact (Follows.address hsize hlen' (hmore hcomma)).sound

/-- The byte behind the address field: a type tag, or an integer without one. -/
lemma sound_padded (hsize : s.oscRxMsgSize.toNat < OSC_MAX_RX_MSG_SIZE - 1)
    (hlen : a.length ≤ OSC_MAX_RX_MSG_SIZE) (ha : ascii ',' ∉ a) (hzero : 0 ∈ a)
    (hc : oscRxHandler (s.having .READTAGBYTE1 a) c = some (s', as)) :
    Sound (before ++ 0xBE :: s.oscRxMsgSize :: (a ++ [c])) s' as := by
  by_cases hcomma : c = ascii ','
  · obtain ⟨hlen', rfl, rfl⟩ := keep_having_eq_some hlen
      ((if_pos (c := c = ascii ',') hcomma).symm.trans hc)
    rw [hcomma] at hlen' ⊢
    have hfits : TagForm.Fits .tagged a := ⟨ha, .inl hzero⟩
    have hlen' : (a ++ TagForm.tagged.stored.take 1).length ≤ OSC_MAX_RX_MSG_SIZE := hlen'
    exact (Follows.tags hsize hlen' hfits nofun (by omega)).sound
  · obtain ⟨hlen', rfl, rfl⟩ := keep_having_eq_some
      (s := { s with oscRxIntArg1 := c.toUInt32 <<< 0x18 }) hlen
      ((if_neg (c := c = ascii ',') hcomma).symm.trans hc)
    have hfits : TagForm.Fits .untagged a := ⟨ha, .inl hzero⟩
    have hlen' : (a ++ TagForm.untagged.stored ++ [c]).length ≤ OSC_MAX_RX_MSG_SIZE := by
      rwa [TagForm.stored, List.append_nil]
    have hargs : Follows (before ++ 0xBE :: s.oscRxMsgSize :: (a ++ TagForm.untagged.read ++ [c]))
        ({ s with oscRxIntArg1 := c.toUInt32 <<< 0x18 }.having .READARG1BYTE2
          (a ++ TagForm.untagged.stored ++ [c])) :=
      .args (s := { s with oscRxIntArg1 := c.toUInt32 <<< 0x18 }) hsize hlen' hfits (by simp)
        (word_singleton c).symm
    simp only [TagForm.read, TagForm.stored, List.append_nil] at hargs
    exact hargs.sound

/-- A byte of the type tag. -/
lemma sound_tags {form : TagForm} {k : ℕ} (hsize : s.oscRxMsgSize.toNat < OSC_MAX_RX_MSG_SIZE - 1)
    (hlen : (a ++ form.stored.take k).length ≤ OSC_MAX_RX_MSG_SIZE) (ha : form.Fits a)
    (hform : form ≠ .untagged) (hk : 0 < k ∧ k ≤ 4)
    (hc : oscRxHandler (s.having (tagOp k) (a ++ form.stored.take k)) c = some (s', as)) :
    Sound (before ++ 0xBE :: s.oscRxMsgSize :: (a ++ form.read.take k ++ [c])) s' as := by
  rcases hk.2.lt_or_eq with hlt | rfl
  · obtain ⟨hread, hstored⟩ := TagForm.take_succ hform ⟨hk.1, hlt⟩
    obtain ⟨hlen', rfl, rfl⟩ := keep_having_eq_some hlen
      ((oscRxHandler_tagOp ⟨hk.1, hlt⟩ c).symm.trans hc)
    split
    · next heq =>
      rw [heq, List.append_assoc, ← hstored] at hlen'
      rw [heq, List.append_assoc, ← hread, List.append_assoc, ← hstored]
      exact (Follows.tags hsize hlen' ha hform (by omega)).sound
    · exact (Follows.waits (.inr rfl)).sound
  · obtain ⟨hread, hstored⟩ := form.take_four
    rw [hstored] at hlen hc
    obtain ⟨hlen', rfl, rfl⟩ := keep_having_eq_some
      (s := { s with oscRxIntArg1 := c.toUInt32 <<< 0x18 }) hlen hc
    rw [hread]
    exact (Follows.args (s := { s with oscRxIntArg1 := c.toUInt32 <<< 0x18 }) hsize hlen' ha
      (by simp) (word_singleton c).symm).sound

/-- The packet is over: what has been kept has the length and the sum that the packet says. -/
lemma sound_checksum {form : TagForm} {value : UInt32}
    (hsize : s.oscRxMsgSize.toNat < OSC_MAX_RX_MSG_SIZE - 1)
    (hlen : (a ++ form.stored ++ bytes value).length ≤ OSC_MAX_RX_MSG_SIZE) (ha : form.Fits a)
    (hvalue : s.oscRxIntArg1 = value)
    (hc : oscRxHandler (s.having .READCHECKSUM (a ++ form.stored ++ bytes value)) c =
      some (s', as)) :
    Sound (before ++ 0xBE :: s.oscRxMsgSize :: (a ++ form.read ++ bytes value ++ [c])) s' as := by
  have hlength : (a ++ form.stored ++ bytes value).length =
      (a ++ form.read ++ bytes value).length := by
    simp only [List.length_append, TagForm.length_stored]
  have hmsg : 0 ∈ a ++ form.stored ++ bytes value ∧
      cstring (a ++ form.stored ++ bytes value) = cstring a := by
    rw [List.append_assoc]
    rcases ha.2 with hzero | rfl
    · exact ⟨List.mem_append_left _ hzero, cstring_append_of_mem hzero _⟩
    · exact ⟨List.mem_append_right _ List.mem_cons_self, cstring_append_zero _ _⟩
  by_cases heq : s.oscRxMsgSize.toNat = (a ++ form.stored ++ bytes value).length
  · rw [oscRxHandler_checksum hlen hmsg.1 heq, hmsg.2, hvalue] at hc
    split at hc
    · next hsum =>
      cases hc
      refine ⟨.waits (.inl rfl), fun msg value' hmem => ?_⟩
      cases List.mem_singleton.mp hmem
      refine ⟨before, a, form, ?_, ha, rfl, ?_⟩
      · rw [acceptable, hsum, ← hlength, ← heq, UInt8.ofNat_toNat]
      · rwa [← hlength, ← heq]
    · cases hc
      exact sound_of_sent (.waits (.inl rfl))
  · rw [oscRxHandler_size hlen heq] at hc
    cases hc
    exact sound_of_sent (.waits (.inl rfl))

/-- A byte of the integer, or the checksum behind it. -/
lemma sound_args {form : TagForm} {args : List UInt8}
    (hsize : s.oscRxMsgSize.toNat < OSC_MAX_RX_MSG_SIZE - 1)
    (hlen : (a ++ form.stored ++ args).length ≤ OSC_MAX_RX_MSG_SIZE) (ha : form.Fits a)
    (hargs : 0 < args.length ∧ args.length ≤ 4) (hword : s.oscRxIntArg1 = word args)
    (hc : oscRxHandler (s.having (argOp args.length) (a ++ form.stored ++ args)) c =
      some (s', as)) :
    Sound (before ++ 0xBE :: s.oscRxMsgSize :: (a ++ form.read ++ args ++ [c])) s' as := by
  rcases hargs.2.lt_or_eq with hlt | hfour
  · rw [oscRxHandler_argOp ⟨hargs.1, hlt⟩] at hc
    obtain ⟨hlen', rfl, rfl⟩ := keep_having_eq_some (by exact hlen) hc
    have hlength : (args ++ [c]).length = args.length + 1 := List.length_append
    rw [List.append_assoc] at hlen' ⊢
    rw [List.append_assoc (a ++ form.stored), ← hlength]
    refine (Follows.args (s := { s with
      oscRxIntArg1 := s.oscRxIntArg1 ||| c.toUInt32 <<< UInt32.ofNat (24 - 8 * args.length) })
      hsize hlen' ha (by omega) ?_).sound
    rw [word_concat hlt, ← hword]
  · obtain ⟨b₁, b₂, b₃, b₄, rfl⟩ := List.length_eq_four.mp hfour
    rw [← bytes_word] at hlen hc ⊢
    exact sound_checksum hsize hlen ha hword hc

end

/-! ## Streams -/

/-- One byte. -/
lemma sound_step {l : List UInt8} {s s' : Rx} {c : UInt8} {as : List Action} (h : Follows l s)
    (hc : oscRxHandler s c = some (s', as)) : Sound (l ++ [c]) s' as := by
  cases h with
  | waits h =>
    rcases h with h | h <;> rw [oscRxHandler, h] at hc <;> cases hc
    · split
      · next hstart =>
        rw [hstart]
        exact (Follows.started rfl).sound
      · exact (Follows.waits (.inl h)).sound
    · refine Follows.sound (.waits ?_)
      split
      · exact .inl rfl
      · exact .inr rfl
  | @started before _ h =>
    rw [oscRxHandler, h] at hc
    cases hc
    rw [List.append_assoc]
    by_cases hsize : c.toNat < OSC_MAX_RX_MSG_SIZE - 1
    · rw [if_pos hsize]
      exact (Follows.address (a := []) (s := { s with oscRxMsgSize := c }) hsize (Nat.zero_le _)
        List.not_mem_nil).sound
    · rw [if_neg hsize]
      exact (Follows.waits (.inr rfl)).sound
  | address hsize hlen ha =>
    rw [List.append_assoc]
    exact sound_address hsize hlen ha hc
  | padded hsize hlen ha hzero =>
    rw [List.append_assoc]
    exact sound_padded hsize hlen ha hzero hc
  | tags hsize hlen ha hform hk =>
    rw [List.append_assoc]
    exact sound_tags hsize hlen ha hform hk hc
  | args hsize hlen ha hargs hword =>
    rw [List.append_assoc]
    exact sound_args hsize hlen ha hargs hword hc

/-- A stream: what is handed over stands at the end of what has arrived by then. -/
lemma feed_sound {l more : List UInt8} {s s' : Rx} {as : List Action} (h : Follows l s)
    (hfeed : feed s more = some (s', as)) {msg : List UInt8} {value : UInt32}
    (hmem : .oscReceiveMessageInt msg value ∈ as) :
    ∃ arrived after, more = arrived ++ after ∧ Ends (l ++ arrived) msg value := by
  induction more generalizing l s as with
  | nil =>
    cases hfeed
    exact absurd hmem List.not_mem_nil
  | cons c more ih =>
    obtain ⟨⟨s₁, as₁⟩, hc, hrest⟩ := Option.bind_eq_some_iff.mp hfeed
    obtain ⟨⟨s₂, as₂⟩, hmore, heq⟩ := Option.map_eq_some_iff.mp hrest
    cases heq
    obtain ⟨hfollows, hsound⟩ := sound_step h hc
    rcases List.mem_append.mp hmem with hfirst | hlater
    · exact ⟨[c], more, rfl, hsound msg value hfirst⟩
    · obtain ⟨arrived, after, hsplit, hends⟩ := ih hfollows hmore hlater
      rw [List.append_assoc] at hends
      exact ⟨c :: arrived, after, congrArg (c :: ·) hsplit, hends⟩

end ArduinoProjects.Osc
