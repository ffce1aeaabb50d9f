import PowerMeterDisplay.ReceiverRefine

/-!
# The bytes of a payload and the bytes behind it

`msg_buf` is never cleared, so behind the payload of a frame it holds bytes of earlier frames.  A
data frame takes in a group of four bytes as soon as its first byte belongs to the payload, so the
payload decides alone exactly when it ends with a group (`takesOwnSamples_iff`).  A scale frame is
taken from 15 bytes on, one short of the hall scale (`takesOwnScale_iff`), and its hall flag is a
bit of the current scale (`carriesScale_iff`).
-/

namespace PowerMeterDisplay

namespace MsgBuf

/-- The buffers hold the same payload of `n` bytes. -/
def SamePayload (a b : MsgBuf) (n : ℕ) : Prop := ∀ j < n, a.byteAt j = b.byteAt j

/-! ## Data frames -/

/-- The groups of four bytes that lie wholly inside a payload of length `len`. -/
def ownSamples (buf : MsgBuf) (len : UInt8) : List Sample :=
  (List.range ((len.toNat - 1) / 4)).map fun k => buf.sampleAt (1 + 4 * k)

/-- `proto_recv_data` takes in the groups inside the payload and nothing else. -/
structure TakesOwnSamples (buf : MsgBuf) (len : UInt8) (d : DisplayData) : Prop where
  eq : protoRecvData buf len d = some ((buf.ownSamples len).foldl addSample d)
  congr : ∀ buf' : MsgBuf, buf.SamePayload buf' len.toNat →
    protoRecvData buf' len d = protoRecvData buf len d

/-- For every payload of a data frame, record and rest of the buffer: the handler takes in exactly
the groups inside the payload if and only if the payload ends with a group. -/
theorem takesOwnSamples_iff (buf : MsgBuf) {len : UInt8} (hpos : 1 ≤ len.toNat)
    (hlen : len.toNat ≤ 60) (d : DisplayData) :
    buf.TakesOwnSamples len d ↔ 4 ∣ len.toNat - 1 := by
  constructor
  · rintro ⟨heq, -⟩
    by_contra hpart
    have hcount := congrArg DisplayData.samples
      (Option.some.inj ((protoRecvData_eq buf hlen d).symm.trans heq))
    simp only [foldl_addSample_samples, samples, ownSamples, List.length_map, List.length_range,
      UInt16.add_right_inj] at hcount
    have hcount := congrArg UInt16.toNat hcount
    rw [UInt16.toNat_ofNat_of_lt' (by change _ < 65536; omega),
      UInt16.toNat_ofNat_of_lt' (by change _ < 65536; omega)] at hcount
    omega
  · intro hwhole
    have hsame : buf.samples len = buf.ownSamples len := by
      rw [samples, ownSamples]
      congr 2
      omega
    refine ⟨by rw [protoRecvData_eq buf hlen, hsame], fun buf' hbuf' => ?_⟩
    rw [protoRecvData_eq buf hlen, protoRecvData_eq buf' hlen,
      samples_congr fun j hj => (hbuf' j (by omega)).symm]

/-- A payload of one sample. -/
theorem takesOwnSamples_one : TakesOwnSamples (Vector.replicate 64 0) 5 .zero :=
  (takesOwnSamples_iff (Vector.replicate 64 0) (by decide) (by decide) .zero).2 (by decide)

/-- A data frame of two bytes: its one byte after the command is taken for the start of a sample,
whose other three bytes lie behind the payload. -/
theorem takes_stale_sample :
    ∃ s s' x, receiveByte.run Ports.start
        [(.one, 0xC9), (.one, 0xDA), (.one, 0x00), (.one, 0x02), (.one, 0xDA), (.one, 0x01)] =
          some (s, []) ∧
      receiveByte s (.one, 0x36) = some (s', [x]) ∧ x.payload = [0xDA, 0x01] ∧
      s'.lcdData.one.samples = 1 ∧ ¬ TakesOwnSamples x.msgBuf x.len s.lcdData.one := by
  refine ⟨_, _, _, rfl, rfl, rfl, rfl, fun h => ?_⟩
  have hnone := congrArg (Option.map DisplayData.samples) h.eq
  exact absurd hnone (by decide)

/-! ## Scale frames -/

/-- `proto_recv_scale` takes the scale from the payload: the record depends on no byte behind it,
and a payload that ends before the last byte read is rejected. -/
structure TakesOwnScale (buf : MsgBuf) (len : UInt8) (d : DisplayData) : Prop where
  congr : ∀ buf' : MsgBuf, buf.SamePayload buf' len.toNat →
    (protoRecvScale buf' len d).map Prod.snd = (protoRecvScale buf len d).map Prod.snd
  short : len.toNat < buf.scaleEnd → (protoRecvScale buf len d).map Prod.snd = some d

theorem protoRecvScale_short (buf : MsgBuf) {len : UInt8} (hlen : len < 15) (d : DisplayData) :
    (protoRecvScale buf len d).map Prod.snd = some d := by
  rw [protoRecvScale, if_pos hlen]
  rfl

theorem protoRecvScale_record (buf : MsgBuf) {len : UInt8} (hlen : 15 ≤ len) (d : DisplayData) :
    (protoRecvScale buf len d).map Prod.snd = some (applyScale d buf.scale) := by
  rw [protoRecvScale_eq buf hlen]
  rfl

theorem top_of_isZero {x : FloatBits} (h : FloatBits.isZero x) :
    (x >>> 24).toUInt8 &&& (0x7f : UInt8) = 0 := by
  have hx : x &&& 0x7fffffff = 0 := of_decide_eq_true h
  have hmask : (x >>> 24).toUInt8 &&& (0x7f : UInt8) = ((x &&& 0x7fffffff) >>> 24).toUInt8 := by
    rw [UInt32.shiftRight_and, UInt32.toUInt8_and]
    rfl
  rw [hmask, hx]
  rfl

/-- After a scale frame with a current scale other than zero, that is the stored one. -/
theorem applyScale_scaleC {d : DisplayData} {x : Scale} (h : ¬ FloatBits.isZero x.scaleC) :
    (applyScale d x).scaleC = x.scaleC := by
  unfold applyScale
  split_ifs with hdiffers
  · rfl
  · obtain ⟨-, hsame, -⟩ := Scale.differs_eq_false_iff.1 (Bool.eq_false_iff.2 hdiffers)
    obtain ⟨-, -, heq⟩ := FloatBits.ne_eq_false_iff.1 hsame
    exact heq.resolve_right fun hzero => h hzero.2

/-- In a hall frame of 15 bytes the highest byte of the stored current scale is the byte behind the
payload. -/
theorem protoRecvScale_stale {buf : MsgBuf} (hhall : buf.byteAt 10 &&& 0x04 > 0) {b : UInt8}
    (hb : b &&& 0x7f ≠ 0) (d : DisplayData) :
    ((protoRecvScale (buf.setByte 15 b) 15 d).map Prod.snd).map
      (fun d' : DisplayData => (d'.scaleC >>> 24).toUInt8) = some b := by
  have hflag : (buf.setByte 15 b).byteAt 10 &&& 0x04 > 0 := by
    rw [byteAt_setByte, if_neg (by decide)]
    exact hhall
  have hscale : (buf.setByte 15 b).scale.scaleC = (buf.setByte 15 b).floatAt 12 := if_pos hflag
  have htop : ((buf.setByte 15 b).scale.scaleC >>> 24).toUInt8 = b := by
    rw [hscale, floatAt_top, byteAt_setByte, if_pos (by decide)]
  have hzero : ¬ FloatBits.isZero (buf.setByte 15 b).scale.scaleC := fun h => by
    have hmask := top_of_isZero h
    rw [htop] at hmask
    exact hb hmask
  rw [protoRecvScale_record _ (UInt8.le_refl 15), Option.map_some, applyScale_scaleC hzero, htop]

/-- A hall frame of 15 bytes does not carry its own scale. -/
theorem not_takesOwnScale {buf : MsgBuf} (hhall : buf.byteAt 10 &&& 0x04 > 0) (d : DisplayData) :
    ¬ buf.TakesOwnScale 15 d := by
  rintro ⟨hcongr, -⟩
  have hbehind (b : UInt8) : buf.SamePayload (buf.setByte 15 b) (15 : UInt8).toNat := by
    intro j hj
    have hne : ¬ (j = 15 ∧ j < 64) := fun h => absurd hj (by rw [h.1]; decide)
    rw [byteAt_setByte, if_neg hne]
  have hsame := (hcongr _ (hbehind 1)).trans (hcongr _ (hbehind 2)).symm
  have htop := congrArg (Option.map fun d' : DisplayData => (d'.scaleC >>> 24).toUInt8) hsame
  rw [protoRecvScale_stale hhall (by decide), protoRecvScale_stale hhall (by decide)] at htop
  exact absurd (Option.some.inj htop) (by decide)

/-- For every payload length, record and buffer: the scale is taken from the payload alone if and
only if the frame is not the one of 15 bytes that announces a hall scale. -/
theorem takesOwnScale_iff (buf : MsgBuf) (len : UInt8) (d : DisplayData) :
    buf.TakesOwnScale len d ↔ ¬ (len = 15 ∧ buf.byteAt 10 &&& 0x04 > 0) := by
  constructor
  · rintro htakes ⟨rfl, hhall⟩
    exact not_takesOwnScale hhall d htakes
  · intro hnot
    have hread (hshort : ¬ len < 15) : buf.scaleEnd ≤ len.toNat := by
      have hlen : 15 ≤ len.toNat := UInt8.le_iff_toNat_le.1 (UInt8.not_lt.1 hshort)
      unfold scaleEnd
      split_ifs with hhall
      · have hne : len.toNat ≠ 15 := fun h => hnot ⟨UInt8.toNat_inj.1 h, hhall⟩
        omega
      · omega
    constructor
    · intro buf' hbuf'
      by_cases hshort : len < 15
      · rw [protoRecvScale_short buf hshort, protoRecvScale_short buf' hshort]
      · have hscale : buf.scale = buf'.scale :=
          scale_congr fun j hj => hbuf' j (hj.trans_le (hread hshort))
        rw [protoRecvScale_record buf (UInt8.not_lt.1 hshort),
          protoRecvScale_record buf' (UInt8.not_lt.1 hshort), hscale]
    · intro hend
      refine protoRecvScale_short buf (not_not.1 fun hshort => ?_) d
      exact absurd (hread hshort) (Nat.not_le.2 hend)

set_option maxRecDepth 20000 in
/-- A scale frame of 15 bytes, whose current scale 0.01 sets the hall flag: it is taken, and the
highest byte of the hall scale is the one behind the payload. -/
theorem takes_stale_scale :
    ∃ s s' x, receiveByte.run Ports.start
        ([0xC9, 0xDA, 0x00, 0x0F, 0x5C, 0x01, 0x0A, 0xD7, 0x23, 0x3C, 0x01, 0x0A, 0xD7, 0x23, 0x3C,
          0x01, 0x0A, 0xD7, 0x23].map fun b => (Port.one, b)) = some (s, []) ∧
      receiveByte s (.one, 0x36) = some (s', [x]) ∧ x.payload.length = 15 ∧
      s'.lcdData.one.scaleC = 0x0023D70A ∧ ¬ TakesOwnScale x.msgBuf x.len s.lcdData.one :=
  ⟨_, _, _, rfl, rfl, rfl, rfl, not_takesOwnScale (by decide) _⟩

/-! ## The hall flag -/

/-- A scale frame of 16 bytes that carries the voltage scale, the current scale and the hall
scale. -/
structure CarriesScale (buf : MsgBuf) (scaleV scaleC scaleCH : FloatBits) : Prop where
  command : buf.byteAt 0 = pmScalevalues
  scaleV : buf.floatAt 2 = scaleV
  scaleC : buf.floatAt 7 = scaleC
  scaleCH : buf.floatAt 12 = scaleCH

/-- `proto_recv_scale` decodes a complete frame to the scale setting. -/
def DecodesScale (buf : MsgBuf) (x : Scale) : Prop :=
  ∀ d, (protoRecvScale buf 16 d).map Prod.snd = some (applyScale d x)

theorem applyScale_hallActive (d : DisplayData) (x : Scale) :
    (applyScale d x).hallActive = x.hallActive := by
  unfold applyScale
  split_ifs with hdiffers
  · rfl
  · exact (Scale.differs_eq_false_iff.1 (Bool.eq_false_iff.2 hdiffers)).2.2.symm

/-- A frame that carries the three values. -/
def ofScale (scaleV scaleC scaleCH : FloatBits) : MsgBuf :=
  (((Receiver.start.msgBuf.setByte 0 pmScalevalues).setFloat 2 scaleV).setFloat 7 scaleC).setFloat
    12 scaleCH

theorem carriesScale_ofScale (scaleV scaleC scaleCH : FloatBits) :
    (ofScale scaleV scaleC scaleCH).CarriesScale scaleV scaleC scaleCH where
  command := by
    unfold ofScale
    rw [byteAt_setFloat_of_lt _ (by decide), byteAt_setFloat_of_lt _ (by decide),
      byteAt_setFloat_of_lt _ (by decide), byteAt_setByte, if_pos (by decide)]
  scaleV := by
    unfold ofScale
    rw [floatAt_setFloat_of_disjoint _ (by decide), floatAt_setFloat_of_disjoint _ (by decide),
      floatAt_setFloat _ (by decide)]
  scaleC := by
    unfold ofScale
    rw [floatAt_setFloat_of_disjoint _ (by decide), floatAt_setFloat _ (by decide)]
  scaleCH := floatAt_setFloat _ (by decide) _

/-- The hall flag of a frame is bit 2 of the highest byte of its current scale. -/
theorem CarriesScale.scale_eq {buf : MsgBuf} {scaleV scaleC scaleCH : FloatBits}
    (h : buf.CarriesScale scaleV scaleC scaleCH) :
    buf.scale =
      if (scaleC >>> 24).toUInt8 &&& 0x04 > 0 then ⟨scaleV, scaleCH, 1⟩
      else ⟨scaleV, scaleC, 0⟩ := by
  have htop : (scaleC >>> 24).toUInt8 = buf.byteAt 10 := by rw [← h.scaleC, floatAt_top]
  rw [htop, scale, h.scaleV, h.scaleC, h.scaleCH]
  split_ifs <;> rfl

/-- A frame decodes with the hall flag that its current scale sets. -/
theorem CarriesScale.hallActive_eq {buf : MsgBuf} {scaleV scaleC scaleCH : FloatBits}
    (h : buf.CarriesScale scaleV scaleC scaleCH) {x : Scale} (hdecodes : buf.DecodesScale x) :
    x.hallActive = if (scaleC >>> 24).toUInt8 &&& 0x04 > 0 then 1 else 0 := by
  have hrecord := (protoRecvScale_record buf (by decide : (15 : UInt8) ≤ 16) .zero).symm.trans
    (hdecodes .zero)
  have hhall := congrArg DisplayData.hallActive (Option.some.inj hrecord)
  rw [applyScale_hallActive, applyScale_hallActive, h.scale_eq] at hhall
  rw [← hhall]
  split_ifs <;> rfl

/-- For all values of the three scales and every hall flag: some scale frame carries the values and
is decoded to them with the flag if and only if the flag is bit 2 of the highest byte of the current
scale. -/
theorem carriesScale_iff (scaleV scaleC scaleCH : FloatBits) (hall : Bool) :
    (∃ buf : MsgBuf, buf.CarriesScale scaleV scaleC scaleCH ∧
        buf.DecodesScale ⟨scaleV, if hall then scaleCH else scaleC, if hall then 1 else 0⟩) ↔
      ((scaleC >>> 24).toUInt8 &&& 0x04 > 0 ↔ hall = true) := by
  constructor
  · rintro ⟨buf, hcarries, hdecodes⟩
    have hflag := hcarries.hallActive_eq hdecodes
    dsimp only at hflag
    split_ifs at hflag with hhall hset hset
    · exact iff_of_true hset hhall
    · exact absurd hflag (by decide)
    · exact absurd hflag (by decide)
    · exact iff_of_false hset hhall
  · intro hflag
    have hcarries := carriesScale_ofScale scaleV scaleC scaleCH
    refine ⟨_, hcarries, fun d => ?_⟩
    rw [protoRecvScale_record _ (by decide) d, hcarries.scale_eq]
    cases hall with
    | false => rw [if_neg fun hset => Bool.false_ne_true (hflag.1 hset)]; rfl
    | true => rw [if_pos (hflag.2 rfl)]; rfl

/-- No frame with the current scale 0.01 is decoded as one without hall sensor. -/
theorem current_scale_sets_hall :
    ¬ ∃ buf : MsgBuf, buf.CarriesScale 0x3C23D70A 0x3C23D70A 0x3C23D70A ∧
        buf.DecodesScale ⟨0x3C23D70A, 0x3C23D70A, 0⟩ := by
  rintro ⟨buf, hcarries, hdecodes⟩
  exact absurd (hcarries.hallActive_eq hdecodes) (by decide)

end MsgBuf

end PowerMeterDisplay
