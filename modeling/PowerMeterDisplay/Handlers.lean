import PowerMeterDisplay.Display

/-!
# The message buffer and the two frame handlers

`msg_buf` is 64 bytes.  A read or write of several bytes at an offset is a fault (`none`) when it
leaves the buffer; inside the buffer it is little-endian.  `proto_recv_data` and `proto_recv_scale`
are translated over these accesses, so that a `some` result says that every access stayed inside and
that the loop ended.
-/

namespace PowerMeterDisplay

/-! ## The buffer -/

/-- `msg_buf`. -/
abbrev MsgBuf := Vector UInt8 64

namespace MsgBuf

/-- The byte at offset `k`, for an offset inside the buffer. -/
def byteAt (buf : MsgBuf) (k : ℕ) : UInt8 := buf[k]?.getD 0

def uint16At (buf : MsgBuf) (k : ℕ) : UInt16 :=
  (buf.byteAt k).toUInt16 ||| (buf.byteAt (k + 1)).toUInt16 <<< 8

def int16At (buf : MsgBuf) (k : ℕ) : Int16 := (buf.uint16At k).toInt16

def floatAt (buf : MsgBuf) (k : ℕ) : FloatBits :=
  (buf.byteAt k).toUInt32 ||| (buf.byteAt (k + 1)).toUInt32 <<< 8 |||
    (buf.byteAt (k + 2)).toUInt32 <<< 16 ||| (buf.byteAt (k + 3)).toUInt32 <<< 24

def setByte (buf : MsgBuf) (k : ℕ) (b : UInt8) : MsgBuf := buf.setIfInBounds k b

def setFloat (buf : MsgBuf) (k : ℕ) (x : FloatBits) : MsgBuf :=
  (((buf.setByte k x.toUInt8).setByte (k + 1) (x >>> 8).toUInt8).setByte (k + 2)
    (x >>> 16).toUInt8).setByte (k + 3) (x >>> 24).toUInt8

/-- Access `n` bytes at offset `k`: a fault unless they all lie inside the buffer. -/
def within {α : Type} (k n : ℕ) (a : α) : Option α := if k + n ≤ 64 then some a else none

def readByte (buf : MsgBuf) (k : ℕ) : Option UInt8 := within k 1 (buf.byteAt k)

def readUint16 (buf : MsgBuf) (k : ℕ) : Option UInt16 := within k 2 (buf.uint16At k)

def readInt16 (buf : MsgBuf) (k : ℕ) : Option Int16 := within k 2 (buf.int16At k)

def readFloat (buf : MsgBuf) (k : ℕ) : Option FloatBits := within k 4 (buf.floatAt k)

def writeByte (buf : MsgBuf) (k : ℕ) (b : UInt8) : Option MsgBuf := within k 1 (buf.setByte k b)

def writeFloat (buf : MsgBuf) (k : ℕ) (x : FloatBits) : Option MsgBuf :=
  within k 4 (buf.setFloat k x)

@[simp] theorem within_eq_some {α : Type} {k n : ℕ} (h : k + n ≤ 64) (a : α) :
    within k n a = some a := if_pos h

theorem byteAt_setByte (buf : MsgBuf) (j k : ℕ) (b : UInt8) :
    (buf.setByte j b).byteAt k = if k = j ∧ k < 64 then b else buf.byteAt k := by
  unfold byteAt setByte
  rw [Vector.getElem?_setIfInBounds]
  by_cases h : k = j
  · subst h
    by_cases hk : k < 64 <;> simp [hk]
  · simp [h, Ne.symm h]

end MsgBuf

/-! ## Taking in a sample -/

/-- One pair of readings of a data frame. -/
structure Sample where
  v : UInt16
  i : Int16
  deriving DecidableEq, Repr

/-- The update of `peak_pow`: keep the product of largest magnitude, with its sign. -/
def updatePeakPow (peakPow tempPow : Int32) : Int32 :=
  if peakPow = 0 then tempPow
  else if peakPow < 0 then
    let p := if peakPow > tempPow then tempPow else peakPow
    if tempPow > 0 then if p * (-1) < tempPow then tempPow else p else p
  else
    let p := if peakPow < tempPow then tempPow else peakPow
    if tempPow < 0 then if p * (-1) > tempPow then tempPow else p else p

/-- The body of the loop of `proto_recv_data` after its two reads. -/
def addSample (d : DisplayData) (x : Sample) : DisplayData :=
  { d with
    voltageRms := d.voltageRms + (x.v.toUInt32 * x.v.toUInt32).toUInt64
    currentRms := d.currentRms + (x.i.toInt32 * x.i.toInt32).toInt64
    voltageMean := d.voltageMean + x.v.toUInt32
    currentMean := d.currentMean + x.i.toInt32
    samples := d.samples + 1
    minI := if d.minI > x.i then x.i else d.minI
    maxI := if d.maxI < x.i then x.i else d.maxI
    minV := if d.minV > x.v then x.v else d.minV
    maxV := if d.maxV < x.v then x.v else d.maxV
    -- `int` has 16 bits: the product of an unsigned and a signed operand is an unsigned 16-bit one
    peakPow := updatePeakPow d.peakPow (x.v * x.i.toUInt16).toUInt32.toInt32 }

/-! ## The handlers -/

/-- The loop of `proto_recv_data` from index `i` on; `fuel` bounds the tests of its condition. -/
def protoRecvDataLoop (buf : MsgBuf) (len : UInt8) : ℕ → UInt8 → DisplayData → Option DisplayData
  | 0, _, _ => none
  | fuel + 1, i, d =>
    if i < len then do
      let v ← buf.readUint16 i.toNat
      let c ← buf.readInt16 (i.toNat + 2)
      protoRecvDataLoop buf len fuel (i + 4) (addSample d ⟨v, c⟩)
    else some d

/-- `proto_recv_data`.  The index is 8 bits wide and grows by 4, so a loop that ends tests its
condition at most 64 times. -/
def protoRecvData (buf : MsgBuf) (len : UInt8) (d : DisplayData) : Option DisplayData :=
  protoRecvDataLoop buf len 64 1 d

/-- The hall part of `proto_recv_scale`: store the hall flag, and when it is set write the hall
scale over the current scale inside the buffer. -/
def recvHall (buf : MsgBuf) (d : DisplayData) : Option (MsgBuf × DisplayData) := do
  let flag ← buf.readByte 10
  if flag &&& 0x04 > 0 then
    let ch ← buf.readFloat 12
    let buf ← buf.writeFloat 7 ch
    some (buf, { d with hallActive := 1 })
  else
    let c ← buf.readFloat 7
    let buf ← buf.writeFloat 7 c
    some (buf, { d with hallActive := 0 })

/-- `proto_recv_scale`. -/
def protoRecvScale (buf : MsgBuf) (len : UInt8) (d : DisplayData) :
    Option (MsgBuf × DisplayData) :=
  if len < 15 then some (buf, d)
  else do
    let hallActiveT := d.hallActive
    let (buf, d) ← recvHall buf d
    let v ← buf.readFloat 2
    let c ← buf.readFloat 7
    if FloatBits.ne d.scaleV v || FloatBits.ne d.scaleC c || d.hallActive != hallActiveT then
      let mes := if d.measure = 20 then 2 else if d.measure = 10 then 1 else d.measure
      some (buf, lcdEadogResetData { d with scaleV := v, scaleC := c } mes)
    else some (buf, d)

end PowerMeterDisplay
