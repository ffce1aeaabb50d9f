import PowerMeterDisplay.Lib.Machine
import PowerMeterDisplay.HandlerSpec

/-!
# The TPM2 receiver

The file-level variables of the receiver, the body of the loop of `proto_receiver` for one pulled
byte, and the receiver as a machine that is fed bytes from either port.  There is one set of
receiver variables; which display record a frame acts on is decided by the port of its last byte.
-/

namespace PowerMeterDisplay

abbrev tpm2BlockStart : UInt8 := 0xC9
abbrev tpm2BlockDataframe : UInt8 := 0xDA
abbrev tpm2BlockEnd : UInt8 := 0x36

abbrev pmDataframe : UInt8 := 0xDA
abbrev pmScalevalues : UInt8 := 0x5C
abbrev pmHello : UInt8 := 0x11
abbrev pmBootloader : UInt8 := 0xB0

/-- The states of `tpm2state`. -/
inductive Tpm2State where
  | idle
  | startb
  | startb2
  | startb3
  | startb4
  | startb5
  | startb6
  | endb
  deriving DecidableEq, Repr

/-- `tpm2state`, `count`, `Framesize` and `msg_buf`. -/
structure Receiver where
  tpm2state : Tpm2State
  count : UInt16
  framesize : UInt16
  msgBuf : MsgBuf
  deriving DecidableEq, Repr

def Receiver.start : Receiver := ⟨.idle, 0, 0, Vector.replicate 64 0⟩

/-! ## The command switch -/

/-- What the command switch of `proto_receiver` sees when it is reached. -/
structure Dispatch where
  msgBuf : MsgBuf
  count : UInt16
  deriving DecidableEq, Repr

/-- What a case of the command switch calls. -/
inductive Action where
  | recvData
  | recvScale
  | flushBuffer
  | resetToBootloader
  deriving DecidableEq, Repr

namespace Dispatch

def command (x : Dispatch) : UInt8 := x.msgBuf.byteAt 0

/-- The bytes of the frame: `msg_buf[0..count)`. -/
def payload (x : Dispatch) : List UInt8 := x.msgBuf.toList.take x.count.toNat

def action (x : Dispatch) : Action :=
  if x.command = pmDataframe then .recvData
  else if x.command = pmScalevalues then .recvScale
  else if x.command = pmHello then .flushBuffer
  else if x.command = pmBootloader then .resetToBootloader
  else .flushBuffer

/-- The length that the handlers get: `count` narrowed to 8 bits. -/
def len (x : Dispatch) : UInt8 := x.count.toUInt8

end Dispatch

/-- The effect of the command switch on the message buffer and on the display record. -/
def switchCommand (x : Dispatch) (d : DisplayData) : Option (MsgBuf × DisplayData) :=
  match x.action with
  | .recvData => (protoRecvData x.msgBuf x.len d).map fun d => (x.msgBuf, d)
  | .recvScale => protoRecvScale x.msgBuf x.len d
  | .flushBuffer => some (x.msgBuf, d)
  | .resetToBootloader => some (x.msgBuf, d)

/-! ## The loop body -/

/-- The body of the loop of `proto_receiver` for one byte, with the frame it dispatches, if any. -/
def protoReceiverBody (r : Receiver) (d : DisplayData) (byte : UInt8) :
    Option (Receiver × DisplayData × List Dispatch) :=
  if r.tpm2state = .startb4 ∧ r.count < r.framesize then do
    let msgBuf ← r.msgBuf.writeByte r.count.toNat byte
    some ({ r with msgBuf := msgBuf, count := r.count + 1 }, d, [])
  else
    -- behind the payload the state moves on and the same byte is looked at as the end byte
    let r := if r.tpm2state = .startb4 then { r with tpm2state := .endb } else r
    if r.tpm2state = .idle ∧ byte = tpm2BlockStart then
      some ({ r with tpm2state := .startb }, d, [])
    else if r.tpm2state = .startb ∧ byte = tpm2BlockDataframe then
      some ({ r with tpm2state := .startb2 }, d, [])
    else if r.tpm2state = .startb2 then
      some ({ r with framesize := byte.toUInt16 <<< 8, tpm2state := .startb3 }, d, [])
    else if r.tpm2state = .startb3 then
      let framesize := r.framesize ||| byte.toUInt16
      if framesize ≤ 60 then
        some ({ r with framesize := framesize, count := 0, tpm2state := .startb4 }, d, [])
      else some ({ r with framesize := framesize, tpm2state := .idle }, d, [])
    else if r.tpm2state = .endb then
      if byte = tpm2BlockEnd then do
        let x : Dispatch := ⟨r.msgBuf, r.count⟩
        let (msgBuf, d) ← switchCommand x d
        some ({ r with msgBuf := msgBuf, tpm2state := .idle }, d, [x])
      else some ({ r with tpm2state := .idle }, d, [])
    else some (r, d, [])

/-! ## Both ports -/

/-- The receiver together with the display records of both ports. -/
structure Ports where
  receiver : Receiver
  lcdData : PerPort DisplayData
  deriving DecidableEq, Repr

/-- The state when the main loop starts. -/
def Ports.start : Ports := ⟨.start, ⟨.start .one, .start .two⟩⟩

/-- The receiver as a machine: a byte pulled for port `p` acts on the record of that port. -/
def receiveByte : Machine Ports (Port × UInt8) Dispatch
  | s, (p, byte) => do
    let (r, d, out) ← protoReceiverBody s.receiver (s.lcdData.get p) byte
    some (⟨r, s.lcdData.set p d⟩, out)

/-- `proto_receiver` called for port `p`, when it pulls the bytes `batch` before the queue is
empty. -/
def protoReceiver (p : Port) (batch : List UInt8) (s : Ports) : Option (Ports × List Dispatch) :=
  receiveByte.run s (batch.map fun byte => (p, byte))

end PowerMeterDisplay
