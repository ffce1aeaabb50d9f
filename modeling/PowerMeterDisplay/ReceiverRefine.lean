import PowerMeterDisplay.Receiver
import PowerMeterDisplay.FrameParser

/-!
# The receiver refines the frame parser

`Phase.Holds` says which receiver variables stand for a phase of the frame parser.  From such
variables the loop body never faults, and it moves to variables that stand for the next phase
(`protoReceiverBody_eq`); the frame it dispatches is the one the parser completes, and the display
record changes by the dispatched command only.  Everything here is independent of the display
record, so it holds whichever port a byte comes from.
-/

namespace PowerMeterDisplay

/-! ## The command switch -/

namespace Dispatch

/-- The display record after the command. -/
def apply (x : Dispatch) (d : DisplayData) : DisplayData :=
  match x.action with
  | .recvData => (x.msgBuf.samples x.len).foldl addSample d
  | .recvScale => if x.len < 15 then d else applyScale d x.msgBuf.scale
  | .flushBuffer => d
  | .resetToBootloader => d

/-- The message buffer after the command. -/
def bufAfter (x : Dispatch) : MsgBuf :=
  match x.action with
  | .recvScale => if x.len < 15 then x.msgBuf else x.msgBuf.setFloat 7 x.msgBuf.scale.scaleC
  | _ => x.msgBuf

/-- Narrowing the count of a frame to 8 bits loses nothing. -/
theorem len_toNat {x : Dispatch} (h : x.count.toNat ≤ 60) : x.len.toNat = x.count.toNat := by
  rw [len, UInt16.toNat_toUInt8]
  exact Nat.mod_eq_of_lt (by omega)

theorem length_payload {x : Dispatch} (h : x.count.toNat ≤ 60) :
    x.payload.length = x.count.toNat := by
  rw [payload, List.length_take, Vector.length_toList]
  omega

theorem head?_payload {x : Dispatch} (h : 0 < x.count.toNat) :
    x.payload.head? = some x.command := by
  have hlen : 0 < x.msgBuf.toList.length := by rw [Vector.length_toList]; decide
  rw [payload, List.head?_take, if_neg (by omega), List.head?_eq_getElem?, command, MsgBuf.byteAt]
  simp

end Dispatch

/-- The command switch neither leaves the buffer nor hangs on a frame of at most 60 bytes. -/
theorem switchCommand_eq {x : Dispatch} (h : x.count.toNat ≤ 60) (d : DisplayData) :
    switchCommand x d = some (x.bufAfter, x.apply d) := by
  have hlen := Dispatch.len_toNat h
  unfold switchCommand Dispatch.bufAfter Dispatch.apply
  rcases x.action with _ | _ | _ | _
  · rw [protoRecvData_eq _ (by omega)]
    rfl
  · by_cases hshort : x.len < 15
    · simp only [protoRecvScale, if_pos hshort]
    · simp only [if_neg hshort]
      exact protoRecvScale_eq _ (UInt8.not_lt.1 hshort) d
  · rfl
  · rfl

/-! ## Phases -/

/-- The receiver variables stand for a phase of the frame parser. -/
def Phase.Holds : Phase → Receiver → Prop
  | .idle, r => r.tpm2state = .idle
  | .start, r => r.tpm2state = .startb
  | .sizeHigh, r => r.tpm2state = .startb2
  | .sizeLow hi, r => r.tpm2state = .startb3 ∧ r.framesize = hi.toUInt16 <<< 8
  | .payload n got, r => r.tpm2state = .startb4 ∧ r.framesize.toNat = n ∧ n ≤ 60 ∧
      r.count.toNat = got.length ∧ got.length ≤ n ∧ r.msgBuf.toList.take got.length = got

theorem Phase.Holds.wf {φ : Phase} {r : Receiver} (h : φ.Holds r) : φ.Wf := by
  cases φ with
  | payload n got => exact ⟨h.2.2.2.2.1, h.2.2.1⟩
  | _ => trivial

theorem toNat_framesize (hi lo : UInt8) :
    (hi.toUInt16 <<< 8 ||| lo.toUInt16).toNat = sizeOf16 hi lo := by
  have h₁ := hi.toNat_lt
  have h₂ := lo.toNat_lt
  rw [UInt16.toNat_or, UInt16.toNat_shiftLeft, UInt8.toNat_toUInt16, UInt8.toNat_toUInt16]
  have h8 : (8 : UInt16).toNat % 16 = 8 := rfl
  rw [h8, Nat.shiftLeft_eq, Nat.mod_eq_of_lt (by omega), Nat.mul_comm,
    ← Nat.two_pow_add_eq_or_of_lt (by omega)]
  rfl

theorem MsgBuf.take_setByte (buf : MsgBuf) {k : ℕ} (hk : k < 64) (b : UInt8) :
    (buf.setByte k b).toList.take (k + 1) = buf.toList.take k ++ [b] := by
  have hlen : k < buf.toList.length := by rw [Vector.length_toList]; exact hk
  rw [setByte, Vector.toList_setIfInBounds, List.take_succ_eq_append_getElem (by simpa using hk)]
  rw [List.getElem_set_self, List.take_set_of_le (Nat.le_refl k)]

namespace Receiver

/-- What the command switch sees if the byte completes a frame. -/
def dispatched (r : Receiver) (byte : UInt8) : Option Dispatch :=
  if r.tpm2state = .startb4 ∧ ¬ r.count < r.framesize ∧ byte = tpm2BlockEnd then
    some ⟨r.msgBuf, r.count⟩
  else none

/-- The message buffer after one byte. -/
def bufNext (r : Receiver) (byte : UInt8) : MsgBuf :=
  if r.tpm2state = .startb4 ∧ r.count < r.framesize then r.msgBuf.setByte r.count.toNat byte
  else (r.dispatched byte).elim r.msgBuf Dispatch.bufAfter

end Receiver

theorem Phase.Holds.count_lt_iff {n : ℕ} {got : List UInt8} {r : Receiver}
    (h : (Phase.payload n got).Holds r) : r.count < r.framesize ↔ got.length < n := by
  obtain ⟨-, hsize, -, hcount, -⟩ := h
  rw [UInt16.lt_iff_toNat_lt, hsize, hcount]

/-- The frames that a byte completes: none or one. -/
theorem dispatched_eq {φ : Phase} {r : Receiver} (h : φ.Holds r) (b : UInt8) :
    (r.dispatched b).toList.map Dispatch.payload = (φ.next b).2 ∧
      ∀ x ∈ r.dispatched b, x.count.toNat ≤ 60 := by
  obtain ⟨state, count, framesize, msgBuf⟩ := r
  cases φ with
  | idle =>
    obtain rfl : state = .idle := h
    exact ⟨by simp [Receiver.dispatched, Phase.next], by simp [Receiver.dispatched]⟩
  | start =>
    obtain rfl : state = .startb := h
    exact ⟨by simp [Receiver.dispatched, Phase.next], by simp [Receiver.dispatched]⟩
  | sizeHigh =>
    obtain rfl : state = .startb2 := h
    exact ⟨by simp [Receiver.dispatched, Phase.next], by simp [Receiver.dispatched]⟩
  | sizeLow hi =>
    obtain rfl : state = .startb3 := h.1
    exact ⟨by simp [Receiver.dispatched, Phase.next], by simp [Receiver.dispatched]⟩
  | payload n got =>
    have hlt : count < framesize ↔ got.length < n := h.count_lt_iff
    obtain ⟨hstate, hsize, hn, hcount, hgot, htake⟩ := h
    obtain rfl : state = .startb4 := hstate
    simp only at hsize hcount htake
    by_cases hend : got.length < n ∨ b ≠ 0x36
    · have hnone : Receiver.dispatched ⟨.startb4, count, framesize, msgBuf⟩ b = none := by
        refine if_neg fun hall => ?_
        rcases hend with hmore | hb
        · exact hall.2.1 (hlt.2 hmore)
        · exact hb hall.2.2
      rw [hnone]
      refine ⟨?_, by simp⟩
      rcases hend with hmore | hb
      · simp [Phase.next, hmore]
      · by_cases hmore : got.length < n <;> simp [Phase.next, hmore, hb]
    · obtain ⟨hmore, hb⟩ := not_or.1 hend
      have hb : b = 0x36 := not_not.1 hb
      have hsome : Receiver.dispatched ⟨.startb4, count, framesize, msgBuf⟩ b =
          some ⟨msgBuf, count⟩ := if_pos ⟨rfl, mt hlt.1 hmore, hb⟩
      rw [hsome]
      refine ⟨?_, fun x hx => ?_⟩
      · simpa [Phase.next, hmore, hb, Dispatch.payload, hcount] using htake
      · obtain rfl := Option.mem_some.1 hx
        show count.toNat ≤ 60
        omega

/-- The second byte of the size: the size is checked here and nowhere else. -/
theorem protoReceiverBody_sizeLow {hi : UInt8} {r : Receiver} (h : (Phase.sizeLow hi).Holds r)
    (b : UInt8) :
    ∃ r', (∀ d, protoReceiverBody r d b =
        some (r', (r.dispatched b).elim d (·.apply d), (r.dispatched b).toList)) ∧
      ((Phase.sizeLow hi).next b).1.Holds r' ∧ r'.msgBuf = r.bufNext b := by
  obtain ⟨state, count, framesize, msgBuf⟩ := r
  obtain ⟨hstate, hsize⟩ := h
  obtain rfl : state = .startb3 := hstate
  obtain rfl : framesize = hi.toUInt16 <<< 8 := hsize
  have hle : hi.toUInt16 <<< 8 ||| b.toUInt16 ≤ 60 ↔ sizeOf16 hi b ≤ 60 := by
    rw [UInt16.le_iff_toNat_le, toNat_framesize]
    rfl
  by_cases hb : sizeOf16 hi b ≤ 60
  · refine ⟨⟨.startb4, 0, hi.toUInt16 <<< 8 ||| b.toUInt16, msgBuf⟩,
      fun d => by simp [protoReceiverBody, Receiver.dispatched, hle, hb], ?_,
      by simp [Receiver.bufNext, Receiver.dispatched]⟩
    simp only [Phase.next, if_pos hb]
    exact ⟨rfl, toNat_framesize hi b, hb, rfl, Nat.zero_le _, rfl⟩
  · refine ⟨⟨.idle, count, hi.toUInt16 <<< 8 ||| b.toUInt16, msgBuf⟩,
      fun d => by simp [protoReceiverBody, Receiver.dispatched, hle, hb], ?_,
      by simp [Receiver.bufNext, Receiver.dispatched]⟩
    simp only [Phase.next, if_neg hb]
    rfl

/-- A byte of the payload, or the one behind it. -/
theorem protoReceiverBody_payload {n : ℕ} {got : List UInt8} {r : Receiver}
    (h : (Phase.payload n got).Holds r) (b : UInt8) :
    ∃ r', (∀ d, protoReceiverBody r d b =
        some (r', (r.dispatched b).elim d (·.apply d), (r.dispatched b).toList)) ∧
      ((Phase.payload n got).next b).1.Holds r' ∧ r'.msgBuf = r.bufNext b := by
  obtain ⟨state, count, framesize, msgBuf⟩ := r
  have hlt : count < framesize ↔ got.length < n := h.count_lt_iff
  obtain ⟨hstate, hsize, hn, hcount, hgot, htake⟩ := h
  obtain rfl : state = .startb4 := hstate
  simp only at hsize hcount htake
  by_cases hmore : got.length < n
  · have hwrite : msgBuf.writeByte count.toNat b = some (msgBuf.setByte count.toNat b) :=
      MsgBuf.within_eq_some (by omega) _
    have hsucc : (count + 1).toNat = got.length + 1 := by
      rw [UInt16.toNat_add, hcount]
      exact Nat.mod_eq_of_lt (by change got.length + 1 < 65536; omega)
    refine ⟨⟨.startb4, count + 1, framesize, msgBuf.setByte count.toNat b⟩,
      fun d => by simp [protoReceiverBody, Receiver.dispatched, hlt, hmore, hwrite], ?_,
      by simp [Receiver.bufNext, hlt, hmore]⟩
    simp only [Phase.next, if_pos hmore]
    refine ⟨rfl, hsize, hn, ?_, ?_, ?_⟩
    · simpa using hsucc
    · rw [List.length_append, List.length_singleton]
      exact hmore
    · rw [List.length_append, List.length_singleton, hcount,
        msgBuf.take_setByte (by omega), htake]
  · by_cases hb : b = 0x36
    · have hswitch := switchCommand_eq (x := ⟨msgBuf, count⟩) (show count.toNat ≤ 60 by omega)
      exact ⟨⟨.idle, count, framesize, Dispatch.bufAfter ⟨msgBuf, count⟩⟩,
        fun d => by simp [protoReceiverBody, Receiver.dispatched, hlt, hmore, hb, hswitch],
        by simp [Phase.next, hmore, Phase.Holds],
        by simp [Receiver.bufNext, Receiver.dispatched, hlt, hmore, hb]⟩
    · exact ⟨⟨.idle, count, framesize, msgBuf⟩,
        fun d => by simp [protoReceiverBody, Receiver.dispatched, hlt, hmore, hb],
        by simp [Phase.next, hmore, Phase.Holds],
        by simp [Receiver.bufNext, Receiver.dispatched, hlt, hmore, hb]⟩

/-- One byte.  From variables that stand for a phase the loop body does not fault, whatever the
display record is. -/
theorem protoReceiverBody_eq {φ : Phase} {r : Receiver} (h : φ.Holds r) (b : UInt8) :
    ∃ r', (∀ d, protoReceiverBody r d b =
        some (r', (r.dispatched b).elim d (·.apply d), (r.dispatched b).toList)) ∧
      (φ.next b).1.Holds r' ∧ r'.msgBuf = r.bufNext b := by
  obtain ⟨state, count, framesize, msgBuf⟩ := r
  cases φ with
  | idle =>
    obtain rfl : state = .idle := h
    by_cases hb : b = 0xC9
    · exact ⟨⟨.startb, count, framesize, msgBuf⟩,
        fun d => by simp [protoReceiverBody, Receiver.dispatched, hb],
        by simp [Phase.next, hb, Phase.Holds], by simp [Receiver.bufNext, Receiver.dispatched]⟩
    · exact ⟨⟨.idle, count, framesize, msgBuf⟩,
        fun d => by simp [protoReceiverBody, Receiver.dispatched, hb],
        by simp [Phase.next, hb, Phase.Holds], by simp [Receiver.bufNext, Receiver.dispatched]⟩
  | start =>
    obtain rfl : state = .startb := h
    by_cases hb : b = 0xDA
    · exact ⟨⟨.startb2, count, framesize, msgBuf⟩,
        fun d => by simp [protoReceiverBody, Receiver.dispatched, hb],
        by simp [Phase.next, hb, Phase.Holds], by simp [Receiver.bufNext, Receiver.dispatched]⟩
    · exact ⟨⟨.startb, count, framesize, msgBuf⟩,
        fun d => by simp [protoReceiverBody, Receiver.dispatched, hb],
        by simp [Phase.next, hb, Phase.Holds], by simp [Receiver.bufNext, Receiver.dispatched]⟩
  | sizeHigh =>
    obtain rfl : state = .startb2 := h
    exact ⟨⟨.startb3, count, b.toUInt16 <<< 8, msgBuf⟩,
      fun d => by simp [protoReceiverBody, Receiver.dispatched],
      ⟨rfl, rfl⟩, by simp [Receiver.bufNext, Receiver.dispatched]⟩
  | sizeLow hi => exact protoReceiverBody_sizeLow h b
  | payload n got => exact protoReceiverBody_payload h b

/-! ## Streams from both ports -/

/-- One byte from port `p`: the dispatched command acts on the record of that port only. -/
theorem receiveByte_eq {φ : Phase} {s : Ports} (h : φ.Holds s.receiver) (p : Port) (b : UInt8) :
    ∃ s', receiveByte s (p, b) = some (s', (s.receiver.dispatched b).toList) ∧
      (φ.next b).1.Holds s'.receiver ∧ s'.receiver.msgBuf = s.receiver.bufNext b ∧
      s'.lcdData = s.lcdData.set p
        ((s.receiver.dispatched b).elim (s.lcdData.get p) (·.apply (s.lcdData.get p))) := by
  obtain ⟨r', hbody, hholds, hbuf⟩ := protoReceiverBody_eq h b
  refine ⟨⟨r', s.lcdData.set p ((s.receiver.dispatched b).elim (s.lcdData.get p)
    (·.apply (s.lcdData.get p)))⟩, ?_, hholds, hbuf, rfl⟩
  simp only [receiveByte, hbody, Option.bind_eq_bind, Option.bind_some]

/-- Every stream runs without a fault and dispatches the frames that the parser completes. -/
theorem receive_refine (es : List (Port × UInt8)) {φ : Phase} {s : Ports} (h : φ.Holds s.receiver) :
    ∃ s' φ' out, receiveByte.run s es = some (s', out) ∧
      parser.run φ (es.map Prod.snd) = some (φ', out.map Dispatch.payload) ∧
      φ'.Holds s'.receiver :=
  receiveByte.run_refine parser Prod.snd Dispatch.payload (R := fun s φ => φ.Holds s.receiver)
    (fun s φ e h => by
      obtain ⟨s', hstep, hholds, -, -⟩ := receiveByte_eq h e.1 e.2
      exact ⟨_, _, _, hstep, by rw [(dispatched_eq h e.2).1]; rfl, hholds⟩) es s φ h

theorem holds_of_run {es : List (Port × UInt8)} {φ : Phase} {s s' : Ports} {out : List Dispatch}
    (h : φ.Holds s.receiver) (hrun : receiveByte.run s es = some (s', out)) :
    ∃ φ', parser.run φ (es.map Prod.snd) = some (φ', out.map Dispatch.payload) ∧
      φ'.Holds s'.receiver := by
  obtain ⟨s₁, φ', o₁, hrun₁, hparse, hholds⟩ := receive_refine es h
  obtain ⟨rfl, rfl⟩ := Prod.mk.inj (Option.some.inj (hrun₁.symm.trans hrun))
  exact ⟨φ', hparse, hholds⟩

/-- Every dispatched frame has at most 60 bytes. -/
theorem count_le_of_run {es : List (Port × UInt8)} {φ : Phase} {s s' : Ports}
    {out : List Dispatch} (h : φ.Holds s.receiver)
    (hrun : receiveByte.run s es = some (s', out)) : ∀ x ∈ out, x.count.toNat ≤ 60 := by
  refine receiveByte.forall_out_of_run (I := fun s => ∃ φ : Phase, φ.Holds s.receiver) ?_
    ⟨φ, h⟩ hrun
  rintro s e s' out ⟨φ, h⟩ hstep
  obtain ⟨s₁, hstep', hholds, -, -⟩ := receiveByte_eq h e.1 e.2
  obtain ⟨rfl, rfl⟩ := Prod.mk.inj (Option.some.inj (hstep'.symm.trans hstep))
  exact ⟨⟨_, hholds⟩, fun x hx => (dispatched_eq h e.2).2 x (Option.mem_toList.1 hx)⟩

/-- Calls for one port take in the concatenation of their batches. -/
theorem run_protoReceiver (p : Port) (s : Ports) (calls : List (List UInt8)) :
    Machine.run (fun s batch => protoReceiver p batch s) s calls =
      protoReceiver p calls.flatten s := by
  rw [protoReceiver, List.map_flatten, ← receiveByte.run_flatten]
  exact Machine.run_map receiveByte.run (fun batch => batch.map fun byte => (p, byte)) s calls

/-- A stream on one port changes the record of that port by its dispatched commands, in order. -/
theorem lcdData_of_run {p : Port} {bs : List UInt8} {φ : Phase} {s s' : Ports}
    {out : List Dispatch} (h : φ.Holds s.receiver)
    (hrun : protoReceiver p bs s = some (s', out)) :
    s'.lcdData = s.lcdData.set p (out.foldl (fun d x => x.apply d) (s.lcdData.get p)) := by
  induction bs generalizing s φ out with
  | nil =>
    obtain ⟨rfl, rfl⟩ := Prod.mk.inj (Option.some.inj hrun)
    simp
  | cons b bs ih =>
    obtain ⟨s₁, o₁, o₂, h₁, h₂, rfl⟩ := receiveByte.run_cons_eq_some_iff.1 hrun
    obtain ⟨s₂, hstep, hholds, -, hlcd⟩ := receiveByte_eq h p b
    obtain ⟨rfl, rfl⟩ := Prod.mk.inj (Option.some.inj (hstep.symm.trans h₁))
    rw [ih hholds h₂, hlcd, PerPort.get_set_self, PerPort.set_set, List.foldl_append]
    rcases s.receiver.dispatched b with _ | x <;> rfl

end PowerMeterDisplay
