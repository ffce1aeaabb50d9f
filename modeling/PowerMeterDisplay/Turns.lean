import PowerMeterDisplay.MainLoopRefine

/-!
# Turns of the main loop

Streams of events that drive the main loop in a known way: bytes that arrive at an empty queue are
taken in one by one (`MainState.run_bytesIn`), and a whole frame that arrives so is dispatched to
the record of its port (`MainState.run_frameIn`).
-/

namespace PowerMeterDisplay

theorem channelLog_frameCalls (p q : Port) (d : DisplayData) (x : Dispatch) :
    channelLog q (MainState.frameCalls p d x) = if p = q then [(d, .frame x)] else [] := by
  unfold MainState.frameCalls
  by_cases hp : p = q <;> split_ifs <;> simp [channelLog, hp]

theorem channelLog_frames (p q : Port) (d : DisplayData) (out : List Dispatch) :
    channelLog q (out.flatMap (MainState.frameCalls p d)) =
      if p = q then out.map fun x => (d, .frame x) else [] := by
  induction out with
  | nil => simp [channelLog]
  | cons x out ih =>
    rw [List.flatMap_cons, channelLog_append, channelLog_frameCalls, ih]
    split_ifs <;> rfl

namespace MainState

/-! ## Events -/

/-- The bytes arrive one at a time, each just before the receiver looks for one. -/
def bytesIn (p : Port) (bytes : List UInt8) : List Event :=
  bytes.flatMap fun byte => [Event.rxc p byte, Event.loop true]

/-- Steps of the main loop, with both ports powered and the button released. -/
def loops (n : ℕ) : List Event := List.replicate n (.loop true)

/-- Timer interrupts with the button released. -/
def ticks (n : ℕ) : List Event := List.replicate n (.timer false)

/-- From the start: USB is attached and debounced, and the loop comes to the receiver. -/
def attach : List Event := .resume :: loops 16

def scaleBytes : List UInt8 := encodeWith scaleFrame.payload 0x36

/-- A data frame with one sample. -/
def dataBytes : List UInt8 := encodeWith [0xDA, 0x00, 0x00, 0x00, 0x00] 0x36

/-- From the test of the queue of port 1: the loop goes round to the refresh, which is due. -/
def turn : List Event := loops 9 ++ ticks 251 ++ loops 3

/-! ## Bytes and frames -/

/-- A byte that arrives at the empty queue is taken in by the next test. -/
theorem run_byteIn {s : MainState} {p : Port} {φ : Phase} (h : φ.Holds s.ports.receiver)
    (hpc : s.pc = .receive p) (hf : (s.fifo.get p).Valid) (hempty : fifoIsEmpty (s.fifo.get p))
    (byte : UInt8) :
    ∃ ports f out, step.run s [.rxc p byte, .loop true] =
        some ({ s with ports := ports, fifo := s.fifo.set p f },
          out.flatMap (frameCalls p (s.lcdData p))) ∧
      f.Valid ∧ fifoIsEmpty f ∧ receiveByte s.ports (p, byte) = some (ports, out) := by
  obtain ⟨f₁, f₂, st, hpush, hpull, hf₂, hempty₂⟩ := hf.push_pull hempty byte
  obtain ⟨ports, hbyte, -⟩ := receiveByte_eq h p byte
  let s₁ : MainState := { s with fifo := s.fifo.set p f₁ }
  have harrive : step s (.rxc p byte) = some (s₁, []) := by simp [step, hpush, s₁]
  have hpull₁ : fifoPullUint8 (s₁.fifo.get p) = some (f₂, some byte) := by
    rw [PerPort.get_set_self, hpull]
  have htake : step s₁ (.loop true) = s₁.receive p := by
    show s₁.loop true = _
    rw [loop, show s₁.pc = .receive p from hpc]
  rw [receive_byte hpull₁ hbyte] at htake
  refine ⟨ports, f₂, _, (step.run_cons harrive (step.run_singleton htake)).trans ?_, hf₂, hempty₂,
    hbyte⟩
  simp only [s₁, PerPort.set_set, List.nil_append]
  rfl

/-- Bytes that arrive one by one are taken in as `proto_receiver` takes them in. -/
theorem run_bytesIn {p : Port} (bytes : List UInt8) :
    ∀ {s : MainState} {φ : Phase}, φ.Holds s.ports.receiver → s.pc = .receive p →
      (s.fifo.get p).Valid → fifoIsEmpty (s.fifo.get p) →
      ∃ ports f out calls, step.run s (bytesIn p bytes) =
          some ({ s with ports := ports, fifo := s.fifo.set p f }, calls) ∧
        f.Valid ∧ fifoIsEmpty f ∧ protoReceiver p bytes s.ports = some (ports, out) ∧
        (channelLog p calls).map Prod.snd = out.map .frame ∧
        channelLog p.other calls = [] := by
  have hother : p ≠ p.other := by cases p <;> decide
  induction bytes with
  | nil =>
    intro s φ _ _ hf hempty
    refine ⟨s.ports, s.fifo.get p, [], [], ?_, hf, hempty, rfl, rfl, rfl⟩
    rw [PerPort.set_get_self]
    rfl
  | cons byte bytes ih =>
    intro s φ h hpc hf hempty
    obtain ⟨ports₁, f₁, out₁, hrun₁, hf₁, hempty₁, hbyte⟩ := run_byteIn h hpc hf hempty byte
    obtain ⟨s₁, hbyte', hholds, -⟩ := receiveByte_eq h p byte
    obtain ⟨rfl, rfl⟩ := Prod.mk.inj (Option.some.inj (hbyte'.symm.trans hbyte))
    obtain ⟨ports, f, out, calls, hrun, hf₂, hempty₂, hrecv, hlog, hlog'⟩ :=
      ih (s := { s with ports := s₁, fifo := s.fifo.set p f₁ }) hholds hpc
        (by rw [PerPort.get_set_self]; exact hf₁) (by rw [PerPort.get_set_self]; exact hempty₁)
    have hrun := step.run_append hrun₁ hrun
    simp only [PerPort.set_set] at hrun
    refine ⟨ports, f, _, _, hrun, hf₂, hempty₂, receiveByte.run_cons hbyte hrecv, ?_, ?_⟩
    · rw [channelLog_append, List.map_append, hlog, channelLog_frames, if_pos rfl, List.map_map,
        List.map_append]
      rfl
    · rw [channelLog_append, hlog', channelLog_frames, if_neg hother]
      rfl

/-- A frame that arrives while the receiver is idle is dispatched to the record of its port. -/
theorem run_frameIn {s : MainState} {p : Port} (hidle : s.ports.receiver.tpm2state = .idle)
    (hpc : s.pc = .receive p) (hf : (s.fifo.get p).Valid) (hempty : fifoIsEmpty (s.fifo.get p))
    {payload : List UInt8} (hlen : payload.length ≤ 60) :
    ∃ ports f x calls, step.run s (bytesIn p (encodeWith payload 0x36)) =
        some ({ s with ports := ports, fifo := s.fifo.set p f }, calls) ∧
      f.Valid ∧ fifoIsEmpty f ∧ ports.receiver.tpm2state = .idle ∧
      ports.lcdData = s.ports.lcdData.set p (x.apply (s.lcdData p)) ∧ x.payload = payload ∧
      x.count.toNat = payload.length ∧ (channelLog p calls).map Prod.snd = [.frame x] ∧
      channelLog p.other calls = [] := by
  have hidle : Phase.idle.Holds s.ports.receiver := hidle
  obtain ⟨ports, f, out, calls, hrun, hf', hempty', hrecv, hlog, hlog'⟩ :=
    run_bytesIn (encodeWith payload 0x36) hidle hpc hf hempty
  obtain ⟨φ, hparse, hholds⟩ := holds_of_run hidle hrecv
  have hbytes : ((encodeWith payload 0x36).map fun b => (p, b)).map Prod.snd =
      encodeWith payload 0x36 := by simp [List.map_map, Function.comp_def]
  rw [hbytes, run_parser_encode (Or.inl rfl) hlen, if_pos rfl] at hparse
  obtain ⟨rfl, hout⟩ := Prod.mk.inj (Option.some.inj hparse)
  obtain ⟨x, rfl, hx⟩ : ∃ x, out = [x] ∧ x.payload = payload := by
    obtain ⟨x, rfl, hx⟩ := List.map_eq_singleton_iff.1 hout.symm
    exact ⟨x, rfl, hx⟩
  have hcount := count_le_of_run hidle hrecv x (List.mem_singleton_self x)
  exact ⟨ports, f, x, calls, hrun, hf', hempty', hholds, lcdData_of_run hidle hrecv, hx,
    by rw [← hx, Dispatch.length_payload hcount], hlog, hlog'⟩

end MainState

end PowerMeterDisplay
