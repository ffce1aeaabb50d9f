import PowerMeterDisplay.ReceiverRefine

/-!
# Frames through the receiver

What the receiver dispatches for a whole stream: it decodes encoded frames (`decode_encode`), finds
the next frame after enough filler (`resync`), and never leaves `msg_buf` (`buffer_safety`).  A
dispatched frame ends the consumed bytes contiguously from its frame type on; that its start byte is
adjacent, and that the command it runs is its own, hold under the conditions of
`endsWithFrame_iff_adjacent` and `commandOfFrame_iff`.
-/

namespace PowerMeterDisplay

/-! ## Decoding -/

/-- A frame on the wire behind bytes that cannot start one. -/
structure Segment where
  noise : List UInt8
  frame : Frame
  noise_ne : ∀ b ∈ noise, b ≠ 0xC9

namespace Segment

def bytes (g : Segment) : List UInt8 := g.noise ++ g.frame.encode

/-- The byte stream of a sequence of segments. -/
def stream (gs : List Segment) : List UInt8 := gs.flatMap bytes

/-- The payloads of the frames with the right terminator. -/
def payloads (gs : List Segment) : List (List UInt8) := gs.flatMap fun g => g.frame.output

end Segment

theorem run_parser_segment (g : Segment) :
    parser.run .idle g.bytes = some (.idle, g.frame.output) :=
  parser.run_append (run_parser_idle g.noise_ne)
    (run_parser_encode (Or.inl rfl) g.frame.length_le g.frame.terminator)

theorem run_parser_stream (gs : List Segment) :
    parser.run .idle (Segment.stream gs) = some (.idle, Segment.payloads gs) := by
  induction gs with
  | nil => rfl
  | cons g gs ih => exact parser.run_append (run_parser_segment g) ih

/-- An idle receiver that gets bytes for one port does what the parser does. -/
theorem protoReceiver_refine {s : Ports} (hs : s.receiver.tpm2state = .idle) (p : Port)
    {bs : List UInt8} {outs : List (List UInt8)} (h : parser.run .idle bs = some (.idle, outs)) :
    ∃ s' out, protoReceiver p bs s = some (s', out) ∧ out.map Dispatch.payload = outs ∧
      s'.receiver.tpm2state = .idle ∧ ∀ x ∈ out, x.count.toNat = x.payload.length := by
  have hs : Phase.idle.Holds s.receiver := hs
  obtain ⟨s', φ', out, hrun, hparse, hholds⟩ :=
    receive_refine (bs.map fun byte => (p, byte)) hs
  have hmap : (bs.map fun byte => (p, byte)).map Prod.snd = bs := by simp
  rw [hmap, h] at hparse
  obtain ⟨rfl, rfl⟩ := Prod.mk.inj (Option.some.inj hparse)
  refine ⟨s', out, hrun, rfl, hholds, fun x hx => ?_⟩
  exact (Dispatch.length_payload (count_le_of_run hs hrun x hx)).symm

theorem payloads_eq (gs : List Segment) :
    Segment.payloads gs =
      (gs.filter fun g => g.frame.terminator = 0x36).map (fun g => g.frame.payload) := by
  induction gs with
  | nil => rfl
  | cons g gs ih =>
    rw [Segment.payloads, List.flatMap_cons, Frame.output, List.filter_cons]
    by_cases h : g.frame.terminator = 0x36
    · simp [h, ← ih, Segment.payloads]
    · simp [h, ← ih, Segment.payloads]

theorem stream_concat (gs : List Segment) (g : Segment) :
    Segment.stream (gs ++ [g]) = Segment.stream gs ++ g.bytes := by
  simp [Segment.stream]

/-- A frame with a wrong terminator is dispatched to nobody and leaves the records alone. -/
theorem lcdData_of_rejected {s s' : Ports} (hs : s.receiver.tpm2state = .idle) {p : Port}
    {g : Segment} (hg : g.frame.terminator ≠ 0x36) {out : List Dispatch}
    (hrun : protoReceiver p g.bytes s = some (s', out)) : out = [] ∧ s'.lcdData = s.lcdData := by
  have hs : Phase.idle.Holds s.receiver := hs
  have houts : g.frame.output = [] := if_neg hg
  obtain ⟨φ', hparse, -⟩ := holds_of_run hs hrun
  have hmap : (g.bytes.map fun byte => (p, byte)).map Prod.snd = g.bytes := by simp
  rw [hmap, run_parser_segment, houts] at hparse
  have hnil : out = [] :=
    List.map_eq_nil_iff.1 (Prod.mk.inj (Option.some.inj hparse)).2.symm
  refine ⟨hnil, ?_⟩
  rw [lcdData_of_run hs hrun, hnil, List.foldl_nil, PerPort.set_get_self]

/-- Decoding undoes encoding: an idle receiver dispatches the payloads of the frames with the right
terminator, each once and in order, and is idle again; the other frames change no record. -/
theorem decode_encode (s : Ports) (hs : s.receiver.tpm2state = .idle) (p : Port)
    (gs : List Segment) :
    ∃ s' out, protoReceiver p (Segment.stream gs) s = some (s', out) ∧
      out.map Dispatch.payload =
        (gs.filter fun g => g.frame.terminator = 0x36).map (fun g => g.frame.payload) ∧
      (∀ x ∈ out, x.count.toNat = x.payload.length) ∧ s'.receiver.tpm2state = .idle ∧
      ∀ pre g post, gs = pre ++ g :: post → g.frame.terminator ≠ 0x36 →
        ∃ s₁ s₂ o₁, protoReceiver p (Segment.stream pre) s = some (s₁, o₁) ∧
          protoReceiver p (Segment.stream (pre ++ [g])) s = some (s₂, o₁) ∧
          s₂.lcdData = s₁.lcdData := by
  obtain ⟨s', out, hrun, hout, hidle, hcount⟩ := protoReceiver_refine hs p (run_parser_stream gs)
  refine ⟨s', out, hrun, hout.trans (payloads_eq gs), hcount, hidle, ?_⟩
  intro pre g post _ hg
  obtain ⟨s₁, o₁, hrun₁, -, hidle₁, -⟩ := protoReceiver_refine hs p (run_parser_stream pre)
  obtain ⟨s₂, o₂, hrun₂, -, -, -⟩ := protoReceiver_refine hidle₁ p (run_parser_segment g)
  obtain ⟨rfl, hlcd⟩ := lcdData_of_rejected hidle₁ hg hrun₂
  refine ⟨s₁, s₂, o₁, hrun₁, ?_, hlcd⟩
  rw [stream_concat, protoReceiver, List.map_append]
  simpa using receiveByte.run_append hrun₁ hrun₂

/-- A hello frame behind noise, and a frame of control bytes with a wrong terminator. -/
def sampleSegments : List Segment :=
  [⟨[0x00, 0xDA, 0x36], ⟨[0x11], 0x36, by decide, by decide⟩, by simp⟩,
    ⟨[], ⟨[0xC9, 0xDA, 0x36], 0xC9, by decide, by decide⟩, by simp⟩]

theorem decode_encode_sample :
    ∃ s' out, protoReceiver .one (Segment.stream sampleSegments) Ports.start = some (s', out) ∧
      out.map Dispatch.payload = [[0x11]] ∧ s'.receiver.tpm2state = .idle := by
  obtain ⟨s', out, hrun, hout, -, hidle, -⟩ := decode_encode Ports.start rfl .one sampleSegments
  exact ⟨s', out, hrun, hout, hidle⟩

/-! ## Resynchronisation -/

/-- From any state reached since start-up, 63 bytes or more that are no control bytes dispatch
nothing, and the next frame is then dispatched once with its own payload. -/
theorem resync (es filler fs : List (Port × UInt8)) (payload : List UInt8)
    (hfiller : ∀ e ∈ filler, e.2 ≠ 0xC9 ∧ e.2 ≠ 0xDA ∧ e.2 ≠ 0x36) (hlen : 63 ≤ filler.length)
    (hpayload : 1 ≤ payload.length ∧ payload.length ≤ 60)
    (hfs : fs.map Prod.snd = encodeWith payload 0x36) :
    ∃ s s₁ s₂ out x, receiveByte.run Ports.start es = some (s, out) ∧
      receiveByte.run s filler = some (s₁, []) ∧ receiveByte.run s₁ fs = some (s₂, [x]) ∧
      x.payload = payload ∧ x.count.toNat = payload.length := by
  obtain ⟨s, φ, out, hrun, -, hholds⟩ :=
    receive_refine es (φ := .idle) (s := Ports.start) (rfl : Receiver.start.tpm2state = .idle)
  obtain ⟨s₁, φ₁, o₁, hrun₁, hparse₁, hholds₁⟩ := receive_refine filler hholds
  have hcontrol : ∀ b ∈ filler.map Prod.snd, b ≠ 0xC9 ∧ b ≠ 0xDA ∧ b ≠ 0x36 := by
    intro b hb
    obtain ⟨e, he, rfl⟩ := List.mem_map.1 hb
    exact hfiller e he
  obtain ⟨φ₁', hquiet, hφ₁⟩ := run_parser_resync hcontrol (by rwa [List.length_map]) hholds.wf
  obtain ⟨rfl, ho₁⟩ := Prod.mk.inj (Option.some.inj (hparse₁.symm.trans hquiet))
  obtain ⟨s₂, φ₂, o₂, hrun₂, hparse₂, -⟩ := receive_refine fs hholds₁
  rw [hfs, run_parser_encode hφ₁ hpayload.2, if_pos rfl] at hparse₂
  have ho₂ : o₂.map Dispatch.payload = [payload] := (Prod.mk.inj (Option.some.inj hparse₂)).2.symm
  obtain ⟨x, rfl, hx⟩ := List.map_eq_singleton_iff.1 ho₂
  refine ⟨s, s₁, s₂, out, x, hrun, ?_, hrun₂, hx, ?_⟩
  · rwa [List.map_eq_nil_iff.1 ho₁] at hrun₁
  · rw [← hx]
    exact (Dispatch.length_payload (count_le_of_run hholds₁ hrun₂ x (by simp))).symm

theorem resync_hello :
    ∃ s s₁ s₂ out x, receiveByte.run Ports.start [(.two, 0xC9), (.two, 0xDA)] = some (s, out) ∧
      receiveByte.run s (List.replicate 63 (.one, 0x00)) = some (s₁, []) ∧
      receiveByte.run s₁ ((encodeWith [0x11] 0x36).map fun b => (.one, b)) = some (s₂, [x]) ∧
      x.payload = [0x11] ∧ x.count.toNat = 1 :=
  resync [(.two, 0xC9), (.two, 0xDA)] (List.replicate 63 (.one, 0x00))
    ((encodeWith [0x11] 0x36).map fun b => (.one, b)) [0x11]
    (by intro e he; rw [List.eq_of_mem_replicate he]; decide) (by decide) (by decide) (by decide)

/-! ## What a dispatch says about the stream -/

/-- At a dispatch the consumed bytes end with the dispatched frame from its type on, and before the
type the receiver waited for it. -/
theorem bytes_of_dispatch {es : List (Port × UInt8)} {p : Port} {b : UInt8} {s s₁ s₂ : Ports}
    {out : List Dispatch} {x : Dispatch} (hs : s.receiver.tpm2state = .idle)
    (hrun : receiveByte.run s es = some (s₁, out)) (hx : receiveByte s₁ (p, b) = some (s₂, [x])) :
    ∃ pre hi lo, Waiting pre ∧ es.map Prod.snd = pre ++ [0xDA, hi, lo] ++ x.payload ∧
      sizeOf16 hi lo = x.payload.length ∧ x.payload.length ≤ 60 ∧ b = 0x36 ∧
      x.count.toNat = x.payload.length ∧ s₁.receiver.framesize.toNat = x.payload.length := by
  have hs : Phase.idle.Holds s.receiver := hs
  obtain ⟨φ, hparse, hholds⟩ := holds_of_run hs hrun
  obtain ⟨s', hstep, -, -, -⟩ := receiveByte_eq hholds p b
  obtain ⟨hout, hcount⟩ := dispatched_eq hholds b
  have hdisp : s₁.receiver.dispatched b = some x :=
    Option.toList_eq_singleton_iff.1 (Prod.mk.inj (Option.some.inj (hstep.symm.trans hx))).2
  rw [hdisp] at hout
  have hb : parser φ b = some ((φ.next b).1, [x.payload]) := by
    rw [parser_step]
    exact congrArg some (Prod.ext rfl hout.symm)
  obtain ⟨pre, hi, lo, hpre, hbytes, hsize, hle, hterm⟩ := bytes_of_output hparse hb
  refine ⟨pre, hi, lo, hpre, hbytes, hsize, hle, hterm,
    (Dispatch.length_payload (hcount x hdisp)).symm, ?_⟩
  -- only a full payload completes a frame, and its phase fixes the announced size
  cases φ with
  | payload n got =>
    by_cases hlt : got.length < n
    · simp [parser_step, Phase.next, hlt] at hb
    · have hgot : got = x.payload := by
        simpa [parser_step, Phase.next, hlt, hterm] using hb
      obtain ⟨-, hn, -, -, hle', -⟩ := hholds
      rw [hn, ← hgot]
      omega
  | _ => simp [parser_step, Phase.next] at hb

/-- The start byte of the dispatched frame is adjacent to its type exactly when the byte before the
type that the receiver waited for was the start byte: the receiver skips other bytes there. -/
theorem endsWithFrame_iff_adjacent {es : List (Port × UInt8)} {p : Port} {b : UInt8}
    {s s₁ s₂ : Ports} {out : List Dispatch} {x : Dispatch} (hs : s.receiver.tpm2state = .idle)
    (hrun : receiveByte.run s es = some (s₁, out)) (hx : receiveByte s₁ (p, b) = some (s₂, [x])) :
    ∃ pre hi lo, es.map Prod.snd = pre ++ [0xDA, hi, lo] ++ x.payload ∧
      (∃ s₀ o, receiveByte.run s (es.take pre.length) = some (s₀, o) ∧
        s₀.receiver.tpm2state = .startb) ∧
      (EndsWithFrame (es.map Prod.snd ++ [b]) x.payload ↔ pre.getLast? = some 0xC9) := by
  obtain ⟨pre, hi, lo, ⟨o, hpre⟩, hbytes, hsize, hle, rfl, -, -⟩ := bytes_of_dispatch hs hrun hx
  refine ⟨pre, hi, lo, hbytes, ?_, ?_⟩
  · have htake : (es.take pre.length).map Prod.snd = pre := by
      rw [List.map_take, hbytes]
      simp
    obtain ⟨s₀, φ, o₀, hrun₀, hparse, hholds⟩ :=
      receive_refine (es.take pre.length) (φ := .idle) (s := s) hs
    rw [htake, hpre] at hparse
    obtain ⟨rfl, -⟩ := Prod.mk.inj (Option.some.inj hparse)
    exact ⟨s₀, o₀, hrun₀, hholds⟩
  · rw [hbytes]
    exact endsWithFrame_iff hsize hle

/-- A hello frame on port one up to its terminator. -/
def helloBytes : List (Port × UInt8) :=
  [(.one, 0xC9), (.one, 0xDA), (.one, 0x00), (.one, 0x01), (.one, 0x11)]

theorem helloBytes_dispatch :
    ∃ s s' x, receiveByte.run Ports.start helloBytes = some (s, []) ∧
      receiveByte s (.one, 0x36) = some (s', [x]) ∧ s.receiver.framesize = 1 :=
  ⟨_, _, _, rfl, rfl, rfl⟩

theorem endsWithFrame_iff_adjacent_hello :
    ∃ s₁ s₂ x, receiveByte.run Ports.start helloBytes = some (s₁, []) ∧
      receiveByte s₁ (.one, 0x36) = some (s₂, [x]) ∧
      ∃ pre hi lo, helloBytes.map Prod.snd = pre ++ [0xDA, hi, lo] ++ x.payload ∧
        (EndsWithFrame (helloBytes.map Prod.snd ++ [0x36]) x.payload ↔
          pre.getLast? = some 0xC9) := by
  obtain ⟨s₁, s₂, x, hrun, hx, -⟩ := helloBytes_dispatch
  obtain ⟨pre, hi, lo, hbytes, -, hiff⟩ :=
    endsWithFrame_iff_adjacent (s := Ports.start) rfl hrun hx
  exact ⟨s₁, s₂, x, hrun, hx, pre, hi, lo, hbytes, hiff⟩

/-- A byte between the start byte and the frame type is skipped: a frame is dispatched although the
consumed bytes end with no contiguous frame. -/
theorem dispatch_without_adjacent_start :
    ∃ s₁ s₂ x, receiveByte.run Ports.start
        [(.one, 0xC9), (.one, 0x00), (.one, 0xDA), (.one, 0x00), (.one, 0x01), (.one, 0x11)] =
          some (s₁, []) ∧
      receiveByte s₁ (.one, 0x36) = some (s₂, [x]) ∧
      ∀ payload, ¬ EndsWithFrame [0xC9, 0x00, 0xDA, 0x00, 0x01, 0x11, 0x36] payload := by
  refine ⟨_, _, _, rfl, rfl, ?_⟩
  rintro payload ⟨pre, hi, lo, h, -, -⟩
  -- the only start byte is at offset 0, and no frame type follows it
  rcases pre with _ | ⟨_, _ | ⟨_, _ | ⟨_, pre⟩⟩⟩
  · simp at h
  · simp at h
  · simp at h
  · have := congrArg List.length h
    simp at this
    omega

/-- The command acted on at a dispatch belongs to the frame just received: it is the first byte of a
payload that ends the consumed bytes and has the counted size, and the bootloader is only entered
for a payload that starts with its command. -/
def CommandOfFrame (bs : List UInt8) (x : Dispatch) : Prop :=
  ∃ pre hi lo payload, bs = pre ++ [0xDA, hi, lo] ++ payload ∧ sizeOf16 hi lo = payload.length ∧
    x.count.toNat = payload.length ∧ payload.head? = some x.command ∧
    (x.action = .resetToBootloader → payload.head? = some pmBootloader)

theorem Dispatch.command_of_bootloader {x : Dispatch} (h : x.action = .resetToBootloader) :
    x.command = pmBootloader := by
  unfold action at h
  split_ifs at h with h₁ h₂ h₃ h₄
  exact h₄

/-- From start-up on, a dispatched command is the command of its own frame exactly when the frame is
not empty: an empty frame runs the command that an earlier frame left in the buffer. -/
theorem commandOfFrame_iff {es : List (Port × UInt8)} {p : Port} {b : UInt8} {s s' : Ports}
    {out : List Dispatch} {x : Dispatch} (hrun : receiveByte.run Ports.start es = some (s, out))
    (hx : receiveByte s (p, b) = some (s', [x])) :
    CommandOfFrame (es.map Prod.snd) x ↔ s.receiver.framesize ≠ 0 := by
  obtain ⟨pre, hi, lo, -, hbytes, hsize, -, -, hcount, hframe⟩ :=
    bytes_of_dispatch (s := Ports.start) rfl hrun hx
  have hzero : s.receiver.framesize ≠ 0 ↔ 0 < x.count.toNat := by
    rw [Nat.pos_iff_ne_zero, hcount, ← hframe, ne_eq, ne_eq, ← UInt16.toNat_inj]
    rfl
  rw [hzero]
  constructor
  · rintro ⟨_, _, _, payload, -, -, hlen, hhead, -⟩
    rw [hlen]
    exact List.length_pos_iff.2 (by rintro rfl; simp at hhead)
  · intro hpos
    refine ⟨pre, hi, lo, x.payload, hbytes, hsize, hcount, Dispatch.head?_payload hpos, ?_⟩
    intro hboot
    rw [Dispatch.head?_payload hpos, Dispatch.command_of_bootloader hboot]

theorem commandOfFrame_hello :
    ∃ s s' x, receiveByte.run Ports.start helloBytes = some (s, []) ∧
      receiveByte s (.one, 0x36) = some (s', [x]) ∧
      CommandOfFrame (helloBytes.map Prod.snd) x := by
  obtain ⟨s, s', x, hrun, hx, hsize⟩ := helloBytes_dispatch
  exact ⟨s, s', x, hrun, hx, (commandOfFrame_iff hrun hx).2 (by rw [hsize]; decide)⟩

/-- A frame that is rejected for its terminator leaves the bootloader command in the buffer, and an
empty frame then enters the bootloader. -/
theorem emptyFrame_resets_to_bootloader :
    ∃ s s' x, receiveByte.run Ports.start
        [(.one, 0xC9), (.one, 0xDA), (.one, 0x00), (.one, 0x01), (.one, 0xB0), (.one, 0x00),
          (.one, 0xC9), (.one, 0xDA), (.one, 0x00), (.one, 0x00)] = some (s, []) ∧
      receiveByte s (.one, 0x36) = some (s', [x]) ∧ x.action = .resetToBootloader ∧
      ¬ CommandOfFrame [0xC9, 0xDA, 0x00, 0x01, 0xB0, 0x00, 0xC9, 0xDA, 0x00, 0x00] x := by
  refine ⟨_, _, _, rfl, rfl, rfl, ?_⟩
  rintro ⟨_, _, _, payload, -, -, hcount, hhead, -⟩
  obtain rfl : payload = [] := List.length_eq_zero_iff.1 hcount.symm
  simp at hhead

/-! ## The message buffer -/

/-- For every mix of bytes on the two ports since start-up no access leaves `msg_buf` and every
handler ends; in the payload state the count is bounded by the frame size and that by 60; and at
every dispatch the narrowed length is the count, every group read at an index below it lies inside
the buffer, and the 8-bit loop index does not wrap. -/
theorem buffer_safety (es : List (Port × UInt8)) :
    ∃ s out, receiveByte.run Ports.start es = some (s, out) ∧
      (s.receiver.tpm2state = .startb4 →
        s.receiver.count ≤ s.receiver.framesize ∧ s.receiver.framesize ≤ 60) ∧
      ∀ x ∈ out, x.len.toNat = x.count.toNat ∧
        ∀ i : UInt8, i < x.len → i.toNat + 4 ≤ 64 ∧ (i + 4).toNat = i.toNat + 4 := by
  have hstart : Phase.idle.Holds Ports.start.receiver := rfl
  obtain ⟨s, φ, out, hrun, -, hholds⟩ := receive_refine es hstart
  refine ⟨s, out, hrun, ?_, ?_⟩
  · intro hstate
    cases φ with
    | payload n got =>
      obtain ⟨-, hsize, hn, hcount, hgot, -⟩ := hholds
      rw [UInt16.le_iff_toNat_le, UInt16.le_iff_toNat_le, hcount, hsize]
      exact ⟨hgot, hn⟩
    | sizeLow hi => exact absurd (hstate.symm.trans hholds.1) (by decide)
    | _ => exact absurd (hstate.symm.trans hholds) (by decide)
  · intro x hx
    have hcount := count_le_of_run hstart hrun x hx
    have hlen := Dispatch.len_toNat hcount
    refine ⟨hlen, fun i hi => ?_⟩
    have hlt := UInt8.lt_iff_toNat_lt.1 hi
    exact ⟨by omega, toNat_add_four (by omega) hi⟩

end PowerMeterDisplay
