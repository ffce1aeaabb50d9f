import PowerMeterDisplay.Lib.Machine
import Mathlib.Tactic.Common

/-!
# The frame parser

The receiver without its buffer, its counters and the display: which bytes make up a frame.  A phase
holds what has been recognised of the current frame, and a completed frame is output as its payload.
The receiver is shown to refine this parser; what the two start bytes, the size and the end byte
mean for a whole stream is proved here.
-/

namespace PowerMeterDisplay

/-- What has been recognised of the current frame. -/
inductive Phase where
  /-- Waiting for the start byte. -/
  | idle
  /-- Behind the start byte, waiting for the frame type. -/
  | start
  /-- Behind the frame type. -/
  | sizeHigh
  /-- Behind the high byte `hi` of the size. -/
  | sizeLow (hi : UInt8)
  /-- In a payload of `n` bytes of which `got` has arrived. -/
  | payload (n : ℕ) (got : List UInt8)
  deriving DecidableEq, Repr

/-- The payload size that the two size bytes announce. -/
def sizeOf16 (hi lo : UInt8) : ℕ := 256 * hi.toNat + lo.toNat

/-- One byte, with the payload of the frame that it completes, if any. -/
def Phase.next : Phase → UInt8 → Phase × List (List UInt8)
  | .idle, b => (if b = 0xC9 then .start else .idle, [])
  | .start, b => (if b = 0xDA then .sizeHigh else .start, [])
  | .sizeHigh, b => (.sizeLow b, [])
  | .sizeLow hi, b => (if sizeOf16 hi b ≤ 60 then .payload (sizeOf16 hi b) [] else .idle, [])
  | .payload n got, b =>
    if got.length < n then (.payload n (got ++ [b]), [])
    else (.idle, if b = 0x36 then [got] else [])

/-- The frame parser as a machine whose outputs are the payloads of the completed frames. -/
def parser : Machine Phase UInt8 (List UInt8) := fun φ b => some (φ.next b)

/-! ## Frames on the wire -/

/-- A frame on the wire: a payload of 1 to 60 bytes and a terminator. -/
structure Frame where
  payload : List UInt8
  terminator : UInt8
  length_pos : 1 ≤ payload.length
  length_le : payload.length ≤ 60

/-- A payload of at most 60 bytes behind its header, with a terminator. -/
def encodeWith (payload : List UInt8) (terminator : UInt8) : List UInt8 :=
  [0xC9, 0xDA, UInt8.ofNat (payload.length / 256), UInt8.ofNat (payload.length % 256)] ++
    payload ++ [terminator]

def Frame.encode (f : Frame) : List UInt8 := encodeWith f.payload f.terminator

/-- What the parser outputs for a frame. -/
def Frame.output (f : Frame) : List (List UInt8) := if f.terminator = 0x36 then [f.payload] else []

theorem sizeOf16_ofNat {n : ℕ} (h : n ≤ 60) :
    sizeOf16 (UInt8.ofNat (n / 256)) (UInt8.ofNat (n % 256)) = n := by
  rw [sizeOf16, UInt8.toNat_ofNat', UInt8.toNat_ofNat']
  omega

/-! ## Runs of the parser -/

theorem parser_step (φ : Phase) (b : UInt8) : parser φ b = some (φ.next b) := rfl

/-- Bytes other than the start byte are skipped between frames. -/
theorem run_parser_idle {bs : List UInt8} (h : ∀ b ∈ bs, b ≠ 0xC9) :
    parser.run .idle bs = some (.idle, []) := by
  induction bs with
  | nil => rfl
  | cons b bs ih =>
    have hb : parser .idle b = some (.idle, []) := by
      rw [parser_step, Phase.next, if_neg (h b List.mem_cons_self)]
    exact parser.run_cons hb (ih fun c hc => h c (List.mem_cons_of_mem b hc))

/-- Payload bytes are collected whatever they are. -/
theorem run_parser_payload {n : ℕ} (bs : List UInt8) :
    ∀ got : List UInt8, got.length + bs.length ≤ n →
      parser.run (.payload n got) bs = some (.payload n (got ++ bs), []) := by
  induction bs with
  | nil => simp
  | cons b bs ih =>
    intro got h
    rw [List.length_cons] at h
    have hlt : got.length < n := by omega
    have h₁ : parser (.payload n got) b = some (.payload n (got ++ [b]), []) := by
      rw [parser_step, Phase.next, if_pos hlt]
    have h₂ := ih (got ++ [b]) (by rw [List.length_append, List.length_singleton]; omega)
    rw [List.append_assoc] at h₂
    exact parser.run_cons h₁ h₂

/-- A whole frame takes the parser from waiting back to idle; only a frame with the right terminator
is output.  A parser that already waits for the frame type takes the start byte for noise. -/
theorem run_parser_encode {φ : Phase} (hφ : φ = .idle ∨ φ = .start) {payload : List UInt8}
    (hlen : payload.length ≤ 60) (t : UInt8) :
    parser.run φ (encodeWith payload t) =
      some (.idle, if t = 0x36 then [payload] else []) := by
  have hstart : parser φ 0xC9 = some (.start, []) := by
    rcases hφ with rfl | rfl <;> rfl
  have hsize : parser (.sizeLow (UInt8.ofNat (payload.length / 256)))
      (UInt8.ofNat (payload.length % 256)) = some (.payload payload.length [], []) := by
    rw [parser_step, Phase.next, sizeOf16_ofNat hlen, if_pos hlen]
  have hend : parser (.payload payload.length payload) t =
      some (.idle, if t = 0x36 then [payload] else []) := by
    rw [parser_step, Phase.next, if_neg (Nat.lt_irrefl _)]
  have htype : parser .start 0xDA = some (.sizeHigh, []) := rfl
  have hhigh (hi : UInt8) : parser .sizeHigh hi = some (.sizeLow hi, []) := rfl
  have hheader : parser.run φ [0xC9, 0xDA, UInt8.ofNat (payload.length / 256),
      UInt8.ofNat (payload.length % 256)] = some (.payload payload.length [], []) :=
    parser.run_cons hstart (parser.run_cons htype (parser.run_cons (hhigh _)
      (parser.run_singleton hsize)))
  have hbody : parser.run (.payload payload.length []) payload =
      some (.payload payload.length payload, []) :=
    run_parser_payload payload [] (by simp)
  exact parser.run_append (parser.run_append hheader hbody) (parser.run_singleton hend)

/-! ## Resynchronisation -/

/-- The phases that the parser can be in: a payload is announced and bounded. -/
def Phase.Wf : Phase → Prop
  | .payload n got => got.length ≤ n ∧ n ≤ 60
  | _ => True

/-- A bound on the bytes that can pass, none of them a control byte, before the parser waits for a
frame again. -/
def Phase.pending : Phase → ℕ
  | .idle => 0
  | .start => 0
  | .sizeHigh => 63
  | .sizeLow _ => 62
  | .payload n got => n - got.length + 1

theorem Phase.wf_next {φ : Phase} (hφ : φ.Wf) (b : UInt8) : (φ.next b).1.Wf := by
  cases φ with
  | idle => simp only [Phase.next]; split_ifs <;> trivial
  | start => simp only [Phase.next]; split_ifs <;> trivial
  | sizeHigh => trivial
  | sizeLow hi =>
    simp only [Phase.next]
    split_ifs with h
    · exact ⟨Nat.zero_le _, h⟩
    · trivial
  | payload n got =>
    simp only [Phase.next]
    split_ifs with h
    · refine ⟨?_, hφ.2⟩
      rw [List.length_append, List.length_singleton]
      exact h
    all_goals trivial

theorem Phase.pending_le {φ : Phase} (hφ : φ.Wf) : φ.pending ≤ 63 := by
  cases φ with
  | payload n got =>
    have := hφ.2
    simp only [Phase.pending]
    omega
  | _ => simp [Phase.pending]

theorem Phase.idle_or_start_of_pending {φ : Phase} (h : φ.pending = 0) :
    φ = .idle ∨ φ = .start := by
  cases φ <;> simp_all [Phase.pending]

/-- A byte that is no control byte completes no frame and uses up one pending byte. -/
theorem Phase.next_filler {φ : Phase} (hφ : φ.Wf) {b : UInt8} (h₁ : b ≠ 0xC9) (h₂ : b ≠ 0xDA)
    (h₃ : b ≠ 0x36) : (φ.next b).2 = [] ∧ (φ.next b).1.pending ≤ φ.pending - 1 := by
  cases φ with
  | idle => simp [Phase.next, h₁, Phase.pending]
  | start => simp [Phase.next, h₂, Phase.pending]
  | sizeHigh => simp [Phase.next, Phase.pending]
  | sizeLow hi =>
    simp only [Phase.next, true_and]
    split_ifs with h
    · simp only [Phase.pending, List.length_nil]
      omega
    · simp [Phase.pending]
  | payload n got =>
    simp only [Phase.next]
    split_ifs with h
    · simp only [Phase.pending, List.length_append, List.length_singleton, true_and]
      omega
    · simp [Phase.pending]

theorem run_parser_filler {bs : List UInt8} (h : ∀ b ∈ bs, b ≠ 0xC9 ∧ b ≠ 0xDA ∧ b ≠ 0x36) :
    ∀ {φ : Phase}, φ.Wf →
      ∃ φ', parser.run φ bs = some (φ', []) ∧ φ'.pending ≤ φ.pending - bs.length := by
  induction bs with
  | nil => exact fun {φ} _ => ⟨φ, rfl, Nat.le_refl _⟩
  | cons b bs ih =>
    intro φ hφ
    obtain ⟨h₁, h₂, h₃⟩ := h b List.mem_cons_self
    obtain ⟨hout, hpend⟩ := φ.next_filler hφ h₁ h₂ h₃
    obtain ⟨φ', hrun, hle⟩ := ih (fun c hc => h c (List.mem_cons_of_mem b hc)) (φ.wf_next hφ b)
    have hstep : parser φ b = some ((φ.next b).1, []) := by rw [parser_step, ← hout]
    refine ⟨φ', parser.run_cons hstep hrun, ?_⟩
    rw [List.length_cons]
    omega

/-- After 63 bytes that are no control bytes the parser waits for a frame, whatever it did
before. -/
theorem run_parser_resync {bs : List UInt8} (h : ∀ b ∈ bs, b ≠ 0xC9 ∧ b ≠ 0xDA ∧ b ≠ 0x36)
    (hlen : 63 ≤ bs.length) {φ : Phase} (hφ : φ.Wf) :
    ∃ φ', parser.run φ bs = some (φ', []) ∧ (φ' = .idle ∨ φ' = .start) := by
  obtain ⟨φ', hrun, hle⟩ := run_parser_filler h hφ
  have := φ.pending_le hφ
  exact ⟨φ', hrun, φ'.idle_or_start_of_pending (by omega)⟩

/-- Bytes that end whatever frame is under way: no control bytes, then a frame of no bytes that is
not terminated. -/
def settleBytes : List UInt8 := List.replicate 63 0x00 ++ encodeWith [] 0x00

theorem run_parser_settleBytes {φ : Phase} (hφ : φ.Wf) :
    parser.run φ settleBytes = some (.idle, []) := by
  have hquiet : ∀ b ∈ List.replicate 63 (0x00 : UInt8), b ≠ 0xC9 ∧ b ≠ 0xDA ∧ b ≠ 0x36 := by
    intro b hb
    rw [List.eq_of_mem_replicate hb]
    decide
  obtain ⟨φ', hrun, hφ'⟩ := run_parser_resync hquiet (by simp) hφ
  exact parser.run_append hrun (run_parser_encode hφ' (Nat.zero_le _) 0x00)

/-- A parser inside a frame is told from one that waits for a frame by what comes next. -/
theorem exists_run_parser_ne {φ : Phase} (hφ : φ.Wf) (hne : φ ≠ .idle) :
    ∃ bs φ' out ψ out', parser.run φ bs = some (φ', out) ∧
      parser.run .idle bs = some (ψ, out') ∧ out ≠ out' := by
  cases φ with
  | idle => exact absurd rfl hne
  | start => exact ⟨[0xDA, 0x00, 0x01, 0x11, 0x36], _, _, _, _, rfl, rfl, by decide⟩
  | sizeHigh => exact ⟨[0x00, 0x01, 0x11, 0x36], _, _, _, _, rfl, rfl, by decide⟩
  | sizeLow hi =>
    -- the start byte is taken for a size over 60, so the whole frame is lost
    have hstart : parser (.sizeLow hi) 0xC9 = some (.idle, []) := by
      have hsize : ¬ sizeOf16 hi 0xC9 ≤ 60 := Nat.not_le.2 (Nat.lt_add_left _ (by decide))
      rw [parser_step, Phase.next, if_neg hsize]
    have hrest : parser.run .idle [0xDA, 0x00, 0x01, 0x11, 0x36] = some (.idle, []) := rfl
    exact ⟨encodeWith [0x11] 0x36, _, _, _, _, parser.run_cons hstart hrest, rfl, by decide⟩
  | payload n got =>
    have hfull : got.length + (List.replicate (n - got.length) (0x00 : UInt8)).length ≤ n := by
      rw [List.length_replicate]
      exact Nat.le_of_eq (Nat.add_sub_cancel' hφ.1)
    have hend : parser (.payload n (got ++ List.replicate (n - got.length) 0x00)) 0x36 =
        some (.idle, [got ++ List.replicate (n - got.length) 0x00]) := by
      rw [parser_step, Phase.next, if_neg, if_pos rfl]
      rw [List.length_append, List.length_replicate, Nat.add_sub_cancel' hφ.1]
      exact Nat.lt_irrefl n
    have hquiet : parser.run .idle (List.replicate (n - got.length) 0x00 ++ [0x36]) =
        some (.idle, []) := by
      refine run_parser_idle fun b hb => ?_
      rcases List.mem_append.1 hb with hb | hb
      · rw [List.eq_of_mem_replicate hb]
        decide
      · rw [List.mem_singleton.1 hb]
        decide
    exact ⟨_, _, _, _, _, parser.run_append (run_parser_payload _ got hfull)
      (parser.run_singleton hend), hquiet, List.cons_ne_nil _ _⟩

/-! ## What has been consumed -/

/-- After the bytes `bs` the parser waits for the frame type. -/
def Waiting (bs : List UInt8) : Prop := ∃ out, parser.run .idle bs = some (.start, out)

/-- How a phase relates to all bytes consumed so far: from the frame type on, the bytes of the frame
are the last ones. -/
def Phase.Follows : Phase → List UInt8 → Prop
  | .idle, _ => True
  | .start, _ => True
  | .sizeHigh, bs => ∃ pre, Waiting pre ∧ bs = pre ++ [0xDA]
  | .sizeLow hi, bs => ∃ pre, Waiting pre ∧ bs = pre ++ [0xDA, hi]
  | .payload n got, bs => ∃ pre hi lo, Waiting pre ∧ bs = pre ++ [0xDA, hi, lo] ++ got ∧
      sizeOf16 hi lo = n

theorem follows_of_run {bs : List UInt8} {φ : Phase} {out : List (List UInt8)}
    (h : parser.run .idle bs = some (φ, out)) : φ.Wf ∧ φ.Follows bs := by
  refine (parser.run_history
    (P := fun bs φ out => parser.run .idle bs = some (φ, out) ∧ φ.Wf ∧ φ.Follows bs)
    ⟨rfl, trivial, trivial⟩ ?_ h).2
  rintro bs φ out b φ' o ⟨hrun, hwf, hfol⟩ hstep
  refine ⟨parser.run_append hrun (parser.run_singleton hstep), ?_, ?_⟩
  · obtain rfl : (φ.next b).1 = φ' := congrArg Prod.fst (Option.some.inj hstep)
    exact φ.wf_next hwf b
  obtain rfl : (φ.next b).1 = φ' := congrArg Prod.fst (Option.some.inj hstep)
  cases φ with
  | idle => simp only [Phase.next]; split_ifs <;> trivial
  | start =>
    simp only [Phase.next]
    split_ifs with hb
    · exact ⟨bs, ⟨out, hrun⟩, by rw [hb]⟩
    · trivial
  | sizeHigh =>
    obtain ⟨pre, hpre, rfl⟩ := hfol
    exact ⟨pre, hpre, List.append_assoc ..⟩
  | sizeLow hi =>
    obtain ⟨pre, hpre, rfl⟩ := hfol
    simp only [Phase.next]
    split_ifs with hsize
    · exact ⟨pre, hi, b, hpre, by simp, rfl⟩
    · trivial
  | payload n got =>
    obtain ⟨pre, hi, lo, hpre, rfl, hsize⟩ := hfol
    simp only [Phase.next]
    split_ifs with hlt
    · exact ⟨pre, hi, lo, hpre, by simp, hsize⟩
    all_goals trivial

/-- A completed frame: behind some bytes after which the parser waits for the frame type come the
frame type, the size, the payload and the end byte. -/
theorem bytes_of_output {bs : List UInt8} {b : UInt8} {φ φ' : Phase} {out : List (List UInt8)}
    {payload : List UInt8} (h : parser.run .idle bs = some (φ, out))
    (hb : parser φ b = some (φ', [payload])) :
    ∃ pre hi lo, Waiting pre ∧ bs = pre ++ [0xDA, hi, lo] ++ payload ∧
      sizeOf16 hi lo = payload.length ∧ payload.length ≤ 60 ∧ b = 0x36 := by
  obtain ⟨hwf, hfol⟩ := follows_of_run h
  have hout : (φ.next b).2 = [payload] := congrArg Prod.snd (Option.some.inj hb)
  cases φ with
  | payload n got =>
    obtain ⟨pre, hi, lo, hpre, rfl, hsize⟩ := hfol
    by_cases hlt : got.length < n
    · simp [Phase.next, if_pos hlt] at hout
    · have hn : got.length = n := Nat.le_antisymm hwf.1 (Nat.le_of_not_lt hlt)
      by_cases ht : b = 0x36
      · obtain rfl : got = payload := by simpa [Phase.next, if_neg hlt, if_pos ht] using hout
        exact ⟨pre, hi, lo, hpre, rfl, hsize.trans hn.symm, hn ▸ hwf.2, ht⟩
      · simp [Phase.next, if_neg hlt, if_neg ht] at hout
  | _ => simp [Phase.next] at hout

/-- The bytes end with a contiguous frame of the given payload. -/
def EndsWithFrame (bs payload : List UInt8) : Prop :=
  ∃ pre hi lo, bs = pre ++ [0xC9, 0xDA, hi, lo] ++ payload ++ [0x36] ∧
    sizeOf16 hi lo = payload.length ∧ payload.length ≤ 60

/-- Bytes that end with a frame from its type on end with a contiguous frame exactly when the start
byte comes directly before the type. -/
theorem endsWithFrame_iff {pre payload : List UInt8} {hi lo : UInt8}
    (hsize : sizeOf16 hi lo = payload.length) (hlen : payload.length ≤ 60) :
    EndsWithFrame (pre ++ [0xDA, hi, lo] ++ payload ++ [0x36]) payload ↔
      pre.getLast? = some 0xC9 := by
  constructor
  · rintro ⟨pre', hi', lo', h, -, -⟩
    have h : pre ++ [0xDA, hi, lo] = pre' ++ [0xC9] ++ [0xDA, hi', lo'] := by
      simpa using List.append_cancel_right (List.append_cancel_right h)
    obtain ⟨rfl, -⟩ := List.append_inj' h rfl
    exact List.getLast?_concat
  · intro h
    obtain ⟨pre', rfl⟩ := List.getLast?_eq_some_iff.1 h
    exact ⟨pre', hi, lo, by simp, hsize, hlen⟩

end PowerMeterDisplay
