import PowerMeterDisplay.ReceiverRefine

/-!
# Isolation of the two ports

The main loop calls `proto_receiver` for the ports in turn.  The receiver variables and the message
buffer are shared, so a port's record is what its own bytes alone give only as long as the receiver
is idle whenever the stream changes the port, and no frame is acted on by bytes behind its payload
that the other port wrote to the buffer (`Undisturbed`).  The proof runs the common receiver next to
one that gets the bytes of one port only.
-/

namespace PowerMeterDisplay

/-! ## What the command switch reads and writes -/

namespace Dispatch

/-- One past the last byte of the message buffer that the command switch and its handler read: the
command byte is read even if the frame is empty, the hall scale only if the frame announces it. -/
def readEnd (x : Dispatch) : ℕ :=
  match x.action with
  | .recvData => 1 + 4 * ((x.count.toNat + 2) / 4)
  | .recvScale => if x.count.toNat < 15 then 1 else x.msgBuf.scaleEnd
  | .flushBuffer => 1
  | .resetToBootloader => 1

/-- What a frame makes the receiver do, and the payload that it does it with. -/
def frame (x : Dispatch) : Action × List UInt8 := (x.action, x.payload)

/-- The handler of the command writes the byte at offset `j` of the message buffer. -/
def Writes (x : Dispatch) (j : ℕ) : Prop :=
  x.action = .recvScale ∧ 15 ≤ x.count.toNat ∧ 7 ≤ j ∧ j < 11

instance (x : Dispatch) (j : ℕ) : Decidable (x.Writes j) :=
  inferInstanceAs (Decidable (_ ∧ _ ∧ _ ∧ _))

/-- Two dispatches that agree on the payload and on what is read. -/
structure Agree (x y : Dispatch) : Prop where
  count_le : x.count.toNat ≤ 60
  count_eq : y.count = x.count
  payload_eq : y.payload = x.payload
  byteAt_eq : ∀ j < x.readEnd, x.msgBuf.byteAt j = y.msgBuf.byteAt j

/-- The test of `proto_recv_scale` on the narrowed length, on the count itself. -/
theorem len_lt_iff {x : Dispatch} (h : x.count.toNat ≤ 60) : x.len < 15 ↔ x.count.toNat < 15 := by
  rw [UInt8.lt_iff_toNat_lt, len_toNat h]
  rfl

theorem readEnd_pos (x : Dispatch) : 0 < x.readEnd := by
  unfold readEnd
  rcases x.action with _ | _ | _ | _
  · exact Nat.lt_add_right _ Nat.one_pos
  · have hle := x.msgBuf.le_scaleEnd
    simp only
    split_ifs <;> omega
  · exact Nat.one_pos
  · exact Nat.one_pos

/-- Only a complete scale frame writes to the buffer. -/
theorem byteAt_bufAfter_of_not_writes {x : Dispatch} (h : x.count.toNat ≤ 60) {j : ℕ}
    (hj : ¬ x.Writes j) : x.bufAfter.byteAt j = x.msgBuf.byteAt j := by
  unfold bufAfter
  rcases haction : x.action with _ | _ | _ | _
  · rfl
  · by_cases hshort : x.len < 15
    · simp only [if_pos hshort]
    · simp only [if_neg hshort]
      rw [len_lt_iff h] at hshort
      refine MsgBuf.byteAt_setFloat_of_lt _ ?_ _
      by_contra hin
      exact hj ⟨haction, by omega, by omega, by omega⟩
  · rfl
  · rfl

namespace Agree

variable {x y : Dispatch}

theorem action_eq (h : Agree x y) : y.action = x.action := by
  have hcmd : x.command = y.command := h.byteAt_eq 0 x.readEnd_pos
  rw [action, action, hcmd]

theorem frame_eq (h : Agree x y) : y.frame = x.frame := by
  rw [frame, frame, h.action_eq, h.payload_eq]

theorem scale_eq (h : Agree x y) (haction : x.action = .recvScale)
    (hlong : ¬ x.count.toNat < 15) : x.msgBuf.scale = y.msgBuf.scale := by
  refine MsgBuf.scale_congr fun j hj => h.byteAt_eq j ?_
  simpa only [readEnd, haction, if_neg hlong] using hj

/-- The effect of a frame on a record depends on what is read. -/
theorem apply_eq (h : Agree x y) (d : DisplayData) : x.apply d = y.apply d := by
  have hlen : y.len = x.len := by rw [len, len, h.count_eq]
  unfold apply
  rw [h.action_eq, hlen]
  rcases haction : x.action with _ | _ | _ | _
  · have hsamples : x.msgBuf.samples x.len = y.msgBuf.samples x.len := by
      refine MsgBuf.samples_congr fun j hj => h.byteAt_eq j ?_
      rw [len_toNat h.count_le] at hj
      simpa only [readEnd, haction] using hj
    show (x.msgBuf.samples x.len).foldl addSample d = (y.msgBuf.samples x.len).foldl addSample d
    rw [hsamples]
  · by_cases hshort : x.len < 15
    · simp only [if_pos hshort]
    · simp only [if_neg hshort, h.scale_eq haction (mt (len_lt_iff h.count_le).2 hshort)]
  · rfl
  · rfl

/-- What the handler writes depends on what is read. -/
theorem byteAt_bufAfter_eq (h : Agree x y) {j : ℕ}
    (hj : x.Writes j ∨ x.msgBuf.byteAt j = y.msgBuf.byteAt j) :
    x.bufAfter.byteAt j = y.bufAfter.byteAt j := by
  by_cases hw : x.Writes j
  · obtain ⟨haction, hlong, hlo, hhi⟩ := hw
    have hshort : ¬ x.len < 15 := by rw [len_lt_iff h.count_le]; omega
    have hlen : y.len = x.len := by rw [len, len, h.count_eq]
    have hread : x.msgBuf.byteAt j = y.msgBuf.byteAt j := by
      refine h.byteAt_eq j (hhi.trans_le ?_)
      simp only [readEnd, haction, if_neg (Nat.not_lt.2 hlong)]
      exact x.msgBuf.le_scaleEnd
    rw [bufAfter, bufAfter, h.action_eq, haction, hlen]
    simp only [if_neg hshort, h.scale_eq haction (Nat.not_lt.2 hlong), MsgBuf.setFloat,
      MsgBuf.byteAt_setByte, hread]
  · have hw' : ¬ y.Writes j := by
      rw [Writes, h.action_eq, h.count_eq]
      exact hw
    rw [byteAt_bufAfter_of_not_writes h.count_le hw,
      byteAt_bufAfter_of_not_writes (by rw [h.count_eq]; exact h.count_le) hw', hj.resolve_left hw]

end Agree

end Dispatch

/-! ## One byte on two receivers in the same phase -/

namespace Receiver

/-- Taking in the byte writes the byte at offset `j` of the message buffer. -/
def Writes (r : Receiver) (byte : UInt8) (j : ℕ) : Prop :=
  (r.tpm2state = .startb4 ∧ r.count < r.framesize ∧ j = r.count.toNat) ∨
    ∃ x ∈ r.dispatched byte, x.Writes j

instance (r : Receiver) (byte : UInt8) (j : ℕ) : Decidable (r.Writes byte j) :=
  inferInstanceAs (Decidable (_ ∨ _))

theorem mem_dispatched {r : Receiver} {byte : UInt8} {x : Dispatch} (h : x ∈ r.dispatched byte) :
    x = ⟨r.msgBuf, r.count⟩ := by
  unfold dispatched at h
  split_ifs at h
  · exact (Option.mem_some.1 h).symm
  · exact absurd h (Option.not_mem_none x)

end Receiver

namespace Phase.Holds

variable {φ : Phase} {r u : Receiver}

theorem eq_idle (h : φ.Holds r) (hidle : r.tpm2state = .idle) : φ = .idle := by
  cases φ with
  | idle => rfl
  | start => simp [Phase.Holds, hidle] at h
  | sizeHigh => simp [Phase.Holds, hidle] at h
  | sizeLow hi => simp [Phase.Holds, hidle] at h
  | payload n got => simp [Phase.Holds, hidle] at h

/-- The payload bytes land in the same place, inside the buffer. -/
theorem writing_congr (hr : φ.Holds r) (hu : φ.Holds u)
    (h : r.tpm2state = .startb4 ∧ r.count < r.framesize) :
    (u.tpm2state = .startb4 ∧ u.count < u.framesize) ∧ u.count = r.count ∧
      r.count.toNat < 64 := by
  cases φ with
  | payload n got =>
    obtain ⟨-, hsize, hn, hcount, -, -⟩ := hr
    obtain ⟨hstate, hsize', -, hcount', -, -⟩ := hu
    have heq : u.count = r.count := by rw [← UInt16.toNat_inj, hcount, hcount']
    have hsize_eq : u.framesize = r.framesize := by rw [← UInt16.toNat_inj, hsize, hsize']
    have hlt := UInt16.lt_iff_toNat_lt.1 h.2
    exact ⟨⟨hstate, by rw [heq, hsize_eq]; exact h.2⟩, heq, by omega⟩
  | idle => simp [Phase.Holds, h.1] at hr
  | start => simp [Phase.Holds, h.1] at hr
  | sizeHigh => simp [Phase.Holds, h.1] at hr
  | sizeLow hi => simp [Phase.Holds, h.1] at hr

/-- The payloads completed are the same, and the frames act alike if the bytes read behind the
payload are the same. -/
theorem dispatched_agree (hr : φ.Holds r) (hu : φ.Holds u) {b : UInt8}
    (hbehind : ∀ x ∈ r.dispatched b, ∀ j < x.readEnd, x.count.toNat ≤ j →
      r.msgBuf.byteAt j = u.msgBuf.byteAt j) :
    (r.dispatched b = none ∧ u.dispatched b = none) ∨
      ∃ x y, r.dispatched b = some x ∧ u.dispatched b = some y ∧ Dispatch.Agree x y := by
  obtain ⟨hout, hle⟩ := dispatched_eq hr b
  obtain ⟨hout', hle'⟩ := dispatched_eq hu b
  have hpayloads := hout.trans hout'.symm
  rcases hx : r.dispatched b with _ | x <;> rcases hy : u.dispatched b with _ | y <;>
    simp only [hx, hy, Option.toList_none, Option.toList_some, List.map_nil, List.map_cons,
      reduceCtorEq, List.cons.injEq, and_true] at hpayloads
  · exact Or.inl ⟨rfl, rfl⟩
  · have hx60 := hle x hx
    have hy60 := hle' y hy
    have hcount : y.count = x.count := by
      rw [← UInt16.toNat_inj, ← Dispatch.length_payload hx60, ← Dispatch.length_payload hy60,
        hpayloads]
    refine Or.inr ⟨x, y, rfl, rfl, hx60, hcount, hpayloads.symm, fun j hj => ?_⟩
    rcases Nat.lt_or_ge j x.count.toNat with hlt | hge
    · have hget := congrArg (fun l => l[j]?) hpayloads
      simp only [Dispatch.payload, List.getElem?_take, hcount, if_pos hlt] at hget
      simpa [MsgBuf.byteAt] using congrArg (fun o => o.getD 0) hget
    · rw [Receiver.mem_dispatched hx, Receiver.mem_dispatched hy]
      exact hbehind x hx j hj hge

/-- A byte that is not written stays. -/
theorem byteAt_bufNext_of_not_writes (hr : φ.Holds r) {b : UInt8} {j : ℕ} (hj : ¬ r.Writes b j) :
    (r.bufNext b).byteAt j = r.msgBuf.byteAt j := by
  obtain ⟨hpayload, hswitch⟩ := not_or.1 hj
  unfold Receiver.bufNext
  split_ifs with hwriting
  · rw [MsgBuf.byteAt_setByte, if_neg fun h => hpayload ⟨hwriting.1, hwriting.2, h.1⟩]
  · rcases hx : r.dispatched b with _ | x
    · rfl
    · have hle := (dispatched_eq hr b).2 x hx
      show x.bufAfter.byteAt j = _
      rw [Dispatch.byteAt_bufAfter_of_not_writes hle fun h => hswitch ⟨x, hx, h⟩,
        Receiver.mem_dispatched hx]

/-- A byte of the buffer that is written, or was the same before, is the same afterwards. -/
theorem byteAt_bufNext_eq (hr : φ.Holds r) (hu : φ.Holds u) {b : UInt8}
    (hbehind : ∀ x ∈ r.dispatched b, ∀ j < x.readEnd, x.count.toNat ≤ j →
      r.msgBuf.byteAt j = u.msgBuf.byteAt j) {j : ℕ}
    (hj : r.Writes b j ∨ r.msgBuf.byteAt j = u.msgBuf.byteAt j) :
    (r.bufNext b).byteAt j = (u.bufNext b).byteAt j := by
  unfold Receiver.bufNext
  by_cases hwriting : r.tpm2state = .startb4 ∧ r.count < r.framesize
  · obtain ⟨hwriting', hcount, hinside⟩ := hr.writing_congr hu hwriting
    rw [if_pos hwriting, if_pos hwriting', hcount, MsgBuf.byteAt_setByte, MsgBuf.byteAt_setByte]
    split_ifs with hat
    · rfl
    · refine hj.resolve_left fun h => ?_
      rcases h with ⟨-, -, h⟩ | ⟨x, hx, -⟩
      · exact hat ⟨h, by omega⟩
      · rw [Receiver.dispatched, if_neg fun hend => hend.2.1 hwriting.2] at hx
        exact absurd hx (Option.not_mem_none x)
  · have hwriting' : ¬ (u.tpm2state = .startb4 ∧ u.count < u.framesize) :=
      fun h => hwriting (hu.writing_congr hr h).1
    rw [if_neg hwriting, if_neg hwriting']
    rcases hr.dispatched_agree hu hbehind with ⟨hx, hy⟩ | ⟨x, y, hx, hy, hagree⟩
    · rw [hx, hy]
      refine hj.resolve_left fun h => ?_
      rcases h with h | ⟨z, hz, -⟩
      · exact hwriting ⟨h.1, h.2.1⟩
      · rw [hx] at hz
        exact absurd hz (Option.not_mem_none z)
    · rw [hx, hy]
      refine hagree.byteAt_bufAfter_eq ?_
      rw [Receiver.mem_dispatched hx, Receiver.mem_dispatched hy]
      refine hj.imp_left fun h => ?_
      rcases h with h | ⟨z, hz, hwrites⟩
      · exact absurd ⟨h.1, h.2.1⟩ hwriting
      · rwa [← Receiver.mem_dispatched hz]

end Phase.Holds

theorem filter_eq_flatMap {α : Type} (p : α → Bool) (l : List α) :
    l.filter p = l.flatMap fun x => [x].filter p := by
  rw [← List.filter_flatMap, List.flatMap_singleton']

/-- What one port is tagged with passes the filter of that port only. -/
theorem filter_tagged {α : Type} (p q : Port) (l : List α) :
    (l.map fun x => (p, x)).filter (·.1 = q) = if p = q then l.map fun x => (p, x) else [] := by
  split_ifs with h
  · refine List.filter_eq_self.2 fun x hx => ?_
    obtain ⟨a, -, rfl⟩ := List.mem_map.1 hx
    exact decide_eq_true h
  · refine List.filter_eq_nil_iff.2 fun x hx => ?_
    obtain ⟨a, -, rfl⟩ := List.mem_map.1 hx
    simpa using h

/-! ## The common receiver next to the receiver of one port -/

/-- The receiver with the frames it recognises as outputs, each with the port it acts on. -/
def recognise : Machine Ports (Port × UInt8) (Port × Action × List UInt8)
  | s, e => (receiveByte s e).map fun r => (r.1, r.2.map fun x => (e.1, x.frame))

/-- The state of both ports with the port of the last byte and the port that wrote each byte of the
message buffer. -/
structure Tracked where
  ports : Ports
  last : Option Port
  owner : ℕ → Option Port

/-- Nothing was received yet. -/
def Tracked.ofPorts (s : Ports) : Tracked := ⟨s, none, fun _ => none⟩

/-- The receiver, recording which port wrote what. -/
def receiveTracked : Machine Tracked (Port × UInt8) (Port × Action × List UInt8)
  | s, (p, b) =>
    (recognise s.ports (p, b)).map fun r =>
      (⟨r.1, some p, fun j => if s.ports.receiver.Writes b j then some p else s.owner j⟩, r.2)

/-- Taking in the byte of a port does not depend on the other port: the receiver is idle if the last
byte was not this port's, and for a frame that the byte completes no byte behind the payload is read
that the other port wrote. -/
def Undisturbed (s : Tracked) (e : Port × UInt8) : Prop :=
  (s.last = some e.1 ∨ s.ports.receiver.tpm2state = .idle) ∧
    ∀ x ∈ s.ports.receiver.dispatched e.2, ∀ j < x.readEnd, x.count.toNat ≤ j →
      s.owner j ≠ some e.1.other

instance : DecidableRel Undisturbed := fun _ _ => inferInstanceAs (Decidable (_ ∧ _))

/-- The common state `s` looks to port `q` like the state `t` of a receiver that gets the bytes of
`q` only. -/
structure Tracked.LooksLike (q : Port) (s : Tracked) (t : Ports) : Prop where
  phases : ∃ φ ψ : Phase, φ.Holds s.ports.receiver ∧ ψ.Holds t.receiver ∧
    ((s.last = some q ∧ ψ = φ) ∨ (s.last ≠ some q ∧ ψ = .idle))
  lcdData : t.lcdData.get q = s.ports.lcdData.get q
  buf : ∀ j, s.owner j ≠ some q.other →
    s.ports.receiver.msgBuf.byteAt j = t.receiver.msgBuf.byteAt j

theorem recognise_eq {φ : Phase} {s : Ports} (h : φ.Holds s.receiver) (p : Port) (b : UInt8) :
    ∃ s', recognise s (p, b) =
        some (s', (s.receiver.dispatched b).toList.map fun x => (p, x.frame)) ∧
      (φ.next b).1.Holds s'.receiver ∧ s'.receiver.msgBuf = s.receiver.bufNext b ∧
      s'.lcdData = s.lcdData.set p
        ((s.receiver.dispatched b).elim (s.lcdData.get p) (·.apply (s.lcdData.get p))) := by
  obtain ⟨s', hstep, hrest⟩ := receiveByte_eq h p b
  exact ⟨s', by rw [recognise, hstep]; rfl, hrest⟩

namespace Tracked.LooksLike

variable {q : Port} {s : Tracked} {t : Ports}

/-- A byte of the other port is not seen. -/
theorem step_other (h : LooksLike q s t) {p : Port} (hp : p ≠ q) {b : UInt8}
    (hund : Undisturbed s (p, b)) :
    ∃ (s' : Tracked) (fs : List (Action × List UInt8)),
      receiveTracked s (p, b) = some (s', fs.map fun f => (p, f)) ∧ LooksLike q s' t := by
  obtain ⟨φ, ψ, hφ, hψ, hphases⟩ := h.phases
  obtain ⟨s', hstep, hholds, hbuf, hlcd⟩ := recognise_eq hφ p b
  refine ⟨_, (s.ports.receiver.dispatched b).toList.map Dispatch.frame,
    by rw [receiveTracked, hstep, List.map_map]; rfl, ⟨_, ψ, hholds, hψ, Or.inr ⟨?_, ?_⟩⟩, ?_,
    fun j hj => ?_⟩
  · exact fun hlast => hp (Option.some.inj hlast)
  · rcases hphases with ⟨hlast, rfl⟩ | ⟨-, hidle⟩
    · refine hφ.eq_idle (hund.1.resolve_left fun hp' => hp ?_)
      exact Option.some.inj (hp'.symm.trans hlast)
    · exact hidle
  · rw [h.lcdData, hlcd, PerPort.get_set_of_ne _ hp.symm]
  · have hother : p = q.other := by cases p <;> cases q <;> first | rfl | exact absurd rfl hp
    simp only at hj ⊢
    split_ifs at hj with hwrites
    · exact absurd (congrArg some hother) hj
    · rw [hbuf, hφ.byteAt_bufNext_of_not_writes hwrites]
      exact h.buf j hj

/-- A byte of the port itself does the same in both receivers. -/
theorem step_own (h : LooksLike q s t) {b : UInt8} (hund : Undisturbed s (q, b)) :
    ∃ (s' : Tracked) (t' : Ports) (fs : List (Action × List UInt8)),
      receiveTracked s (q, b) = some (s', fs.map fun f => (q, f)) ∧
      recognise t (q, b) = some (t', fs.map fun f => (q, f)) ∧ LooksLike q s' t' := by
  obtain ⟨φ, ψ, hφ, hψ, hphases⟩ := h.phases
  have hsame : ψ = φ := by
    rcases hphases with ⟨-, hsame⟩ | ⟨hlast, hidle⟩
    · exact hsame
    · rw [hidle, hφ.eq_idle (hund.1.resolve_left hlast)]
  rw [hsame] at hψ
  have hbehind : ∀ x ∈ s.ports.receiver.dispatched b, ∀ j < x.readEnd, x.count.toNat ≤ j →
      s.ports.receiver.msgBuf.byteAt j = t.receiver.msgBuf.byteAt j :=
    fun x hx j hj hge => h.buf j (hund.2 x hx j hj hge)
  obtain ⟨s', hstep, hholds, hbuf, hlcd⟩ := recognise_eq hφ q b
  obtain ⟨t', hstep', hholds', hbuf', hlcd'⟩ := recognise_eq hψ q b
  have hframes : (t.receiver.dispatched b).toList.map Dispatch.frame =
      (s.ports.receiver.dispatched b).toList.map Dispatch.frame := by
    rcases hφ.dispatched_agree hψ hbehind with ⟨hx, hy⟩ | ⟨x, y, hx, hy, hagree⟩
    · rw [hx, hy]
    · rw [hx, hy]
      exact congrArg (fun f => [f]) hagree.frame_eq
  refine ⟨_, t', (s.ports.receiver.dispatched b).toList.map Dispatch.frame,
    by rw [receiveTracked, hstep, List.map_map]; rfl,
    by rw [hstep', ← hframes, List.map_map]; rfl,
    ⟨_, _, hholds, hholds', Or.inl ⟨rfl, rfl⟩⟩, ?_, fun j hj => ?_⟩
  · rw [hlcd, hlcd', PerPort.get_set_self, PerPort.get_set_self, h.lcdData]
    rcases hφ.dispatched_agree hψ hbehind with ⟨hx, hy⟩ | ⟨x, y, hx, hy, hagree⟩
    · rw [hx, hy]
    · rw [hx, hy]
      exact (hagree.apply_eq _).symm
  · rw [hbuf, hbuf']
    refine hφ.byteAt_bufNext_eq hψ hbehind ?_
    simp only at hj
    split_ifs at hj with hwrites
    · exact Or.inl hwrites
    · exact Or.inr (h.buf j hj)

/-- One byte of either port. -/
theorem step (h : LooksLike q s t) (e : Port × UInt8) (hund : Undisturbed s e) :
    ∃ s' t' out, receiveTracked s e = some (s', out) ∧
      recognise.run t ([e].filter (·.1 = q)) =
        some (t', out.flatMap fun x => [x].filter (·.1 = q)) ∧ LooksLike q s' t' := by
  obtain ⟨p, b⟩ := e
  by_cases hp : p = q
  · subst hp
    obtain ⟨s', t', fs, hstep, hstep', h'⟩ := h.step_own hund
    refine ⟨s', t', _, hstep, ?_, h'⟩
    rw [← filter_eq_flatMap, filter_tagged, if_pos rfl]
    simpa using recognise.run_singleton hstep'
  · obtain ⟨s', fs, hstep, h'⟩ := h.step_other hp hund
    refine ⟨s', t, _, hstep, ?_, h'⟩
    rw [← filter_eq_flatMap, filter_tagged, if_neg hp]
    simp [hp]

end Tracked.LooksLike

/-! ## Runs -/

/-- Recording who wrote what does not change the run. -/
theorem run_receiveTracked {es : List (Port × UInt8)} {s s' : Tracked}
    {out : List (Port × Action × List UInt8)} (h : receiveTracked.run s es = some (s', out)) :
    recognise.run s.ports es = some (s'.ports, out) := by
  induction es generalizing s out with
  | nil =>
    obtain ⟨rfl, rfl⟩ := Prod.mk.inj (Option.some.inj h)
    rfl
  | cons e es ih =>
    obtain ⟨s₁, o₁, o₂, h₁, h₂, rfl⟩ := receiveTracked.run_cons_eq_some_iff.1 h
    obtain ⟨⟨t, o⟩, hstep, he⟩ := Option.map_eq_some_iff.1 h₁
    obtain ⟨rfl, rfl⟩ := Prod.mk.inj he
    exact recognise.run_cons hstep (ih h₂)

/-- A run whose bytes are all undisturbed, next to the run on the bytes of one port alone. -/
theorem run_looksLike (q : Port) {s : Ports} (hidle : s.receiver.tpm2state = .idle)
    {es : List (Port × UInt8)} (hund : receiveTracked.Along Undisturbed (.ofPorts s) es) :
    ∃ t u out, receiveTracked.run (.ofPorts s) es = some (t, out) ∧
      recognise.run s (es.filter (·.1 = q)) = some (u, out.filter (·.1 = q)) ∧
      t.LooksLike q u := by
  have hstart : (Tracked.ofPorts s).LooksLike q s :=
    ⟨⟨.idle, .idle, hidle, hidle, Or.inr ⟨nofun, rfl⟩⟩, rfl, fun _ _ => rfl⟩
  obtain ⟨t, u, out, hrun, hsolo, hlike⟩ := receiveTracked.run_simulate recognise
    (fun e => [e].filter (·.1 = q)) (fun x => [x].filter (·.1 = q))
    (fun _ _ e h => h.step e) es _ _ hstart hund
  rw [← filter_eq_flatMap, ← filter_eq_flatMap] at hsolo
  exact ⟨t, u, out, hrun, hsolo, hlike⟩

/-- A stream whose bytes are all undisturbed: the frames recognised for a port and its record are
those of its own bytes alone. -/
theorem recognise_isolated (q : Port) {s : Ports} (hidle : s.receiver.tpm2state = .idle)
    {es : List (Port × UInt8)} (hund : receiveTracked.Along Undisturbed (.ofPorts s) es) :
    ∃ s' out t, recognise.run s es = some (s', out) ∧
      recognise.run s (es.filter (·.1 = q)) = some (t, out.filter (·.1 = q)) ∧
      s'.lcdData.get q = t.lcdData.get q := by
  obtain ⟨s', t, out, hrun, hsolo, hlike⟩ := run_looksLike q hidle hund
  exact ⟨s'.ports, out, t, run_receiveTracked hrun, hsolo, hlike.lcdData.symm⟩

/-! ## The main loop's alternation -/

/-- One turn of the main loop: both calls of `proto_receiver`, with the bytes that each pulls. -/
def receiveRound : Machine Ports (List UInt8 × List UInt8) (Port × Action × List UInt8)
  | s, (batch₁, batch₂) => do
    let (s, out₁) ← protoReceiver .one batch₁ s
    let (s, out₂) ← protoReceiver .two batch₂ s
    some (s, (out₁.map fun x => (.one, x.frame)) ++ out₂.map fun x => (.two, x.frame))

/-- The bytes of a turn in the order in which they are taken in. -/
def roundBytes (x : List UInt8 × List UInt8) : List (Port × UInt8) :=
  (x.1.map fun b => (.one, b)) ++ x.2.map fun b => (.two, b)

theorem recognise_protoReceiver (p : Port) (batch : List UInt8) (s : Ports) :
    recognise.run s (batch.map fun b => (p, b)) =
      (protoReceiver p batch s).map fun r => (r.1, r.2.map fun x => (p, x.frame)) := by
  induction batch generalizing s with
  | nil => rfl
  | cons b batch ih =>
    rw [protoReceiver, List.map_cons, Machine.run, Machine.run, recognise]
    rcases receiveByte s (p, b) with _ | ⟨s₁, o₁⟩
    · rfl
    · simp only [Option.map_some, ih, protoReceiver, Option.map_map]
      congr 1
      funext r
      simp

/-- A turn takes in its bytes one after the other. -/
theorem receiveRound_eq (s : Ports) (x : List UInt8 × List UInt8) :
    receiveRound s x = recognise.run s (roundBytes x) := by
  rw [roundBytes, recognise.run_append_eq_bind, recognise_protoReceiver, receiveRound]
  rcases protoReceiver .one x.1 s with _ | ⟨s₁, o₁⟩
  · rfl
  · simp only [Option.bind_eq_bind, Option.bind_some, Option.map_some, recognise_protoReceiver]
    rcases protoReceiver .two x.2 s₁ with _ | ⟨s₂, o₂⟩ <;> rfl

theorem run_receiveRound (s : Ports) (rounds : List (List UInt8 × List UInt8)) :
    receiveRound.run s rounds = recognise.run s (rounds.flatMap roundBytes) := by
  have hround : receiveRound = fun s x => recognise.run s (roundBytes x) := by
    funext s x
    exact receiveRound_eq s x
  rw [hround, Machine.run_map recognise.run roundBytes, recognise.run_flatten]
  rfl

/-- The law of port isolation, for every initial display state with the parser idle and every way
of cutting the two streams into turns in which no byte is disturbed: both records, and the frames
recognised for each port, are those of the port's own batches alone. -/
theorem port_isolation {s : Ports} (hidle : s.receiver.tpm2state = .idle)
    (rounds : List (List UInt8 × List UInt8))
    (hund : receiveTracked.Along Undisturbed (.ofPorts s) (rounds.flatMap roundBytes)) :
    ∃ s' out s₁ s₂, receiveRound.run s rounds = some (s', out) ∧
      receiveRound.run s (rounds.map fun x => (x.1, [])) = some (s₁, out.filter (·.1 = .one)) ∧
      receiveRound.run s (rounds.map fun x => ([], x.2)) = some (s₂, out.filter (·.1 = .two)) ∧
      s'.lcdData.one = s₁.lcdData.one ∧ s'.lcdData.two = s₂.lcdData.two := by
  obtain ⟨s', out, s₁, hrun, hone, hlcd₁⟩ := recognise_isolated .one hidle hund
  obtain ⟨s'', out', s₂, hrun', htwo, hlcd₂⟩ := recognise_isolated .two hidle hund
  obtain ⟨rfl, rfl⟩ := Prod.mk.inj (Option.some.inj (hrun'.symm.trans hrun))
  refine ⟨s'', out', s₁, s₂, (run_receiveRound _ _).trans hrun, ?_, ?_, hlcd₁, hlcd₂⟩
  · rw [run_receiveRound, ← hone, List.filter_flatMap, List.flatMap_map]
    simp [roundBytes, filter_tagged]
  · rw [run_receiveRound, ← htwo, List.filter_flatMap, List.flatMap_map]
    simp [roundBytes, filter_tagged]

/-- A scale frame of port 1 without the hall flag, whose 15 bytes are all that is read, behind a
longer data frame of port 2. -/
theorem port_isolation_scale :
    let data := encodeWith [0xDA, 1, 0, 2, 0, 3, 0, 4, 0, 5, 0, 6, 0, 7, 0, 8, 0] 0x36
    let scale := encodeWith [0x5C, 0, 0, 0, 0x80, 0x3F, 0, 0, 0, 0x20, 0x41, 0, 0, 0, 0] 0x36
    ∃ s' out s₁ s₂, receiveRound.run .start [([], data), (scale, [])] = some (s', out) ∧
      receiveRound.run .start [([], []), (scale, [])] = some (s₁, out.filter (·.1 = .one)) ∧
      receiveRound.run .start [([], data), ([], [])] = some (s₂, out.filter (·.1 = .two)) ∧
      s'.lcdData.one = s₁.lcdData.one ∧ s'.lcdData.two = s₂.lcdData.two :=
  port_isolation (s := .start) rfl [([], encodeWith
      [0xDA, 1, 0, 2, 0, 3, 0, 4, 0, 5, 0, 6, 0, 7, 0, 8, 0] 0x36),
    (encodeWith [0x5C, 0, 0, 0, 0x80, 0x3F, 0, 0, 0, 0x20, 0x41, 0, 0, 0, 0] 0x36, [])]
    (by decide +kernel)

/-- A data frame on port 1 that is taken in over two turns, with a data frame of port 2 between its
parts: neither record gets its sample. -/
theorem port_isolation_violated :
    Ports.start.receiver.tpm2state = .idle ∧
      ∃ s' out s₁ out₁,
        receiveRound.run .start
          [([0xC9, 0xDA, 0x00, 0x05, 0xDA, 0x01], encodeWith [0xDA, 0x01, 0x00, 0x02, 0x00] 0x36),
            ([0x00, 0x02, 0x00, 0x36], [])] = some (s', out) ∧
        receiveRound.run .start [([0xC9, 0xDA, 0x00, 0x05, 0xDA, 0x01], []),
          ([0x00, 0x02, 0x00, 0x36], [])] = some (s₁, out₁) ∧
        s'.lcdData.one ≠ s₁.lcdData.one :=
  ⟨rfl, _, _, _, _, rfl, rfl, by decide⟩

/-! ## A byte that finds the parser inside a frame of the other port -/

/-- Bytes of one port, on the frame parser and on the receiver. -/
theorem run_recognise_port {φ φ' : Phase} {s : Ports} (h : φ.Holds s.receiver) (p : Port)
    {bs : List UInt8} {out : List (List UInt8)} (hparse : parser.run φ bs = some (φ', out)) :
    ∃ (s' : Ports) (fs : List (Action × List UInt8)),
      recognise.run s (bs.map fun b => (p, b)) = some (s', fs.map fun f => (p, f)) ∧
      fs.map Prod.snd = out ∧ φ'.Holds s'.receiver := by
  obtain ⟨s', ψ, ds, hrun, hparse', hholds⟩ := receive_refine (bs.map fun b => (p, b)) h
  rw [List.map_map, show Prod.snd ∘ (fun b : UInt8 => (p, b)) = id from rfl, List.map_id,
    hparse] at hparse'
  obtain ⟨rfl, rfl⟩ := Prod.mk.inj (Option.some.inj hparse')
  refine ⟨s', ds.map Dispatch.frame, ?_, List.map_map, hholds⟩
  rw [recognise_protoReceiver, protoReceiver, hrun, Option.map_some, List.map_map]
  rfl

/-- The port of the last byte is known unless nothing was received. -/
theorem ports_of_last_eq_none {s : Ports} {es : List (Port × UInt8)} {t : Tracked}
    {out : List (Port × Action × List UInt8)}
    (hrun : receiveTracked.run (.ofPorts s) es = some (t, out)) (hlast : t.last = none) :
    t.ports = s := by
  refine receiveTracked.run_history (P := fun _ t _ => t.last = none → t.ports = s)
    (fun _ => rfl) ?_ hrun hlast
  rintro es t out ⟨p, b⟩ t' o - hstep hnone
  obtain ⟨r, -, he⟩ := Option.map_eq_some_iff.1 hstep
  obtain ⟨rfl, -⟩ := Prod.mk.inj he
  exact absurd hnone (Option.some_ne_none p)

/-- The first half of `Undisturbed` cannot be dropped: when a byte finds the parser inside a frame
of the other port, the bytes may go on in such a way that the frames recognised for the other port
are not those of its own bytes alone. -/
theorem exists_not_isolated {s : Ports} (hidle : s.receiver.tpm2state = .idle)
    {es : List (Port × UInt8)} (hund : receiveTracked.Along Undisturbed (.ofPorts s) es)
    {t : Tracked} {out : List (Port × Action × List UInt8)}
    (hrun : receiveTracked.run (.ofPorts s) es = some (t, out)) {p : Port}
    (hlast : t.last ≠ some p) (hbusy : t.ports.receiver.tpm2state ≠ .idle) (b : UInt8) :
    ∃ cs s' out' u o, recognise.run s (es ++ (p, b) :: cs) = some (s', out') ∧
      recognise.run s ((es ++ (p, b) :: cs).filter (·.1 = p.other)) = some (u, o) ∧
      out'.filter (·.1 = p.other) ≠ o := by
  have hother : p.other ≠ p := by cases p <;> decide
  obtain ⟨t', u, out', hrun', hsolo, hlike⟩ := run_looksLike p.other hidle hund
  obtain ⟨rfl, rfl⟩ := Prod.mk.inj (Option.some.inj (hrun'.symm.trans hrun))
  obtain ⟨φ, ψ, hφ, hψ, hphases⟩ := hlike.phases
  have hφne : φ ≠ .idle := fun h => hbusy (by rw [h] at hφ; exact hφ)
  have hsame : ψ = φ := by
    rcases hphases with ⟨-, hsame⟩ | ⟨hnot, -⟩
    · exact hsame
    · have hnone : t'.last = none := by
        rcases hl : t'.last with _ | q
        · rfl
        · rw [hl] at hlast hnot
          cases p <;> cases q <;> first
            | exact absurd rfl hlast
            | exact absurd rfl hnot
      rw [ports_of_last_eq_none hrun hnone] at hbusy
      exact absurd hidle hbusy
  rw [hsame] at hψ
  -- the port ends the frame with its own bytes, and the other port goes on with its frame
  obtain ⟨bs, φ₁, o₁, φ₂, o₂, hinside, hwaiting, hne⟩ := exists_run_parser_ne hφ.wf hφne
  have hsettle := parser.run_cons (parser_step φ b) (run_parser_settleBytes (φ.wf_next hφ.wf b))
  obtain ⟨s₁, fs₁, hrun₁, -, hholds₁⟩ := run_recognise_port hφ p hsettle
  obtain ⟨s₂, fs₂, hrun₂, hfs₂, -⟩ := run_recognise_port hholds₁ p.other hwaiting
  obtain ⟨u₁, fs₃, hrun₃, hfs₃, -⟩ := run_recognise_port hψ p.other hinside
  have hcommon := recognise.run_append (run_receiveTracked hrun) (recognise.run_append hrun₁ hrun₂)
  refine ⟨(settleBytes.map fun c => (p, c)) ++ bs.map fun c => (p.other, c), s₂, _, u₁,
    out'.filter (·.1 = p.other) ++ fs₃.map fun f => (p.other, f), hcommon, ?_, ?_⟩
  · rw [List.filter_append, List.filter_cons_of_neg (by simpa using hother.symm),
      List.filter_append, filter_tagged, if_neg hother.symm, List.nil_append, filter_tagged,
      if_pos rfl]
    exact recognise.run_append hsolo hrun₃
  · rw [List.filter_append, List.filter_append, filter_tagged, if_neg hother.symm, List.nil_append,
      filter_tagged, if_pos rfl]
    intro heq
    have hfs := congrArg (List.map fun x => x.2.2) (List.append_cancel_left heq)
    rw [List.map_map, List.map_map] at hfs
    exact hne (hfs₃.symm.trans (hfs.symm.trans hfs₂))

end PowerMeterDisplay
