import PowerMeterDisplay.ReceiverRefine

/-!
# The life of a channel

Everything the program does to the record of a port is one of the calls of `ChannelOp`; a channel is
the machine that takes them in any order and logs each call with the record it finds.  Here the
scale setting is followed through such runs.  A disabled channel is only activated by the test
"something has changed?" of `proto_recv_scale`, and a port reset keeps the values that the test
compares with.
-/

namespace PowerMeterDisplay

/-! ## Calls on a record -/

/-- The calls that act on the record of a port. -/
inductive ChannelOp where
  /-- The command switch, for a frame received on the port. -/
  | frame (x : Dispatch)
  /-- `lcd_eadog_create_menu`. -/
  | createMenu
  /-- `lcd_eadog_reset_data` with the code of a disabled channel, when the port has no power. -/
  | resetData
  /-- `lcd_eadog_reset_minmax`, on the button. -/
  | resetMinmax
  /-- The assignment to `menu_pos`, on the button. -/
  | setMenuPos (menuCounter : UInt8)
  deriving DecidableEq, Repr

/-- A call with the record before it. -/
abbrev ChannelLog := List (DisplayData × ChannelOp)

/-- The record of port `p` after a call. -/
def ChannelOp.apply (p : Port) (d : DisplayData) : ChannelOp → Option DisplayData
  | .frame x => (switchCommand x d).map Prod.snd
  | .createMenu => some (lcdEadogCreateMenu d)
  | .resetData => some (lcdEadogResetData d p.disabled)
  | .resetMinmax => some (lcdEadogResetMinmax d)
  | .setMenuPos menuCounter => some { d with menuPos := menuCounter }

/-- The channel of port `p`. -/
def channel (p : Port) : Machine DisplayData ChannelOp (DisplayData × ChannelOp)
  | d, op => (op.apply p d).map fun d' => (d', [(d, op)])

theorem channel_eq_some_iff {p : Port} {d d' : DisplayData} {op : ChannelOp} {log : ChannelLog} :
    channel p d op = some (d', log) ↔ op.apply p d = some d' ∧ log = [(d, op)] := by
  simp only [channel, Option.map_eq_some_iff, Prod.mk.injEq]
  constructor
  · rintro ⟨d'', happly, rfl, rfl⟩
    exact ⟨happly, rfl⟩
  · rintro ⟨happly, rfl⟩
    exact ⟨d', happly, rfl, rfl⟩

/-! ## Scale settings -/

namespace FloatBits

/-- Two values that compare equal in C differ from the same values. -/
theorem ne_congr {x y : FloatBits} (h : ne x y = false) (z : FloatBits) : ne x z = ne y z := by
  obtain ⟨hx, hy, heq⟩ := ne_eq_false_iff.1 h
  rcases heq with rfl | ⟨hx0, hy0⟩
  · rfl
  · unfold ne
    rw [hx, hy, hx0, hy0]
    rcases hz : isZero z with _ | _
    · have hxz : (x != z) = true := bne_iff_ne.2 fun h => by simp [h, hz] at hx0
      have hyz : (y != z) = true := bne_iff_ne.2 fun h => by simp [h, hz] at hy0
      rw [hxz, hyz]
    · simp

end FloatBits

namespace Scale

/-- Two settings that no later announcement tells apart. -/
def Alike (x y : Scale) : Prop := ∀ z, x.differs z = y.differs z

/-- An announcement that does not differ from the stored setting is alike. -/
theorem alike_of_not_differs {x y : Scale} (h : x.differs y = false) : Alike x y := by
  intro z
  obtain ⟨hv, hc, hhall⟩ := differs_eq_false_iff.1 h
  rw [differs, differs, FloatBits.ne_congr hv, FloatBits.ne_congr hc, hhall]

end Scale

/-- The setting that a frame announces, if it is a scale frame that the handler does not reject. -/
def Dispatch.announced (x : Dispatch) : Option Scale :=
  if x.action = .recvScale ∧ ¬ x.len < 15 then some x.msgBuf.scale else none

/-- The setting announced last; nothing announced counts as the zeros of static storage. -/
def lastAnnounced (ops : List ChannelOp) : Scale :=
  ops.foldl
    (fun last op =>
      match op with
      | .frame x => x.announced.getD last
      | _ => last)
    DisplayData.zero.scale

theorem protoRecvDataLoop_frame {buf : MsgBuf} {len : UInt8} (fuel : ℕ) :
    ∀ {i : UInt8} {d d' : DisplayData}, protoRecvDataLoop buf len fuel i d = some d' →
      d'.scale = d.scale ∧ d'.measure = d.measure := by
  induction fuel with
  | zero => exact fun h => nomatch h
  | succ fuel ih =>
    intro i d d' h
    rw [protoRecvDataLoop] at h
    split_ifs at h
    · obtain ⟨v, -, h⟩ := Option.bind_eq_some_iff.1 h
      obtain ⟨c, -, h⟩ := Option.bind_eq_some_iff.1 h
      obtain ⟨hscale, hmeasure⟩ := ih h
      exact ⟨hscale, hmeasure⟩
    · obtain rfl := Option.some.inj h
      exact ⟨rfl, rfl⟩

/-- What the command switch does to the setting and to the code of a record. -/
theorem switchCommand_scale {x : Dispatch} {d d' : DisplayData} {buf : MsgBuf}
    (h : switchCommand x d = some (buf, d')) :
    (x.announced = none ∧ d'.scale = d.scale ∧ d'.measure = d.measure) ∨
      (x.announced = some x.msgBuf.scale ∧ d' = applyScale d x.msgBuf.scale) := by
  unfold switchCommand at h
  unfold Dispatch.announced
  rcases haction : x.action with _ | _ | _ | _
  · simp only [haction] at h
    obtain ⟨d₁, hloop, he⟩ := Option.map_eq_some_iff.1 h
    obtain ⟨-, rfl⟩ := Prod.mk.inj he
    exact Or.inl ⟨by simp, protoRecvDataLoop_frame _ hloop⟩
  · simp only [haction] at h
    by_cases hshort : x.len < 15
    · rw [protoRecvScale, if_pos hshort] at h
      obtain ⟨-, rfl⟩ := Prod.mk.inj (Option.some.inj h)
      exact Or.inl ⟨by simp [hshort], rfl, rfl⟩
    · rw [protoRecvScale_eq _ (UInt8.not_lt.1 hshort)] at h
      obtain ⟨-, rfl⟩ := Prod.mk.inj (Option.some.inj h)
      exact Or.inr ⟨by simp [hshort], rfl⟩
  · simp only [haction] at h
    obtain ⟨-, rfl⟩ := Prod.mk.inj (Option.some.inj h)
    exact Or.inl ⟨by simp, rfl, rfl⟩
  · simp only [haction] at h
    obtain ⟨-, rfl⟩ := Prod.mk.inj (Option.some.inj h)
    exact Or.inl ⟨by simp, rfl, rfl⟩

theorem applyScale_alike (d : DisplayData) (x : Scale) : (applyScale d x).scale.Alike x := by
  unfold applyScale
  split_ifs with h
  · exact fun _ => rfl
  · exact Scale.alike_of_not_differs (Bool.eq_false_iff.2 h)

/-- In every run the stored setting is the one announced last, as far as comparisons can tell. -/
theorem scale_alike_lastAnnounced {p : Port} {ops : List ChannelOp} {d : DisplayData}
    {log : ChannelLog} (hrun : (channel p).run (.start p) ops = some (d, log)) :
    d.scale.Alike (lastAnnounced ops) := by
  have hstart : (DisplayData.start p).scale.Alike (lastAnnounced []) := fun _ => rfl
  refine (channel p).run_history (P := fun ops d _ => d.scale.Alike (lastAnnounced ops)) hstart ?_
    hrun
  intro ops d _ op d' entry halike hstep
  obtain ⟨happly, rfl⟩ := channel_eq_some_iff.1 hstep
  rw [lastAnnounced, List.foldl_append, ← lastAnnounced]
  cases op with
  | frame x =>
    obtain ⟨⟨buf, d''⟩, hswitch, rfl⟩ := Option.map_eq_some_iff.1 happly
    rcases switchCommand_scale hswitch with ⟨hnone, hscale, -⟩ | ⟨hsome, happlied⟩
    · intro z
      simp only [List.foldl_cons, List.foldl_nil, hnone, hscale]
      exact halike z
    · intro z
      simp only [List.foldl_cons, List.foldl_nil, hsome, happlied]
      exact applyScale_alike d _ z
  | createMenu =>
    obtain rfl := Option.some.inj happly
    unfold lcdEadogCreateMenu
    split_ifs <;> exact halike
  | resetData | resetMinmax | setMenuPos _ =>
    obtain rfl := Option.some.inj happly
    exact halike

/-! ## Coming back -/

/-- In every state that a run of calls reaches with the channel disabled, a complete scale frame
activates the channel exactly when it announces other values than the last scale frame did. -/
theorem disabled_returns_iff {p : Port} {ops : List ChannelOp} {d : DisplayData} {log : ChannelLog}
    (hrun : (channel p).run (.start p) ops = some (d, log)) (hdisabled : d.measure = p.disabled)
    {x : Dispatch} (hcommand : x.command = pmScalevalues) (hcomplete : 16 ≤ x.count.toNat)
    (hcount : x.count.toNat ≤ 60) :
    ∃ buf d', switchCommand x d = some (buf, d') ∧
      (d'.measure = p.active ↔ (lastAnnounced ops).differs x.msgBuf.scale) := by
  have haction : x.action = .recvScale := by
    rw [Dispatch.action, hcommand]
    rfl
  have hlong : ¬ x.len < 15 := by
    rw [UInt8.lt_iff_toNat_lt, Dispatch.len_toNat hcount]
    exact Nat.not_lt.2 (by change 15 ≤ x.count.toNat; omega)
  have happly : x.apply d = applyScale d x.msgBuf.scale := by
    rw [Dispatch.apply, haction]
    exact if_neg hlong
  refine ⟨x.bufAfter, applyScale d x.msgBuf.scale, ?_, ?_⟩
  · rw [switchCommand_eq hcount, happly]
  · rw [← scale_alike_lastAnnounced hrun]
    unfold applyScale
    split_ifs with hdiffers
    · have hactive : reactivate d.measure = p.active := by
        rw [hdisabled]
        cases p <;> rfl
      exact iff_of_true hactive hdiffers
    · have hne : d.measure ≠ p.active := by
        rw [hdisabled]
        cases p <;> decide
      exact iff_of_false hne hdiffers

/-- The dispatch of a payload that was taken in over a buffer of zeros. -/
def Dispatch.ofPayload (payload : List UInt8) : Dispatch :=
  ⟨Vector.ofFn fun k => payload.getD k 0, UInt16.ofNat payload.length⟩

/-- A scale frame with voltage scale 0.01 and current scale 0.005, without hall sensor. -/
def scaleFrame : Dispatch :=
  .ofPayload [0x5C, 0x01, 0x0A, 0xD7, 0x23, 0x3C, 0x01, 0x0A, 0xD7, 0xA3, 0x3B, 0x01, 0x0A, 0xD7,
    0x23, 0x3C]

/-- A scale frame with twice the voltage scale. -/
def scaleFrame' : Dispatch :=
  .ofPayload [0x5C, 0x01, 0x0A, 0xD7, 0xA3, 0x3C, 0x01, 0x0A, 0xD7, 0xA3, 0x3B, 0x01, 0x0A, 0xD7,
    0x23, 0x3C]

/-- A data frame with the sample `v = 1`, `i = -1`. -/
def dataFrame : Dispatch := .ofPayload [0xDA, 0x01, 0x00, 0xFF, 0xFF]

/-- A data frame with three samples, one of them with a negative current. -/
def samplesFrame : Dispatch :=
  .ofPayload [0xDA, 0x2C, 0x01, 0xC8, 0x00, 0x64, 0x00, 0x9C, 0xFF, 0x0A, 0x00, 0x05, 0x00]

theorem disabled_returns_iff_scaleFrame' :
    ∃ d log buf d', (channel .one).run (.start .one) [.frame scaleFrame, .resetData] =
        some (d, log) ∧ d.measure = Port.one.disabled ∧
      switchCommand scaleFrame' d = some (buf, d') ∧
      (d'.measure = Port.one.active ↔
        (lastAnnounced [.frame scaleFrame, .resetData]).differs scaleFrame'.msgBuf.scale) := by
  obtain ⟨d, log, hrun, hdisabled⟩ : ∃ d log,
      (channel .one).run (.start .one) [.frame scaleFrame, .resetData] = some (d, log) ∧
        d.measure = Port.one.disabled := ⟨_, _, rfl, rfl⟩
  obtain ⟨buf, d', hswitch, hiff⟩ := disabled_returns_iff hrun hdisabled (x := scaleFrame') rfl
    (by decide) (by decide)
  exact ⟨d, log, buf, d', hrun, hdisabled, hswitch, hiff⟩

/-- A PowerMeter that loses power and announces the same scale again stays disabled. -/
theorem disabled_stays_disabled :
    ∃ d log buf d', (channel .one).run (.start .one) [.frame scaleFrame, .resetData] =
        some (d, log) ∧ d.measure = Port.one.disabled ∧
      scaleFrame.command = pmScalevalues ∧ 16 ≤ scaleFrame.count.toNat ∧
      switchCommand scaleFrame d = some (buf, d') ∧ d'.measure ≠ Port.one.active :=
  ⟨_, _, _, _, rfl, rfl, rfl, by decide, rfl, by decide⟩

end PowerMeterDisplay
