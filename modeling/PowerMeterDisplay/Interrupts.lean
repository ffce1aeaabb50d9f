import PowerMeterDisplay.Turns

/-!
# What the interrupts share with the main loop

`main_b_attached`, `timer_cnt` and `timer_button` are written by interrupts and by the main loop.
What a step of the loop does to them is one table (`MainState.loop_shared`).  The attach block
tests `main_b_attached` and then stores the whole byte without masking interrupts, so a USB event in
between is lost; `usb_events_kept_iff` says exactly when none is.  `timer_cnt` has 8 bits and no
stop, so a refresh that is due is missed when the counter has wrapped (`due_refresh_taken_iff`).
The button block masks the interrupts: its counter always holds the ticks of the present press, up
to its stop (`timerButton_eq`), and the action follows the hold time (`button_by_hold`).
-/

namespace PowerMeterDisplay

namespace MainState

variable {s : MainState}

/-! ## The shared variables -/

/-- The variables that interrupts write, without the queues. -/
structure Shared where
  mainBAttached : UInt8
  timerCnt : UInt8
  timerButton : UInt16

def shared (s : MainState) : Shared := ⟨s.mainBAttached, s.timerCnt, s.timerButton⟩

/-- The shared variables after the next step of the main loop. -/
def sharedNext (s : MainState) (high : Bool) : Shared :=
  match s.pc with
  | .attachStore => { s.shared with mainBAttached := 0x03 }
  | .detachStore => { s.shared with mainBAttached := 0 }
  | .refreshClear => { s.shared with timerCnt := 0 }
  | .button => if high then { s.shared with timerButton := 0 } else s.shared
  | _ => s.shared

theorem call_shared {p : Port} {op : ChannelOp} {r : MainState × List Call}
    (h : s.call p op = some r) : r.1.shared = s.shared := by
  obtain ⟨d, -, hr⟩ := Option.bind_eq_some_iff.1 h
  obtain rfl := Option.some.inj hr
  rfl

theorem callBoth_shared {op : ChannelOp} {r : MainState × List Call}
    (h : s.callBoth op = some r) : r.1.shared = s.shared := by
  obtain ⟨r₁, h₁, h⟩ := Option.bind_eq_some_iff.1 h
  obtain ⟨r₂, h₂, hr⟩ := Option.bind_eq_some_iff.1 h
  obtain rfl := Option.some.inj hr
  exact (call_shared h₂).trans (call_shared h₁)

theorem power_shared {p : Port} {high : Bool} {r : MainState × List Call}
    (h : s.power p high = some r) : r.1.shared = s.shared := by
  unfold power at h
  split_ifs at h
  · exact call_shared (s := { s with display := p.other.active }) h
  · exact call_shared (s := { s with display := 0 }) h
  · obtain rfl := Option.some.inj h
    rfl

theorem menuStep_shared (s : MainState) : s.menuStep.shared = s.shared := by
  unfold menuStep
  dsimp only
  split_ifs <;> rfl

theorem autoSelect_shared (s : MainState) : s.autoSelect.shared = s.shared := by
  unfold autoSelect
  split_ifs <;> rfl

theorem buttonAction_shared {r : MainState × List Call} (h : s.buttonAction = some r) :
    r.1.shared = s.shared := by
  unfold buttonAction at h
  dsimp only at h
  split_ifs at h
  · exact (callBoth_shared h).trans s.menuStep_shared
  · obtain ⟨r₁, h₁, hr⟩ := Option.bind_eq_some_iff.1 h
    have hkeep := callBoth_shared h₁
    obtain rfl := Option.some.inj hr
    exact hkeep
  · obtain rfl := Option.some.inj h
    rfl
  · obtain rfl := Option.some.inj h
    rfl

theorem refresh_shared {r : MainState × List Call} (h : s.refresh = some r) :
    r.1.shared = s.shared := by
  obtain ⟨r₁, h₁, hr⟩ := Option.bind_eq_some_iff.1 h
  have hdraw : r₁.1.shared = s.shared := by
    unfold drawMenu at h₁
    split_ifs at h₁
    · exact call_shared h₁
    · exact call_shared h₁
    · obtain rfl := Option.some.inj h₁
      rfl
  dsimp only at hr
  split_ifs at hr <;> obtain rfl := Option.some.inj hr <;> exact hdraw

theorem receive_shared {p : Port} {r : MainState × List Call} (h : s.receive p = some r) :
    r.1.shared = s.shared := by
  obtain ⟨⟨x, out⟩, -, hr⟩ := Option.bind_eq_some_iff.1 h
  cases out with
  | nil =>
    obtain rfl := Option.some.inj hr
    rfl
  | cons y out =>
    obtain rfl := Option.some.inj hr
    rfl

/-- What a step of the main loop does to the shared variables. -/
theorem loop_shared {high : Bool} {s' : MainState} {calls : List Call}
    (h : s.loop high = some (s', calls)) : s'.shared = s.sharedNext high := by
  unfold loop at h
  unfold sharedNext
  cases hpc : s.pc with
  | power p =>
    simp only [hpc] at h
    obtain ⟨r, hr, he⟩ := Option.map_eq_some_iff.1 h
    obtain ⟨rfl, rfl⟩ := Prod.mk.inj he
    exact power_shared hr
  | autoSelect =>
    simp only [hpc] at h
    obtain ⟨rfl, rfl⟩ := Prod.mk.inj (Option.some.inj h)
    exact s.autoSelect_shared
  | button =>
    simp only [hpc] at h
    obtain ⟨r, hr, he⟩ := Option.map_eq_some_iff.1 h
    obtain ⟨rfl, rfl⟩ := Prod.mk.inj he
    unfold button at hr
    split_ifs at hr with hreleased
    · obtain ⟨r', haction, rfl⟩ := Option.map_eq_some_iff.1 hr
      have hkeep := buttonAction_shared haction
      simp only [shared, Shared.mk.injEq] at hkeep
      simp [hreleased, shared, hkeep]
    · obtain rfl := Option.some.inj hr
      simp [hreleased, shared]
  | refresh =>
    simp only [hpc] at h
    obtain ⟨r, hr, he⟩ := Option.map_eq_some_iff.1 h
    obtain ⟨rfl, rfl⟩ := Prod.mk.inj he
    exact refresh_shared hr
  | receive p =>
    simp only [hpc] at h
    exact receive_shared h
  | attached | refreshDue | refreshClear | attachTest | attachDelay | attachRetest | attachStore
  | attachSettle | detachTest | detachDelay | detachRetest | detachStore =>
    simp only [hpc] at h
    obtain ⟨rfl, rfl⟩ := Prod.mk.inj (Option.some.inj h)
    rfl

/-- Only the two stores of the attach block write `main_b_attached`. -/
theorem sharedNext_mainBAttached (s : MainState) (high : Bool) :
    (s.sharedNext high).mainBAttached =
      if s.pc = .attachStore then 0x03
      else if s.pc = .detachStore then 0
      else s.mainBAttached := by
  rw [sharedNext]
  cases s.pc with
  | button => cases high <;> rfl
  | _ => rfl

/-- Only the refresh writes `timer_cnt`, and it sets it to 0. -/
theorem sharedNext_timerCnt (s : MainState) (high : Bool) :
    (s.sharedNext high).timerCnt = if s.pc = .refreshClear then 0 else s.timerCnt := by
  rw [sharedNext]
  cases s.pc with
  | button => cases high <;> rfl
  | _ => rfl

/-- Only the button block writes `timer_button`, and only when the pin is high. -/
theorem sharedNext_timerButton (s : MainState) (high : Bool) :
    (s.sharedNext high).timerButton = if s.pc = .button ∧ high then 0 else s.timerButton := by
  rw [sharedNext]
  cases s.pc with
  | button => cases high <;> rfl
  | _ => rfl

/-- The shared variables after an event. -/
def sharedAfter (s : MainState) : Event → Shared
  | .timer low => (s.timerCallback low).shared
  | .rxc _ _ => s.shared
  | .suspend => { s.shared with mainBAttached := s.mainBAttached &&& 0xFE }
  | .resume => { s.shared with mainBAttached := s.mainBAttached ||| 0x01 }
  | .loop high => s.sharedNext high

theorem step_shared {e : Event} {s' : MainState} {calls : List Call}
    (h : step s e = some (s', calls)) : s'.shared = s.sharedAfter e := by
  cases e with
  | loop high => exact loop_shared h
  | rxc p byte =>
    obtain ⟨⟨f, st⟩, -, he⟩ := Option.bind_eq_some_iff.1 h
    obtain ⟨rfl, -⟩ := Prod.mk.inj (Option.some.inj he)
    rfl
  | timer _ | suspend | resume =>
    obtain ⟨rfl, -⟩ := Prod.mk.inj (Option.some.inj h)
    rfl

/-! ## USB events -/

/-- Bit 0 of `main_b_attached`. -/
def resumedBit (s : MainState) : Bool := s.mainBAttached &&& 0x01 ≠ 0

def nextUsb (resumed : Bool) : Event → Bool
  | .resume => true
  | .suspend => false
  | _ => resumed

/-- The last USB event was a resume. -/
def lastUsb (es : List Event) : Bool := es.foldl nextUsb false

/-- No USB event is lost: bit 0 tells the last one, so the attached state is not kept while the bus
is suspended, nor the detached state while it is resumed. -/
structure UsbKept (resumed : Bool) (s : MainState) : Prop where
  resumedBit : s.resumedBit = resumed
  attached : s.mainBAttached = 0x03 → resumed = true
  detached : s.mainBAttached = 0 → resumed = false

theorem usbKept_iff {resumed : Bool} : UsbKept resumed s ↔ s.resumedBit = resumed := by
  refine ⟨fun h => h.resumedBit, fun h => ⟨h, fun hattached => ?_, fun hdetached => ?_⟩⟩
  · rw [← h, MainState.resumedBit, hattached]
    rfl
  · rw [← h, MainState.resumedBit, hdetached]
    rfl

/-- A store of the attach block finds bit 0 as the test before it did. -/
def StoreUnraced (s : MainState) : Event → Prop
  | .loop _ => (s.pc = .attachStore → s.resumedBit = true) ∧
      (s.pc = .detachStore → s.resumedBit = false)
  | _ => True

theorem resume_and_one (x : UInt8) : (x ||| 0x01) &&& 0x01 = 0x01 := by
  apply UInt8.toBitVec_inj.1
  ext i hi
  simpa using fun hzero : i = 0 => Or.inr hzero

theorem suspend_and_one (x : UInt8) : (x &&& 0xFE) &&& 0x01 = 0 := by
  rw [UInt8.and_assoc]
  exact UInt8.and_zero

/-- A step of the main loop keeps bit 0 exactly if it is no raced store. -/
theorem loop_resumedBit {high : Bool} {s' : MainState} {calls : List Call}
    (h : s.loop high = some (s', calls)) :
    s'.resumedBit = s.resumedBit ↔ StoreUnraced s (.loop high) := by
  have hstored := (congrArg Shared.mainBAttached (loop_shared h)).trans
    (s.sharedNext_mainBAttached high)
  simp only [shared] at hstored
  by_cases hattach : s.pc = .attachStore
  · have hset : s'.resumedBit = true := by
      rw [resumedBit, hstored, if_pos hattach]
      rfl
    rw [hset]
    refine ⟨fun hbit => ⟨fun _ => hbit.symm, fun hpc => ?_⟩, fun hraced => (hraced.1 hattach).symm⟩
    exact absurd (hattach.symm.trans hpc) (by decide)
  by_cases hdetach : s.pc = .detachStore
  · have hclear : s'.resumedBit = false := by
      rw [resumedBit, hstored, if_neg hattach, if_pos hdetach]
      rfl
    rw [hclear]
    refine ⟨fun hbit => ⟨fun hpc => ?_, fun _ => hbit.symm⟩, fun hraced => (hraced.2 hdetach).symm⟩
    exact absurd (hdetach.symm.trans hpc) (by decide)
  · refine iff_of_true ?_ ⟨fun hpc => absurd hpc hattach, fun hpc => absurd hpc hdetach⟩
    rw [resumedBit, resumedBit, hstored, if_neg hattach, if_neg hdetach]

/-- One event keeps the relation between bit 0 and the last USB event exactly if it is no raced
store. -/
theorem step_resumedBit (h : s.Valid) (e : Event) {resumed : Bool} (hbit : s.resumedBit = resumed) :
    ∃ s' calls, step s e = some (s', calls) ∧ s'.Valid ∧
      (s'.resumedBit = nextUsb resumed e ↔ StoreUnraced s e) := by
  obtain ⟨s', calls, hstep, hmoves⟩ := step_moves h e
  refine ⟨s', calls, hstep, hmoves.valid, ?_⟩
  subst hbit
  have hstored : s'.mainBAttached = (s.sharedAfter e).mainBAttached :=
    congrArg Shared.mainBAttached (step_shared hstep)
  cases e with
  | loop high => exact loop_resumedBit hstep
  | rxc _ _ | timer _ =>
    refine iff_of_true ?_ trivial
    rw [resumedBit, hstored]
    rfl
  | suspend =>
    refine iff_of_true ?_ trivial
    rw [resumedBit, hstored, sharedAfter, suspend_and_one]
    rfl
  | resume =>
    refine iff_of_true ?_ trivial
    rw [resumedBit, hstored, sharedAfter, resume_and_one]
    rfl

/-- The law of the USB events, for every run of the main loop and the interrupts: no event is lost
in any state on the way exactly if each store of the attach block finds bit 0 as the test before it
did. -/
theorem usb_events_kept_iff (es : List Event) :
    (∀ pre, pre <+: es → ∀ s calls, step.run .start pre = some (s, calls) →
      UsbKept (lastUsb pre) s) ↔ step.Along StoreUnraced .start es := by
  simp only [usbKept_iff]
  exact step.forall_prefix_iff_along (I := Valid) (Q := fun resumed s => s.resumedBit = resumed)
    (fun _ _ e hvalid hbit => step_resumedBit hvalid e hbit) es false .start start_valid rfl

/-- The bus is suspended between the second test of the attach block and its store: the loop stays
in the attached state. -/
theorem usb_suspend_lost :
    ∃ s calls, step.run .start (.resume :: loops 8 ++ [.suspend] ++ loops 1) = some (s, calls) ∧
      lastUsb (.resume :: loops 8 ++ [.suspend] ++ loops 1) = false ∧ s.mainBAttached = 0x03 ∧
      ¬ UsbKept (lastUsb (.resume :: loops 8 ++ [.suspend] ++ loops 1)) s := by
  refine ⟨_, _, rfl, rfl, rfl, fun h => ?_⟩
  exact absurd h.resumedBit (by decide)

/-! ## The refresh -/

/-- Every timer interrupt is a tick; the loop restarts the count when it sets `timer_cnt` to 0. -/
def nextTicks (n : ℕ) (s : MainState) : Event → ℕ
  | .timer _ => n + 1
  | .loop _ => if s.pc = .refreshClear then 0 else n
  | _ => n

/-- The timer interrupts since `timer_cnt` was last set to 0. -/
def ticksSinceClear (es : List Event) : ℕ := step.ghost nextTicks 0 .start es

/-- One event keeps `timer_cnt` at the low 8 bits of the ticks. -/
theorem step_timerCnt {n : ℕ} {e : Event} {s' : MainState} {calls : List Call}
    (h : s.timerCnt = UInt8.ofNat n) (hstep : step s e = some (s', calls)) :
    s'.timerCnt = UInt8.ofNat (nextTicks n s e) := by
  have hstored : s'.timerCnt = (s.sharedAfter e).timerCnt :=
    congrArg Shared.timerCnt (step_shared hstep)
  rw [hstored]
  cases e with
  | timer low =>
    rw [nextTicks, UInt8.ofNat_add, ← h]
    rfl
  | rxc _ _ | suspend | resume => exact h
  | loop high =>
    rw [sharedAfter, sharedNext_timerCnt, nextTicks]
    split_ifs
    · rfl
    · exact h

/-- In every run of the main loop and the interrupts `timer_cnt` holds the low 8 bits of the
ticks. -/
theorem timerCnt_eq {es : List Event} {s : MainState} {calls : List Call}
    (hrun : step.run .start es = some (s, calls)) :
    s.timerCnt = UInt8.ofNat (ticksSinceClear es) :=
  step.ghost_of_run (Q := fun n s => s.timerCnt = UInt8.ofNat n)
    (fun _ _ _ _ _ h hstep => step_timerCnt h hstep) rfl hrun

/-- The refresh check succeeds: the next step of the loop goes on to the refresh. -/
def RefreshTaken (s : MainState) : Prop :=
  ∀ high, step s (.loop high) = some ({ s with pc := .refreshClear }, [])

theorem refreshTaken_iff (hpc : s.pc = .refreshDue) : RefreshTaken s ↔ s.timerCnt > 250 := by
  have hloop (high : Bool) : step s (.loop high) =
      some ({ s with pc := if s.timerCnt > 250 then .refreshClear else .receive .one }, []) := by
    show s.loop high = _
    rw [loop, hpc]
  constructor
  · intro htaken
    by_contra hnot
    have hstep := (hloop true).symm.trans (htaken true)
    rw [if_neg hnot] at hstep
    have hpc' : Pc.receive .one = .refreshClear :=
      congrArg (fun r => r.1.pc) (Option.some.inj hstep)
    exact absurd hpc' (by decide)
  · intro hdue high
    rw [hloop, if_pos hdue]

/-- In every run of the main loop and the interrupts, whenever the loop is at its refresh check: a
refresh that is due, after 251 ticks since `timer_cnt` was last set to 0, is taken if and only if
the counter has not wrapped, or has come to more than 250 again. -/
theorem due_refresh_taken_iff {es : List Event} {s : MainState} {calls : List Call}
    (hrun : step.run .start es = some (s, calls)) (hpc : s.pc = .refreshDue) :
    (251 ≤ ticksSinceClear es → RefreshTaken s) ↔
      (ticksSinceClear es < 256 ∨ 251 ≤ ticksSinceClear es % 256) := by
  have htaken : RefreshTaken s ↔ 250 < ticksSinceClear es % 256 := by
    rw [refreshTaken_iff hpc, timerCnt_eq hrun, gt_iff_lt, UInt8.lt_iff_toNat_lt,
      UInt8.toNat_ofNat']
    rfl
  rw [htaken]
  omega

set_option maxRecDepth 20000 in
theorem due_refresh_taken_iff_ticks :
    ∃ s calls, step.run .start (attach ++ loops 9 ++ ticks 251) = some (s, calls) ∧
      s.pc = .refreshDue ∧ ticksSinceClear (attach ++ loops 9 ++ ticks 251) = 251 ∧
      RefreshTaken s := by
  obtain ⟨s, calls, hrun, hpc⟩ : ∃ s calls,
      step.run .start (attach ++ loops 9 ++ ticks 251) = some (s, calls) ∧ s.pc = .refreshDue :=
    ⟨_, _, rfl, rfl⟩
  have hticks : ticksSinceClear (attach ++ loops 9 ++ ticks 251) = 251 := rfl
  refine ⟨s, calls, hrun, hpc, hticks, (due_refresh_taken_iff hrun hpc).2 ?_ ?_⟩
  · rw [hticks]
    decide
  · rw [hticks]

set_option maxRecDepth 20000 in
/-- The loop comes to its check 256 ticks after the last refresh: `timer_cnt` is 0 again, and the
refresh is left out. -/
theorem due_refresh_missed :
    ∃ s calls, step.run .start (attach ++ loops 9 ++ ticks 256) = some (s, calls) ∧
      s.pc = .refreshDue ∧ s.mainBAttached &&& 0x03 = 0x03 ∧
      ticksSinceClear (attach ++ loops 9 ++ ticks 256) = 256 ∧ ¬ RefreshTaken s := by
  refine ⟨_, _, rfl, rfl, rfl, rfl, fun htaken => ?_⟩
  exact absurd ((refreshTaken_iff rfl).1 htaken) (by decide)

/-! ## The button -/

/-- A tick with the button pin low counts; the loop restarts the count when it sees the pin high. -/
def nextHeld (n : ℕ) (s : MainState) : Event → ℕ
  | .timer low => if low then n + 1 else n
  | .loop high => if s.pc = .button ∧ high then 0 else n
  | _ => n

/-- The ticks with the pin low since the main loop last saw it high. -/
def heldTicks (es : List Event) : ℕ := step.ghost nextHeld 0 .start es

end MainState

/-- What a press of the button does. -/
inductive Press where
  | nothing
  | menuStep
  | resetMinmax
  | resetToBootloader
  deriving DecidableEq, Repr

/-- The press that was held for `n` ticks. -/
def Press.ofTicks (n : ℕ) : Press :=
  if n ≤ 100 then .nothing
  else if n < 2000 then .menuStep
  else if n < 9000 then .resetMinmax
  else .resetToBootloader

namespace MainState

variable {s : MainState}

/-- The same change to both records. -/
def updateBoth (s : MainState) (f : DisplayData → DisplayData) : MainState :=
  { s with ports := { s.ports with lcdData := ⟨f (s.lcdData .one), f (s.lcdData .two)⟩ } }

/-- The effect of a press, with its calls. -/
def press (s : MainState) : Press → MainState × List Call
  | .nothing => (s, [])
  | .menuStep =>
    (s.menuStep.updateBoth fun d => { d with menuPos := s.menuStep.menuCounter },
      [.channel .one (s.lcdData .one) (.setMenuPos s.menuStep.menuCounter),
        .channel .two (s.lcdData .two) (.setMenuPos s.menuStep.menuCounter)])
  | .resetMinmax =>
    (s.updateBoth lcdEadogResetMinmax,
      [.channel .one (s.lcdData .one) .resetMinmax, .channel .two (s.lcdData .two) .resetMinmax,
        .print "reset           " "...             "])
  | .resetToBootloader => (s, [.resetToBootloader])

/-- The three conditions of the button block split the hold times. -/
theorem buttonAction_eq (s : MainState) :
    s.buttonAction = some (s.press (.ofTicks s.timerButton.toNat)) := by
  have h100 : s.timerButton > 100 ↔ 100 < s.timerButton.toNat := UInt16.lt_iff_toNat_lt
  have h2000 : s.timerButton < 2000 ↔ s.timerButton.toNat < 2000 := UInt16.lt_iff_toNat_lt
  have h2000' : s.timerButton ≥ 2000 ↔ 2000 ≤ s.timerButton.toNat := UInt16.le_iff_toNat_le
  have h9000 : s.timerButton < 9000 ↔ s.timerButton.toNat < 9000 := UInt16.lt_iff_toNat_lt
  have h9000' : s.timerButton ≥ 9000 ↔ 9000 ≤ s.timerButton.toNat := UInt16.le_iff_toNat_le
  unfold buttonAction Press.ofTicks
  simp only [h100, h2000, h2000', h9000, h9000']
  by_cases hnothing : s.timerButton.toNat ≤ 100
  · rw [if_neg (by omega), if_neg (by omega), if_neg (by omega), if_pos hnothing]
    rfl
  by_cases hmenu : s.timerButton.toNat < 2000
  · have hrecord (p : Port) : s.menuStep.lcdData p = s.lcdData p := by
      rw [lcdData, lcdData, s.menuStep_ports.1]
    rw [if_pos (by omega), if_neg hnothing, if_pos hmenu,
      callBoth_eq (f := fun _ d => { d with menuPos := s.menuStep.menuCounter }) fun _ _ => rfl]
    simp only [press, updateBoth, hrecord]
  by_cases hreset : s.timerButton.toNat < 9000
  · rw [if_neg (by omega), if_pos (by omega), if_neg hnothing, if_neg hmenu, if_pos hreset,
      callBoth_eq (f := fun _ d => lcdEadogResetMinmax d) fun _ _ => rfl]
    rfl
  · rw [if_neg (by omega), if_neg (by omega), if_pos (by omega), if_neg hnothing, if_neg hmenu,
      if_neg hreset]
    rfl

/-- The counter stops where it no longer matters. -/
theorem Press.ofTicks_min (n : ℕ) : Press.ofTicks (min n 10000) = Press.ofTicks n := by
  unfold Press.ofTicks
  split_ifs <;> first | rfl | omega

/-- The timer interrupt counts a tick with the pin low, up to the stop. -/
theorem timerCallback_timerButton {n : ℕ} (h : s.timerButton.toNat = min n 10000) (low : Bool) :
    (s.timerCallback low).timerButton.toNat = min (nextHeld n s (.timer low)) 10000 := by
  have hlt : s.timerButton < 10000 ↔ n < 10000 := by
    rw [UInt16.lt_iff_toNat_lt, h]
    show min n 10000 < 10000 ↔ _
    omega
  have hsucc : (s.timerButton + 1).toNat = (min n 10000 + 1) % 65536 := by
    rw [UInt16.toNat_add, h]
    rfl
  simp only [timerCallback, nextHeld, hlt]
  split_ifs with hboth hlow hlow
  · rw [hsucc, min_eq_left (Nat.le_of_lt hboth.2), Nat.mod_eq_of_lt (by omega)]
    omega
  · exact absurd hboth.1 hlow
  · have hstopped : ¬ n < 10000 := fun hn => hboth ⟨hlow, hn⟩
    rw [h]
    omega
  · exact h

/-- One event keeps the counter at the held ticks, up to its stop at 10000. -/
theorem step_timerButton {n : ℕ} {e : Event} {s' : MainState} {calls : List Call}
    (h : s.timerButton.toNat = min n 10000) (hstep : step s e = some (s', calls)) :
    s'.timerButton.toNat = min (nextHeld n s e) 10000 := by
  have hstored : s'.timerButton = (s.sharedAfter e).timerButton :=
    congrArg Shared.timerButton (step_shared hstep)
  rw [hstored]
  cases e with
  | timer low => exact timerCallback_timerButton h low
  | rxc _ _ | suspend | resume => exact h
  | loop high =>
    rw [sharedAfter, sharedNext_timerButton, nextHeld]
    split_ifs
    · rfl
    · exact h

/-- In every run of the main loop and the interrupts the counter holds the ticks of the present
press, up to its stop. -/
theorem timerButton_eq {es : List Event} {s : MainState} {calls : List Call}
    (hrun : step.run .start es = some (s, calls)) :
    s.timerButton.toNat = min (heldTicks es) 10000 :=
  step.ghost_of_run (Q := fun n s => s.timerButton.toNat = min n 10000)
    (fun _ _ _ _ _ h hstep => step_timerButton h hstep) rfl hrun

/-- In every run of the main loop and the interrupts, whenever the loop sees the pin high at its
button block: it does what a press of the held ticks does and nothing else, and no tick is carried
over to the next press. -/
theorem button_by_hold {es : List Event} {s : MainState} {calls : List Call}
    (hrun : step.run .start es = some (s, calls)) (hpc : s.pc = .button) :
    step s (.loop true) =
        some ({ (s.press (.ofTicks (heldTicks es))).1 with timerButton := 0, pc := .attached },
          (s.press (.ofTicks (heldTicks es))).2) ∧
      heldTicks (es ++ [.loop true]) = 0 := by
  constructor
  · show s.loop true = _
    rw [loop, hpc]
    show (s.button true).map _ = _
    rw [button, if_pos rfl, buttonAction_eq, timerButton_eq hrun, Press.ofTicks_min]
    rfl
  · rw [heldTicks, step.ghost_concat hrun, nextHeld, if_pos ⟨hpc, rfl⟩]

set_option maxRecDepth 20000 in
/-- A press of 101 ticks is a menu step. -/
theorem button_by_hold_menuStep :
    ∃ s calls, step.run .start (List.replicate 101 (.timer true) ++ loops 3) = some (s, calls) ∧
      s.pc = .button ∧
      step s (.loop true) =
        some ({ (s.press .menuStep).1 with timerButton := 0, pc := .attached },
          (s.press .menuStep).2) := by
  obtain ⟨s, calls, hrun, hpc⟩ : ∃ s calls,
      step.run .start (List.replicate 101 (.timer true) ++ loops 3) = some (s, calls) ∧
        s.pc = .button := ⟨_, _, rfl, rfl⟩
  have hheld : Press.ofTicks (heldTicks (List.replicate 101 (.timer true) ++ loops 3)) =
      .menuStep := rfl
  exact ⟨s, calls, hrun, hpc, hheld ▸ (button_by_hold hrun hpc).1⟩

end MainState

end PowerMeterDisplay
