import PowerMeterDisplay.Averages
import PowerMeterDisplay.Turns

/-!
# A channel that is not displayed

Both ports have a PowerMeter that announces its scale and then sends data.  Channel 2 is displayed
and drawn at every refresh, which closes its averaging window; the window of channel 1 stays open.
It grows by the samples of every turn until port 2 loses power and channel 1 is drawn: there is no
bound on the number of samples in a window that is drawn (`window_unbounded`).
-/

namespace PowerMeterDisplay

namespace MainState

/-! ## The stream -/

/-- Both channels become active, and channel 2 is displayed. -/
def bothActive : List Event :=
  attach ++ bytesIn .one scaleBytes ++ loops 1 ++ bytesIn .two scaleBytes ++ loops 9

/-- One sample on each port, and a refresh of channel 2. -/
def bothSend : List Event :=
  bytesIn .one dataBytes ++ loops 1 ++ bytesIn .two dataBytes ++ loops 1 ++
    (loops 7 ++ (ticks 251 ++ loops 2)) ++ loops 1

/-- Port 2 loses power, and the refresh draws channel 1. -/
def portTwoLost : List Event :=
  loops 1 ++ loops 1 ++ loops 3 ++ [.loop false] ++ (loops 3 ++ (ticks 251 ++ loops 2)) ++ loops 1

/-- The stream with `n` samples on each port. -/
def undisplayed (n : ℕ) : List Event :=
  bothActive ++ (List.replicate n bothSend).flatten ++ portTwoLost

/-! ## Parts of a turn -/

variable {s : MainState}

theorem run_receive_empty {p : Port} (hpc : s.pc = .receive p)
    (hempty : fifoIsEmpty (s.fifo.get p)) :
    step.run s (loops 1) = some ({ s with pc := .afterReceive p }, []) := by
  have hpull : fifoPullUint8 (s.fifo.get p) = some (s.fifo.get p, none) := if_pos hempty
  refine step.run_singleton ?_
  show s.loop true = _
  rw [loop, hpc]
  refine (receive_empty hpull).trans ?_
  rw [PerPort.set_get_self]

/-- While channel 1 is active the refresh draws the displayed channel and nothing else. -/
theorem run_refresh {p : Port} (hpc : s.pc = .refresh) (hdisplay : s.display = p.active)
    (hone : (s.lcdData .one).measure = 1) :
    step.run s (loops 1) =
      some ({ s with
        pc := .receive .one
        ports := { s.ports with
          lcdData := s.ports.lcdData.set p (lcdEadogCreateMenu (s.lcdData p)) } },
        [.channel p (s.lcdData p) .createMenu]) := by
  refine step.run_singleton ?_
  show s.loop true = _
  rw [loop, hpc]
  show s.refresh.map _ = _
  have hcall : s.drawMenu = some ({ s with
      ports := { s.ports with
        lcdData := s.ports.lcdData.set p (lcdEadogCreateMenu (s.lcdData p)) } },
      [.channel p (s.lcdData p) .createMenu]) := drawMenu_eq hdisplay
  have hone' :
      ((s.ports.lcdData.set p (lcdEadogCreateMenu (s.lcdData p))).get .one).measure = 1 := by
    by_cases hp : Port.one = p
    · rw [← hp, PerPort.get_set_self, lcdEadogCreateMenu_measure]
      exact hone
    · rw [PerPort.get_set_of_ne _ hp]
      exact hone
  rw [refresh, hcall]
  refine congrArg (Option.map _) (if_neg fun hwaiting => ?_)
  exact absurd (hone'.symm.trans hwaiting.1) (by decide)

/-- USB stays attached, the button is not held, and the refresh was not long ago. -/
structure Quiet (s : MainState) : Prop where
  timerCnt : s.timerCnt = 0
  timerButton : s.timerButton = 0
  mainBAttached : s.mainBAttached = 3

/-- Ticks with the button released count up to the next refresh. -/
theorem run_ticks (n : ℕ) :
    step.run s (ticks n) = some ({ s with timerCnt := s.timerCnt + UInt8.ofNat n }, []) := by
  induction n generalizing s with
  | zero => simp [ticks]
  | succ n ih =>
    have htick : step s (.timer false) = some ({ s with timerCnt := s.timerCnt + 1 }, []) := by
      simp [step, timerCallback]
    refine (step.run_cons htick ih).trans ?_
    simp only [UInt8.add_assoc, UInt8.add_comm 1, UInt8.ofNat_add, List.nil_append]
    rfl

/-- After 251 ticks the refresh is due. -/
theorem run_refreshDue (h : s.Quiet) (hpc : s.pc = .refreshDue) :
    step.run s (ticks 251 ++ loops 2) = some ({ s with pc := .refresh }, []) := by
  obtain ⟨pc, ports, fifo, timerCnt, timerButton, mainBAttached, menuCounter, display⟩ := s
  obtain ⟨rfl, rfl, rfl⟩ := h
  obtain rfl : pc = .refreshDue := hpc
  have hrefresh : step.run ⟨.refreshDue, ports, fifo, 251, 0, 3, menuCounter, display⟩ (loops 2) =
      some (⟨.refresh, ports, fifo, 0, 0, 3, menuCounter, display⟩, []) := by
    with_unfolding_all rfl
  exact step.run_append (run_ticks 251) hrefresh

/-- From the attach block once round the loop to the refresh, which is due. -/
theorem run_round (h : s.Quiet) (hpc : s.pc = .attachTest) (hdisplay : s.display = 2) :
    step.run s (loops 7 ++ (ticks 251 ++ loops 2)) = some ({ s with pc := .refresh }, []) := by
  have hround : step.run s (loops 7) = some ({ s with pc := .refreshDue }, []) := by
    obtain ⟨pc, ports, fifo, timerCnt, timerButton, mainBAttached, menuCounter, display⟩ := s
    obtain ⟨rfl, rfl, rfl⟩ := h
    obtain rfl : pc = .attachTest := hpc
    obtain rfl : display = 2 := hdisplay
    with_unfolding_all rfl
  exact step.run_append hround (run_refreshDue ⟨h.timerCnt, h.timerButton, h.mainBAttached⟩ rfl)

/-- From the attach block to the power test of port 2. -/
theorem run_to_power (h : s.Quiet) (hpc : s.pc = .attachTest) :
    step.run s (loops 3) = some ({ s with pc := .power .two }, []) := by
  obtain ⟨pc, ports, fifo, timerCnt, timerButton, mainBAttached, menuCounter, display⟩ := s
  obtain ⟨rfl, rfl, rfl⟩ := h
  obtain rfl : pc = .attachTest := hpc
  with_unfolding_all rfl

/-- From the choice of a channel to the refresh, which is due. -/
theorem run_from_power (h : s.Quiet) (hpc : s.pc = .autoSelect) (hdisplay : s.display = 1) :
    step.run s (loops 3 ++ (ticks 251 ++ loops 2)) = some ({ s with pc := .refresh }, []) := by
  have hround : step.run s (loops 3) = some ({ s with pc := .refreshDue }, []) := by
    obtain ⟨pc, ports, fifo, timerCnt, timerButton, mainBAttached, menuCounter, display⟩ := s
    obtain ⟨rfl, rfl, rfl⟩ := h
    obtain rfl : pc = .autoSelect := hpc
    obtain rfl : display = 1 := hdisplay
    with_unfolding_all rfl
  exact step.run_append hround (run_refreshDue ⟨h.timerCnt, h.timerButton, h.mainBAttached⟩ rfl)

/-- Port 2 without power while both channels are active: channel 1 is displayed. -/
theorem run_powerLoss (hpc : s.pc = .power .two) (hone : (s.lcdData .one).measure = 1)
    (htwo : (s.lcdData .two).measure = 2) :
    step.run s [.loop false] =
      some ({ s with
        pc := .autoSelect
        display := 1
        ports := { s.ports with
          lcdData := s.ports.lcdData.set .two (lcdEadogResetData (s.lcdData .two) 20) } },
        [.channel .two (s.lcdData .two) .resetData]) := by
  refine step.run_singleton ?_
  show s.loop false = _
  rw [loop, hpc]
  show (s.power .two false).map _ = _
  have hlost : false = false ∧ (s.lcdData .two).measure ≠ Port.two.disabled := by
    rw [htwo]
    decide
  have hlive : (s.lcdData Port.two.other).measure ≠ Port.two.other.disabled := by
    show (s.lcdData .one).measure ≠ 10
    rw [hone]
    decide
  rw [power, if_pos hlost, if_pos hlive]
  rfl

/-! ## Turn after turn -/

/-- Both channels are active, channel 2 is displayed, and all bytes have been taken in. -/
structure Undisplayed (s : MainState) : Prop where
  quiet : s.Quiet
  pc : s.pc = .receive .one
  display : s.display = 2
  fifo : ∀ p, (s.fifo.get p).Valid ∧ fifoIsEmpty (s.fifo.get p)
  idle : s.ports.receiver.tpm2state = .idle
  one : (s.lcdData .one).measure = 1
  two : (s.lcdData .two).measure = 2

set_option maxRecDepth 20000 in
theorem bothActive_undisplayed :
    ∃ s calls, step.run .start bothActive = some (s, calls) ∧ s.Undisplayed := by
  obtain ⟨s, calls, hrun, hpc, hdisplay, hcnt, hbutton, hattached, hempty₁, hempty₂, hidle, hone,
      htwo⟩ : ∃ s calls, step.run .start bothActive = some (s, calls) ∧ s.pc = .receive .one ∧
        s.display = 2 ∧ s.timerCnt = 0 ∧ s.timerButton = 0 ∧ s.mainBAttached = 3 ∧
        fifoIsEmpty s.fifo.one ∧ fifoIsEmpty s.fifo.two ∧
        s.ports.receiver.tpm2state = .idle ∧ (s.lcdData .one).measure = 1 ∧
        (s.lcdData .two).measure = 2 :=
    ⟨_, _, rfl, rfl, rfl, rfl, rfl, rfl, rfl, rfl, rfl, rfl, rfl⟩
  have hvalid := (moves_of_run start_valid hrun).valid
  refine ⟨s, calls, hrun, ⟨hcnt, hbutton, hattached⟩, hpc, hdisplay, fun p => ⟨hvalid.fifo p, ?_⟩,
    hidle, hone, htwo⟩
  cases p
  · exact hempty₁
  · exact hempty₂

/-- A data frame does not change the code of a record. -/
theorem apply_dataFrame {x : Dispatch} (hx : x.payload = [0xDA, 0x00, 0x00, 0x00, 0x00])
    (hcount : x.count.toNat = 5) :
    x.action = .recvData ∧ ∀ d, (x.apply d).measure = d.measure := by
  have hcommand : x.command = 0xDA := by
    have hhead := Dispatch.head?_payload (x := x) (by omega)
    rw [hx] at hhead
    exact (Option.some.inj hhead).symm
  have haction : x.action = .recvData := by
    rw [Dispatch.action, hcommand]
    rfl
  refine ⟨haction, fun d => ?_⟩
  have hswitch := switchCommand_eq (x := x) (by omega) d
  rcases switchCommand_scale hswitch with ⟨-, -, hmeasure⟩ | ⟨hsome, -⟩
  · exact hmeasure
  · simp [Dispatch.announced, haction] at hsome

/-- One turn: channel 1 takes in a data frame and nothing else. -/
theorem run_bothSend (h : s.Undisplayed) :
    ∃ s' calls x, step.run s bothSend = some (s', calls) ∧ s'.Undisplayed ∧
      (channelLog .one calls).map Prod.snd = [.frame x] ∧ x.action = .recvData ∧
      x.count.toNat = 5 := by
  obtain ⟨ports₁, f₁, x, calls₁, hrun₁, hf₁, hempty₁, hidle₁, hlcd₁, hx, hcount, hlog₁, -⟩ :=
    run_frameIn (p := .one) h.idle h.pc (h.fifo .one).1 (h.fifo .one).2
      (show [0xDA, 0x00, 0x00, 0x00, 0x00].length ≤ 60 by decide)
  obtain ⟨haction, hmeasure⟩ := apply_dataFrame hx hcount
  let s₁ : MainState := { s with ports := ports₁, fifo := s.fifo.set .one f₁ }
  have hrun₂ : step.run s₁ (loops 1) = some ({ s₁ with pc := .receive .two }, []) :=
    run_receive_empty (p := .one) h.pc hempty₁
  let s₂ : MainState := { s₁ with pc := .receive .two }
  obtain ⟨ports₂, f₂, y, calls₂, hrun₃, hf₂, hempty₂, hidle₂, hlcd₂, hy, hcount₂, -, hlog₂⟩ :=
    run_frameIn (s := s₂) (p := .two) hidle₁ rfl (h.fifo .two).1 (h.fifo .two).2
      (show [0xDA, 0x00, 0x00, 0x00, 0x00].length ≤ 60 by decide)
  obtain ⟨-, hmeasure₂⟩ := apply_dataFrame hy hcount₂
  let s₃ : MainState := { s₂ with ports := ports₂, fifo := s₂.fifo.set .two f₂ }
  have hrun₄ : step.run s₃ (loops 1) = some ({ s₃ with pc := .attachTest }, []) :=
    run_receive_empty (p := .two) rfl hempty₂
  have hone₃ : (s₃.lcdData .one).measure = 1 := by
    show (ports₂.lcdData.get .one).measure = 1
    rw [hlcd₂, PerPort.get_set_of_ne _ (by decide)]
    show (ports₁.lcdData.get .one).measure = 1
    rw [hlcd₁, PerPort.get_set_self, hmeasure]
    exact h.one
  have hrun₅ := run_round (s := { s₃ with pc := .attachTest })
    ⟨h.quiet.timerCnt, h.quiet.timerButton, h.quiet.mainBAttached⟩ rfl h.display
  have hrun₆ := run_refresh (s := { s₃ with pc := .refresh }) (p := .two) rfl h.display hone₃
  refine ⟨_, _, x, step.run_append (step.run_append (step.run_append (step.run_append
    (step.run_append hrun₁ hrun₂) hrun₃) hrun₄) hrun₅) hrun₆, ⟨?_, rfl, h.display, fun p => ?_,
    hidle₂, ?_, ?_⟩, ?_, haction, hcount⟩
  · exact ⟨h.quiet.timerCnt, h.quiet.timerButton, h.quiet.mainBAttached⟩
  · cases p
    · exact ⟨hf₁, hempty₁⟩
    · exact ⟨hf₂, hempty₂⟩
  · show ((s₃.ports.lcdData.set .two _).get .one).measure = 1
    rw [PerPort.get_set_of_ne _ (by decide)]
    exact hone₃
  · show ((s₃.ports.lcdData.set .two _).get .two).measure = 2
    rw [PerPort.get_set_self, lcdEadogCreateMenu_measure]
    show (ports₂.lcdData.get .two).measure = 2
    rw [hlcd₂, PerPort.get_set_self, hmeasure₂]
    show (ports₁.lcdData.get .two).measure = 2
    rw [hlcd₁, PerPort.get_set_of_ne _ (by decide)]
    exact h.two
  · have hlog₂' : channelLog .one calls₂ = [] := hlog₂
    simp only [channelLog_append, List.map_append, hlog₁, hlog₂']
    rfl

/-- A data frame with one sample makes the window longer by one. -/
theorem length_window_dataFrame {log log' : ChannelLog} {x : Dispatch}
    (hlog : log'.map Prod.snd = [.frame x]) (haction : x.action = .recvData)
    (hcount : x.count.toNat = 5) :
    (averagingWindow (log ++ log')).length = (averagingWindow log).length + 1 := by
  obtain ⟨⟨d, op⟩, rfl, rfl⟩ := List.map_eq_singleton_iff.1 hlog
  have hannounced : x.announced = none := by simp [Dispatch.announced, haction]
  have hlen : x.len.toNat = 5 := by rw [Dispatch.len_toNat (by omega), hcount]
  rw [averagingWindow, Log.window_concat]
  simp [ChannelOp.clearsSums, ChannelOp.taken, hannounced, haction, MsgBuf.samples, hlen,
    averagingWindow]

/-- Turn after turn the window of channel 1 grows. -/
theorem run_turns (n : ℕ) :
    ∀ {s : MainState}, s.Undisplayed → ∃ s' calls,
      step.run s (List.replicate n bothSend).flatten = some (s', calls) ∧ s'.Undisplayed ∧
      ∀ past, (averagingWindow (channelLog .one (past ++ calls))).length =
        (averagingWindow (channelLog .one past)).length + n := by
  induction n with
  | zero => exact fun {s} h => ⟨s, [], rfl, h, fun past => by simp⟩
  | succ n ih =>
    intro s h
    obtain ⟨s₁, calls₁, x, hrun₁, h₁, hlog, haction, hcount⟩ := run_bothSend h
    obtain ⟨s₂, calls₂, hrun₂, h₂, hgrow⟩ := ih h₁
    refine ⟨s₂, calls₁ ++ calls₂, ?_, h₂, fun past => ?_⟩
    · rw [List.replicate_succ, List.flatten_cons]
      exact step.run_append hrun₁ hrun₂
    · rw [← List.append_assoc, hgrow, channelLog_append,
        length_window_dataFrame hlog haction hcount]
      omega

/-- The power loss of port 2 displays channel 1, and the next refresh draws it. -/
theorem run_portTwoLost (h : s.Undisplayed) :
    ∃ s', step.run s portTwoLost =
      some (s', [.channel .two (s.lcdData .two) .resetData,
        .channel .one (s.lcdData .one) .createMenu]) := by
  have hrun₁ := run_receive_empty h.pc (h.fifo .one).2
  have hrun₂ := run_receive_empty (s := { s with pc := .receive .two }) rfl (h.fifo .two).2
  have hquiet : Quiet { s with pc := .attachTest } :=
    ⟨h.quiet.timerCnt, h.quiet.timerButton, h.quiet.mainBAttached⟩
  have hrun₃ := run_to_power hquiet rfl
  have hrun₄ := run_powerLoss (s := { s with pc := .power .two }) rfl h.one h.two
  let s₁ : MainState := { s with
    pc := .autoSelect
    display := 1
    ports := { s.ports with
      lcdData := s.ports.lcdData.set .two (lcdEadogResetData (s.lcdData .two) 20) } }
  have hone : s₁.lcdData .one = s.lcdData .one := by
    show (s.ports.lcdData.set .two _).get .one = _
    rw [PerPort.get_set_of_ne _ (by decide)]
    rfl
  have hrun₅ := run_from_power (s := s₁)
    ⟨h.quiet.timerCnt, h.quiet.timerButton, h.quiet.mainBAttached⟩ rfl rfl
  have hrun₆ := run_refresh (s := { s₁ with pc := .refresh }) (p := .one) rfl rfl
    ((congrArg DisplayData.measure hone).trans h.one)
  have hrun := step.run_append (step.run_append (step.run_append (step.run_append
    (step.run_append hrun₁ hrun₂) hrun₃) hrun₄) hrun₅) hrun₆
  rw [← hone]
  exact ⟨_, hrun⟩

end MainState

open MainState

/-- There is no bound on the number of samples in a window that is drawn. -/
theorem window_unbounded (n : ℕ) :
    ∃ s past d, MainState.step.run .start (undisplayed n) =
        some (s, past ++ [.channel .one d .createMenu]) ∧
      d.measure = 1 ∧ n ≤ (averagingWindow (channelLog .one past)).length := by
  obtain ⟨s₀, calls₀, hrun₀, h₀⟩ := bothActive_undisplayed
  obtain ⟨s₁, calls₁, hrun₁, h₁, hgrow⟩ := run_turns n h₀
  obtain ⟨s₂, hrun₂⟩ := run_portTwoLost h₁
  have hrun := MainState.step.run_append (MainState.step.run_append hrun₀ hrun₁) hrun₂
  refine ⟨s₂, calls₀ ++ calls₁ ++ [.channel .two (s₁.lcdData .two) .resetData], s₁.lcdData .one, ?_,
    h₁.one, ?_⟩
  · rw [List.append_assoc _ [_]]
    exact hrun
  · have hlog : channelLog .one (calls₀ ++ calls₁ ++
        [.channel .two (s₁.lcdData .two) .resetData]) = channelLog .one (calls₀ ++ calls₁) := by
      rw [channelLog_append]
      exact List.append_nil _
    rw [hlog, hgrow]
    omega

end PowerMeterDisplay
