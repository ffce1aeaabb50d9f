import PowerMeterDisplay.Turns

/-!
# The displayed channel

`display`, the codes of the two records and the menu page are changed in six places of the main
loop.  `MainState.Live` holds in every state of every run: a record is active or disabled, a
channel that is displayed is active, and behind the choice of a channel none is displayed only if
both are disabled.  So each refresh either draws a menu page or shows the waiting text
(`displayed_channel_live`).
-/

namespace PowerMeterDisplay

/-! ## Records -/

/-- The record of port `p` is active or disabled. -/
def Coded (p : Port) (d : DisplayData) : Prop := d.measure = p.active ∨ d.measure = p.disabled

theorem reactivate_active (p : Port) : reactivate p.active = p.active := by cases p <;> rfl

theorem reactivate_disabled (p : Port) : reactivate p.disabled = p.active := by cases p <;> rfl

theorem active_ne_disabled (p : Port) : p.active ≠ p.disabled := by cases p <;> decide

theorem active_ne_zero (p : Port) : p.active ≠ 0 := by cases p <;> decide

/-- A frame leaves the code of a record or reactivates it, and leaves the menu page. -/
theorem Dispatch.apply_frame (x : Dispatch) (d : DisplayData) :
    ((x.apply d).measure = d.measure ∨ (x.apply d).measure = reactivate d.measure) ∧
      (x.apply d).menuPos = d.menuPos := by
  unfold apply
  rcases x.action with _ | _ | _ | _
  · obtain ⟨hmeasure, hmenuPos⟩ := foldl_addSample_frame (x.msgBuf.samples x.len) d
    exact ⟨Or.inl hmeasure, hmenuPos⟩
  · dsimp only
    unfold applyScale
    split_ifs
    · exact ⟨Or.inl rfl, rfl⟩
    · exact ⟨Or.inr rfl, rfl⟩
    · exact ⟨Or.inl rfl, rfl⟩
  · exact ⟨Or.inl rfl, rfl⟩
  · exact ⟨Or.inl rfl, rfl⟩

/-- After a frame an active record is active, and a disabled one is active or still disabled. -/
theorem Coded.apply {p : Port} {d : DisplayData} (h : Coded p d) (x : Dispatch) :
    Coded p (x.apply d) ∧ (d.measure = p.active → (x.apply d).measure = p.active) := by
  rcases (x.apply_frame d).1 with hsame | hnew
  · rw [Coded, hsame]
    exact ⟨h, id⟩
  · have hactive : (x.apply d).measure = p.active := by
      rcases h with h | h
      · rw [hnew, h, reactivate_active]
      · rw [hnew, h, reactivate_disabled]
    exact ⟨Or.inl hactive, fun _ => hactive⟩

/-! ## The invariant -/

namespace Pc

/-- The parts of the loop from the choice of a channel up to the refresh. -/
def chosen : Pc → Bool
  | .button | .attached | .refreshDue | .refreshClear | .refresh => true
  | _ => false

/-- The refresh code. -/
def refreshing : Pc → Bool
  | .refreshDue | .refreshClear | .refresh => true
  | _ => false

theorem chosen_of_refreshing {pc : Pc} (h : pc.refreshing) : pc.chosen := by
  cases pc <;> first | rfl | exact absurd h Bool.false_ne_true

theorem not_chosen_afterPower (p : Port) : (afterPower p).chosen = false := by cases p <;> rfl

theorem not_chosen_afterReceive (p : Port) : (afterReceive p).chosen = false := by cases p <;> rfl

theorem not_chosen_ite {c : Prop} [Decidable c] {pc pc' : Pc} (h : pc.chosen = false)
    (h' : pc'.chosen = false) : (if c then pc else pc').chosen = false := by
  split_ifs <;> assumption

end Pc

namespace MainState

/-- No channel is displayed, or an active one. -/
def DisplaysActive (s : MainState) : Prop :=
  s.display = 0 ∨ ∃ p : Port, s.display = p.active ∧ (s.lcdData p).measure = p.active

/-- The displayed channel is active, and both channels show the current menu page. -/
structure Live (s : MainState) : Prop where
  coded : ∀ p, Coded p (s.lcdData p)
  menuPos : ∀ p, (s.lcdData p).menuPos = s.menuCounter
  menuCounter_le : s.menuCounter ≤ maxMenu
  display : s.DisplaysActive
  chosen : s.pc.chosen → s.display = 0 → ∀ p, (s.lcdData p).measure = p.disabled

theorem start_live : start.Live where
  coded p := by cases p <;> exact Or.inr rfl
  menuPos p := by cases p <;> rfl
  menuCounter_le := by decide
  display := Or.inl rfl
  chosen h := absurd h Bool.false_ne_true

namespace Live

variable {s s' : MainState}

/-- Steps that change no code of a record. -/
theorem of_both (h : s.Live) {f : Port → DisplayData → DisplayData}
    (hlcd : ∀ p, s'.lcdData p = f p (s.lcdData p)) (hmeasure : ∀ p d, (f p d).measure = d.measure)
    (hmenuPos : ∀ p, (f p (s.lcdData p)).menuPos = s'.menuCounter)
    (hle : s'.menuCounter ≤ maxMenu)
    (hdisplay : s'.display = 0 ∨
      ∃ p : Port, s'.display = p.active ∧ (s.lcdData p).measure = p.active)
    (hnone : s'.display = 0 → s.display = 0) (hpc : s'.pc.chosen → s.pc.chosen) : s'.Live := by
  have hcode (p : Port) : (s'.lcdData p).measure = (s.lcdData p).measure := by
    rw [hlcd, hmeasure]
  refine ⟨fun p => ?_, fun p => ?_, hle, ?_, fun hchosen hzero p => ?_⟩
  · rw [Coded, hcode]
    exact h.coded p
  · rw [hlcd]
    exact hmenuPos p
  · simp only [DisplaysActive, hcode]
    exact hdisplay
  · rw [hcode]
    exact h.chosen (hpc hchosen) (hnone hzero) p

/-- Steps that change neither the records nor what is displayed. -/
theorem of_same (h : s.Live) (hlcd : s'.ports.lcdData = s.ports.lcdData)
    (hdisplay : s'.display = s.display) (hmenu : s'.menuCounter = s.menuCounter)
    (hpc : s'.pc.chosen → s.pc.chosen) : s'.Live := by
  have hrecord (p : Port) : s'.lcdData p = s.lcdData p := by rw [lcdData, lcdData, hlcd]
  refine h.of_both (f := fun _ d => d) hrecord (fun _ _ => rfl) (fun p => hmenu ▸ h.menuPos p)
    (hmenu ▸ h.menuCounter_le) ?_ (fun hzero => hdisplay ▸ hzero) hpc
  rw [hdisplay]
  exact h.display

/-- Steps that change one record: an active record stays active, and behind the choice of a channel
no code changes. -/
theorem of_record (h : s.Live) {p : Port} {d : DisplayData}
    (hlcd : s'.ports.lcdData = s.ports.lcdData.set p d) (hcoded : Coded p d)
    (hactive : (s.lcdData p).measure = p.active → d.measure = p.active)
    (hmenuPos : d.menuPos = (s.lcdData p).menuPos) (hdisplay : s'.display = s.display)
    (hmenu : s'.menuCounter = s.menuCounter)
    (hpc : s'.pc.chosen → s.pc.chosen ∧ d.measure = (s.lcdData p).measure) : s'.Live := by
  have hself : s'.lcdData p = d := by rw [lcdData, hlcd, PerPort.get_set_self]
  have hother {q : Port} (hq : q ≠ p) : s'.lcdData q = s.lcdData q := by
    rw [lcdData, hlcd, PerPort.get_set_of_ne _ hq, lcdData]
  refine ⟨fun q => ?_, fun q => ?_, hmenu ▸ h.menuCounter_le, ?_, fun hchosen hzero q => ?_⟩
  · by_cases hq : q = p
    · rw [hq, hself]
      exact hcoded
    · rw [hother hq]
      exact h.coded q
  · by_cases hq : q = p
    · rw [hq, hself, hmenuPos, hmenu]
      exact h.menuPos p
    · rw [hother hq, hmenu]
      exact h.menuPos q
  · rw [DisplaysActive, hdisplay]
    rcases h.display with hzero | ⟨q, hshown, hq⟩
    · exact Or.inl hzero
    · refine Or.inr ⟨q, hshown, ?_⟩
      by_cases hqp : q = p
      · subst hqp
        rw [hself]
        exact hactive hq
      · rw [hother hqp]
        exact hq
  · obtain ⟨hchosen, hsame⟩ := hpc hchosen
    have hdisabled := h.chosen hchosen (hdisplay ▸ hzero)
    by_cases hq : q = p
    · rw [hq, hself, hsame]
      exact hdisabled p
    · rw [hother hq]
      exact hdisabled q

/-! ## Steps -/

/-- A port that is disabled for its missing power. -/
theorem of_lost (h : s.Live) {p : Port}
    (hlcd : s'.ports.lcdData = s.ports.lcdData.set p (lcdEadogResetData (s.lcdData p) p.disabled))
    (hmenu : s'.menuCounter = s.menuCounter) (hdisplay : s'.DisplaysActive)
    (hpc : s'.pc.chosen = false) : s'.Live := by
  have hself : s'.lcdData p = lcdEadogResetData (s.lcdData p) p.disabled := by
    rw [lcdData, hlcd, PerPort.get_set_self]
  have hother {q : Port} (hq : q ≠ p) : s'.lcdData q = s.lcdData q := by
    rw [lcdData, hlcd, PerPort.get_set_of_ne _ hq, lcdData]
  refine ⟨fun q => ?_, fun q => ?_, hmenu ▸ h.menuCounter_le, hdisplay, fun hchosen => ?_⟩
  · by_cases hq : q = p
    · rw [hq, hself]
      exact Or.inr rfl
    · rw [hother hq]
      exact h.coded q
  · by_cases hq : q = p
    · rw [hq, hself, hmenu]
      exact h.menuPos p
    · rw [hother hq, hmenu]
      exact h.menuPos q
  · rw [hpc] at hchosen
    exact absurd hchosen Bool.false_ne_true

/-- A port without power: if the other channel is active it is displayed, else none is. -/
theorem power (h : s.Live) {p : Port} {high : Bool} {r : MainState × List Call}
    (hr : s.power p high = some r) {pc : Pc} (hpc : pc.chosen = false) :
    MainState.Live { r.1 with pc := pc } := by
  have hne : p.other ≠ p := by cases p <;> decide
  unfold MainState.power at hr
  split_ifs at hr with hlost hother
  · obtain rfl := Option.some.inj hr
    refine h.of_lost rfl rfl (Or.inr ⟨p.other, rfl, ?_⟩) hpc
    show ((s.ports.lcdData.set p _).get p.other).measure = p.other.active
    rw [PerPort.get_set_of_ne _ hne]
    exact (h.coded p.other).resolve_right hother
  · obtain rfl := Option.some.inj hr
    exact h.of_lost rfl rfl (Or.inl rfl) hpc
  · obtain rfl := Option.some.inj hr
    exact h.of_same rfl rfl rfl fun hchosen => by simp [hpc] at hchosen

/-- Behind the choice of a channel none is displayed only if both are disabled. -/
theorem autoSelect (h : s.Live) : MainState.Live { s.autoSelect with pc := .button } := by
  obtain ⟨hports, -⟩ := s.autoSelect_ports
  have hrecord (p : Port) : s.autoSelect.lcdData p = s.lcdData p := by rw [lcdData, lcdData, hports]
  have hmenu : s.autoSelect.menuCounter = s.menuCounter := by
    unfold MainState.autoSelect
    split_ifs <;> rfl
  have hshown : s.autoSelect.DisplaysActive ∧
      (s.autoSelect.display = 0 → ∀ p, (s.lcdData p).measure = p.disabled) := by
    simp only [DisplaysActive, hrecord]
    unfold MainState.autoSelect
    split_ifs with hzero hone htwo htwo
    · exact ⟨Or.inr ⟨.two, rfl, htwo⟩, fun hnone => absurd hnone (active_ne_zero .two)⟩
    · exact ⟨Or.inr ⟨.one, rfl, hone⟩, fun hnone => absurd hnone (active_ne_zero .one)⟩
    · exact ⟨Or.inr ⟨.two, rfl, htwo⟩, fun hnone => absurd hnone (active_ne_zero .two)⟩
    · refine ⟨Or.inl hzero, fun _ p => (h.coded p).resolve_left ?_⟩
      cases p
      · exact hone
      · exact htwo
    · exact ⟨h.display, fun hnone => absurd hnone hzero⟩
  refine ⟨fun p => ?_, fun p => ?_, ?_, hshown.1, fun _ hnone p => ?_⟩
  · show Coded p (s.autoSelect.lcdData p)
    rw [hrecord]
    exact h.coded p
  · show (s.autoSelect.lcdData p).menuPos = s.autoSelect.menuCounter
    rw [hrecord, hmenu]
    exact h.menuPos p
  · show s.autoSelect.menuCounter ≤ maxMenu
    rw [hmenu]
    exact h.menuCounter_le
  · show (s.autoSelect.lcdData p).measure = p.disabled
    rw [hrecord]
    exact hshown.2 hnone p

/-- A short press shows the next page, or the other channel if that is active. -/
theorem menuStep (h : s.Live) :
    s.menuStep.menuCounter ≤ maxMenu ∧ s.menuStep.DisplaysActive ∧
      (s.menuStep.display = 0 → s.display = 0) := by
  obtain ⟨hports, -⟩ := s.menuStep_ports
  have hrecord (p : Port) : s.menuStep.lcdData p = s.lcdData p := by rw [lcdData, lcdData, hports]
  have hlive {p : Port} (hp : (s.lcdData p).measure ≠ p.disabled) :
      (s.lcdData p).measure = p.active := (h.coded p).resolve_right hp
  have hfirst : (0 : UInt8) ≤ maxMenu := by decide
  simp only [DisplaysActive, hrecord]
  unfold MainState.menuStep
  dsimp only
  split_ifs with hwrap hone htwo htwo hone'
  · exact ⟨hfirst, Or.inr ⟨.two, rfl, hlive htwo⟩,
      fun hnone => absurd hnone (active_ne_zero .two)⟩
  · exact ⟨hfirst, h.display, id⟩
  · exact ⟨hfirst, Or.inr ⟨.one, rfl, hlive hone'⟩,
      fun hnone => absurd hnone (active_ne_zero .one)⟩
  · exact ⟨hfirst, h.display, id⟩
  · exact ⟨hfirst, h.display, id⟩
  · exact ⟨UInt8.not_lt.1 hwrap, h.display, id⟩

/-- The button block. -/
theorem button (h : s.Live) (hpc : s.pc = .button) {high : Bool} {r : MainState × List Call}
    (hr : s.button high = some r) : MainState.Live { r.1 with pc := .attached } := by
  have hchosen : s.pc.chosen := by rw [hpc]; rfl
  unfold MainState.button at hr
  split_ifs at hr with hreleased
  · obtain ⟨r', haction, rfl⟩ := Option.map_eq_some_iff.1 hr
    unfold buttonAction at haction
    dsimp only at haction
    split_ifs at haction with hshort hlong hboot
    · obtain ⟨hle, hdisplay, hnone⟩ := h.menuStep
      obtain ⟨hports, -⟩ := s.menuStep_ports
      have hrecord (p : Port) : s.menuStep.lcdData p = s.lcdData p := by
        rw [lcdData, lcdData, hports]
      rw [callBoth_eq (f := fun _ d => { d with menuPos := s.menuStep.menuCounter })
        fun _ _ => rfl] at haction
      obtain rfl := Option.some.inj haction
      refine h.of_both (f := fun _ d => { d with menuPos := s.menuStep.menuCounter })
        (fun p => ?_) (fun _ _ => rfl) (fun _ => rfl) hle ?_ hnone fun _ => hchosen
      · rw [← hrecord]
        cases p <;> rfl
      · simpa only [DisplaysActive, hrecord] using hdisplay
    · obtain ⟨r', hcall, hr'⟩ := Option.bind_eq_some_iff.1 haction
      rw [callBoth_eq (f := fun _ d => lcdEadogResetMinmax d) fun _ _ => rfl] at hcall
      obtain rfl := Option.some.inj hcall
      obtain rfl := Option.some.inj hr'
      exact h.of_both (f := fun _ d => lcdEadogResetMinmax d) (fun p => by cases p <;> rfl)
        (fun _ _ => rfl) h.menuPos h.menuCounter_le h.display id fun _ => hchosen
    · obtain rfl := Option.some.inj haction
      exact h.of_same rfl rfl rfl fun _ => hchosen
    · obtain rfl := Option.some.inj haction
      exact h.of_same rfl rfl rfl fun _ => hchosen
  · obtain rfl := Option.some.inj hr
    exact h.of_same rfl rfl rfl fun _ => hchosen

/-- The call for the displayed channel. -/
theorem drawMenu (h : s.Live) {r : MainState × List Call} (hr : s.drawMenu = some r)
    {pc : Pc} (hpc : pc.chosen = false) : MainState.Live { r.1 with pc := pc } := by
  have hnot {s' : MainState} : ({ s' with pc := pc } : MainState).pc.chosen → False := by
    simp [hpc]
  rcases h.display with hzero | ⟨p, hdisplay, -⟩
  · have hnone : s.drawMenu = some (s, []) := by
      unfold MainState.drawMenu
      rw [hzero]
      rfl
    obtain rfl := Option.some.inj (hnone.symm.trans hr)
    exact h.of_same rfl rfl rfl fun hchosen => (hnot hchosen).elim
  · rw [drawMenu_eq hdisplay, call_eq (d := lcdEadogCreateMenu (s.lcdData p)) rfl] at hr
    obtain rfl := Option.some.inj hr
    refine h.of_record rfl ?_ (fun hactive => ?_) (lcdEadogCreateMenu_menuPos _) rfl rfl
      fun hchosen => (hnot hchosen).elim
    · rw [Coded, lcdEadogCreateMenu_measure]
      exact h.coded p
    · rw [lcdEadogCreateMenu_measure, hactive]

/-- The refresh. -/
theorem refresh (h : s.Live) {r : MainState × List Call} (hr : s.refresh = some r)
    {pc : Pc} (hpc : pc.chosen = false) : MainState.Live { r.1 with pc := pc } := by
  obtain ⟨r', hdraw, hr⟩ := Option.bind_eq_some_iff.1 hr
  have hlive := h.drawMenu hdraw hpc
  dsimp only at hr
  split_ifs at hr <;> obtain rfl := Option.some.inj hr <;> exact hlive

/-- One test of the loop of the receiver. -/
theorem receive (h : s.Live) (hvalid : s.Valid) {p : Port} (hpc : s.pc = .receive p)
    {r : MainState × List Call} (hr : s.receive p = some r) : r.1.Live := by
  have hnot : s.pc.chosen = false := by rw [hpc]; rfl
  obtain ⟨f, item, hpull, -⟩ := (hvalid.fifo p).pull_eq
  cases item with
  | none =>
    obtain rfl := Option.some.inj ((receive_empty hpull).symm.trans hr)
    refine h.of_same rfl rfl rfl fun hchosen => ?_
    rw [Pc.not_chosen_afterReceive] at hchosen
    exact absurd hchosen Bool.false_ne_true
  | some byte =>
    obtain ⟨φ, hφ⟩ := hvalid.holds
    obtain ⟨ports, hbyte, -, -, hlcd⟩ := receiveByte_eq hφ p byte
    obtain rfl := Option.some.inj ((receive_byte hpull hbyte).symm.trans hr)
    rcases hx : s.ports.receiver.dispatched byte with _ | x
    · rw [hx] at hlcd
      exact h.of_same (hlcd.trans (PerPort.set_get_self _ _)) rfl rfl id
    · rw [hx] at hlcd
      obtain ⟨hcoded, hactive⟩ := (h.coded p).apply x
      refine h.of_record hlcd hcoded hactive (x.apply_frame _).2 rfl rfl fun hchosen => ?_
      exact absurd (hnot.symm.trans hchosen) Bool.false_ne_true

/-- One step of the main loop. -/
theorem loop (h : s.Live) (hvalid : s.Valid) {high : Bool} {s' : MainState} {calls : List Call}
    (hstep : s.loop high = some (s', calls)) : s'.Live := by
  unfold MainState.loop at hstep
  cases hpc : s.pc with
  | power p =>
    simp only [hpc] at hstep
    obtain ⟨r, hr, he⟩ := Option.map_eq_some_iff.1 hstep
    obtain ⟨rfl, rfl⟩ := Prod.mk.inj he
    exact h.power hr (Pc.not_chosen_afterPower p)
  | autoSelect =>
    simp only [hpc] at hstep
    obtain ⟨rfl, rfl⟩ := Prod.mk.inj (Option.some.inj hstep)
    exact h.autoSelect
  | button =>
    simp only [hpc] at hstep
    obtain ⟨r, hr, he⟩ := Option.map_eq_some_iff.1 hstep
    obtain ⟨rfl, rfl⟩ := Prod.mk.inj he
    exact h.button hpc hr
  | refresh =>
    simp only [hpc] at hstep
    obtain ⟨r, hr, he⟩ := Option.map_eq_some_iff.1 hstep
    obtain ⟨rfl, rfl⟩ := Prod.mk.inj he
    exact h.refresh hr rfl
  | receive p =>
    simp only [hpc] at hstep
    exact h.receive hvalid hpc hstep
  | attached | refreshDue | refreshClear =>
    simp only [hpc] at hstep
    obtain ⟨rfl, rfl⟩ := Prod.mk.inj (Option.some.inj hstep)
    exact h.of_same rfl rfl rfl fun _ => by rw [hpc]; rfl
  | attachTest | attachRetest | detachTest | detachRetest =>
    simp only [hpc] at hstep
    obtain ⟨rfl, rfl⟩ := Prod.mk.inj (Option.some.inj hstep)
    refine h.of_same rfl rfl rfl fun hchosen => ?_
    exact absurd ((Pc.not_chosen_ite rfl rfl).symm.trans hchosen) Bool.false_ne_true
  | attachDelay | attachStore | attachSettle | detachDelay | detachStore =>
    simp only [hpc] at hstep
    obtain ⟨rfl, rfl⟩ := Prod.mk.inj (Option.some.inj hstep)
    exact h.of_same rfl rfl rfl fun hchosen => absurd hchosen Bool.false_ne_true

/-- One event. -/
theorem step (h : s.Live) (hvalid : s.Valid) {e : Event} {s' : MainState} {calls : List Call}
    (hstep : MainState.step s e = some (s', calls)) : s'.Live := by
  cases e with
  | rxc p byte =>
    obtain ⟨⟨f, st⟩, -, he⟩ := Option.bind_eq_some_iff.1 hstep
    obtain ⟨rfl, rfl⟩ := Prod.mk.inj (Option.some.inj he)
    exact h.of_same rfl rfl rfl id
  | timer _ | suspend | resume =>
    obtain ⟨rfl, rfl⟩ := Prod.mk.inj (Option.some.inj hstep)
    exact h.of_same rfl rfl rfl id
  | loop high => exact h.loop hvalid hstep

end Live

theorem live_of_run {es : List Event} {s : MainState} {calls : List Call}
    (hrun : step.run .start es = some (s, calls)) : s.Live := by
  refine (step.run_history (P := fun _ s _ => s.Valid ∧ s.Live) ⟨start_valid, start_live⟩ ?_ hrun).2
  intro es s calls e s' calls' h hstep
  obtain ⟨s₁, calls₁, hstep₁, hmoves⟩ := step_moves h.1 e
  obtain ⟨rfl, rfl⟩ := Prod.mk.inj (Option.some.inj (hstep₁.symm.trans hstep))
  exact ⟨hmoves.valid, h.2.step h.1 hstep⟩

namespace Live

variable {s : MainState}

/-- A channel that is displayed is active. -/
theorem measure_of_display (h : s.Live) {p : Port} (hdisplay : s.display = p.active) :
    (s.lcdData p).measure = p.active := by
  rcases h.display with hzero | ⟨q, hshown, hactive⟩
  · exact absurd (hdisplay.symm.trans hzero) (active_ne_zero p)
  · have hpq : p.active = q.active := hdisplay.symm.trans hshown
    obtain rfl : p = q := by cases p <;> cases q <;> first | rfl | exact absurd hpq (by decide)
    exact hactive

/-- Behind the choice of a channel none is displayed exactly if both are disabled. -/
theorem display_eq_zero_iff (h : s.Live) (hpc : s.pc.chosen) :
    s.display = 0 ↔ ∀ p : Port, (s.lcdData p).measure = p.disabled := by
  refine ⟨h.chosen hpc, fun hdisabled => h.display.resolve_right ?_⟩
  rintro ⟨p, -, hactive⟩
  exact active_ne_disabled p (hactive.symm.trans (hdisabled p))

/-- A refresh draws the menu page of an active channel or shows the waiting text. -/
theorem refresh_eq (h : s.Live) (hpc : s.pc.chosen) :
    (∃ (p : Port) (s' : MainState), (s.lcdData p).measure = p.active ∧
      s.refresh = some (s', [.channel p (s.lcdData p) .createMenu])) ∨
    s.refresh = some (s, [.print "waiting for data" "...             "]) := by
  rcases h.display with hzero | ⟨p, hdisplay, hactive⟩
  · have hdisabled := (h.display_eq_zero_iff hpc).1 hzero
    have hnone : s.drawMenu = some (s, []) := by
      unfold MainState.drawMenu
      rw [hzero]
      rfl
    refine Or.inr ?_
    rw [MainState.refresh, hnone]
    exact if_pos ⟨hdisabled .one, hdisabled .two⟩
  · let s' : MainState := { s with ports := { s.ports with
      lcdData := s.ports.lcdData.set p (lcdEadogCreateMenu (s.lcdData p)) } }
    refine Or.inl ⟨p, s', hactive, ?_⟩
    rw [MainState.refresh, drawMenu_eq hdisplay,
      call_eq (d := lcdEadogCreateMenu (s.lcdData p)) rfl]
    refine if_neg fun hwaiting => active_ne_disabled p ?_
    have hdisabled (q : Port) :
        ((s.ports.lcdData.set p (lcdEadogCreateMenu (s.lcdData p))).get q).measure =
          q.disabled := by
      cases q
      · exact hwaiting.1
      · exact hwaiting.2
    rw [← hactive, ← hdisabled p, PerPort.get_set_self, lcdEadogCreateMenu_measure]

end Live

/-! ## The refresh code -/

/-- In every run of the main loop, whenever control is in the refresh code: a displayed channel is
active, none is displayed exactly if both are disabled, and both records show the current menu page;
so a refresh either draws the menu page of a channel, past the early return, or shows the waiting
text. -/
theorem displayed_channel_live {es : List Event} {s : MainState} {calls : List Call}
    (hrun : step.run .start es = some (s, calls)) (hpc : s.pc.refreshing) :
    (s.display = 1 → (s.lcdData .one).measure = 1) ∧
    (s.display = 2 → (s.lcdData .two).measure = 2) ∧
    (s.display = 0 ↔ (s.lcdData .one).measure = 10 ∧ (s.lcdData .two).measure = 20) ∧
    ((s.lcdData .one).measure = 1 ∨ (s.lcdData .one).measure = 10) ∧
    ((s.lcdData .two).measure = 2 ∨ (s.lcdData .two).measure = 20) ∧
    (∀ p, (s.lcdData p).menuPos = s.menuCounter) ∧ s.menuCounter ≤ maxMenu ∧
    ∃ s' calls', s.refresh = some (s', calls') ∧
      ((∃ p, ¬ (s.lcdData p).measure > 2 ∧
          calls' = [.channel p (s.lcdData p) .createMenu]) ∨
        calls' = [.print "waiting for data" "...             "]) := by
  have h := live_of_run hrun
  have hchosen := Pc.chosen_of_refreshing hpc
  refine ⟨h.measure_of_display (p := .one), h.measure_of_display (p := .two), ?_, h.coded .one,
    h.coded .two, h.menuPos, h.menuCounter_le, ?_⟩
  · rw [h.display_eq_zero_iff hchosen]
    refine ⟨fun hdisabled => ⟨hdisabled .one, hdisabled .two⟩, fun hdisabled p => ?_⟩
    cases p
    · exact hdisabled.1
    · exact hdisabled.2
  · rcases h.refresh_eq hchosen with ⟨p, s', hactive, hdraw⟩ | hwaiting
    · refine ⟨s', _, hdraw, Or.inl ⟨p, ?_, rfl⟩⟩
      rw [hactive]
      cases p <;> decide
    · exact ⟨s, _, hwaiting, Or.inr rfl⟩

set_option maxRecDepth 20000 in
theorem displayed_channel_live_scaleBytes :
    ∃ s calls, step.run .start
        (attach ++ bytesIn .one scaleBytes ++ (loops 9 ++ ticks 251 ++ loops 2)) =
          some (s, calls) ∧
      s.pc.refreshing ∧ s.display = 1 ∧ (s.lcdData .one).measure = 1 := by
  obtain ⟨s, calls, hrun, hpc, hdisplay⟩ : ∃ s calls, step.run .start
      (attach ++ bytesIn .one scaleBytes ++ (loops 9 ++ ticks 251 ++ loops 2)) =
        some (s, calls) ∧ s.pc.refreshing ∧ s.display = 1 := ⟨_, _, rfl, rfl, rfl⟩
  exact ⟨s, calls, hrun, hpc, hdisplay, (displayed_channel_live hrun hpc).1 hdisplay⟩

end MainState

end PowerMeterDisplay
