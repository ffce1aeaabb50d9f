import PowerMeterDisplay.Delivery
import PowerMeterDisplay.DisplayedChannel
import PowerMeterDisplay.MenuPages

/-!
# The screen over whole runs

The display behind the main loop.  From start-up on, in any state of the display, the screen always
shows the last call that has a page, whole and with nothing left of what was shown before
(`screen_of_run`).  A refresh makes it show the current menu page of the displayed channel, or the
waiting text while both channels are disabled (`screen_after_refresh`).
-/

namespace PowerMeterDisplay

variable {L : FloatLib} {A : Advance}

/-! ## Call after call -/

/-- The screen after some calls, from the pages they show. -/
def shown (L : FloatLib) (screen : List UInt8 × List UInt8) (calls : List Call) :
    List UInt8 × List UInt8 :=
  calls.foldl (fun screen c => (c.page L).elim screen Lcd.visible) screen

theorem shown_append (screen : List UInt8 × List UInt8) (calls calls' : List Call) :
    shown L screen (calls ++ calls') = shown L (shown L screen calls) calls' :=
  List.foldl_append

theorem run_calls {calls : List Call} (hclean : ∀ c ∈ calls, c.Clean L)
    (htext : ∀ c ∈ calls, c.TextCovers) :
    ∀ {x : Lcd}, x.Ready → ∃ wss y, calls.mapM (Call.wires L) = some wss ∧
      (Lcd.wire A).run x wss.flatten = some (y, []) ∧ y.Ready ∧
      y.panel.memory .glyphs = x.panel.memory .glyphs ∧
      y.panel.screen = shown L x.panel.screen calls := by
  induction calls with
  | nil => exact fun {x} h => ⟨[], x, rfl, rfl, h, rfl, rfl⟩
  | cons c calls ih =>
    intro x h
    obtain ⟨ws, y, hws, hrun, hy, hglyphs, hscreen⟩ :=
      Call.run_wires (A := A) h (hclean c List.mem_cons_self) (htext c List.mem_cons_self)
    obtain ⟨wss, z, hwss, hrest, hz, hglyphs', hscreen'⟩ :=
      ih (fun c hc => hclean c (List.mem_cons_of_mem _ hc))
        (fun c hc => htext c (List.mem_cons_of_mem _ hc)) hy
    refine ⟨ws :: wss, z, ?_, (Lcd.wire A).run_append hrun hrest, hz, hglyphs'.trans hglyphs, ?_⟩
    · simp [List.mapM_cons, hws, hwss]
    · rw [hscreen', hscreen, shown, shown, List.foldl_cons]

/-! ## The texts of the main loop -/

theorem Call.Own.textCovers {c : Call} (h : c.Own) : c.TextCovers := by
  rintro line₁ line₂ rfl
  cases h <;> exact ⟨by decide, by decide⟩

namespace MainState

/-- The receiver prints no text. -/
theorem textCovers_receive {s : MainState} {p : Port} {r : MainState × List Call}
    (h : s.receive p = some r) : ∀ c ∈ r.2, c.TextCovers := by
  obtain ⟨⟨x, out⟩, -, hr⟩ := Option.bind_eq_some_iff.1 h
  dsimp only at hr
  split at hr
  · obtain rfl := Option.some.inj hr
    exact fun _ hc => nomatch hc
  · obtain rfl := Option.some.inj hr
    intro c hc
    obtain ⟨y, -, hc⟩ := List.mem_flatMap.1 hc
    obtain ⟨z, -, hc⟩ := List.mem_flatMap.1 hc
    rintro line₁ line₂ rfl
    unfold frameCalls at hc
    split_ifs at hc <;> simp at hc

theorem textCovers_of_run {es : List Event} {s : MainState} {calls : List Call}
    (hrun : step.run .start es = some (s, calls)) : ∀ c ∈ calls, c.TextCovers := by
  refine step.forall_out_of_run (I := fun _ => True) ?_ trivial hrun
  intro s e s' calls _ hstep
  refine ⟨trivial, ?_⟩
  cases e with
  | rxc p byte =>
    obtain ⟨r, -, hr⟩ := Option.bind_eq_some_iff.1 hstep
    obtain ⟨-, rfl⟩ := Prod.mk.inj (Option.some.inj hr)
    exact fun _ hc => nomatch hc
  | timer _ | suspend | resume =>
    obtain ⟨-, rfl⟩ := Prod.mk.inj (Option.some.inj hstep)
    exact fun _ hc => nomatch hc
  | loop high =>
    have hloop : s.loop high = some (s', calls) := hstep
    by_cases hpc : ∃ p, s.pc = .receive p
    · obtain ⟨p, hpc⟩ := hpc
      rw [loop, hpc] at hloop
      exact textCovers_receive hloop
    · exact fun c hc => ((Apart.of_loop (fun p hp => hpc ⟨p, hp⟩) hloop).own c hc).textCovers

end MainState

/-! ## Start-up -/

def waitingText : List UInt8 × List UInt8 := (ascii "waiting for data", ascii "...             ")

/-- What `main` writes before its loop. -/
def startWires : List Wire :=
  lcdEadogInit ++ lcdPage (ascii "PowerMeter", ascii "Display v1.1") ++ lcdPage waitingText

/-- Start-up takes any display to the waiting text. -/
theorem run_startWires (x : Lcd) :
    ∃ y, (Lcd.wire A).run x startWires = some (y, []) ∧ y.Ready ∧
      Lcd.BarGlyphs (y.panel.memory .glyphs).cells ∧ y.panel.screen = waitingText := by
  obtain ⟨x₁, hinit, hready₁, -, hglyphs₁⟩ := Lcd.run_init (A := A) x
  obtain ⟨x₂, hversion, hready₂, hglyphs₂, -⟩ :=
    Lcd.run_lines (A := A) hready₁ (ascii "PowerMeter", ascii "Display v1.1")
  have hstays : Lcd.Stays waitingText := ⟨by decide, by decide⟩
  obtain ⟨x₃, hwaiting, hready₃, hglyphs₃, hscreen⟩ :=
    Lcd.run_page (A := A) hready₂ hstays ⟨by decide, by decide⟩
  refine ⟨x₃, (Lcd.wire A).run_append ((Lcd.wire A).run_append hinit hversion) hwaiting, hready₃,
    ?_, hscreen.trans rfl⟩
  rw [hglyphs₃, hglyphs₂]
  exact hglyphs₁

/-! ## Runs -/

/-- The C library on zeros. -/
def zeroLib : FloatLib where
  ofUInt16 _ := 0
  ofInt16 _ := 0
  ofUInt32 _ := 0
  ofInt32 _ := 0
  ofUInt64 _ := 0
  ofInt64 _ := 0
  sqrt _ := 0
  mul _ _ := 0
  div _ _ := 0
  toUInt8 _ := 0
  format width precision _ :=
    let digits := ascii "0." ++ List.replicate precision 0x30
    List.replicate (width - digits.length) 0x20 ++ digits
  width_le width precision _ := by
    simp only [List.length_append, List.length_replicate]
    omega

/-- The second line follows the first one, and the first one the second. -/
def twoLines : Advance where
  next
    | .glyphs, k => (k + 1) % 64
    | .text, k => if k = 0x27 then 0x40 else if k = 0x67 then 0 else k + 1
  glyphs_linear i hi := by
    rw [Nat.zero_add]
    exact Nat.mod_eq_of_lt hi
  line₁_linear i hi := by
    dsimp only
    rw [if_neg (by omega), if_neg (by omega)]
  line₂_linear i hi := by
    dsimp only
    rw [if_neg (by omega), if_neg (by omega)]

/-- A display that is neither selected nor set up. -/
def anyLcd : Lcd := ⟨true, true, ⟨fun _ => ⟨fun _ => 0, 7⟩, .glyphs, true, false⟩⟩

namespace MainState

/-- A PowerMeter that announces its scale and sends one sample, up to the refresh. -/
def sampleIn : List Event :=
  attach ++ bytesIn .one scaleBytes ++ bytesIn .one dataBytes ++ (loops 9 ++ ticks 251 ++ loops 2)

theorem clean_firstPage {d : DisplayData} (hmeasure : d.measure = 1) (hmenuPos : d.menuPos = 0)
    (hsamples : d.samples = 1) : (Call.channel .one d .createMenu).Clean zeroLib := by
  have hdrawn : ¬ d.measure > 2 := by rw [hmeasure]; decide
  have hquotients : (menuQuotients d).isSome := by
    rw [menuQuotients_isSome_iff, hsamples]
    decide
  obtain ⟨q, hq⟩ := Option.isSome_iff_exists.1 hquotients
  refine ⟨?_, fun page hpage => ?_⟩
  · rw [Call.wires, DisplayData.createMenuWires, if_neg hdrawn, hq]
    rfl
  · rw [Call.page, DisplayData.menuPage, if_neg hdrawn, hq, Option.bind_some,
      DisplayData.menuText, hmenuPos] at hpage
    obtain rfl := Option.some.inj hpage
    constructor <;> rw [DisplayData.length_numberLine hdrawn] <;> exact Nat.le_of_ble_eq_true rfl

set_option maxRecDepth 20000 in
theorem run_sampleIn :
    ∃ s s' calls calls', step.run .start sampleIn = some (s, calls) ∧ s.pc = .refresh ∧
      step s (.loop true) = some (s', calls') ∧ ∀ c ∈ calls ++ calls', c.Clean zeroLib := by
  obtain ⟨s, s', d₁, x₁, d₂, x₂, d, hrun, hpc, hstep, hmeasure, hmenuPos, hsamples⟩ :
      ∃ s s' d₁ x₁ d₂ x₂ d,
        step.run .start sampleIn =
          some (s, [.channel .one d₁ (.frame x₁), .channel .one d₂ (.frame x₂)]) ∧
        s.pc = .refresh ∧ step s (.loop true) = some (s', [.channel .one d .createMenu]) ∧
        d.measure = 1 ∧ d.menuPos = 0 ∧ d.samples = 1 :=
    ⟨_, _, _, _, _, _, _, rfl, rfl, rfl, rfl, rfl, rfl⟩
  refine ⟨s, s', _, _, hrun, hpc, hstep, ?_⟩
  have hframe (d : DisplayData) (x : Dispatch) : (Call.channel .one d (.frame x)).Clean zeroLib :=
    ⟨rfl, nofun⟩
  simp only [List.cons_append, List.nil_append, List.forall_mem_cons]
  exact ⟨hframe d₁ x₁, hframe d₂ x₂, clean_firstPage hmeasure hmenuPos hsamples, nofun⟩

/-- From any state of the display on and in every run of the main loop whose calls divide by no zero
and print no number that is too long for its line: what is written is never out of place on the
wires, the special characters stay bars, and the screen shows the last call that has a page, the
waiting text before the first one. -/
theorem screen_of_run {es : List Event} {s : MainState} {calls : List Call}
    (hrun : step.run .start es = some (s, calls)) (hclean : ∀ c ∈ calls, c.Clean L) (x : Lcd) :
    ∃ wss y, calls.mapM (Call.wires L) = some wss ∧
      (Lcd.wire A).run x (startWires ++ wss.flatten) = some (y, []) ∧
      Lcd.BarGlyphs (y.panel.memory .glyphs).cells ∧
      y.panel.screen = shown L waitingText calls := by
  obtain ⟨x₁, hstart, hready, hglyphs, hscreen⟩ := run_startWires (A := A) x
  obtain ⟨wss, y, hwss, hcalls, -, hglyphs', hscreen'⟩ :=
    run_calls (A := A) hclean (textCovers_of_run hrun) hready
  refine ⟨wss, y, hwss, (Lcd.wire A).run_append hstart hcalls, ?_, ?_⟩
  · rw [hglyphs']
    exact hglyphs
  · rw [hscreen', hscreen]

theorem screen_of_run_dataBytes :
    ∃ s calls wss y, step.run .start (sampleIn ++ [.loop true]) = some (s, calls) ∧
      calls.mapM (Call.wires zeroLib) = some wss ∧
      (Lcd.wire twoLines).run anyLcd (startWires ++ wss.flatten) = some (y, []) ∧
      Lcd.BarGlyphs (y.panel.memory .glyphs).cells ∧
      y.panel.screen = shown zeroLib waitingText calls := by
  obtain ⟨s, s', calls, calls', hrun, -, hstep, hclean⟩ := run_sampleIn
  have hrun := step.run_append hrun (step.run_singleton hstep)
  obtain ⟨wss, y, hrest⟩ := screen_of_run (A := twoLines) hrun hclean anyLcd
  exact ⟨s', calls ++ calls', wss, y, hrun, hrest⟩

/-- A refresh begins with the page of the displayed channel. -/
theorem refresh_head {s : MainState} {p : Port} (hdisplay : s.display = p.active)
    {r : MainState × List Call} (h : s.refresh = some r) :
    r.2.head? = some (.channel p (s.lcdData p) .createMenu) := by
  obtain ⟨r', hdraw, hr⟩ := Option.bind_eq_some_iff.1 h
  rw [drawMenu_eq hdisplay, call_eq (d := lcdEadogCreateMenu (s.lcdData p)) rfl] at hdraw
  obtain rfl := Option.some.inj hdraw
  dsimp only at hr
  split_ifs at hr <;> obtain rfl := Option.some.inj hr <;> rfl

/-- In every run of the main loop as above that comes to the refresh: after it the screen shows the
page `menu_counter` of the record of the displayed channel as the refresh found it, and the waiting
text exactly if both channels are disabled. -/
theorem screen_after_refresh {es : List Event} {s s' : MainState} {calls calls' : List Call}
    (hrun : step.run .start es = some (s, calls)) (hpc : s.pc = .refresh) {high : Bool}
    (hstep : step s (.loop high) = some (s', calls')) (hclean : ∀ c ∈ calls ++ calls', c.Clean L)
    (x : Lcd) :
    ∃ wss y, (calls ++ calls').mapM (Call.wires L) = some wss ∧
      (Lcd.wire A).run x (startWires ++ wss.flatten) = some (y, []) ∧
      ((∃ (p : Port) (page : List UInt8 × List UInt8), s.display = p.active ∧
          (s.lcdData p).menuPos = s.menuCounter ∧ (s.lcdData p).menuPage L = some page ∧
          y.panel.screen = Lcd.visible page) ∨
        (∀ p : Port, (s.lcdData p).measure = p.disabled) ∧ y.panel.screen = waitingText) := by
  have hlive := live_of_run hrun
  have hchosen : s.pc.chosen := by rw [hpc]; rfl
  obtain ⟨wss, y, hwss, hwires, -, hscreen⟩ :=
    screen_of_run (A := A) (step.run_append hrun (step.run_singleton hstep)) hclean x
  refine ⟨wss, y, hwss, hwires, ?_⟩
  rw [shown_append] at hscreen
  have hrefresh : ∃ s₁, s.refresh = some (s₁, calls') := by
    unfold step loop at hstep
    simp only [hpc] at hstep
    obtain ⟨r, hr, he⟩ := Option.map_eq_some_iff.1 hstep
    obtain ⟨-, rfl⟩ := Prod.mk.inj he
    exact ⟨r.1, hr⟩
  obtain ⟨s₁, hrefresh⟩ := hrefresh
  rcases hlive.refresh_eq hchosen with ⟨p, s₂, hactive, hdraw⟩ | hwaiting
  · obtain ⟨-, rfl⟩ := Prod.mk.inj (Option.some.inj (hrefresh.symm.trans hdraw))
    have hdisplay : s.display = p.active := by
      rcases hlive.display with hzero | ⟨q, hq, -⟩
      · have hdisabled := (hlive.display_eq_zero_iff hchosen).1 hzero p
        exact absurd (hactive.symm.trans hdisabled) (active_ne_disabled p)
      · have hhead := refresh_head hq hrefresh
        obtain ⟨rfl, -, -⟩ := Call.channel.inj (Option.some.inj hhead)
        exact hq
    have hdrawn : ¬ (s.lcdData p).measure > 2 := by
      rw [hactive]
      cases p <;> decide
    have hdivides := (hclean _ (List.mem_append_right _ (List.mem_singleton_self _))).divides
    have hpos : (s.lcdData p).menuPos ≤ 4 := (hlive.menuPos p).trans_le hlive.menuCounter_le
    obtain ⟨page, hpage⟩ :=
      Option.isSome_iff_exists.1 (DisplayData.menuPage_isSome hdrawn hpos hdivides)
    refine Or.inl ⟨p, page, hdisplay, hlive.menuPos p, hpage, ?_⟩
    rw [hscreen, shown, List.foldl_cons, List.foldl_nil, Call.page, hpage]
    rfl
  · obtain ⟨-, rfl⟩ := Prod.mk.inj (Option.some.inj (hrefresh.symm.trans hwaiting))
    have hzero : s.display = 0 := by
      rcases hlive.display with hzero | ⟨q, hq, -⟩
      · exact hzero
      · exact nomatch Option.some.inj (refresh_head hq hrefresh)
    exact Or.inr ⟨(hlive.display_eq_zero_iff hchosen).1 hzero, hscreen⟩

theorem screen_after_refresh_dataBytes :
    ∃ s s' calls calls' wss y, step.run .start sampleIn = some (s, calls) ∧
      step s (.loop true) = some (s', calls') ∧
      (calls ++ calls').mapM (Call.wires zeroLib) = some wss ∧
      (Lcd.wire twoLines).run anyLcd (startWires ++ wss.flatten) = some (y, []) ∧
      ((∃ (p : Port) (page : List UInt8 × List UInt8), s.display = p.active ∧
          (s.lcdData p).menuPos = s.menuCounter ∧ (s.lcdData p).menuPage zeroLib = some page ∧
          y.panel.screen = Lcd.visible page) ∨
        (∀ p : Port, (s.lcdData p).measure = p.disabled) ∧ y.panel.screen = waitingText) := by
  obtain ⟨s, s', calls, calls', hrun, hpc, hstep, hclean⟩ := run_sampleIn
  obtain ⟨wss, y, hrest⟩ := screen_after_refresh (A := twoLines) hrun hpc hstep hclean anyLcd
  exact ⟨s, s', calls, calls', wss, y, hrun, hstep, hrest⟩

end MainState

end PowerMeterDisplay
