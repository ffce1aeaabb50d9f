import PowerMeterDisplay.Undisplayed

/-!
# The averages that the main loop draws

In every run of the main loop, `lcd_eadog_create_menu` divides the sums of the averaging window by
the number of its samples.  The counter has 16 bits: the averages are right up to 65535 samples
(`averages_exact_iff`), and the divisions are defined unless the number of samples is a multiple of
65536, zero included (`menuQuotients_defined_iff`).  Nothing in the loop keeps a window short or
non-empty: the refresh follows a timer, and a channel that is not displayed is never drawn.
-/

namespace PowerMeterDisplay

open MainState

set_option maxRecDepth 20000 in
/-- A PowerMeter that announces its scale and sends one sample before the refresh is due. -/
theorem sample_drawn :
    ∃ s past d, MainState.step.run .start
        (attach ++ bytesIn .one scaleBytes ++ bytesIn .one dataBytes ++ turn) =
          some (s, past ++ [.channel .one d .createMenu]) :=
  ⟨_, [.channel .one _ (.frame _), .channel .one _ (.frame _)], _, rfl⟩

/-! ## The count of the averages -/

/-- In every run of the main loop, at every call of `lcd_eadog_create_menu`: the counter and the
four sums are the exact ones exactly when at most 65535 samples were taken in since the sums were
last cleared. -/
theorem averages_exact_iff {es : List Event} {s : MainState} {past rest : List Call} {p : Port}
    {d : DisplayData}
    (hrun : MainState.step.run .start es = some (s, past ++ .channel p d .createMenu :: rest)) :
    AveragesExact d (averagingWindow (channelLog p past)) ↔
      (averagingWindow (channelLog p past)).length ≤ 65535 := by
  obtain ⟨hchannel, hcount⟩ := channel_of_run hrun
  exact (sums_of_run hcount hchannel).exact_iff

theorem averages_exact_iff_dataBytes :
    ∃ s past d, MainState.step.run .start
        (attach ++ bytesIn .one scaleBytes ++ bytesIn .one dataBytes ++ turn) =
          some (s, past ++ [.channel .one d .createMenu]) ∧
      (AveragesExact d (averagingWindow (channelLog .one past)) ↔
        (averagingWindow (channelLog .one past)).length ≤ 65535) := by
  obtain ⟨s, past, d, hrun⟩ := sample_drawn
  exact ⟨s, past, d, hrun, averages_exact_iff hrun⟩

/-- Channel 1 takes in 65536 samples while channel 2 is displayed, and is drawn then: its counter
has wrapped. -/
theorem averages_wrap :
    ∃ s past d, MainState.step.run .start (undisplayed 65536) =
        some (s, past ++ [.channel .one d .createMenu]) ∧
      ¬ d.measure > 2 ∧ ¬ AveragesExact d (averagingWindow (channelLog .one past)) := by
  obtain ⟨s, past, d, hrun, hmeasure, hlen⟩ := window_unbounded 65536
  obtain ⟨hchannel, hcount⟩ := channel_of_run hrun
  refine ⟨s, past, d, hrun, ?_, fun hexact => ?_⟩
  · rw [hmeasure]
    decide
  · have := (sums_of_run hcount hchannel).exact_iff.1 hexact
    omega

/-! ## The divisions -/

/-- In every run of the main loop, at every call of `lcd_eadog_create_menu`: the counter is not
zero, so that the divisions by it are defined, exactly when the number of samples taken in since the
sums were last cleared is not a multiple of 65536. -/
theorem menuQuotients_defined_iff {es : List Event} {s : MainState} {past rest : List Call}
    {p : Port} {d : DisplayData}
    (hrun : MainState.step.run .start es = some (s, past ++ .channel p d .createMenu :: rest)) :
    (d.samples ≠ 0 ∧ (menuQuotients d).isSome) ↔
      ¬ 65536 ∣ (averagingWindow (channelLog p past)).length := by
  obtain ⟨hchannel, hcount⟩ := channel_of_run hrun
  rw [menuQuotients_isSome_iff, and_self]
  exact (sums_of_run hcount hchannel).samples_ne_zero_iff

theorem menuQuotients_defined_iff_dataBytes :
    ∃ s past d, MainState.step.run .start
        (attach ++ bytesIn .one scaleBytes ++ bytesIn .one dataBytes ++ turn) =
          some (s, past ++ [.channel .one d .createMenu]) ∧
      ((d.samples ≠ 0 ∧ (menuQuotients d).isSome) ↔
        ¬ 65536 ∣ (averagingWindow (channelLog .one past)).length) := by
  obtain ⟨s, past, d, hrun⟩ := sample_drawn
  exact ⟨s, past, d, hrun, menuQuotients_defined_iff hrun⟩

set_option maxRecDepth 20000 in
/-- A PowerMeter that has announced its scale but sent no data yet when the refresh is due. -/
theorem menu_divides_by_zero :
    ∃ s past d, MainState.step.run .start (attach ++ bytesIn .one scaleBytes ++ turn) =
        some (s, past ++ [.channel .one d .createMenu]) ∧
      ¬ d.measure > 2 ∧ d.samples = 0 ∧ menuQuotients d = none :=
  ⟨_, [.channel .one _ (.frame _)], _, rfl, by decide, rfl, rfl⟩

end PowerMeterDisplay
