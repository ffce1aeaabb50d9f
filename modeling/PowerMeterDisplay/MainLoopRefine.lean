import PowerMeterDisplay.MainLoop

/-!
# The main loop refines the channels

Whatever the interrupts do, a step of the main loop neither leaves a buffer nor gets stuck, and what
it does to the record of a port is the calls it logs for that port, in that order, each on the
record left by the one before (`MainState.step_moves`).  So every run of the main loop is a run of
the channel of either port (`MainState.channel_of_run`).
-/

namespace PowerMeterDisplay

/-- The calls on the record of a port. -/
def channelLog (p : Port) (calls : List Call) : ChannelLog :=
  calls.filterMap fun
    | .channel q d op => if q = p then some (d, op) else none
    | _ => none

theorem channelLog_append (p : Port) (calls calls' : List Call) :
    channelLog p (calls ++ calls') = channelLog p calls ++ channelLog p calls' :=
  List.filterMap_append

theorem mem_of_mem_channelLog {p : Port} {calls : List Call} {d : DisplayData} {op : ChannelOp}
    (h : (d, op) ∈ channelLog p calls) : .channel p d op ∈ calls := by
  obtain ⟨c, hc, hentry⟩ := List.mem_filterMap.1 h
  cases c with
  | channel q d' op' =>
    obtain ⟨rfl, rfl, rfl⟩ : q = p ∧ d' = d ∧ op' = op := by simpa using hentry
    exact hc
  | print _ _ => simp at hentry
  | resetToBootloader => simp at hentry

/-- The log of a channel records the calls that were made. -/
theorem ops_of_run {p : Port} {ops : List ChannelOp} {d d' : DisplayData} {log : ChannelLog}
    (hrun : (channel p).run d ops = some (d', log)) : log.map Prod.snd = ops := by
  refine (channel p).run_history (P := fun ops _ log => log.map Prod.snd = ops) rfl ?_ hrun
  intro ops d log op d' entry ih hstep
  obtain ⟨-, rfl⟩ := channel_eq_some_iff.1 hstep
  rw [List.map_append, ih]
  rfl

/-- A logged call finds the record that the calls before it leave. -/
theorem run_before {p : Port} {d₀ d d' : DisplayData} {op : ChannelOp} {past rest : ChannelLog}
    (hrun : (channel p).run d₀ ((past ++ (d, op) :: rest).map Prod.snd) =
      some (d', past ++ (d, op) :: rest)) :
    (channel p).run d₀ (past.map Prod.snd) = some (d, past) := by
  rw [List.map_append, List.map_cons] at hrun
  obtain ⟨d₁, log₁, log₂, hpast, hrest, hlog⟩ := (channel p).run_append_eq_some_iff.1 hrun
  obtain ⟨d₂, o₁, o₂, hop, -, rfl⟩ := (channel p).run_cons_eq_some_iff.1 hrest
  obtain ⟨-, rfl⟩ := channel_eq_some_iff.1 hop
  have hlen : past.length = log₁.length := by
    have hops := congrArg List.length (ops_of_run hpast)
    rw [List.length_map, List.length_map] at hops
    exact hops.symm
  obtain ⟨rfl, hentry⟩ := List.append_inj hlog hlen
  obtain ⟨rfl, -⟩ := Prod.mk.inj (List.cons.inj hentry).1
  exact hpast

namespace MainState

/-- The queues have the shape that `fifo_init` gives them and the receiver stands for a phase. -/
structure Valid (s : MainState) : Prop where
  fifo : ∀ p, (s.fifo.get p).Valid
  holds : ∃ φ : Phase, φ.Holds s.ports.receiver

theorem start_valid : start.Valid where
  fifo p := by cases p <;> exact FifoDesc.start_valid
  holds := ⟨.idle, rfl⟩

/-- From `s` to `s'` the record of each port takes exactly the logged calls. -/
structure Moves (s s' : MainState) (calls : List Call) : Prop where
  valid : s'.Valid
  replay : ∀ p, (channel p).run (s.lcdData p) ((channelLog p calls).map Prod.snd) =
    some (s'.lcdData p, channelLog p calls)
  count_le : ∀ p d x, .channel p d (.frame x) ∈ calls → x.count.toNat ≤ 60

namespace Moves

variable {s s₁ s₂ : MainState} {calls calls₁ calls₂ : List Call}

/-- No call. -/
theorem silent (hvalid : s₁.Valid) (hlcd : s₁.ports.lcdData = s.ports.lcdData) : Moves s s₁ [] where
  valid := hvalid
  replay p := by
    rw [lcdData, lcdData, hlcd]
    rfl
  count_le _ _ _ hx := nomatch hx

/-- One call. -/
theorem single (hvalid : s₁.Valid) {p : Port} {op : ChannelOp} {d : DisplayData}
    (happly : op.apply p (s.lcdData p) = some d)
    (hlcd : s₁.ports.lcdData = s.ports.lcdData.set p d)
    (hcount : ∀ x, op = .frame x → x.count.toNat ≤ 60) :
    Moves s s₁ [.channel p (s.lcdData p) op] where
  valid := hvalid
  replay q := by
    have hlcd' : s₁.lcdData q = (s.ports.lcdData.set p d).get q := by rw [lcdData, hlcd]
    by_cases hq : p = q
    · subst hq
      have hlog : channelLog p [.channel p (s.lcdData p) op] = [(s.lcdData p, op)] := by
        simp [channelLog]
      rw [hlog, hlcd', PerPort.get_set_self]
      exact (channel p).run_singleton (channel_eq_some_iff.2 ⟨happly, rfl⟩)
    · have hlog : channelLog q [.channel p (s.lcdData p) op] = [] := by simp [channelLog, hq]
      rw [hlog, hlcd', PerPort.get_set_of_ne _ (Ne.symm hq)]
      rfl
  count_le q d' x hx := by
    obtain ⟨-, -, hop⟩ := Call.channel.inj (List.mem_singleton.1 hx)
    exact hcount x hop.symm

theorem trans (h₁ : Moves s s₁ calls₁) (h₂ : Moves s₁ s₂ calls₂) :
    Moves s s₂ (calls₁ ++ calls₂) where
  valid := h₂.valid
  replay p := by
    rw [channelLog_append, List.map_append]
    exact (channel p).run_append (h₁.replay p) (h₂.replay p)
  count_le p d x hx := by
    rcases List.mem_append.1 hx with hx | hx
    · exact h₁.count_le p d x hx
    · exact h₂.count_le p d x hx

/-- Only the records, the receiver and the queues matter. -/
theorem of_ports_eq (h : Moves s s₁ calls) (hports : s₂.ports = s₁.ports)
    (hfifo : s₂.fifo = s₁.fifo) : Moves s s₂ calls where
  valid := ⟨fun p => hfifo ▸ h.valid.fifo p, hports ▸ h.valid.holds⟩
  replay p := by
    rw [h.replay p, lcdData, lcdData, hports]
  count_le := h.count_le

theorem of_start_eq (h : Moves s s₁ calls) {s₀ : MainState} (hports : s.ports = s₀.ports) :
    Moves s₀ s₁ calls where
  valid := h.valid
  replay p := by
    rw [lcdData, ← hports]
    exact h.replay p
  count_le := h.count_le

/-- A call that shows a text or leaves for the bootloader. -/
theorem append_other (h : Moves s s₁ calls) {c : Call} (hc : ∀ p d op, c ≠ .channel p d op) :
    Moves s s₁ (calls ++ [c]) where
  valid := h.valid
  replay p := by
    have hlog : channelLog p [c] = [] := by
      cases c with
      | channel q d op => exact absurd rfl (hc q d op)
      | print _ _ => rfl
      | resetToBootloader => rfl
    rw [channelLog_append, hlog, List.append_nil]
    exact h.replay p
  count_le p d x hx := by
    rcases List.mem_append.1 hx with hx | hx
    · exact h.count_le p d x hx
    · exact absurd (List.mem_singleton.1 hx).symm (hc p d _)

end Moves

variable {s : MainState}

/-! ## The steps of the loop -/

theorem call_eq {p : Port} {op : ChannelOp} {d : DisplayData}
    (happly : op.apply p (s.lcdData p) = some d) :
    s.call p op = some ({ s with ports := { s.ports with lcdData := s.ports.lcdData.set p d } },
      [.channel p (s.lcdData p) op]) := by
  rw [call, happly]
  rfl

theorem callBoth_eq {op : ChannelOp} {f : Port → DisplayData → DisplayData}
    (happly : ∀ p d, op.apply p d = some (f p d)) :
    s.callBoth op = some
      ({ s with ports := { s.ports with
          lcdData := ⟨f .one (s.lcdData .one), f .two (s.lcdData .two)⟩ } },
        [.channel .one (s.lcdData .one) op, .channel .two (s.lcdData .two) op]) := by
  simp only [callBoth, call_eq (happly _ _), Option.bind_eq_bind, Option.bind_some]
  rfl

theorem call_moves (h : s.Valid) (p : Port) (op : ChannelOp) (hop : ∀ x, op ≠ .frame x) :
    ∃ r, s.call p op = some r ∧ Moves s r.1 r.2 := by
  obtain ⟨d, happly⟩ : ∃ d, op.apply p (s.lcdData p) = some d := by
    cases op with
    | frame x => exact absurd rfl (hop x)
    | createMenu | resetData | resetMinmax | setMenuPos _ => exact ⟨_, rfl⟩
  let s' : MainState :=
    { s with ports := { s.ports with lcdData := s.ports.lcdData.set p d } }
  have hvalid : s'.Valid := ⟨h.fifo, h.holds⟩
  have hmoves : Moves s s' [.channel p (s.lcdData p) op] :=
    .single hvalid happly rfl fun x hx => absurd hx (hop x)
  exact ⟨(s', _), call_eq happly, hmoves⟩

theorem callBoth_moves (h : s.Valid) (op : ChannelOp) (hop : ∀ x, op ≠ .frame x) :
    ∃ r, s.callBoth op = some r ∧ Moves s r.1 r.2 := by
  obtain ⟨r₁, hcall₁, h₁⟩ := call_moves h .one op hop
  obtain ⟨r₂, hcall₂, h₂⟩ := call_moves h₁.valid .two op hop
  exact ⟨(r₂.1, r₁.2 ++ r₂.2), by simp [callBoth, hcall₁, hcall₂], h₁.trans h₂⟩

theorem power_moves (h : s.Valid) (p : Port) (high : Bool) :
    ∃ r, s.power p high = some r ∧ Moves s r.1 r.2 := by
  unfold power
  split_ifs
  · obtain ⟨r, hcall, hmoves⟩ :=
      call_moves (s := { s with display := p.other.active }) ⟨h.fifo, h.holds⟩ p
        .resetData nofun
    exact ⟨r, hcall, hmoves.of_start_eq rfl⟩
  · obtain ⟨r, hcall, hmoves⟩ :=
      call_moves (s := { s with display := 0 }) ⟨h.fifo, h.holds⟩ p .resetData nofun
    exact ⟨r, hcall, hmoves.of_start_eq rfl⟩
  · exact ⟨_, rfl, .silent h rfl⟩

theorem autoSelect_ports (s : MainState) :
    s.autoSelect.ports = s.ports ∧ s.autoSelect.fifo = s.fifo := by
  unfold autoSelect
  split_ifs <;> exact ⟨rfl, rfl⟩

theorem menuStep_ports (s : MainState) : s.menuStep.ports = s.ports ∧ s.menuStep.fifo = s.fifo := by
  unfold menuStep
  dsimp only
  split_ifs <;> exact ⟨rfl, rfl⟩

theorem buttonAction_moves (h : s.Valid) : ∃ r, s.buttonAction = some r ∧ Moves s r.1 r.2 := by
  unfold buttonAction
  dsimp only
  split_ifs
  · obtain ⟨hports, hfifo⟩ := s.menuStep_ports
    have hvalid : s.menuStep.Valid := ⟨fun p => hfifo ▸ h.fifo p, hports ▸ h.holds⟩
    obtain ⟨r, hcall, hmoves⟩ := callBoth_moves hvalid
      (.setMenuPos s.menuStep.menuCounter) nofun
    exact ⟨r, hcall, hmoves.of_start_eq hports⟩
  · obtain ⟨r, hcall, hmoves⟩ := callBoth_moves h .resetMinmax nofun
    exact ⟨_, by rw [hcall]; rfl,
      hmoves.append_other (c := .print "reset           " "...             ") nofun⟩
  · exact ⟨_, rfl, (Moves.silent h rfl).append_other (c := .resetToBootloader) nofun⟩
  · exact ⟨_, rfl, .silent h rfl⟩

theorem button_moves (h : s.Valid) (high : Bool) :
    ∃ r, s.button high = some r ∧ Moves s r.1 r.2 := by
  unfold button
  split_ifs
  · obtain ⟨r, haction, hmoves⟩ := buttonAction_moves h
    exact ⟨({ r.1 with timerButton := 0 }, r.2), by rw [haction]; rfl, hmoves.of_ports_eq rfl rfl⟩
  · exact ⟨_, rfl, .silent h rfl⟩

theorem drawMenu_eq {p : Port} (hdisplay : s.display = p.active) :
    s.drawMenu = s.call p .createMenu := by
  unfold drawMenu
  cases p <;> rw [hdisplay] <;> rfl

theorem refresh_moves (h : s.Valid) : ∃ r, s.refresh = some r ∧ Moves s r.1 r.2 := by
  obtain ⟨r, hdraw, hmoves⟩ : ∃ r, s.drawMenu = some r ∧ Moves s r.1 r.2 := by
    unfold drawMenu
    split_ifs
    · exact call_moves h .one .createMenu nofun
    · exact call_moves h .two .createMenu nofun
    · exact ⟨_, rfl, .silent h rfl⟩
  rw [refresh, hdraw]
  simp only [Option.bind_eq_bind, Option.bind_some]
  split_ifs
  · exact ⟨_, rfl, hmoves.append_other (c := .print "waiting for data" "...             ") nofun⟩
  · exact ⟨_, rfl, hmoves⟩

/-- The calls for a frame are the command switch on the record, and the bootloader if asked for. -/
theorem frameCalls_moves {s' : MainState} {p : Port} {x : Dispatch}
    (h : Moves s s' [.channel p (s.lcdData p) (.frame x)]) :
    Moves s s' (frameCalls p (s.lcdData p) x) := by
  unfold frameCalls
  split_ifs
  · exact h.append_other (c := .resetToBootloader) nofun
  · exact h

theorem receive_empty {p : Port} {f : FifoDesc}
    (hpull : fifoPullUint8 (s.fifo.get p) = some (f, none)) :
    s.receive p = some ({ s with pc := .afterReceive p, fifo := s.fifo.set p f }, []) := by
  simp [receive, Pipeline.pull, hpull]

theorem receive_byte {p : Port} {f : FifoDesc} {byte : UInt8} {ports : Ports} {out : List Dispatch}
    (hpull : fifoPullUint8 (s.fifo.get p) = some (f, some byte))
    (hbyte : receiveByte s.ports (p, byte) = some (ports, out)) :
    s.receive p = some ({ s with ports := ports, fifo := s.fifo.set p f },
      out.flatMap (frameCalls p (s.lcdData p))) := by
  simp [receive, Pipeline.pull, hpull, hbyte]

theorem receive_moves (h : s.Valid) (p : Port) :
    ∃ r, s.receive p = some r ∧ Moves s r.1 r.2 := by
  obtain ⟨f', item, hpull, hf', -⟩ := (h.fifo p).pull_eq
  have hfifo (q : Port) : ((s.fifo.set p f').get q).Valid := by
    by_cases hq : q = p
    · rw [hq, PerPort.get_set_self]
      exact hf'
    · rw [PerPort.get_set_of_ne _ hq]
      exact h.fifo q
  cases item with
  | none =>
    exact ⟨({ s with pc := .afterReceive p, fifo := s.fifo.set p f' }, []), receive_empty hpull,
      .silent ⟨hfifo, h.holds⟩ rfl⟩
  | some byte =>
    obtain ⟨φ, hφ⟩ := h.holds
    obtain ⟨ports, hbyte, hholds, -, hlcd⟩ := receiveByte_eq hφ p byte
    have hle := (dispatched_eq hφ byte).2
    let s' : MainState := { s with ports := ports, fifo := s.fifo.set p f' }
    have hvalid : s'.Valid := ⟨hfifo, _, hholds⟩
    refine ⟨(s', (s.ports.receiver.dispatched byte).toList.flatMap (frameCalls p (s.lcdData p))),
      receive_byte hpull hbyte, ?_⟩
    rcases hx : s.ports.receiver.dispatched byte with _ | x
    · refine .silent hvalid ?_
      rw [hx] at hlcd
      exact hlcd.trans (PerPort.set_get_self _ _)
    · rw [hx] at hlcd
      have happly : (ChannelOp.frame x).apply p (s.lcdData p) = some (x.apply (s.lcdData p)) := by
        rw [ChannelOp.apply, switchCommand_eq (hle x hx)]
        rfl
      have hsingle : Moves s s' [.channel p (s.lcdData p) (.frame x)] := by
        refine .single hvalid happly hlcd fun y hy => ?_
        obtain rfl := ChannelOp.frame.inj hy
        exact hle x hx
      simpa using frameCalls_moves hsingle

/-- One step of the main loop. -/
theorem loop_moves (h : s.Valid) (high : Bool) :
    ∃ s' calls, s.loop high = some (s', calls) ∧ Moves s s' calls := by
  unfold loop
  cases hpc : s.pc with
  | power p =>
    obtain ⟨r, hr, hmoves⟩ := power_moves h p high
    exact ⟨{ r.1 with pc := .afterPower p }, r.2, by simp only [hr, Option.map_some],
      hmoves.of_ports_eq rfl rfl⟩
  | autoSelect =>
    obtain ⟨hports, hfifo⟩ := s.autoSelect_ports
    exact ⟨_, _, rfl, (Moves.silent h rfl).of_ports_eq hports hfifo⟩
  | button =>
    obtain ⟨r, hr, hmoves⟩ := button_moves h high
    exact ⟨{ r.1 with pc := .attached }, r.2, by rw [hr]; rfl, hmoves.of_ports_eq rfl rfl⟩
  | refresh =>
    obtain ⟨r, hr, hmoves⟩ := refresh_moves h
    exact ⟨{ r.1 with pc := .receive .one }, r.2, by rw [hr]; rfl, hmoves.of_ports_eq rfl rfl⟩
  | receive p =>
    obtain ⟨r, hr, hmoves⟩ := receive_moves h p
    exact ⟨r.1, r.2, hr, hmoves⟩
  | attached | refreshDue | refreshClear | attachTest | attachDelay | attachRetest | attachStore
  | attachSettle | detachTest | detachDelay | detachRetest | detachStore =>
    exact ⟨_, _, rfl, .silent ⟨h.fifo, h.holds⟩ rfl⟩

/-- One event. -/
theorem step_moves (h : s.Valid) (e : Event) :
    ∃ s' calls, step s e = some (s', calls) ∧ Moves s s' calls := by
  cases e with
  | timer low => exact ⟨_, _, rfl, .silent ⟨h.fifo, h.holds⟩ rfl⟩
  | suspend => exact ⟨_, _, rfl, .silent ⟨h.fifo, h.holds⟩ rfl⟩
  | resume => exact ⟨_, _, rfl, .silent ⟨h.fifo, h.holds⟩ rfl⟩
  | rxc p byte =>
    obtain ⟨f', st, hpush, hf', -⟩ := (h.fifo p).push_eq byte
    refine ⟨{ s with fifo := s.fifo.set p f' }, [], by simp [step, hpush],
      .silent ⟨fun q => ?_, h.holds⟩ rfl⟩
    by_cases hq : q = p
    · rw [hq, PerPort.get_set_self]
      exact hf'
    · rw [PerPort.get_set_of_ne _ hq]
      exact h.fifo q
  | loop high => exact loop_moves h high

/-! ## Runs -/

/-- Every order of events runs through, and the records take exactly the logged calls. -/
theorem run_moves (es : List Event) :
    ∀ {s : MainState}, s.Valid → ∃ s' calls, step.run s es = some (s', calls) ∧
      Moves s s' calls := by
  induction es with
  | nil => exact fun {s} h => ⟨s, [], rfl, .silent h rfl⟩
  | cons e es ih =>
    intro s h
    obtain ⟨s₁, calls₁, hstep, h₁⟩ := step_moves h e
    obtain ⟨s₂, calls₂, hrun, h₂⟩ := ih h₁.valid
    exact ⟨s₂, calls₁ ++ calls₂, step.run_cons hstep hrun, h₁.trans h₂⟩

theorem moves_of_run {es : List Event} {s' : MainState} {calls : List Call} (h : s.Valid)
    (hrun : step.run s es = some (s', calls)) : Moves s s' calls := by
  obtain ⟨s₁, calls₁, hrun₁, hmoves⟩ := run_moves es h
  obtain ⟨rfl, rfl⟩ := Prod.mk.inj (Option.some.inj (hrun₁.symm.trans hrun))
  exact hmoves

/-- A call that the main loop makes on a record finds the state that the channel of the port is in
after the calls on that record before it. -/
theorem channel_of_run {es : List Event} {s' : MainState} {past rest : List Call} {p : Port}
    {d : DisplayData} {op : ChannelOp}
    (hrun : step.run .start es = some (s', past ++ .channel p d op :: rest)) :
    (channel p).run (.start p) ((channelLog p past).map Prod.snd) = some (d, channelLog p past) ∧
      ∀ x, .frame x ∈ (channelLog p past).map Prod.snd → x.count.toNat ≤ 60 := by
  have hmoves := moves_of_run start_valid hrun
  constructor
  · have hreplay := hmoves.replay p
    have hlog : channelLog p (past ++ .channel p d op :: rest) =
        channelLog p past ++ (d, op) :: channelLog p rest := by
      rw [channelLog_append]
      simp [channelLog]
    rw [hlog] at hreplay
    have hstart : start.lcdData p = .start p := by cases p <;> rfl
    rw [hstart] at hreplay
    exact run_before hreplay
  · intro x hx
    obtain ⟨⟨d', op'⟩, hentry, rfl⟩ := List.mem_map.1 hx
    exact hmoves.count_le p d' x (List.mem_append_left _ (mem_of_mem_channelLog hentry))

end MainState

end PowerMeterDisplay
