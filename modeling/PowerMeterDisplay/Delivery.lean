import PowerMeterDisplay.Framing
import PowerMeterDisplay.Turns

/-!
# From the wires to the records

Both receive interrupts, both queues and the receiver inside the running main loop.  What reaches
the records as frames is what the frame parser makes of the bytes of both ports in the order in
which they are pulled, and of each port the pulled bytes followed by the queued ones are those that
found room (`frames_of_run`).  So a sender that is alone and never finds the queue full gets every
frame through, once and in order, whatever else the loop does meanwhile (`frames_delivered`).
-/

namespace PowerMeterDisplay

/-! ## Calls of the receiver and other calls -/

/-- The frames that some calls hand to the records, with the ports of the records. -/
def frameLog (calls : List Call) : List (Port × Dispatch) :=
  calls.filterMap fun
    | .channel p _ (.frame x) => some (p, x)
    | _ => none

theorem frameLog_append (calls calls' : List Call) :
    frameLog (calls ++ calls') = frameLog calls ++ frameLog calls' :=
  List.filterMap_append

/-- The calls that the main loop makes outside the receiver. -/
inductive Call.Own : Call → Prop where
  | channel (p : Port) (d : DisplayData) {op : ChannelOp} (h : ∀ x, op ≠ .frame x) :
      Own (.channel p d op)
  | reset : Own (.print "reset           " "...             ")
  | waiting : Own (.print "waiting for data" "...             ")
  | bootloader : Own .resetToBootloader

theorem frameLog_own {calls : List Call} (h : ∀ c ∈ calls, c.Own) : frameLog calls = [] := by
  refine List.filterMap_eq_nil_iff.2 fun c hc => ?_
  cases h c hc with
  | channel p d hop =>
    split
    · rename_i heq
      obtain ⟨-, -, rfl⟩ := Call.channel.inj heq
      exact absurd rfl (hop _)
    · rfl
  | reset | waiting | bootloader => rfl

namespace MainState

variable {s s' : MainState}

/-- A step that touches neither the queues nor the receiver. -/
structure Apart (s s' : MainState) (calls : List Call) : Prop where
  fifo : s'.fifo = s.fifo
  receiver : s'.ports.receiver = s.ports.receiver
  own : ∀ c ∈ calls, c.Own

namespace Apart

theorem silent (hfifo : s'.fifo = s.fifo) (hports : s'.ports.receiver = s.ports.receiver) :
    Apart s s' [] :=
  ⟨hfifo, hports, fun _ hc => nomatch hc⟩

theorem of_call {p : Port} {op : ChannelOp} {r : MainState × List Call} (h : s.call p op = some r)
    (hop : ∀ x, op ≠ .frame x) : Apart s r.1 r.2 := by
  obtain ⟨d, -, hr⟩ := Option.bind_eq_some_iff.1 h
  obtain rfl := Option.some.inj hr
  refine ⟨rfl, rfl, fun c hc => ?_⟩
  obtain rfl := List.mem_singleton.1 hc
  exact .channel p _ hop

theorem append {s₁ : MainState} {calls calls' : List Call} (h : Apart s s₁ calls)
    (h' : Apart s₁ s' calls') : Apart s s' (calls ++ calls') where
  fifo := h'.fifo.trans h.fifo
  receiver := h'.receiver.trans h.receiver
  own c hc := (List.mem_append.1 hc).elim (h.own c) (h'.own c)

theorem text {calls : List Call} (h : Apart s s' calls) {c : Call} (hc : c.Own) :
    Apart s s' (calls ++ [c]) :=
  h.append ⟨rfl, rfl, fun _ hc' => List.mem_singleton.1 hc' ▸ hc⟩

theorem of_callBoth {op : ChannelOp} {r : MainState × List Call} (h : s.callBoth op = some r)
    (hop : ∀ x, op ≠ .frame x) : Apart s r.1 r.2 := by
  obtain ⟨r₁, h₁, h⟩ := Option.bind_eq_some_iff.1 h
  obtain ⟨r₂, h₂, hr⟩ := Option.bind_eq_some_iff.1 h
  obtain rfl := Option.some.inj hr
  exact (of_call h₁ hop).append (of_call h₂ hop)

/-- The queues and the receiver before and after are all that counts. -/
theorem congr {s₀ s₁ : MainState} {calls : List Call} (h : Apart s₀ s₁ calls)
    (hfifo₀ : s₀.fifo = s.fifo) (hreceiver₀ : s₀.ports.receiver = s.ports.receiver)
    (hfifo₁ : s'.fifo = s₁.fifo) (hreceiver₁ : s'.ports.receiver = s₁.ports.receiver) :
    Apart s s' calls where
  fifo := (hfifo₁.trans h.fifo).trans hfifo₀
  receiver := (hreceiver₁.trans h.receiver).trans hreceiver₀
  own := h.own

theorem of_power {p : Port} {high : Bool} {r : MainState × List Call}
    (h : s.power p high = some r) : Apart s r.1 r.2 := by
  unfold power at h
  split_ifs at h
  · exact (of_call h nofun).congr rfl rfl rfl rfl
  · exact (of_call h nofun).congr rfl rfl rfl rfl
  · obtain rfl := Option.some.inj h
    exact silent rfl rfl

theorem of_buttonAction {r : MainState × List Call} (h : s.buttonAction = some r) :
    Apart s r.1 r.2 := by
  obtain ⟨hports, hfifo⟩ := s.menuStep_ports
  unfold buttonAction at h
  dsimp only at h
  split_ifs at h
  · exact (of_callBoth h nofun).congr hfifo (congrArg Ports.receiver hports) rfl rfl
  · obtain ⟨r', hcall, hr⟩ := Option.bind_eq_some_iff.1 h
    obtain rfl := Option.some.inj hr
    exact (of_callBoth hcall nofun).text .reset
  · obtain rfl := Option.some.inj h
    exact (silent rfl rfl).text .bootloader
  · obtain rfl := Option.some.inj h
    exact silent rfl rfl

theorem of_button {high : Bool} {r : MainState × List Call} (h : s.button high = some r) :
    Apart s r.1 r.2 := by
  unfold button at h
  split_ifs at h
  · obtain ⟨r', haction, rfl⟩ := Option.map_eq_some_iff.1 h
    exact (of_buttonAction haction).congr rfl rfl rfl rfl
  · obtain rfl := Option.some.inj h
    exact silent rfl rfl

theorem of_refresh {r : MainState × List Call} (h : s.refresh = some r) : Apart s r.1 r.2 := by
  obtain ⟨r', hdraw, hr⟩ := Option.bind_eq_some_iff.1 h
  have hmenu : Apart s r'.1 r'.2 := by
    unfold drawMenu at hdraw
    split_ifs at hdraw
    · exact of_call hdraw nofun
    · exact of_call hdraw nofun
    · obtain rfl := Option.some.inj hdraw
      exact silent rfl rfl
  dsimp only at hr
  split_ifs at hr
  · obtain rfl := Option.some.inj hr
    exact hmenu.text .waiting
  · obtain rfl := Option.some.inj hr
    exact hmenu

/-- Only the receiver touches the queues and the receiver variables. -/
theorem of_loop (hpc : ∀ p, s.pc ≠ .receive p) {high : Bool} {r : MainState × List Call}
    (h : s.loop high = some r) : Apart s r.1 r.2 := by
  unfold loop at h
  cases hs : s.pc with
  | power p =>
    simp only [hs] at h
    obtain ⟨r', hr, rfl⟩ := Option.map_eq_some_iff.1 h
    exact (of_power hr).congr rfl rfl rfl rfl
  | autoSelect =>
    simp only [hs] at h
    obtain rfl := Option.some.inj h
    obtain ⟨hports, hfifo⟩ := s.autoSelect_ports
    exact silent hfifo (congrArg Ports.receiver hports)
  | button =>
    simp only [hs] at h
    obtain ⟨r', hr, rfl⟩ := Option.map_eq_some_iff.1 h
    exact (of_button hr).congr rfl rfl rfl rfl
  | refresh =>
    simp only [hs] at h
    obtain ⟨r', hr, rfl⟩ := Option.map_eq_some_iff.1 h
    exact (of_refresh hr).congr rfl rfl rfl rfl
  | receive p => exact absurd hs (hpc p)
  | attached | refreshDue | refreshClear | attachTest | attachDelay | attachRetest | attachStore
  | attachSettle | detachTest | detachDelay | detachRetest | detachStore =>
    simp only [hs] at h
    obtain rfl := Option.some.inj h
    exact silent rfl rfl

end Apart

end MainState

/-! ## Accounting -/

namespace FifoDesc.Valid

variable {f f' : FifoDesc} (h : f.Valid)

include h

theorem contents_push {byte : UInt8} {st : FifoStatus}
    (hpush : fifoPushUint8 f byte = some (f', st)) :
    f'.contents = if fifoIsFull f then f.contents else f.contents ++ [byte] := by
  obtain ⟨f₁, st₁, hpush₁, -, hring⟩ := h.push_eq byte
  obtain ⟨rfl, rfl⟩ := Prod.mk.inj (Option.some.inj (hpush₁.symm.trans hpush))
  by_cases hfull : f.ring.used = 64
  · rw [if_pos hfull] at hring
    rw [if_pos (h.isFull_iff.2 hfull), contents, hring, contents]
  · rw [if_neg hfull] at hring
    rw [if_neg (mt h.isFull_iff.1 hfull), contents, hring]
    exact h.ring_valid.contents_push hfull byte

theorem contents_pull {item : Option UInt8} (hpull : fifoPullUint8 f = some (f', item)) :
    item.toList ++ f'.contents = f.contents := by
  obtain ⟨f₁, item₁, hpull₁, -, hring⟩ := h.pull_eq
  obtain ⟨rfl, rfl⟩ := Prod.mk.inj (Option.some.inj (hpull₁.symm.trans hpull))
  by_cases hempty : f.ring.write = f.ring.read
  · rw [if_pos hempty] at hring
    obtain ⟨hring, hitem⟩ := Prod.mk.inj hring
    rw [hitem, contents, hring]
    rfl
  · rw [if_neg hempty] at hring
    obtain ⟨hring, hitem⟩ := Prod.mk.inj hring
    rw [hitem, contents, hring]
    exact (h.ring_valid.contents_eq_cons hempty).symm

end FifoDesc.Valid

/-- The bytes of a port. -/
def bytesOf (p : Port) (pulled : List (Port × UInt8)) : List UInt8 :=
  pulled.filterMap fun e => if e.1 = p then some e.2 else none

theorem bytesOf_concat (p q : Port) (pulled : List (Port × UInt8)) (byte : UInt8) :
    bytesOf q (pulled ++ [(p, byte)]) = bytesOf q pulled ++ if p = q then [byte] else [] := by
  rw [bytesOf, List.filterMap_append]
  split_ifs with hp <;> simp [bytesOf, hp]

/-- The frame parser behind both ports: a frame belongs to the port of its last byte. -/
def portParser : Machine Phase (Port × UInt8) (Port × List UInt8)
  | φ, (p, byte) => some ((φ.next byte).1, (φ.next byte).2.map fun payload => (p, payload))

theorem frameLog_frames (p : Port) (d : DisplayData) (out : List Dispatch) :
    frameLog (out.flatMap (MainState.frameCalls p d)) = out.map fun x => (p, x) := by
  induction out with
  | nil => rfl
  | cons x out ih =>
    rw [List.flatMap_cons, frameLog_append, ih, List.map_cons]
    unfold MainState.frameCalls
    split_ifs <;> rfl

namespace MainState

/-- The bytes of a port that find room in its queue. -/
def accept (p : Port) (bytes : List UInt8) (s : MainState) : Event → List UInt8
  | .rxc q byte => if q = p ∧ ¬ fifoIsFull (s.fifo.get q) then bytes ++ [byte] else bytes
  | _ => bytes

/-- The bytes that the receiver pulls, of both ports in this order. -/
def pull (pulled : List (Port × UInt8)) (s : MainState) : Event → List (Port × UInt8)
  | .loop _ =>
    match s.pc with
    | .receive p =>
      pulled ++ ((fifoPullUint8 (s.fifo.get p)).bind Prod.snd).toList.map fun byte => (p, byte)
    | _ => pulled
  | _ => pulled

theorem pull_receive {s : MainState} {p : Port} (hpc : s.pc = .receive p) {f : FifoDesc}
    {item : Option UInt8} (hpull : fifoPullUint8 (s.fifo.get p) = some (f, item))
    (pulled : List (Port × UInt8)) (high : Bool) :
    pull pulled s (.loop high) = pulled ++ item.toList.map fun byte => (p, byte) := by
  simp only [pull, hpc, hpull, Option.bind_some]

theorem pull_loop_of_ne {s : MainState} (hpc : ∀ p, s.pc ≠ .receive p)
    (pulled : List (Port × UInt8)) (high : Bool) : pull pulled s (.loop high) = pulled := by
  cases hs : s.pc with
  | receive p => exact absurd hs (hpc p)
  | _ => simp only [pull, hs]

/-- Where the accepted bytes are, and the frames that the pulled ones make. -/
structure Delivered (accepted : Port → List UInt8) (pulled : List (Port × UInt8)) (s : MainState)
    (calls : List Call) : Prop where
  bytes : ∀ p, accepted p = bytesOf p pulled ++ (s.fifo.get p).contents
  frames : ∃ φ : Phase, φ.Holds s.ports.receiver ∧
    portParser.run .idle pulled = some (φ, (frameLog calls).map fun x => (x.1, x.2.payload))

namespace Delivered

variable {accepted : Port → List UInt8} {pulled : List (Port × UInt8)} {s s' : MainState}
  {calls calls' : List Call}

theorem start : Delivered (fun _ => []) [] .start [] where
  bytes p := by cases p <;> rfl
  frames := ⟨.idle, rfl, rfl⟩

theorem apart (h : Delivered accepted pulled s calls) (hapart : Apart s s' calls') :
    Delivered accepted pulled s' (calls ++ calls') where
  bytes p := by
    rw [hapart.fifo]
    exact h.bytes p
  frames := by
    rw [hapart.receiver, frameLog_append, frameLog_own hapart.own, List.append_nil]
    exact h.frames

/-- A byte that arrives. -/
theorem rxc (h : Delivered accepted pulled s calls) (hvalid : s.Valid) {q : Port} {byte : UInt8}
    (hstep : step s (.rxc q byte) = some (s', calls')) :
    Delivered (fun p => accept p (accepted p) s (.rxc q byte)) pulled s' (calls ++ calls') := by
  obtain ⟨⟨f, st⟩, hpush, hs⟩ := Option.bind_eq_some_iff.1 hstep
  obtain ⟨rfl, rfl⟩ := Prod.mk.inj (Option.some.inj hs)
  refine ⟨fun p => ?_, by rw [List.append_nil]; exact h.frames⟩
  have hcontents := (hvalid.fifo q).contents_push hpush
  show (if q = p ∧ ¬ fifoIsFull (s.fifo.get q) then accepted p ++ [byte] else accepted p) =
    bytesOf p pulled ++ ((s.fifo.set q f).get p).contents
  by_cases hp : q = p
  · subst hp
    rw [PerPort.get_set_self, hcontents, h.bytes q]
    by_cases hfull : fifoIsFull (s.fifo.get q)
    · rw [if_neg (fun hall => hall.2 hfull), if_pos hfull]
    · rw [if_pos ⟨rfl, hfull⟩, if_neg hfull, List.append_assoc]
  · rw [if_neg (fun hall => hp hall.1), PerPort.get_set_of_ne _ (Ne.symm hp)]
    exact h.bytes p

/-- A test of the loop of the receiver. -/
theorem receive (h : Delivered accepted pulled s calls) (hvalid : s.Valid) {p : Port}
    (hpc : s.pc = .receive p) (high : Bool) (hstep : s.receive p = some (s', calls')) :
    Delivered accepted (pull pulled s (.loop high)) s' (calls ++ calls') := by
  obtain ⟨f, item, hpull, -⟩ := (hvalid.fifo p).pull_eq
  have hcontents := (hvalid.fifo p).contents_pull hpull
  rw [pull_receive hpc hpull]
  cases item with
  | none =>
    obtain ⟨rfl, rfl⟩ := Prod.mk.inj (Option.some.inj ((receive_empty hpull).symm.trans hstep))
    rw [Option.toList_none, List.map_nil, List.append_nil, List.append_nil]
    refine ⟨fun q => ?_, h.frames⟩
    show accepted q = bytesOf q pulled ++ ((s.fifo.set p f).get q).contents
    by_cases hq : q = p
    · rw [hq, PerPort.get_set_self, h.bytes p, ← hcontents]
      rfl
    · rw [PerPort.get_set_of_ne _ hq]
      exact h.bytes q
  | some byte =>
    obtain ⟨φ, hφ, hparse⟩ := h.frames
    obtain ⟨ports, hbyte, hholds, -, -⟩ := receiveByte_eq hφ p byte
    obtain ⟨rfl, rfl⟩ :=
      Prod.mk.inj (Option.some.inj ((receive_byte hpull hbyte).symm.trans hstep))
    have hframe : portParser φ (p, byte) = some ((φ.next byte).1,
        (s.ports.receiver.dispatched byte).toList.map fun x => (p, x.payload)) := by
      rw [portParser, ← (dispatched_eq hφ byte).1, List.map_map]
      rfl
    refine ⟨fun q => ?_, (φ.next byte).1, hholds, ?_⟩
    · show accepted q = bytesOf q (pulled ++ [(p, byte)]) ++ ((s.fifo.set p f).get q).contents
      rw [h.bytes q, bytesOf_concat, List.append_assoc]
      by_cases hq : q = p
      · rw [hq, PerPort.get_set_self, if_pos rfl, ← hcontents]
        rfl
      · rw [PerPort.get_set_of_ne _ hq, if_neg (Ne.symm hq), List.nil_append]
    · rw [frameLog_append, frameLog_frames, List.map_append, List.map_map]
      exact portParser.run_append hparse (portParser.run_singleton hframe)

theorem step (h : Delivered accepted pulled s calls) (hvalid : s.Valid) {e : Event}
    (hstep : MainState.step s e = some (s', calls')) :
    Delivered (fun p => accept p (accepted p) s e) (pull pulled s e) s' (calls ++ calls') := by
  cases e with
  | rxc q byte => exact h.rxc hvalid hstep
  | timer _ | suspend | resume =>
    obtain ⟨rfl, rfl⟩ := Prod.mk.inj (Option.some.inj hstep)
    exact h.apart (.silent rfl rfl)
  | loop high =>
    have hloop : s.loop high = some (s', calls') := hstep
    by_cases hpc : ∃ p, s.pc = .receive p
    · obtain ⟨p, hpc⟩ := hpc
      rw [MainState.loop, hpc] at hloop
      exact h.receive hvalid hpc high hloop
    · have hne : ∀ p, s.pc ≠ .receive p := fun p hp => hpc ⟨p, hp⟩
      rw [pull_loop_of_ne hne]
      exact h.apart (.of_loop hne hloop)

end Delivered

/-- In every run of the main loop: the frames that the records get are those of the bytes of both
ports, in the order in which the receiver pulls them, and of each port the pulled bytes followed by
the queued ones are the bytes that found room in its queue. -/
theorem frames_of_run {es : List Event} {s : MainState} {calls : List Call}
    (hrun : MainState.step.run .start es = some (s, calls)) :
    (∃ φ, portParser.run .idle (MainState.step.ghost pull [] .start es) =
        some (φ, (frameLog calls).map fun x => (x.1, x.2.payload)) ∧ φ.Holds s.ports.receiver) ∧
      ∀ p, MainState.step.ghost (accept p) [] .start es =
        bytesOf p (MainState.step.ghost pull [] .start es) ++ (s.fifo.get p).contents := by
  obtain ⟨-, -, hdelivered⟩ := MainState.step.run_history
    (P := fun es s calls => MainState.step.run .start es = some (s, calls) ∧ s.Valid ∧
      Delivered (fun p => MainState.step.ghost (accept p) [] .start es)
        (MainState.step.ghost pull [] .start es) s calls)
    ⟨rfl, start_valid, .start⟩ (by
      rintro es s calls e s' calls' ⟨hrun, hvalid, h⟩ hstep
      have hrun' := MainState.step.run_append hrun (MainState.step.run_singleton hstep)
      refine ⟨hrun', (moves_of_run start_valid hrun').valid, ?_⟩
      simpa only [MainState.step.ghost_concat hrun] using h.step hvalid hstep) hrun
  obtain ⟨φ, hholds, hparse⟩ := hdelivered.frames
  exact ⟨⟨φ, hparse, hholds⟩, hdelivered.bytes⟩

set_option maxRecDepth 20000 in
theorem frames_of_run_scaleBytes :
    let es := attach ++ bytesIn .one scaleBytes ++ loops 1 ++ bytesIn .two scaleBytes
    let pulled := (scaleBytes.map fun byte => (Port.one, byte)) ++
      scaleBytes.map fun byte => (Port.two, byte)
    ∃ s calls, MainState.step.run .start es = some (s, calls) ∧
      (∃ φ, portParser.run .idle pulled =
        some (φ, (frameLog calls).map fun x => (x.1, x.2.payload)) ∧ φ.Holds s.ports.receiver) ∧
      ∀ p, MainState.step.ghost (accept p) [] .start es =
        bytesOf p pulled ++ (s.fifo.get p).contents := by
  intro es pulled
  obtain ⟨s, calls, hrun⟩ : ∃ s calls, MainState.step.run .start es = some (s, calls) :=
    ⟨_, _, rfl⟩
  have hpulled : MainState.step.ghost pull [] .start es = pulled := by decide +kernel
  have hframes := frames_of_run hrun
  rw [hpulled] at hframes
  exact ⟨s, calls, hrun, hframes⟩

/-! ## A sender that is alone -/

/-- The bytes of a port among the events. -/
def received (p : Port) (es : List Event) : List UInt8 :=
  es.filterMap fun
    | .rxc q byte => if q = p then some byte else none
    | _ => none

/-- A byte that arrives finds room in its queue. -/
def HasRoom (s : MainState) : Event → Prop
  | .rxc p _ => ¬ fifoIsFull (s.fifo.get p)
  | _ => True

instance (s : MainState) (e : Event) : Decidable (HasRoom s e) := by
  unfold HasRoom
  split <;> infer_instance

/-- If all bytes find room, all are accepted. -/
theorem accepted_eq_received {p : Port} {es : List Event} :
    ∀ {bytes : List UInt8} {s t : MainState} {calls : List Call},
      MainState.step.run s es = some (t, calls) → MainState.step.Along HasRoom s es →
      MainState.step.ghost (accept p) bytes s es = bytes ++ received p es := by
  induction es with
  | nil => exact fun _ _ => (List.append_nil _).symm
  | cons e es ih =>
    intro bytes s t calls hrun hroom
    obtain ⟨s₁, calls₁, calls₂, hstep, hrest, -⟩ := MainState.step.run_cons_eq_some_iff.1 hrun
    obtain ⟨he, hroom⟩ := hroom
    rw [hstep] at hroom
    rw [MainState.step.ghost_cons hstep, ih hrest hroom]
    cases e with
    | rxc q byte =>
      have hfree : ¬ fifoIsFull (s.fifo.get q) := he
      by_cases hq : q = p
      · have haccept : accept p bytes s (.rxc q byte) = bytes ++ [byte] := if_pos ⟨hq, hfree⟩
        have hreceived : received p (.rxc q byte :: es) = byte :: received p es := by
          simp [received, hq]
        rw [haccept, hreceived, List.append_assoc]
        rfl
      · have haccept : accept p bytes s (.rxc q byte) = bytes := if_neg fun hall => hq hall.1
        have hreceived : received p (.rxc q byte :: es) = received p es := by
          simp [received, hq]
        rw [haccept, hreceived]
    | timer _ | suspend | resume | loop _ => rfl

/-- With one port the parser behind both ports is the frame parser. -/
theorem run_portParser {p : Port} {pulled : List (Port × UInt8)} (h : ∀ e ∈ pulled, e.1 = p)
    (φ : Phase) :
    portParser.run φ pulled = (parser.run φ (pulled.map Prod.snd)).map fun r =>
      (r.1, r.2.map fun payload => (p, payload)) := by
  induction pulled generalizing φ with
  | nil => rfl
  | cons e pulled ih =>
    obtain ⟨q, byte⟩ := e
    obtain rfl : q = p := h _ List.mem_cons_self
    have hrest := ih (fun e he => h e (List.mem_cons_of_mem _ he)) (φ.next byte).1
    rw [List.map_cons, Machine.run, Machine.run, portParser, parser_step]
    simp only [hrest, Option.map_map]
    congr 1
    funext r
    simp

theorem bytesOf_eq_map {p : Port} {pulled : List (Port × UInt8)} (h : ∀ e ∈ pulled, e.1 = p) :
    bytesOf p pulled = pulled.map Prod.snd := by
  rw [bytesOf, ← List.filterMap_eq_map]
  exact List.filterMap_congr fun e he => if_pos (h e he)

/-- If only one port gets bytes and each finds room, then in every run of the main loop, whatever
else happens in it: the records get the payloads of the frames that were sent, each once and in
order, without those that end wrongly.  All frames are through when all bytes have arrived and the
queue is empty. -/
theorem frames_delivered {es : List Event} {s : MainState} {calls : List Call} {p : Port}
    {gs : List Segment} {later : List UInt8}
    (hrun : MainState.step.run .start es = some (s, calls))
    (halone : ∀ q byte, .rxc q byte ∈ es → q = p) (hroom : MainState.step.Along HasRoom .start es)
    (hstream : received p es ++ later = Segment.stream gs) :
    ∃ rest, (Segment.payloads gs).map (fun payload => (p, payload)) =
        (frameLog calls).map (fun x => (x.1, x.2.payload)) ++ rest ∧
      (later = [] → (s.fifo.get p).contents = [] → rest = []) := by
  obtain ⟨⟨φ, hparse, -⟩, hbytes⟩ := frames_of_run hrun
  generalize MainState.step.ghost pull [] .start es = pulled at hparse hbytes
  have hreceived (q : Port) : received q es = bytesOf q pulled ++ (s.fifo.get q).contents := by
    rw [← hbytes, accepted_eq_received hrun hroom, List.nil_append]
  have hpulled : ∀ e ∈ pulled, e.1 = p := by
    intro e he
    have hmem : e.2 ∈ received e.1 es := by
      rw [hreceived]
      exact List.mem_append_left _ (List.mem_filterMap.2 ⟨e, he, if_pos rfl⟩)
    obtain ⟨e', he', hbyte⟩ := List.mem_filterMap.1 hmem
    cases e' with
    | rxc q byte =>
      dsimp only at hbyte
      split_ifs at hbyte with hq
      rw [← hq]
      exact halone q byte he'
    | timer _ | suspend | resume | loop _ => exact nomatch hbyte
  rw [run_portParser hpulled] at hparse
  obtain ⟨⟨φ₁, outs⟩, hpart, he⟩ := Option.map_eq_some_iff.1 hparse
  obtain ⟨rfl, hframes⟩ := Prod.mk.inj he
  have hall := run_parser_stream gs
  rw [← hstream, hreceived, bytesOf_eq_map hpulled, List.append_assoc] at hall
  obtain ⟨φ₂, o₁, o₂, h₁, h₂, hpayloads⟩ := parser.run_append_eq_some_iff.1 hall
  obtain ⟨rfl, rfl⟩ := Prod.mk.inj (Option.some.inj (hpart.symm.trans h₁))
  refine ⟨o₂.map fun payload => (p, payload), ?_, fun hlater hempty => ?_⟩
  · rw [hpayloads, List.map_append, hframes]
  · rw [hlater, hempty] at h₂
    obtain ⟨-, rfl⟩ := Prod.mk.inj (Option.some.inj h₂)
    rfl

/-- A scale frame behind a byte of noise. -/
def scaleSegment : Segment :=
  ⟨[0x00], ⟨scaleFrame.payload, 0x36, by decide, by decide⟩, by simp⟩

set_option maxRecDepth 20000 in
theorem frames_delivered_scaleBytes :
    ∃ s calls rest, MainState.step.run .start
        (attach ++ bytesIn .one scaleSegment.bytes) = some (s, calls) ∧
      (Segment.payloads [scaleSegment]).map (fun payload => (Port.one, payload)) =
        (frameLog calls).map (fun x => (x.1, x.2.payload)) ++ rest ∧
      ((s.fifo.get .one).contents = [] → rest = []) := by
  obtain ⟨s, calls, hrun⟩ : ∃ s calls, MainState.step.run .start
      (attach ++ bytesIn .one scaleSegment.bytes) = some (s, calls) := ⟨_, _, rfl⟩
  have halone (q : Port) (byte : UInt8)
      (he : .rxc q byte ∈ attach ++ bytesIn .one scaleSegment.bytes) : q = .one := by
    rcases List.mem_append.1 he with he | he
    · simp [attach, loops] at he
    · obtain ⟨b, -, he⟩ := List.mem_flatMap.1 he
      exact (by simpa using he : q = .one ∧ byte = b).1
  have hstream : received .one (attach ++ bytesIn .one scaleSegment.bytes) ++ [] =
      Segment.stream [scaleSegment] := by decide
  obtain ⟨rest, hframes, hrest⟩ := frames_delivered hrun halone (by decide) hstream
  exact ⟨s, calls, rest, hrun, hframes, hrest rfl⟩

end MainState

end PowerMeterDisplay
