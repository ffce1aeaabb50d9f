import PowerMeterDisplay.Channel
import PowerMeterDisplay.Pipeline

/-!
# The main loop

The endless loop of `main` with the interrupts that run between its steps: the timer, the two
receive interrupts and the two USB callbacks.  A step of the loop ends where the code reads or
writes a variable that an interrupt shares; the button block masks the interrupts while it uses the
tick counter and is one step.  The outputs are the calls that leave the loop: those on a record,
logged with the record they find, and those that show a text or leave for the bootloader.
-/

namespace PowerMeterDisplay

abbrev maxMenu : UInt8 := 4

/-! ## State -/

/-- Where the main loop is: the part of its body that comes next. -/
inductive Pc where
  /-- The test for missing power of a port. -/
  | power (p : Port)
  /-- The choice of a channel while none is displayed. -/
  | autoSelect
  | button
  /-- The test that USB is active. -/
  | attached
  /-- The test `timer_cnt > 250`. -/
  | refreshDue
  /-- The assignment `timer_cnt = 0`. -/
  | refreshClear
  | refresh
  /-- The test of the loop in `proto_receiver`. -/
  | receive (p : Port)
  /-- The attach branch: test, wait, test again, store, wait. -/
  | attachTest
  | attachDelay
  | attachRetest
  | attachStore
  | attachSettle
  /-- The detach branch: test, wait, test again, store. -/
  | detachTest
  | detachDelay
  | detachRetest
  | detachStore
  deriving DecidableEq, Repr

namespace Pc

/-- What follows the power test of a port. -/
def afterPower : Port → Pc
  | .one => .power .two
  | .two => .autoSelect

/-- What follows the receiver of a port. -/
def afterReceive : Port → Pc
  | .one => .receive .two
  | .two => .attachTest

end Pc

/-- The variables of `main`, of the interrupts and of the receiver. -/
structure MainState where
  pc : Pc
  ports : Ports
  fifo : PerPort FifoDesc
  timerCnt : UInt8
  timerButton : UInt16
  mainBAttached : UInt8
  menuCounter : UInt8
  display : UInt8
  deriving DecidableEq, Repr

def MainState.start : MainState where
  pc := .power .one
  ports := .start
  fifo := ⟨.start, .start⟩
  timerCnt := 0
  timerButton := 0
  mainBAttached := 0
  menuCounter := 0
  display := 0

inductive Event where
  /-- The timer interrupt, with the button pin low or high. -/
  | timer (low : Bool)
  /-- A receive interrupt. -/
  | rxc (p : Port) (byte : UInt8)
  | suspend
  | resume
  /-- The next step of the main loop, with the level of the input pin that it reads. -/
  | loop (high : Bool)
  deriving DecidableEq, Repr

/-- A call that leaves the main loop. -/
inductive Call where
  | channel (p : Port) (before : DisplayData) (op : ChannelOp)
  /-- The two lines of a text on the display. -/
  | print (line₁ line₂ : String)
  | resetToBootloader
  deriving DecidableEq, Repr

namespace MainState

def lcdData (s : MainState) (p : Port) : DisplayData := s.ports.lcdData.get p

/-- Make a call on the record of a port. -/
def call (p : Port) (op : ChannelOp) (s : MainState) : Option (MainState × List Call) := do
  let d ← op.apply p (s.lcdData p)
  some ({ s with ports := { s.ports with lcdData := s.ports.lcdData.set p d } },
    [.channel p (s.lcdData p) op])

/-- Make a call on the record of port 1 and then on that of port 2. -/
def callBoth (op : ChannelOp) (s : MainState) : Option (MainState × List Call) := do
  let (s, calls₁) ← s.call .one op
  let (s, calls₂) ← s.call .two op
  some (s, calls₁ ++ calls₂)

/-! ## Steps of the loop -/

/-- A port without power: show the other channel if it is live, and disable this one. -/
def power (p : Port) (high : Bool) (s : MainState) : Option (MainState × List Call) :=
  if high = false ∧ (s.lcdData p).measure ≠ p.disabled then
    let display :=
      if (s.lcdData p.other).measure ≠ p.other.disabled then p.other.active else 0
    { s with display := display }.call p .resetData
  else some (s, [])

def autoSelect (s : MainState) : MainState :=
  if s.display = 0 then
    let display := if (s.lcdData .one).measure = 1 then 1 else s.display
    let display := if (s.lcdData .two).measure = 2 then 2 else display
    { s with display := display }
  else s

/-- A short press: the next menu page, and behind the last one the other channel if it is live. -/
def menuStep (s : MainState) : MainState :=
  let menuCounter := s.menuCounter + 1
  if menuCounter > maxMenu then
    let display :=
      if s.display = 1 then
        if (s.lcdData .two).measure ≠ 20 then 2 else s.display
      else if s.display = 2 then
        if (s.lcdData .one).measure ≠ 10 then 1 else s.display
      else s.display
    { s with menuCounter := 0, display := display }
  else { s with menuCounter := menuCounter }

/-- What the button does, by the ticks that it was held. -/
def buttonAction (s : MainState) : Option (MainState × List Call) :=
  let tempTimer := s.timerButton
  if tempTimer > 100 ∧ tempTimer < 2000 then
    s.menuStep.callBoth (.setMenuPos s.menuStep.menuCounter)
  else if tempTimer ≥ 2000 ∧ tempTimer < 9000 then do
    let (s, calls) ← s.callBoth .resetMinmax
    some (s, calls ++ [.print "reset           " "...             "])
  else if tempTimer ≥ 9000 then some (s, [.resetToBootloader])
  else some (s, [])

/-- The button block: a released button acts once and restarts the tick counter. -/
def button (high : Bool) (s : MainState) : Option (MainState × List Call) :=
  if high then s.buttonAction.map fun r => ({ r.1 with timerButton := 0 }, r.2)
  else some (s, [])

/-- The call on the record of the displayed channel. -/
def drawMenu (s : MainState) : Option (MainState × List Call) :=
  if s.display = 1 then s.call .one .createMenu
  else if s.display = 2 then s.call .two .createMenu
  else some (s, [])

/-- The refresh: the menu page of the displayed channel, and the waiting text if none is live. -/
def refresh (s : MainState) : Option (MainState × List Call) := do
  let (s, calls) ← s.drawMenu
  if (s.lcdData .one).measure = 10 ∧ (s.lcdData .two).measure = 20 then
    some (s, calls ++ [.print "waiting for data" "...             "])
  else some (s, calls)

/-- The calls for a dispatched frame. -/
def frameCalls (p : Port) (before : DisplayData) (x : Dispatch) : List Call :=
  if x.action = .resetToBootloader then [.channel p before (.frame x), .resetToBootloader]
  else [.channel p before (.frame x)]

/-- One test of the loop of `proto_receiver`, with its body when a byte was pulled. -/
def receive (p : Port) (s : MainState) : Option (MainState × List Call) := do
  let (x, out) ← Pipeline.pull p ⟨s.fifo.get p, s.ports⟩
  match out with
  | [] => some ({ s with pc := .afterReceive p, fifo := s.fifo.set p x.fifo }, [])
  | _ =>
    some ({ s with ports := x.ports, fifo := s.fifo.set p x.fifo },
      out.flatMap fun y => y.2.flatMap (frameCalls p (s.lcdData p)))

/-- The next step of the main loop. -/
def loop (high : Bool) (s : MainState) : Option (MainState × List Call) :=
  match s.pc with
  | .power p => (s.power p high).map fun r => ({ r.1 with pc := .afterPower p }, r.2)
  | .autoSelect => some ({ s.autoSelect with pc := .button }, [])
  | .button => (s.button high).map fun r => ({ r.1 with pc := .attached }, r.2)
  | .attached =>
    some ({ s with pc := if s.mainBAttached &&& 0x03 = 0x03 then .refreshDue else .attachTest }, [])
  | .refreshDue =>
    some ({ s with pc := if s.timerCnt > 250 then .refreshClear else .receive .one }, [])
  | .refreshClear => some ({ s with timerCnt := 0, pc := .refresh }, [])
  | .refresh => s.refresh.map fun r => ({ r.1 with pc := .receive .one }, r.2)
  | .receive p => s.receive p
  | .attachTest =>
    let go := s.mainBAttached &&& 0x01 ≠ 0 ∧ s.mainBAttached &&& 0x02 = 0
    some ({ s with pc := if go then .attachDelay else .detachTest }, [])
  | .attachDelay => some ({ s with pc := .attachRetest }, [])
  | .attachRetest =>
    let go := s.mainBAttached &&& 0x01 ≠ 0
    some ({ s with pc := if go then .attachStore else .power .one }, [])
  | .attachStore => some ({ s with mainBAttached := 0x03, pc := .attachSettle }, [])
  | .attachSettle => some ({ s with pc := .power .one }, [])
  | .detachTest =>
    let go := s.mainBAttached &&& 0x01 = 0 ∧ s.mainBAttached &&& 0x02 ≠ 0
    some ({ s with pc := if go then .detachDelay else .power .one }, [])
  | .detachDelay => some ({ s with pc := .detachRetest }, [])
  | .detachRetest =>
    let go := s.mainBAttached &&& 0x01 = 0
    some ({ s with pc := if go then .detachStore else .power .one }, [])
  | .detachStore => some ({ s with mainBAttached := 0, pc := .power .one }, [])

/-! ## Interrupts -/

def timerCallback (low : Bool) (s : MainState) : MainState :=
  { s with
    timerCnt := s.timerCnt + 1
    timerButton := if low ∧ s.timerButton < 10000 then s.timerButton + 1 else s.timerButton }

/-- The main loop and the interrupts, in any order. -/
def step : Machine MainState Event Call
  | s, .timer low => some (s.timerCallback low, [])
  | s, .rxc p byte => do
    let (f, _) ← fifoPushUint8 (s.fifo.get p) byte
    some ({ s with fifo := s.fifo.set p f }, [])
  | s, .suspend => some ({ s with mainBAttached := s.mainBAttached &&& 0xFE }, [])
  | s, .resume => some ({ s with mainBAttached := s.mainBAttached ||| 0x01 }, [])
  | s, .loop high => s.loop high

end MainState

end PowerMeterDisplay
