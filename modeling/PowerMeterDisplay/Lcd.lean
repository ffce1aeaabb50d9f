import PowerMeterDisplay.Lib.CursorMemory
import PowerMeterDisplay.Lib.Machine
import PowerMeterDisplay.Display

/-!
# The display and its driver

The routines of `LCD_EADOG.c` as what they put on the wires to the display: levels of the chip
select and of the RS pin, and bytes.  `Lcd.wire` is the display at the other end.  It knows the
instructions as the comments of the driver name them, and any other byte is a fault; how its cursor
moves on is a parameter that is known inside a line only.  `Lcd.run_init` says what initialisation
makes of any display, and `Lcd.run_page` that two lines of text are all that is seen afterwards.
-/

namespace PowerMeterDisplay

/-- A change on the wires to the display. -/
inductive Wire where
  | csb (high : Bool)
  | rs (high : Bool)
  | byte (b : UInt8)
  deriving DecidableEq, Repr

/-! ## The driver -/

def lcdEadogWritebyte (byte : UInt8) : List Wire := [.byte byte]

def ctoggleRS : List Wire := [.rs true, .rs false]

def wtoggleRS : List Wire := [.rs false, .rs true]

/-- What all routines that give one instruction do. -/
def control (byte : UInt8) : List Wire := [.rs false] ++ lcdEadogWritebyte byte ++ ctoggleRS

def lcdEadogSetCursor (pos : UInt8) : List Wire := control (128 + pos)

def lcdEadogWriteChar (car : UInt8) : List Wire :=
  [.rs true] ++ lcdEadogWritebyte car ++ wtoggleRS

/-- The output stream: `fprintf` writes its characters one by one. -/
def lcdPrint (text : List UInt8) : List Wire := text.flatMap lcdEadogWriteChar

/-- The two lines of a text, each from the start of its row on. -/
def lcdPage (page : List UInt8 × List UInt8) : List Wire :=
  lcdEadogSetCursor 0 ++ lcdPrint page.1 ++ (lcdEadogSetCursor 0x40 ++ lcdPrint page.2)

/-- Loop `k` of the eight loops of `lcd_eadog_Vertikale_Balken`: a bar of `k + 1` rows. -/
def vertikalerBalken (k : ℕ) : List UInt8 :=
  (List.range 8).map fun i => if i + k > 6 then 0b00011111 else 0b00000000

def lcdEadogVertikaleBalken : List Wire :=
  ((List.range 8).flatMap vertikalerBalken).flatMap fun b => lcdEadogWritebyte b ++ wtoggleRS

def lcdEadogDefineChar : List Wire :=
  control 0b01000000 ++ [.rs true] ++ lcdEadogVertikaleBalken ++ [.rs false] ++
    lcdEadogWritebyte 0b10000000

/-- The instructions of `lcd_eadog_init`, for 3.3 V. -/
def initBytes : List UInt8 :=
  [0b00111001, 0x14, 0x55, 0x6D, 0x78, 0b00111000, 0b00001100, 0b00000001, 0b00000110]

def lcdEadogInit : List Wire :=
  [.csb false, .rs false] ++ (initBytes.flatMap fun b => lcdEadogWritebyte b ++ ctoggleRS) ++
    lcdEadogDefineChar

/-! ## The display -/

/-- The memories that a character goes to: the text, and the patterns of the special characters. -/
inductive Memory where
  | text
  | glyphs
  deriving DecidableEq, Repr

/-- How the cursor of each memory moves on: by one inside the patterns and inside each of the two
lines of 40 characters, which start at 0 and at `0x40`. -/
structure Advance where
  next : Memory → ℕ → ℕ
  glyphs_linear : CursorMemory.Linear (next .glyphs) 0 64
  line₁_linear : CursorMemory.Linear (next .text) 0 40
  line₂_linear : CursorMemory.Linear (next .text) 0x40 40

/-- The memories of the display, the one that takes characters, the instruction table and whether
the cursor moves on by itself. -/
structure Panel where
  memory : Memory → CursorMemory UInt8
  target : Memory
  table1 : Bool
  increment : Bool

namespace Panel

/-- Set the cursor of a memory, which then takes the characters. -/
def seek (p : Panel) (m : Memory) (k : ℕ) : Panel :=
  { p with memory := Function.update p.memory m { p.memory m with cursor := k }, target := m }

def clear (p : Panel) : Panel :=
  { p with memory := Function.update p.memory .text ⟨fun _ => 0x20, 0⟩, target := .text }

/-- An instruction.  In instruction table 1 the bytes from `0x10` and from `0x40` on set voltages
and contrast. -/
def instruction (p : Panel) (b : UInt8) : Option Panel :=
  if 0x80 ≤ b then some (p.seek .text (b - 0x80).toNat)
  else if p.table1 ∧ (0x40 ≤ b ∨ 0x10 ≤ b ∧ b < 0x20) then some p
  else if 0x40 ≤ b then some (p.seek .glyphs (b - 0x40).toNat)
  else if b = 0b00111000 then some { p with table1 := false }
  else if b = 0b00111001 then some { p with table1 := true }
  else if 0b00001100 ≤ b ∧ b ≤ 0b00001111 then some p
  else if b = 0b00000110 then some { p with increment := true }
  else if b = 0b00000001 then some p.clear
  else none

/-- A list of characters for the memory that takes them. -/
def putList (A : Advance) (p : Panel) (bs : List UInt8) : Panel :=
  { p with
    memory :=
      Function.update p.memory p.target ((p.memory p.target).putList (A.next p.target) bs) }

/-- A character; it is not known what one does without auto-increment. -/
def data (A : Advance) (p : Panel) (b : UInt8) : Option Panel :=
  if p.increment then some (p.putList A [b]) else none

/-- What is seen: the first 16 characters of both lines. -/
def screen (p : Panel) : List UInt8 × List UInt8 :=
  ((List.range 16).map fun i => (p.memory .text).cells i,
    (List.range 16).map fun i => (p.memory .text).cells (0x40 + i))

theorem instruction_setCursor (p : Panel) {pos : UInt8} (hpos : pos < 0x80) :
    p.instruction (128 + pos) = some (p.seek .text pos.toNat) := by
  have hlt : pos.toNat < 128 := UInt8.lt_iff_toNat_lt.1 hpos
  have hsum : (128 + pos).toNat = 128 + pos.toNat := by
    rw [UInt8.toNat_add]
    exact Nat.mod_eq_of_lt (by change 128 + _ < 256; omega)
  have hle : (0x80 : UInt8) ≤ 128 + pos := by
    rw [UInt8.le_iff_toNat_le, hsum]
    exact Nat.le_add_right ..
  rw [instruction, if_pos hle, UInt8.add_comm, UInt8.add_sub_cancel]

/-- The text after a line that is printed from address `k` on. -/
theorem text_printAt (A : Advance) (p : Panel) (k : ℕ) (bs : List UInt8) :
    ((p.seek .text k).putList A bs).memory .text =
      CursorMemory.putList (A.next .text) ⟨(p.memory .text).cells, k⟩ bs := by
  simp [seek, putList]

theorem glyphs_printAt (A : Advance) (p : Panel) (k : ℕ) (bs : List UInt8) :
    ((p.seek .text k).putList A bs).memory .glyphs = p.memory .glyphs := by
  simp [seek, putList]

theorem putList_nil (A : Advance) (p : Panel) : p.putList A [] = p := by
  simp [putList, CursorMemory.putList]

theorem putList_cons (A : Advance) (p : Panel) (b : UInt8) (bs : List UInt8) :
    p.putList A (b :: bs) = (p.putList A [b]).putList A bs := by
  simp [putList, CursorMemory.putList]

end Panel

/-- The display with the levels of its two pins. -/
structure Lcd where
  csb : Bool
  rs : Bool
  panel : Panel

namespace Lcd

/-- The display takes a byte while it is selected, as a character if RS is high. -/
def wire (A : Advance) : Machine Lcd Wire Empty
  | x, .csb high => some ({ x with csb := high }, [])
  | x, .rs high => some ({ x with rs := high }, [])
  | x, .byte b =>
    if x.csb then some (x, [])
    else (if x.rs then x.panel.data A b else x.panel.instruction b).map fun p =>
      ({ x with panel := p }, [])

/-- The display is selected and set up as `lcd_eadog_init` leaves it. -/
structure Ready (x : Lcd) : Prop where
  csb : x.csb = false
  table1 : x.panel.table1 = false
  increment : x.panel.increment = true

variable {A : Advance} {x : Lcd}

/-! ## What the routines do -/

theorem run_instruction (hcsb : x.csb = false) (hrs : x.rs = false) {b : UInt8} {p : Panel}
    (h : x.panel.instruction b = some p) :
    (wire A).run x (lcdEadogWritebyte b ++ ctoggleRS) = some (⟨false, false, p⟩, []) := by
  obtain ⟨csb, rs, panel⟩ := x
  obtain rfl : csb = false := hcsb
  obtain rfl : rs = false := hrs
  have hbyte : wire A ⟨false, false, panel⟩ (.byte b) = some (⟨false, false, p⟩, []) := by
    show (panel.instruction b).map _ = _
    rw [h]
    rfl
  exact (wire A).run_cons hbyte rfl

theorem run_control (hcsb : x.csb = false) {b : UInt8} {p : Panel}
    (h : x.panel.instruction b = some p) :
    (wire A).run x (control b) = some (⟨false, false, p⟩, []) := by
  have hrs : wire A x (.rs false) = some ({ x with rs := false }, []) := rfl
  rw [control, List.append_assoc]
  exact (wire A).run_cons hrs (run_instruction (x := { x with rs := false }) hcsb rfl h)

theorem run_instructions {bs : List UInt8} {p q : Panel}
    (h : bs.foldlM Panel.instruction p = some q) :
    (wire A).run ⟨false, false, p⟩ (bs.flatMap fun b => lcdEadogWritebyte b ++ ctoggleRS) =
      some (⟨false, false, q⟩, []) := by
  induction bs generalizing p with
  | nil =>
    obtain rfl := Option.some.inj h
    rfl
  | cons b bs ih =>
    obtain ⟨p', hb, hbs⟩ := Option.bind_eq_some_iff.1 h
    exact (wire A).run_append (run_instruction rfl rfl hb) (ih hbs)

theorem run_bytes (hcsb : x.csb = false) (hrs : x.rs = true) (hinc : x.panel.increment = true)
    (bs : List UInt8) :
    (wire A).run x (bs.flatMap fun b => lcdEadogWritebyte b ++ wtoggleRS) =
      some ({ x with panel := x.panel.putList A bs }, []) := by
  induction bs generalizing x with
  | nil => rw [Panel.putList_nil]; rfl
  | cons b bs ih =>
    have hbyte : wire A x (.byte b) = some ({ x with panel := x.panel.putList A [b] }, []) := by
      simp only [wire, hcsb, hrs, Panel.data, hinc, if_true, Bool.false_eq_true, if_false,
        Option.map_some]
    have htoggle : (wire A).run { x with panel := x.panel.putList A [b] } wtoggleRS =
        some ({ x with panel := x.panel.putList A [b] }, []) := by
      simp [wtoggleRS, Machine.run, wire, hrs]
    rw [List.flatMap_cons, Panel.putList_cons]
    exact (wire A).run_append ((wire A).run_cons hbyte htoggle)
      (ih (x := { x with panel := x.panel.putList A [b] }) hcsb hrs hinc)

theorem run_writeChar (hcsb : x.csb = false) (hinc : x.panel.increment = true) (car : UInt8) :
    (wire A).run x (lcdEadogWriteChar car) =
      some (⟨false, true, x.panel.putList A [car]⟩, []) := by
  obtain ⟨csb, rs, panel⟩ := x
  obtain rfl : csb = false := hcsb
  have hbytes := run_bytes (A := A) (x := ⟨false, true, panel⟩) rfl rfl hinc [car]
  rw [List.flatMap_singleton] at hbytes
  have hraise : wire A ⟨false, rs, panel⟩ (.rs true) = some (⟨false, true, panel⟩, []) := rfl
  rw [lcdEadogWriteChar, List.append_assoc]
  exact (wire A).run_cons hraise hbytes

/-- The output stream writes where the cursor is. -/
theorem run_print (hcsb : x.csb = false) (hinc : x.panel.increment = true) (text : List UInt8) :
    ∃ rs, (wire A).run x (lcdPrint text) =
      some (⟨false, rs, x.panel.putList A text⟩, []) := by
  induction text generalizing x with
  | nil =>
    obtain ⟨csb, rs, panel⟩ := x
    obtain rfl : csb = false := hcsb
    exact ⟨rs, by rw [Panel.putList_nil]; rfl⟩
  | cons c text ih =>
    obtain ⟨rs, htext⟩ := ih (x := ⟨false, true, x.panel.putList A [c]⟩) rfl hinc
    refine ⟨rs, ?_⟩
    rw [Panel.putList_cons]
    exact (wire A).run_append (run_writeChar hcsb hinc c) htext

/-! ## Two lines of text -/

/-- A page that stays in the lines of both rows. -/
structure Stays (page : List UInt8 × List UInt8) : Prop where
  line₁ : page.1.length ≤ 40
  line₂ : page.2.length ≤ 40

/-- What is seen of a page. -/
def visible (page : List UInt8 × List UInt8) : List UInt8 × List UInt8 :=
  (page.1.take 16, page.2.take 16)

/-- A page that covers both rows. -/
structure Covers (page : List UInt8 × List UInt8) : Prop where
  row₁ : 16 ≤ page.1.length
  row₂ : 16 ≤ page.2.length

/-- A page is printed from the starts of the two rows on. -/
theorem run_lines (h : x.Ready) (page : List UInt8 × List UInt8) :
    ∃ y, (wire A).run x (lcdPage page) = some (y, []) ∧ y.Ready ∧
      y.panel.memory .glyphs = x.panel.memory .glyphs ∧
      y.panel.memory .text = CursorMemory.putList (A.next .text)
        ⟨(CursorMemory.putList (A.next .text) ⟨(x.panel.memory .text).cells, 0⟩ page.1).cells, 0x40⟩
        page.2 := by
  obtain ⟨rs₁, hprint₁⟩ := run_print (A := A) (x := ⟨false, false, x.panel.seek .text 0⟩) rfl
    h.increment page.1
  let p := (x.panel.seek .text 0).putList A page.1
  obtain ⟨rs₂, hprint₂⟩ := run_print (A := A) (x := ⟨false, false, p.seek .text 0x40⟩) rfl
    h.increment page.2
  have hrow₁ : (0 : UInt8) < 0x80 := by decide
  have hrow₂ : (0x40 : UInt8) < 0x80 := by decide
  have hcursor₁ := run_control (A := A) h.csb (x.panel.instruction_setCursor hrow₁)
  have hcursor₂ := run_control (A := A) (x := ⟨false, rs₁, p⟩) rfl (p.instruction_setCursor hrow₂)
  refine ⟨_, (wire A).run_append ((wire A).run_append hcursor₁ hprint₁)
    ((wire A).run_append hcursor₂ hprint₂), ⟨rfl, h.table1, h.increment⟩, ?_, ?_⟩
  · rw [Panel.glyphs_printAt, Panel.glyphs_printAt]
  · rw [Panel.text_printAt, Panel.text_printAt]

/-- A page that covers both rows is all that is seen afterwards, whatever was shown before. -/
theorem run_page (h : x.Ready) {page : List UInt8 × List UInt8} (hstays : Stays page)
    (hcovers : Covers page) :
    ∃ y, (wire A).run x (lcdPage page) = some (y, []) ∧ y.Ready ∧
      y.panel.memory .glyphs = x.panel.memory .glyphs ∧
      y.panel.screen = visible page := by
  obtain ⟨y, hrun, hready, hglyphs, htext⟩ := run_lines (A := A) h page
  refine ⟨y, hrun, hready, hglyphs, ?_⟩
  let m₁ : CursorMemory UInt8 := ⟨(x.panel.memory .text).cells, 0⟩
  let m₂ : CursorMemory UInt8 := ⟨(m₁.putList (A.next .text) page.1).cells, 0x40⟩
  have hline₁ : CursorMemory.Linear (A.next .text) m₁.cursor page.1.length :=
    A.line₁_linear.mono hstays.line₁
  have hline₂ : CursorMemory.Linear (A.next .text) m₂.cursor page.2.length :=
    A.line₂_linear.mono hstays.line₂
  -- the second line begins behind the first row and leaves it alone
  have hkept : ∀ i ∈ List.range 16, (m₂.putList (A.next .text) page.2).cells i =
      (m₁.putList (A.next .text) page.1).cells (m₁.cursor + i) := by
    intro i hi
    have hi : i < 16 := List.mem_range.1 hi
    rw [CursorMemory.cells_putList_of_lt hline₂ (by change i < 0x40; omega), Nat.zero_add]
  rw [Panel.screen, htext, List.map_congr_left hkept]
  exact congrArg₂ Prod.mk (CursorMemory.map_cells_putList hline₁ hcovers.row₁)
    (CursorMemory.map_cells_putList hline₂ hcovers.row₂)

/-! ## Initialisation -/

/-- The patterns of the special characters: character `k` is a bar of `k + 1` rows from below. -/
def BarGlyphs (cells : ℕ → UInt8) : Prop :=
  ∀ k < 8, ∀ i < 8, cells (8 * k + i) = if i + k > 6 then 0b00011111 else 0b00000000

theorem barGlyphs_putList (A : Advance) (m : CursorMemory UInt8) (hcursor : m.cursor = 0) :
    BarGlyphs (m.putList (A.next .glyphs) ((List.range 8).flatMap vertikalerBalken)).cells := by
  have hlength : ((List.range 8).flatMap vertikalerBalken).length = 64 := by decide
  have hbars : ∀ k < 8, ∀ i < 8, ((List.range 8).flatMap vertikalerBalken).getD (8 * k + i) 0 =
      if i + k > 6 then 0b00011111 else 0b00000000 := by decide
  have hlinear : CursorMemory.Linear (A.next .glyphs) m.cursor
      ((List.range 8).flatMap vertikalerBalken).length := by
    rw [hcursor, hlength]
    exact A.glyphs_linear
  intro k hk i hi
  rw [CursorMemory.cells_putList hlinear, hcursor, if_pos (Nat.zero_le _), Nat.sub_zero,
    ← hbars k hk i hi, List.getD_eq_getElem _ _ (by omega), List.getD_eq_getElem _ _ (by omega)]

theorem initBytes_eq (p : Panel) :
    initBytes.foldlM Panel.instruction p =
      some { p.clear with table1 := false, increment := true } := by
  obtain ⟨memory, target, table1, increment⟩ := p
  cases table1 <;> rfl

theorem run_defineChar (h : x.Ready) :
    ∃ y, (wire A).run x lcdEadogDefineChar = some (y, []) ∧ y.Ready ∧
      y.panel.memory .text = ⟨(x.panel.memory .text).cells, 0⟩ ∧
      BarGlyphs (y.panel.memory .glyphs).cells := by
  have hseek : x.panel.instruction 0b01000000 = some (x.panel.seek .glyphs 0) := by
    rw [Panel.instruction, h.table1]
    rfl
  let p := x.panel.seek .glyphs 0
  let q := p.putList A ((List.range 8).flatMap vertikalerBalken)
  have haddress : (wire A).run x (control 0b01000000) = some (⟨false, false, p⟩, []) :=
    run_control h.csb hseek
  have hraise : (wire A).run ⟨false, false, p⟩ [.rs true] = some (⟨false, true, p⟩, []) := rfl
  have hbars : (wire A).run ⟨false, true, p⟩ lcdEadogVertikaleBalken =
      some (⟨false, true, q⟩, []) := run_bytes (x := ⟨false, true, p⟩) rfl rfl h.increment _
  have hlower : (wire A).run ⟨false, true, q⟩ [.rs false] = some (⟨false, false, q⟩, []) := rfl
  have hhome : (wire A).run ⟨false, false, q⟩ (lcdEadogWritebyte 0b10000000) =
      some (⟨false, false, q.seek .text 0⟩, []) := rfl
  have hglyphs : (q.seek .text 0).memory .glyphs =
      CursorMemory.putList (A.next .glyphs) ⟨(x.panel.memory .glyphs).cells, 0⟩
        ((List.range 8).flatMap vertikalerBalken) := by
    simp [q, p, Panel.seek, Panel.putList]
  refine ⟨⟨false, false, q.seek .text 0⟩, (wire A).run_append ((wire A).run_append
    ((wire A).run_append ((wire A).run_append haddress hraise) hbars) hlower) hhome,
    ⟨rfl, h.table1, h.increment⟩, ?_, ?_⟩
  · simp [q, p, Panel.seek, Panel.putList]
  · rw [hglyphs]
    exact barGlyphs_putList A _ rfl

/-- Initialisation sets up any display: selected, cleared, with the bars as special characters. -/
theorem run_init (x : Lcd) :
    ∃ y, (wire A).run x lcdEadogInit = some (y, []) ∧ y.Ready ∧
      y.panel.memory .text = ⟨fun _ => 0x20, 0⟩ ∧ BarGlyphs (y.panel.memory .glyphs).cells := by
  let p : Panel := { x.panel.clear with table1 := false, increment := true }
  have hpins : (wire A).run x [.csb false, .rs false] = some (⟨false, false, x.panel⟩, []) := rfl
  obtain ⟨y, hchars, hready, htext, hglyphs⟩ :=
    run_defineChar (A := A) (x := ⟨false, false, p⟩) ⟨rfl, rfl, rfl⟩
  refine ⟨y, (wire A).run_append ((wire A).run_append hpins
    (run_instructions (initBytes_eq x.panel))) hchars, hready, ?_, hglyphs⟩
  rw [htext]
  simp [p, Panel.clear]

end Lcd

end PowerMeterDisplay
