import PowerMeterDisplay.BarGraph
import PowerMeterDisplay.Lcd
import PowerMeterDisplay.MainLoop

/-!
# What is written to the display

The texts of the five pages of `lcd_eadog_create_menu` and of the calls that leave the main loop, as
what goes over the wires.  Floats are bit patterns; the float operations and the number formatting
of the C library are a parameter, of which only the meaning of a field width is used: no number is
shorter.  So every page covers both rows (`menuText_covers`), and a call is all that is seen after
it (`Call.run_wires`).
-/

namespace PowerMeterDisplay

/-! ## The C library -/

/-- The float operations of the C library, where `double` is `float`, and the conversion
`%<width>.<precision>f`. -/
structure FloatLib where
  ofUInt16 : UInt16 → FloatBits
  ofInt16 : Int16 → FloatBits
  ofUInt32 : UInt32 → FloatBits
  ofInt32 : Int32 → FloatBits
  ofUInt64 : UInt64 → FloatBits
  ofInt64 : Int64 → FloatBits
  sqrt : FloatBits → FloatBits
  mul : FloatBits → FloatBits → FloatBits
  div : FloatBits → FloatBits → FloatBits
  toUInt8 : FloatBits → UInt8
  format : ℕ → ℕ → FloatBits → List UInt8
  width_le : ∀ width precision x, width ≤ (format width precision x).length

/-- The characters of a string literal. -/
def ascii (s : String) : List UInt8 := s.toList.map fun c => c.toNat.toUInt8

@[simp] theorem length_ascii (s : String) : (ascii s).length = s.length := by
  rw [ascii, List.length_map, String.length_toList]

/-- The conversion `%d` of a byte. -/
def decimal (n : UInt8) : List UInt8 := ascii (toString n.toNat)

/-! ## The menu pages -/

namespace DisplayData

variable (L : FloatLib) (d : DisplayData)

def uRms (q : Quotients) : FloatBits := L.mul (L.sqrt (L.ofUInt64 q.voltageRms)) d.scaleV

def iRms (q : Quotients) : FloatBits := L.mul (L.sqrt (L.ofInt64 q.currentRms)) d.scaleC

/-- A line of a page with one number. -/
def numberLine (title : String) (gap : String) (number : List UInt8) (unit : String) : List UInt8 :=
  ascii title ++ decimal d.measure ++ ascii gap ++ number ++ ascii unit

/-- The two lines that `lcd_eadog_create_menu` prints after its divisions; there is no page behind
the last one. -/
def menuText (q : Quotients) : Option (List UInt8 × List UInt8) :=
  match d.menuPos.toNat with
  | 0 =>
    some (d.numberLine "Urms" ":    " (L.format 5 2 (d.uRms L q)) "V",
      d.numberLine "Irms" ":    " (L.format 5 1 (d.iRms L q)) "A")
  | 1 => q.means.map fun m =>
    (d.numberLine "Umean" ":   " (L.format 5 2 (L.mul (L.ofUInt32 m.1) d.scaleV)) "V",
      d.numberLine "Imean" ":   " (L.format 5 1 (L.mul (L.ofInt32 m.2) d.scaleC)) "A")
  | 2 =>
    let nan : FloatBits := 0x7fc00000
    let minV := if d.minV ≠ 0xffff then L.mul (L.ofUInt16 d.minV) d.scaleV else nan
    let maxI := if d.maxI ≠ Int16.minValue then L.mul (L.ofInt16 d.maxI) d.scaleC else nan
    some (d.numberLine "Umin" ":    " (L.format 5 2 minV) "V",
      d.numberLine "Imax" ":    " (L.format 5 1 maxI) "A")
  | 3 =>
    -- the constants are 3.25, 4096 and 8
    let spanU := L.toUInt8 (L.div (d.uRms L q) 0x40500000)
    let maxI := L.mul 0x45800000 d.scaleC
    let spanI := L.toUInt8 (L.mul (L.div 0x41000000 maxI) (d.iRms L q))
    some (ascii "U" ++ decimal d.measure ++ writeCells (fun i => i < spanU) ++ ascii "   26V",
      ascii "I" ++ decimal d.measure ++ writeCells (fun i => i ≤ spanI) ++ ascii " " ++
        L.format 4 1 maxI ++ ascii "A")
  | 4 =>
    let peak := L.mul (L.mul (L.ofInt32 d.peakPow) d.scaleC) d.scaleV
    some (d.numberLine "Ppeak" ":   " (L.format 5 2 peak) "W",
      d.numberLine "Prms" ":    " (L.format 5 2 (L.mul (d.iRms L q) (d.uRms L q))) "W")
  | _ => none

/-- The page that `lcd_eadog_create_menu` draws, if any. -/
def menuPage : Option (List UInt8 × List UInt8) :=
  if d.measure > 2 then none else (menuQuotients d).bind (d.menuText L)

/-- What `lcd_eadog_create_menu` writes; `none` is a division by zero. -/
def createMenuWires : Option (List Wire) :=
  let sync := [.csb true, .csb false]
  if d.measure > 2 then some sync
  else (menuQuotients d).map fun q => sync ++ (d.menuText L q).elim [] lcdPage

/-! ## Pages cover both rows -/

variable {L d}

theorem length_decimal (h : ¬ d.measure > 2) : (decimal d.measure).length = 1 := by
  have hle : d.measure.toNat ≤ 2 := UInt8.le_iff_toNat_le.1 (UInt8.not_lt.1 h)
  rw [decimal, length_ascii]
  interval_cases d.measure.toNat <;> rfl

theorem length_numberLine (h : ¬ d.measure > 2) (title gap : String) (number : List UInt8)
    (unit : String) :
    (d.numberLine title gap number unit).length =
      title.length + gap.length + unit.length + 1 + number.length := by
  simp only [numberLine, List.length_append, length_ascii, length_decimal h]
  omega

/-- A line with 10 characters of text and a number of at least 5 covers a row. -/
theorem covers_numberLine (h : ¬ d.measure > 2) {title gap unit : String} {number : List UInt8}
    (htext : title.length + gap.length + unit.length = 10) (hnumber : 5 ≤ number.length) :
    16 ≤ (d.numberLine title gap number unit).length := by
  rw [length_numberLine h]
  omega

theorem length_writeCells (lit : UInt8 → Bool) : (writeCells lit).length = 8 := by
  rw [writeCells, List.length_map, List.length_range]

/-- Whatever the numbers are, a page covers both rows. -/
theorem menuText_covers (h : ¬ d.measure > 2) {q : Quotients} {page : List UInt8 × List UInt8}
    (hpage : d.menuText L q = some page) : Lcd.Covers page := by
  have hlines {title₁ gap₁ unit₁ title₂ gap₂ unit₂ : String} {precision₁ precision₂ : ℕ}
      {x₁ x₂ : FloatBits} (htext₁ : title₁.length + gap₁.length + unit₁.length = 10)
      (htext₂ : title₂.length + gap₂.length + unit₂.length = 10) :
      Lcd.Covers (d.numberLine title₁ gap₁ (L.format 5 precision₁ x₁) unit₁,
        d.numberLine title₂ gap₂ (L.format 5 precision₂ x₂) unit₂) :=
    ⟨covers_numberLine h htext₁ (L.width_le ..), covers_numberLine h htext₂ (L.width_le ..)⟩
  unfold menuText at hpage
  split at hpage
  · obtain rfl := Option.some.inj hpage
    exact hlines rfl rfl
  · obtain ⟨m, -, rfl⟩ := Option.map_eq_some_iff.1 hpage
    exact hlines rfl rfl
  · obtain rfl := Option.some.inj hpage
    exact hlines rfl rfl
  · obtain rfl := Option.some.inj hpage
    have hscale := L.width_le 4 1 (L.mul 0x45800000 d.scaleC)
    constructor
    · simp only [List.length_append, length_ascii, length_decimal h, length_writeCells]
      exact Nat.le_refl 16
    · simp only [List.length_append, length_ascii, length_decimal h, length_writeCells]
      change 16 ≤ 1 + 1 + 8 + 1 + (L.format 4 1 (L.mul 0x45800000 d.scaleC)).length + 1
      omega
  · obtain rfl := Option.some.inj hpage
    exact hlines rfl rfl
  · exact nomatch hpage

theorem menuPage_covers {page : List UInt8 × List UInt8} (hpage : d.menuPage L = some page) :
    Lcd.Covers page := by
  unfold menuPage at hpage
  split_ifs at hpage with hdisabled
  obtain ⟨q, -, hmenu⟩ := Option.bind_eq_some_iff.1 hpage
  exact menuText_covers hdisabled hmenu

theorem createMenuWires_eq {ws : List Wire} (h : d.createMenuWires L = some ws) :
    ws = [.csb true, .csb false] ++ (d.menuPage L).elim [] lcdPage := by
  unfold createMenuWires at h
  unfold menuPage
  dsimp only at h
  split_ifs at h ⊢ with hdisabled
  · exact (Option.some.inj h).symm
  · obtain ⟨q, hq, rfl⟩ := Option.map_eq_some_iff.1 h
    rw [hq, Option.bind_some]

/-- Behind the early return there is a page for each menu position, unless it divides by zero. -/
theorem menuPage_isSome (h : ¬ d.measure > 2) (hpos : d.menuPos ≤ 4)
    (hdivides : (d.createMenuWires L).isSome) : (d.menuPage L).isSome := by
  rw [createMenuWires, if_neg h, Option.isSome_map] at hdivides
  obtain ⟨q, hq⟩ := Option.isSome_iff_exists.1 hdivides
  have hmeans := (menuQuotients_eq_some hq).2.2.2.1
  have hle : d.menuPos.toNat ≤ 4 := UInt8.le_iff_toNat_le.1 hpos
  rw [menuPage, if_neg h, hq, Option.bind_some, menuText]
  interval_cases hk : d.menuPos.toNat
  · rfl
  · show (q.means.map _).isSome
    rw [Option.isSome_map]
    exact hmeans.2 (UInt8.toNat.inj hk)
  · rfl
  · rfl
  · rfl

end DisplayData

/-! ## The calls of the main loop -/

namespace Call

variable (L : FloatLib)

/-- The text of `reset_to_bootloader`. -/
def bootloaderText : List UInt8 × List UInt8 :=
  (ascii "bootloader      ", ascii "                ")

/-- What a call writes to the display; `none` is a division by zero. -/
def wires : Call → Option (List Wire)
  | .channel _ d .createMenu => d.createMenuWires L
  | .channel _ _ _ => some []
  | .print line₁ line₂ => some (lcdPage (ascii line₁, ascii line₂))
  | .resetToBootloader => some (lcdPage bootloaderText)

/-- The page that a call shows, if any. -/
def page : Call → Option (List UInt8 × List UInt8)
  | .channel _ d .createMenu => d.menuPage L
  | .channel _ _ _ => none
  | .print line₁ line₂ => some (ascii line₁, ascii line₂)
  | .resetToBootloader => some bootloaderText

/-- A call that divides by no zero and prints no number that is too long for its line. -/
structure Clean (c : Call) : Prop where
  divides : (c.wires L).isSome
  stays : ∀ page ∈ c.page L, Lcd.Stays page

/-- The texts that the main loop prints itself cover both rows. -/
def TextCovers (c : Call) : Prop :=
  ∀ line₁ line₂, c = .print line₁ line₂ → Lcd.Covers (ascii line₁, ascii line₂)

variable {L}

theorem covers_page {c : Call} (htext : c.TextCovers) {page : List UInt8 × List UInt8}
    (hpage : c.page L = some page) : Lcd.Covers page := by
  cases c with
  | channel p d op =>
    cases op with
    | createMenu =>
      exact DisplayData.menuPage_covers hpage
    | frame _ | resetData | resetMinmax | setMenuPos _ => exact nomatch hpage
  | print line₁ line₂ =>
    obtain rfl := Option.some.inj hpage
    exact htext line₁ line₂ rfl
  | resetToBootloader =>
    obtain rfl := Option.some.inj hpage
    exact ⟨by decide, by decide⟩

/-- What a call writes is its page, behind a pulse of the chip select or not. -/
theorem wires_eq {c : Call} {ws : List Wire} (h : c.wires L = some ws) :
    ∃ sync, (sync = [] ∨ sync = [.csb true, .csb false]) ∧
      ws = sync ++ (c.page L).elim [] lcdPage := by
  cases c with
  | channel p d op =>
    cases op with
    | createMenu =>
      exact ⟨_, Or.inr rfl, DisplayData.createMenuWires_eq h⟩
    | frame _ | resetData | resetMinmax | setMenuPos _ =>
      obtain rfl := Option.some.inj h
      exact ⟨_, Or.inl rfl, rfl⟩
  | print line₁ line₂ =>
    obtain rfl := Option.some.inj h
    exact ⟨_, Or.inl rfl, rfl⟩
  | resetToBootloader =>
    obtain rfl := Option.some.inj h
    exact ⟨_, Or.inl rfl, rfl⟩

/-- What a call shows is all that is seen after it; a call without a page changes nothing. -/
theorem run_wires {A : Advance} {x : Lcd} (h : x.Ready) {c : Call} (hclean : c.Clean L)
    (htext : c.TextCovers) :
    ∃ ws y, c.wires L = some ws ∧ (Lcd.wire A).run x ws = some (y, []) ∧ y.Ready ∧
      y.panel.memory .glyphs = x.panel.memory .glyphs ∧
      y.panel.screen = (c.page L).elim x.panel.screen Lcd.visible := by
  obtain ⟨ws, hws⟩ := Option.isSome_iff_exists.1 hclean.divides
  obtain ⟨sync, hsync, rfl⟩ := wires_eq hws
  have hsync : (Lcd.wire A).run x sync = some (x, []) := by
    obtain ⟨csb, rs, panel⟩ := x
    obtain rfl : csb = false := h.csb
    rcases hsync with rfl | rfl <;> rfl
  cases hpage : c.page L with
  | none =>
    refine ⟨_, x, hws, ?_, h, rfl, rfl⟩
    rw [hpage]
    exact (Lcd.wire A).run_append hsync rfl
  | some page =>
    obtain ⟨y, hrun, hready, hglyphs, hscreen⟩ :=
      Lcd.run_page (A := A) h (hclean.stays page hpage) (covers_page htext hpage)
    refine ⟨_, y, hws, ?_, hready, hglyphs, hscreen⟩
    rw [hpage]
    exact (Lcd.wire A).run_append hsync hrun

end Call

end PowerMeterDisplay
