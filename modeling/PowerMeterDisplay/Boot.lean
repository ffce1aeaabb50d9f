import PowerMeterDisplay.Lib.Machine
import PowerMeterDisplay.Lib.PagedMemory

/-!
# The way to the bootloader

`reset_to_bootloader` leaves a mark in the EEPROM and lets the watchdog reset the chip; the start of
`main` finds the mark, removes it and jumps.  Between any two steps the chip may be reset or lose
its power.  The mark is set exactly while a request is pending (`bootloader_by_request`), so that
the bootloader is entered at most once for each request.  A request whose page is written is kept
until a start removes the mark, however many starts are cut off before that; a start that goes on
then enters the bootloader, and one that is cut off behind the removal loses the request
(`request_enters`).
-/

namespace PowerMeterDisplay

/-! ## The EEPROM -/

abbrev eepromPageBoot : ℕ := 63

/-- What the chip makes of addresses: its page size, and the cell that an address stands for, which
differ for the bytes of the page. -/
structure Eeprom where
  pageSize : ℕ
  pageSize_pos : 0 < pageSize
  pageSize_lt : pageSize < 256
  cell : ℕ → ℕ
  cell_inj : ∀ i < pageSize, ∀ j < pageSize,
    cell (eepromPageBoot * pageSize + i) = cell (eepromPageBoot * pageSize + j) → i = j

namespace Eeprom

variable (E : Eeprom)

def nvmEepromReadByte (m : PagedMemory UInt8) (addr : ℕ) : UInt8 := m.cells (E.cell addr)

/-- The buffer is flushed if anything is loaded. -/
def nvmEepromFlushBuffer (m : PagedMemory UInt8) : PagedMemory UInt8 := m.flush

/-- A byte that is loaded twice is ANDed. -/
def nvmEepromLoadByteToBuffer (m : PagedMemory UInt8) (byteAddr : ℕ) (value : UInt8) :
    PagedMemory UInt8 :=
  m.load (· &&& ·) byteAddr value

def nvmEepromLoadPageToBuffer (m : PagedMemory UInt8) (values : ℕ → UInt8) : PagedMemory UInt8 :=
  (List.range E.pageSize).foldl (fun m i => nvmEepromLoadByteToBuffer m i (values i)) m

/-- The page counts as written once the command is issued: the function does not wait for the end of
the write, and a cut of the power during it is left out. -/
def nvmEepromAtomicWritePage (m : PagedMemory UInt8) (pageAddr : ℕ) : PagedMemory UInt8 :=
  m.writePage E.pageSize fun i => E.cell (pageAddr * E.pageSize + i)

end Eeprom

/-! ## The program -/

/-- What is written into the page: the mark of `reset_to_bootloader`, or its removal. -/
inductive BootMark where
  | request
  | clear
  deriving DecidableEq, Repr

/-- The first byte of `temp_buf`. -/
def BootMark.byte : BootMark → UInt8
  | .request => 0xB0
  | .clear => 0xFF

/-- Where the program is. -/
inductive BootPc where
  /-- The test at the start of `main`. -/
  | test
  | flush (mark : BootMark)
  | load (mark : BootMark)
  | write (mark : BootMark)
  /-- The call of `start_bootloader`. -/
  | jump
  /-- The rest of `main`. -/
  | main
  | bootloader
  deriving DecidableEq, Repr

structure BootState where
  pc : BootPc
  eeprom : PagedMemory UInt8

inductive BootEvent where
  /-- The next step, with what `temp_buf` holds behind its first byte. -/
  | step (rest : ℕ → UInt8)
  /-- A call of `reset_to_bootloader`. -/
  | request
  /-- A call of `nvm_eeprom_flush_buffer` by the receiver. -/
  | hello
  /-- A reset, by the watchdog or not; it is not known what the page buffer holds then. -/
  | reset (buffer : ℕ → Option UInt8)

inductive BootOutput where
  | written (mark : BootMark)
  | entered
  deriving DecidableEq, Repr

variable (E : Eeprom)

def bootMark (m : PagedMemory UInt8) : UInt8 :=
  E.nvmEepromReadByte m (eepromPageBoot * E.pageSize)

def bootStep : Machine BootState BootEvent BootOutput
  | s, .reset buffer => some (⟨.test, { s.eeprom with buffer := buffer }⟩, [])
  | s, .step rest => some <|
    match s.pc with
    | .test => ({ s with pc := if bootMark E s.eeprom = 0xB0 then .flush .clear else .main }, [])
    | .flush mark => (⟨.load mark, Eeprom.nvmEepromFlushBuffer s.eeprom⟩, [])
    | .load mark =>
      (⟨.write mark, E.nvmEepromLoadPageToBuffer s.eeprom (Function.update rest 0 mark.byte)⟩, [])
    | .write mark =>
      (⟨match mark with | .request => .main | .clear => .jump,
        E.nvmEepromAtomicWritePage s.eeprom eepromPageBoot⟩, [.written mark])
    | .jump => ({ s with pc := .bootloader }, [.entered])
    | .main | .bootloader => (s, [])
  | s, .request => some (if s.pc = .main then { s with pc := .flush .request } else s, [])
  | s, .hello => some
    (if s.pc = .main then { s with eeprom := Eeprom.nvmEepromFlushBuffer s.eeprom } else s, [])

/-! ## Requests -/

/-- What has become of the last request. -/
inductive Handshake where
  | none
  | requested
  | cleared
  deriving DecidableEq, Repr

/-- The protocol between the two: only a request is cleared, and only a cleared one is entered. -/
def handshake : Machine Handshake BootOutput Empty
  | _, .written .request => some (.requested, [])
  | .requested, .written .clear => some (.cleared, [])
  | .cleared, .entered => some (.none, [])
  | _, _ => none

/-- What the start of `main` finds. -/
def Handshake.found (m : PagedMemory UInt8) : Handshake :=
  if bootMark E m = 0xB0 then .requested else .none

/-- How far the program is with a page and with a request. -/
def BootPc.Agrees (m : PagedMemory UInt8) (h : Handshake) : BootPc → Prop
  | .test | .main | .bootloader => True
  | .flush mark => mark = .clear → h = .requested
  | .load mark => (mark = .clear → h = .requested) ∧ ∀ i, m.buffer i = none
  | .write mark => (mark = .clear → h = .requested) ∧ m.buffer 0 = some mark.byte
  | .jump => h = .cleared

/-- The mark is set while a request is pending. -/
structure BootState.Agrees (s : BootState) (h : Handshake) : Prop where
  mark : bootMark E s.eeprom = 0xB0 ↔ h = .requested
  pc : s.pc.Agrees s.eeprom h

variable {E}

theorem bootMark_write {m : PagedMemory UInt8} {b : UInt8} (h : m.buffer 0 = some b) :
    bootMark E (E.nvmEepromAtomicWritePage m eepromPageBoot) = b :=
  PagedMemory.cells_writePage E.cell_inj E.pageSize_pos h

theorem cells_write {m : PagedMemory UInt8} {k : ℕ}
    (hk : ∀ i < E.pageSize, k ≠ E.cell (eepromPageBoot * E.pageSize + i)) :
    (E.nvmEepromAtomicWritePage m eepromPageBoot).cells k = m.cells k :=
  PagedMemory.cells_writePage_of_ne hk

theorem cells_load (m : PagedMemory UInt8) (values : ℕ → UInt8) :
    (E.nvmEepromLoadPageToBuffer m values).cells = m.cells :=
  PagedMemory.cells_loadPage values

theorem bootMark_congr {m m' : PagedMemory UInt8} (h : m'.cells = m.cells) :
    bootMark E m' = bootMark E m := by
  rw [bootMark, bootMark, Eeprom.nvmEepromReadByte, h]
  rfl

theorem BootState.Agrees.of_cells {s s' : BootState} {h : Handshake} (hs : s.Agrees E h)
    (hcells : s'.eeprom.cells = s.eeprom.cells) (hpc : s'.pc.Agrees s'.eeprom h) :
    s'.Agrees E h :=
  ⟨by rw [bootMark_congr hcells]; exact hs.mark, hpc⟩

/-- A step that writes nothing. -/
theorem step_silent {s s' : BootState} {h : Handshake} (hs : s.Agrees E h) {e : BootEvent}
    (hstep : bootStep E s e = some (s', [])) (hcells : s'.eeprom.cells = s.eeprom.cells)
    (hpc : s'.pc.Agrees s'.eeprom h) :
    ∃ s' h' out, bootStep E s e = some (s', out) ∧ handshake.run h out = some (h', []) ∧
      s'.Agrees E h' ∧
      ∀ k, (∀ i < E.pageSize, k ≠ E.cell (eepromPageBoot * E.pageSize + i)) →
        s'.eeprom.cells k = s.eeprom.cells k :=
  ⟨s', h, [], hstep, rfl, hs.of_cells hcells hpc, fun k _ => congrFun hcells k⟩

/-- A step follows the protocol and leaves the other pages alone. -/
theorem bootStep_agrees {s : BootState} {h : Handshake} (hs : s.Agrees E h) (e : BootEvent) :
    ∃ s' h' out, bootStep E s e = some (s', out) ∧ handshake.run h out = some (h', []) ∧
      s'.Agrees E h' ∧
      ∀ k, (∀ i < E.pageSize, k ≠ E.cell (eepromPageBoot * E.pageSize + i)) →
        s'.eeprom.cells k = s.eeprom.cells k := by
  obtain ⟨pc, m⟩ := s
  obtain ⟨hmark, hpc⟩ := id hs
  cases e with
  | reset buffer => exact step_silent hs rfl rfl trivial
  | request =>
    by_cases hmain : pc = .main
    · subst hmain
      exact step_silent hs rfl rfl nofun
    · have hstep : bootStep E ⟨pc, m⟩ .request = some (⟨pc, m⟩, []) := by simp [bootStep, hmain]
      exact step_silent hs hstep rfl hpc
  | hello =>
    by_cases hmain : pc = .main
    · subst hmain
      exact step_silent hs rfl rfl trivial
    · have hstep : bootStep E ⟨pc, m⟩ .hello = some (⟨pc, m⟩, []) := by simp [bootStep, hmain]
      exact step_silent hs hstep rfl hpc
  | step rest =>
    cases pc with
    | test =>
      by_cases hset : bootMark E m = 0xB0
      · have hstep : bootStep E ⟨.test, m⟩ (.step rest) = some (⟨.flush .clear, m⟩, []) := by
          simp [bootStep, hset]
        exact step_silent hs hstep rfl fun _ => hmark.1 hset
      · have hstep : bootStep E ⟨.test, m⟩ (.step rest) = some (⟨.main, m⟩, []) := by
          simp [bootStep, hset]
        exact step_silent hs hstep rfl trivial
    | flush mark => exact step_silent hs rfl rfl ⟨hpc, fun _ => rfl⟩
    | load mark =>
      obtain ⟨hclear, hflushed⟩ := hpc
      refine step_silent hs rfl (cells_load ..) ⟨hclear, ?_⟩
      exact (PagedMemory.buffer_loadPage hflushed _ 0).trans (if_pos E.pageSize_pos)
    | write mark =>
      obtain ⟨hclear, hbuffer⟩ := hpc
      have hwritten := bootMark_write (E := E) hbuffer
      cases mark with
      | request =>
        exact ⟨_, .requested, _, rfl, by cases h <;> rfl, ⟨iff_of_true hwritten rfl, trivial⟩,
          fun k hk => cells_write hk⟩
      | clear =>
        obtain rfl := hclear rfl
        refine ⟨_, .cleared, _, rfl, rfl, ⟨iff_of_false ?_ nofun, rfl⟩, fun k hk => cells_write hk⟩
        exact fun hset => absurd (hwritten.symm.trans hset) (by decide)
    | jump =>
      obtain rfl : h = .cleared := hpc
      have hunset : bootMark E m ≠ 0xB0 := fun hset => nomatch hmark.1 hset
      exact ⟨_, .none, _, rfl, rfl, ⟨iff_of_false hunset nofun, trivial⟩, fun _ _ => rfl⟩
    | main | bootloader => exact step_silent hs rfl rfl hpc

/-- How many entries are still to come without a further request. -/
def Handshake.credit : Handshake → ℕ
  | .none => 0
  | _ => 1

/-- Each entry is paid for by a request. -/
theorem count_entered_le {h h' : Handshake} {out : List BootOutput}
    (hrun : handshake.run h out = some (h', [])) :
    out.count .entered + h'.credit ≤ out.count (.written .request) + h.credit := by
  induction out generalizing h with
  | nil =>
    obtain ⟨rfl, -⟩ := Prod.mk.inj (Option.some.inj hrun)
    exact Nat.le_refl _
  | cons o out ih =>
    obtain ⟨h₁, o₁, o₂, hstep, hrest, ho⟩ := handshake.run_cons_eq_some_iff.1 hrun
    obtain ⟨-, rfl⟩ := List.append_eq_nil_iff.1 ho.symm
    have hle := ih hrest
    cases o with
    | written mark =>
      cases mark with
      | request =>
        have hcredit : h₁.credit ≤ 1 := by cases h₁ <;> decide
        rw [List.count_cons_of_ne (by decide), List.count_cons_self]
        omega
      | clear =>
        rw [List.count_cons_of_ne (by decide), List.count_cons_of_ne (by decide)]
        cases h with
        | requested =>
          obtain ⟨rfl, -⟩ := Prod.mk.inj (Option.some.inj hstep)
          exact hle
        | none | cleared => exact nomatch hstep
    | entered =>
      rw [List.count_cons_self, List.count_cons_of_ne (by decide)]
      cases h with
      | cleared =>
        obtain ⟨rfl, -⟩ := Prod.mk.inj (Option.some.inj hstep)
        have hle : out.count .entered + h'.credit ≤ out.count (.written .request) + 0 := hle
        show _ ≤ _ + 1
        omega
      | none | requested => exact nomatch hstep

/-- From any contents of the EEPROM on, for every order of steps, requests, flushes and resets: what
is written and entered follows the protocol, a set mark means that a request is pending, the
bootloader is entered at most once for each request that is written, and no other page changes. -/
theorem bootloader_by_request (E : Eeprom) (m : PagedMemory UInt8) (es : List BootEvent) :
    ∃ s h out, (bootStep E).run ⟨.test, m⟩ es = some (s, out) ∧
      handshake.run (.found E m) out = some (h, []) ∧
      (bootMark E s.eeprom = 0xB0 ↔ h = .requested) ∧
      out.count .entered ≤
        out.count (.written .request) + (if bootMark E m = 0xB0 then 1 else 0) ∧
      ∀ k, (∀ i < E.pageSize, k ≠ E.cell (eepromPageBoot * E.pageSize + i)) →
        s.eeprom.cells k = m.cells k := by
  have hstart : BootState.Agrees E ⟨.test, m⟩ (.found E m) := by
    refine ⟨?_, trivial⟩
    unfold Handshake.found
    split_ifs with hset
    · exact iff_of_true hset rfl
    · exact iff_of_false hset nofun
  have hnone (out : List BootOutput) : out.flatMap (fun _ => ([] : List Empty)) = [] :=
    List.flatMap_eq_nil_iff.2 fun _ _ => rfl
  obtain ⟨s, h, out, hrun, hprotocol, hs, hcells⟩ := (bootStep E).run_follow handshake
    (fun o => [o]) (fun _ => [])
    (R := fun s h => s.Agrees E h ∧
      ∀ k, (∀ i < E.pageSize, k ≠ E.cell (eepromPageBoot * E.pageSize + i)) →
        s.eeprom.cells k = m.cells k) (fun s h e hs => by
      obtain ⟨s', h', out, hstep, hprotocol, hs', hcells⟩ := bootStep_agrees hs.1 e
      refine ⟨s', h', out, hstep, ?_, hs', fun k hk => (hcells k hk).trans (hs.2 k hk)⟩
      rw [List.flatMap_singleton', hnone]
      exact hprotocol)
    es ⟨.test, m⟩ (.found E m) ⟨hstart, fun _ _ => rfl⟩
  rw [List.flatMap_singleton', hnone] at hprotocol
  refine ⟨s, h, out, hrun, hprotocol, hs.mark, ?_, hcells⟩
  have hcredit : (Handshake.found E m).credit = if bootMark E m = 0xB0 then 1 else 0 := by
    unfold Handshake.found
    split_ifs <;> rfl
  have hle := count_entered_le hprotocol
  rw [hcredit] at hle
  omega

/-! ## What becomes of a request -/

def BootEvent.isReset : BootEvent → Bool
  | .reset _ => true
  | .step _ | .request | .hello => false

def BootEvent.isStep : BootEvent → Bool
  | .step _ => true
  | .reset _ | .request | .hello => false

/-- The program is behind the test at its start, and may write the mark of a request. -/
def BootPc.Serves (pc : BootPc) : Prop :=
  pc = .main ∨ pc = .flush .request ∨ pc = .load .request ∨ pc = .write .request

/-- Where a start that has found the mark is after `n` steps. -/
def startPc : ℕ → BootPc
  | 0 => .test
  | 1 => .flush .clear
  | 2 => .load .clear
  | 3 => .write .clear
  | 4 => .jump
  | _ + 5 => .bootloader

/-- What it has done by then. -/
def startOutputs (n : ℕ) : List BootOutput :=
  if n < 4 then [] else if n = 4 then [.written .clear] else [.written .clear, .entered]

def startHandshake (n : ℕ) : Handshake :=
  if n < 4 then .requested else if n = 4 then .cleared else .none

theorem BootState.Agrees.next {s s' : BootState} {h h' : Handshake} (hs : s.Agrees E h)
    {e : BootEvent} {out : List BootOutput} (hstep : bootStep E s e = some (s', out))
    (hrun : handshake.run h out = some (h', [])) : s'.Agrees E h' := by
  obtain ⟨s₁, h₁, out₁, hstep₁, hrun₁, hs₁, -⟩ := bootStep_agrees hs e
  obtain ⟨rfl, rfl⟩ := Prod.mk.inj (Option.some.inj (hstep₁.symm.trans hstep))
  obtain ⟨rfl, -⟩ := Prod.mk.inj (Option.some.inj (hrun₁.symm.trans hrun))
  exact hs₁

/-- In the rest of `main` only the mark of a request is written. -/
theorem step_serves {s : BootState} (hs : s.Agrees E .requested) (hpc : s.pc.Serves) {e : BootEvent}
    (he : e.isReset = false) :
    ∃ s' k, bootStep E s e = some (s', List.replicate k (.written .request)) ∧
      s'.Agrees E .requested ∧ s'.pc.Serves := by
  obtain ⟨pc, m⟩ := s
  -- a step that writes nothing
  have hsilent {s' : BootState} (hstep : bootStep E ⟨pc, m⟩ e = some (s', []))
      (hpc' : s'.pc.Serves) : ∃ s' k, bootStep E ⟨pc, m⟩ e =
        some (s', List.replicate k (.written .request)) ∧ s'.Agrees E .requested ∧ s'.pc.Serves :=
    ⟨s', 0, hstep, hs.next hstep rfl, hpc'⟩
  cases e with
  | reset buffer => cases he
  | step rest =>
    obtain rfl | rfl | rfl | rfl : pc = .main ∨ pc = .flush .request ∨ pc = .load .request ∨
      pc = .write .request := hpc
    · exact hsilent rfl (.inl rfl)
    · exact hsilent rfl (.inr (.inr (.inl rfl)))
    · exact hsilent rfl (.inr (.inr (.inr rfl)))
    · exact ⟨_, 1, rfl, hs.next (e := .step rest) rfl rfl, .inl rfl⟩
  | request =>
    by_cases hmain : pc = .main
    · have hstep : bootStep E ⟨pc, m⟩ .request = some (⟨.flush .request, m⟩, []) := by
        simp [bootStep, hmain]
      exact hsilent hstep (.inr (.inl rfl))
    · have hstep : bootStep E ⟨pc, m⟩ .request = some (⟨pc, m⟩, []) := by simp [bootStep, hmain]
      exact hsilent hstep hpc
  | hello =>
    by_cases hmain : pc = .main
    · have hstep : bootStep E ⟨pc, m⟩ .hello =
          some (⟨pc, Eeprom.nvmEepromFlushBuffer m⟩, []) := by
        simp [bootStep, hmain]
      exact hsilent hstep hpc
    · have hstep : bootStep E ⟨pc, m⟩ .hello = some (⟨pc, m⟩, []) := by simp [bootStep, hmain]
      exact hsilent hstep hpc

/-- A pending request outlasts whatever the rest of `main` does, further requests included. -/
theorem run_waits {waits : List BootEvent} (hwaits : ∀ e ∈ waits, e.isReset = false) :
    ∀ {s : BootState}, s.Agrees E .requested → s.pc.Serves →
      ∃ s' k, (bootStep E).run s waits = some (s', List.replicate k (.written .request)) ∧
        s'.Agrees E .requested := by
  induction waits with
  | nil => exact fun {s} hs _ => ⟨s, 0, rfl, hs⟩
  | cons e waits ih =>
    intro s hs hpc
    obtain ⟨s₁, k₁, hstep, hs₁, hpc₁⟩ := step_serves hs hpc (hwaits e List.mem_cons_self)
    obtain ⟨s₂, k₂, hrun, hs₂⟩ := ih (fun e he => hwaits e (List.mem_cons_of_mem _ he)) hs₁ hpc₁
    exact ⟨s₂, k₁ + k₂, List.replicate_add .. ▸ (bootStep E).run_cons hstep hrun, hs₂⟩

/-- One event of a start that has found the mark. -/
theorem step_start {n : ℕ} {m : PagedMemory UInt8}
    (hs : BootState.Agrees E ⟨startPc n, m⟩ (startHandshake n)) {e : BootEvent}
    (he : e.isReset = false) :
    ∃ m' out, bootStep E ⟨startPc n, m⟩ e =
        some (⟨startPc (n + if e.isStep then 1 else 0), m'⟩, out) ∧
      startOutputs n ++ out = startOutputs (n + if e.isStep then 1 else 0) ∧
      BootState.Agrees E ⟨startPc (n + if e.isStep then 1 else 0), m'⟩
        (startHandshake (n + if e.isStep then 1 else 0)) := by
  have hmain : startPc n ≠ .main := by
    unfold startPc
    split <;> decide
  cases e with
  | reset buffer => cases he
  | request =>
    have hstep : bootStep E ⟨startPc n, m⟩ .request = some (⟨startPc n, m⟩, []) := by
      simp [bootStep, hmain]
    exact ⟨m, [], hstep, List.append_nil _, hs⟩
  | hello =>
    have hstep : bootStep E ⟨startPc n, m⟩ .hello = some (⟨startPc n, m⟩, []) := by
      simp [bootStep, hmain]
    exact ⟨m, [], hstep, List.append_nil _, hs⟩
  | step rest =>
    obtain _ | _ | _ | _ | _ | n := n
    · have hset : bootMark E m = 0xB0 := hs.mark.2 rfl
      have hstep : bootStep E ⟨.test, m⟩ (.step rest) = some (⟨.flush .clear, m⟩, []) := by
        simp [bootStep, hset]
      exact ⟨m, [], hstep, rfl, hs.next hstep rfl⟩
    · exact ⟨_, [], rfl, rfl, hs.next (e := .step rest) rfl rfl⟩
    · exact ⟨_, [], rfl, rfl, hs.next (e := .step rest) rfl rfl⟩
    · exact ⟨_, [.written .clear], rfl, rfl, hs.next (e := .step rest) rfl rfl⟩
    · exact ⟨m, [.entered], rfl, rfl, hs.next (e := .step rest) rfl rfl⟩
    · exact ⟨m, [], rfl, List.append_nil _, hs⟩

/-- A start that finds the mark, by the number of its steps. -/
theorem run_start {es : List BootEvent} (hes : ∀ e ∈ es, e.isReset = false) :
    ∀ {n : ℕ} {m : PagedMemory UInt8},
      BootState.Agrees E ⟨startPc n, m⟩ (startHandshake n) →
      ∃ m' out, (bootStep E).run ⟨startPc n, m⟩ es =
          some (⟨startPc (n + es.countP BootEvent.isStep), m'⟩, out) ∧
        startOutputs n ++ out = startOutputs (n + es.countP BootEvent.isStep) ∧
        BootState.Agrees E ⟨startPc (n + es.countP BootEvent.isStep), m'⟩
          (startHandshake (n + es.countP BootEvent.isStep)) := by
  induction es with
  | nil => exact fun {n m} hs => ⟨m, [], rfl, List.append_nil _, hs⟩
  | cons e es ih =>
    intro n m hs
    obtain ⟨m₁, o₁, hstep, hout₁, hs₁⟩ := step_start hs (hes e List.mem_cons_self)
    obtain ⟨m₂, o₂, hrun, hout₂, hs₂⟩ := ih (fun e he => hes e (List.mem_cons_of_mem _ he)) hs₁
    have hcount : n + (if e.isStep then 1 else 0) + es.countP BootEvent.isStep =
        n + (e :: es).countP BootEvent.isStep := by
      rw [List.countP_cons]
      omega
    rw [hcount] at hrun hout₂ hs₂
    exact ⟨m₂, o₁ ++ o₂, (bootStep E).run_cons hstep hrun,
      by rw [← List.append_assoc, hout₁, hout₂], hs₂⟩

/-- A reset and the start behind it, while a request is pending. -/
theorem run_resetStart {s : BootState} (hs : s.Agrees E .requested) (buffer : ℕ → Option UInt8)
    {es : List BootEvent} (hes : ∀ e ∈ es, e.isReset = false) :
    ∃ m', (bootStep E).run s (.reset buffer :: es) =
        some (⟨startPc (es.countP BootEvent.isStep), m'⟩,
          startOutputs (es.countP BootEvent.isStep)) ∧
      BootState.Agrees E ⟨startPc (es.countP BootEvent.isStep), m'⟩
        (startHandshake (es.countP BootEvent.isStep)) := by
  have hreset : bootStep E s (.reset buffer) =
      some (⟨startPc 0, { s.eeprom with buffer := buffer }⟩, []) := rfl
  have hs₀ : BootState.Agrees E ⟨startPc 0, { s.eeprom with buffer := buffer }⟩
      (startHandshake 0) := hs.next hreset rfl
  obtain ⟨m', out, hrun, hout, hs'⟩ := run_start hes hs₀
  rw [Nat.zero_add] at hrun hout hs'
  obtain rfl : out = startOutputs (es.countP BootEvent.isStep) := hout
  exact ⟨m', (bootStep E).run_cons hreset hrun, hs'⟩

/-- Starts that are cut off before they have removed the mark. -/
theorem run_cuts {cuts : List ((ℕ → Option UInt8) × List BootEvent)}
    (hcuts : ∀ c ∈ cuts, (∀ e ∈ c.2, e.isReset = false) ∧ c.2.countP BootEvent.isStep < 4) :
    ∀ {s : BootState}, s.Agrees E .requested →
      ∃ s', (bootStep E).run s (cuts.flatMap fun c => .reset c.1 :: c.2) = some (s', []) ∧
        s'.Agrees E .requested := by
  induction cuts with
  | nil => exact fun {s} hs => ⟨s, rfl, hs⟩
  | cons c cuts ih =>
    intro s hs
    obtain ⟨hes, hlt⟩ := hcuts c List.mem_cons_self
    obtain ⟨m, hrun, hs₁⟩ := run_resetStart hs c.1 hes
    rw [startOutputs, if_pos hlt] at hrun
    rw [startHandshake, if_pos hlt] at hs₁
    obtain ⟨s₂, hrest, hs₂⟩ := ih (fun c hc => hcuts c (List.mem_cons_of_mem _ hc)) hs₁
    exact ⟨s₂, (bootStep E).run_append hrun hrest, hs₂⟩

/-- A request whose page is written, then anything but a reset, then starts that are cut off before
they have removed the mark, then a start of which it counts how far it gets: before its fourth step
the request is still pending, with the fourth the mark is gone and the next start goes on in `main`,
and only with the fifth the bootloader is entered. -/
theorem request_enters (E : Eeprom) (m : PagedMemory UInt8) (r : ℕ → ℕ → UInt8)
    {waits : List BootEvent} (hwaits : ∀ e ∈ waits, e.isReset = false)
    {cuts : List ((ℕ → Option UInt8) × List BootEvent)}
    (hcuts : ∀ c ∈ cuts, (∀ e ∈ c.2, e.isReset = false) ∧ c.2.countP BootEvent.isStep < 4)
    (buffer : ℕ → Option UInt8) {last : List BootEvent} (hlast : ∀ e ∈ last, e.isReset = false) :
    ∃ s k, (bootStep E).run ⟨.main, m⟩ (.request :: (List.range 3).map (fun i => .step (r i)) ++
        waits ++ (cuts.flatMap fun c => .reset c.1 :: c.2) ++ .reset buffer :: last) =
          some (s, List.replicate (k + 1) (.written .request) ++
            startOutputs (last.countP BootEvent.isStep)) ∧
      s.pc = startPc (last.countP BootEvent.isStep) ∧
      (bootMark E s.eeprom = 0xB0 ↔ last.countP BootEvent.isStep < 4) ∧
      (4 ≤ last.countP BootEvent.isStep → ∀ buffer rest, ∃ m',
        (bootStep E).run s [.reset buffer, .step rest] = some (⟨.main, m'⟩, [])) := by
  let loaded := E.nvmEepromLoadPageToBuffer (Eeprom.nvmEepromFlushBuffer m)
    (Function.update (r 1) 0 BootMark.request.byte)
  have hloaded : loaded.buffer 0 = some BootMark.request.byte :=
    (PagedMemory.buffer_loadPage (fun _ => rfl) _ 0).trans (if_pos E.pageSize_pos)
  let s₀ : BootState := ⟨.main, E.nvmEepromAtomicWritePage loaded eepromPageBoot⟩
  have hwrite : (bootStep E).run ⟨.main, m⟩
      (.request :: (List.range 3).map fun i => .step (r i)) =
        some (s₀, [.written .request]) := rfl
  have hs₀ : s₀.Agrees E .requested := ⟨iff_of_true (bootMark_write hloaded) rfl, trivial⟩
  obtain ⟨s₁, k, hwait, hs₁⟩ := run_waits hwaits hs₀ (.inl rfl)
  obtain ⟨s₂, hcut, hs₂⟩ := run_cuts hcuts hs₁
  obtain ⟨m₃, hstart, hs₃⟩ := run_resetStart hs₂ buffer hlast
  have hmark : bootMark E m₃ = 0xB0 ↔ last.countP BootEvent.isStep < 4 := by
    refine hs₃.mark.trans ?_
    unfold startHandshake
    split_ifs with hlt heq
    · exact iff_of_true rfl hlt
    · exact iff_of_false (by decide) hlt
    · exact iff_of_false (by decide) hlt
  refine ⟨⟨_, m₃⟩, k, ?_, rfl, hmark, fun hle buffer rest => ⟨{ m₃ with buffer := buffer }, ?_⟩⟩
  · have hall := (bootStep E).run_append ((bootStep E).run_append ((bootStep E).run_append
      hwrite hwait) hcut) hstart
    rw [List.append_nil] at hall
    exact hall
  · have hreset : bootStep E ⟨startPc (last.countP BootEvent.isStep), m₃⟩ (.reset buffer) =
        some (⟨.test, { m₃ with buffer := buffer }⟩, []) := rfl
    have hgone : ¬ bootMark E { m₃ with buffer := buffer } = 0xB0 :=
      fun hset => Nat.not_lt.2 hle (hmark.1 hset)
    have htest : bootStep E ⟨.test, { m₃ with buffer := buffer }⟩ (.step rest) =
        some (⟨.main, { m₃ with buffer := buffer }⟩, []) := by
      simp [bootStep, hgone]
    exact (bootStep E).run_cons hreset ((bootStep E).run_singleton htest)

/-- Pages of 32 bytes, and a cell for each address. -/
def plainEeprom : Eeprom where
  pageSize := 32
  pageSize_pos := by decide
  pageSize_lt := by decide
  cell := id
  cell_inj _ _ _ _ h := Nat.add_left_cancel h

theorem request_enters_plainEeprom :
    ∃ s k, (bootStep plainEeprom).run ⟨.main, ⟨fun _ => 0xFF, fun _ => none⟩⟩
        (.request :: (List.range 3).map (fun _ => .step fun _ => 0) ++
          [.hello, .request, .step fun _ => 1] ++
          ([(fun _ => some 0, [.step fun _ => 0, .step fun _ => 0])].flatMap fun c =>
            .reset c.1 :: c.2) ++
          .reset (fun _ => none) :: List.replicate 5 (.step fun _ => 0)) =
        some (s, List.replicate (k + 1) (.written .request) ++ [.written .clear, .entered]) ∧
      s.pc = .bootloader ∧ bootMark plainEeprom s.eeprom ≠ 0xB0 ∧
      ∃ m', (bootStep plainEeprom).run s [.reset fun _ => none, .step fun _ => 0] =
        some (⟨.main, m'⟩, []) := by
  obtain ⟨s, k, hrun, hpc, hmark, hnext⟩ := @request_enters plainEeprom
    ⟨fun _ => 0xFF, fun _ => none⟩ (fun _ _ => 0) [.hello, .request, .step fun _ => 1] (by simp [BootEvent.isReset])
    [(fun _ => some 0, [.step fun _ => 0, .step fun _ => 0])]
    (by simp [BootEvent.isReset, List.countP_cons, BootEvent.isStep]) (fun _ => none)
    (List.replicate 5 (.step fun _ => 0)) (by simp [BootEvent.isReset])
  exact ⟨s, k, hrun, hpc, fun hset => absurd (hmark.1 hset) (by decide),
    hnext (by decide) (fun _ => none) fun _ => 0⟩

end PowerMeterDisplay
