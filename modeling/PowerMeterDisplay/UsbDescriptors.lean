import PowerMeterDisplay.Lib.RecordChain

/-!
# Requests and descriptors of the USB device

The SETUP packet as `udd_g_ctrlreq.req` holds it, the descriptors that the device sends, and the two
walks of `udc.c` over the configuration descriptor.  The descriptor is a chain of records, so that
the walks are searches in the list of them (`udcFindIface_udcDesc`, `udcNextDesc_udcDesc`).
-/

namespace PowerMeterDisplay

/-! ## Requests -/

abbrev usbReqGetStatus : UInt8 := 0
abbrev usbReqClearFeature : UInt8 := 1
abbrev usbReqSetFeature : UInt8 := 3
abbrev usbReqSetAddress : UInt8 := 5
abbrev usbReqGetDescriptor : UInt8 := 6
abbrev usbReqGetConfiguration : UInt8 := 8
abbrev usbReqSetConfiguration : UInt8 := 9
abbrev usbReqGetInterface : UInt8 := 10
abbrev usbReqSetInterface : UInt8 := 11
abbrev usbReqHidGetIdle : UInt8 := 0x02
abbrev usbReqHidGetProtocol : UInt8 := 0x03
abbrev usbReqHidSetReport : UInt8 := 0x09
abbrev usbReqHidSetIdle : UInt8 := 0x0A
abbrev usbReqHidSetProtocol : UInt8 := 0x0B

abbrev usbReqTypeStandard : UInt8 := 0x00
abbrev usbReqTypeClass : UInt8 := 0x20

abbrev usbReqRecipDevice : UInt8 := 0
abbrev usbReqRecipInterface : UInt8 := 1
abbrev usbReqRecipEndpoint : UInt8 := 2

abbrev usbDtDevice : UInt8 := 1
abbrev usbDtConfiguration : UInt8 := 2
abbrev usbDtString : UInt8 := 3
abbrev usbDtInterface : UInt8 := 4
abbrev usbDtEndpoint : UInt8 := 5
abbrev usbDtHid : UInt8 := 0x21
abbrev usbDtHidReport : UInt8 := 0x22

abbrev usbDevFeatureRemoteWakeup : UInt16 := 1
abbrev usbEpFeatureHalt : UInt16 := 0
abbrev usbHidReportTypeFeature : UInt16 := 3

def le16 (x : UInt16) : List UInt8 := [x.toUInt8, (x >>> 8).toUInt8]

def ofLe16 (lo hi : UInt8) : UInt16 := hi.toUInt16 <<< 8 ||| lo.toUInt16

/-- `usb_setup_req_t`. -/
structure UsbSetupReq where
  bmRequestType : UInt8
  bRequest : UInt8
  wValue : UInt16
  wIndex : UInt16
  wLength : UInt16
  deriving DecidableEq, Repr

namespace UsbSetupReq

def ofBytes (b : Vector UInt8 8) : UsbSetupReq where
  bmRequestType := b[0]
  bRequest := b[1]
  wValue := ofLe16 b[2] b[3]
  wIndex := ofLe16 b[4] b[5]
  wLength := ofLe16 b[6] b[7]

/-- `Udd_setup_is_in`; `Udd_setup_is_out` is its negation. -/
def isIn (r : UsbSetupReq) : Bool := r.bmRequestType &&& 0x80 = 0x80

/-- `Udd_setup_type`. -/
def type (r : UsbSetupReq) : UInt8 := r.bmRequestType &&& 0x60

/-- `Udd_setup_recipient`. -/
def recipient (r : UsbSetupReq) : UInt8 := r.bmRequestType &&& 0x1F

end UsbSetupReq

/-! ## Descriptors -/

abbrev usbDeviceEpCtrlSize : UInt16 := 8
abbrev udiHidGenericEpIn : UInt8 := 0x81
abbrev udiHidGenericEpOut : UInt8 := 0x02
abbrev udiHidGenericEpSize : UInt16 := 64
abbrev udiHidReportInSize : UInt16 := 64
abbrev udiHidReportOutSize : UInt16 := 64
abbrev udiHidReportFeatureSize : UInt16 := 4

def udcDeviceDesc : List UInt8 :=
  [18, usbDtDevice] ++ le16 0x0200 ++ [0, 0, 0, 8] ++ le16 0x03EB ++ le16 0x2402 ++ le16 0x0100 ++
    [1, 2, 0, 1]

/-- The five parts of `udc_desc`, in their order. -/
def udcConfDesc : Record where
  bytes := [9, usbDtConfiguration] ++ le16 41 ++ [1, 1, 0, 0x80, 250]
  head_eq := rfl

def udiIfaceDesc : Record where
  bytes := [9, usbDtInterface, 0, 0, 2, 0x03, 0, 0, 0]
  head_eq := rfl

def udiHidDesc : Record where
  bytes := [9, usbDtHid] ++ le16 0x0111 ++ [0, 1, usbDtHidReport] ++ le16 53
  head_eq := rfl

def udiEpInDesc : Record where
  bytes := [7, usbDtEndpoint, udiHidGenericEpIn, 0x03] ++ le16 udiHidGenericEpSize ++ [4]
  head_eq := rfl

def udiEpOutDesc : Record where
  bytes := [7, usbDtEndpoint, udiHidGenericEpOut, 0x03] ++ le16 udiHidGenericEpSize ++ [4]
  head_eq := rfl

def udcRecords : List Record := [udcConfDesc, udiIfaceDesc, udiHidDesc, udiEpInDesc, udiEpOutDesc]

def udcDesc : List UInt8 := Record.chain udcRecords

def udiHidGenericReportDesc : List UInt8 :=
  [0x06, 0xFF, 0xFF, 0x09, 0x01, 0xA1, 0x01,
    -- the IN report
    0x09, 0x02, 0x09, 0x03, 0x15, 0x00, 0x26, 0xFF, 0x00, 0x75, 0x08, 0x95, 64, 0x81, 0x02,
    -- the OUT report
    0x09, 0x04, 0x09, 0x05, 0x15, 0x00, 0x26, 0xFF, 0x00, 0x75, 0x08, 0x95, 64, 0x91, 0x02,
    -- the feature report
    0x09, 0x06, 0x09, 0x07, 0x15, 0x00, 0x26, 0xFF, 0x00, 0x75, 0x08, 0x95, 4, 0xB1, 0x02,
    0xC0]

def udcStringDescLanguageid : List UInt8 := [4, usbDtString] ++ le16 0x0409

def udcStringManufacturerName : List UInt8 := "S Foerster".toList.map fun c => c.toNat.toUInt8

def udcStringProductName : List UInt8 :=
  "PowerMeter EADOG Display".toList.map fun c => c.toNat.toUInt8

/-! ## Walks over the configuration descriptor -/

/-- `udc_get_eof_conf`: the field `wTotalLength`. -/
def udcGetEofConf (desc : List UInt8) : Option ℕ :=
  desc[2]?.bind fun lo => desc[3]?.map fun hi => (ofLe16 lo hi).toNat

/-- Whether `udc_next_desc_in_iface` ends at a record, and whether with success. -/
def udcIsDesc (descId : UInt8) (type : UInt8) : Option Bool :=
  if type = usbDtInterface then some false
  else if type = descId then some true
  else none

/-- `udc_next_desc_in_iface`: the place of the next descriptor of a kind, if any. -/
def udcNextDescInIface (desc : List UInt8) (pos : ℕ) (descId : UInt8) : Option (Option ℕ) := do
  let eof ← udcGetEofConf desc
  let len ← desc[pos]?
  let found ← Record.walk desc eof (fun pos => desc[pos + 1]?.map (udcIsDesc descId))
    (desc.length + 1) (pos + len.toNat)
  return if found.1 = some true then some found.2 else none

/-- Whether the loop of `udc_update_iface_desc` ends at a record. -/
def udcIsIface (iface setting : UInt8) (desc : List UInt8) (pos : ℕ) : Option (Option Unit) := do
  if (← desc[pos + 1]?) = usbDtInterface then
    if iface = (← desc[pos + 2]?) ∧ setting = (← desc[pos + 3]?) then return some ()
  return none

/-- The loop of `udc_update_iface_desc`: whether it ends with success, and where. -/
def udcFindIface (desc : List UInt8) (iface setting : UInt8) : Option (Bool × ℕ) := do
  let eof ← udcGetEofConf desc
  let found ← Record.walk desc eof (udcIsIface iface setting desc) (desc.length + 1) 0
  return (found.1.isSome, found.2)

theorem length_udcDesc : udcDesc.length = 41 := rfl

theorem udcGetEofConf_udcDesc : udcGetEofConf udcDesc = some udcDesc.length := rfl

theorem two_le_of_mem {r : Record} (h : r ∈ udcRecords) : 2 ≤ r.bytes.length := by
  revert r
  decide

/-- What a walk over the descriptor reads in one of its records. -/
theorem getElem?_udcDesc {pre post : List Record} {r : Record} (h : pre ++ r :: post = udcRecords)
    {k : ℕ} (hk : k < r.bytes.length) : udcDesc[(Record.chain pre).length + k]? = r.bytes[k]? := by
  rw [udcDesc, ← h]
  exact Record.getElem?_chain pre post r hk

/-- What `udc_update_iface_desc` makes of a record. -/
def isIface (iface setting : UInt8) (r : Record) : Option Unit :=
  if r.bytes[1]? = some usbDtInterface ∧ r.bytes[2]? = some iface ∧ r.bytes[3]? = some setting then
    some () else none

theorem udcIsIface_udcDesc (iface setting : UInt8) {pre post : List Record} {r : Record}
    (h : pre ++ r :: post = udcRecords) :
    udcIsIface iface setting udcDesc (Record.chain pre).length =
      some (isIface iface setting r) := by
  have hmem : r ∈ udcRecords := h ▸ by simp
  have hread {k : ℕ} (hk : k < r.bytes.length) := getElem?_udcDesc h hk
  have htwo := two_le_of_mem hmem
  rw [udcIsIface, hread (k := 1) (by omega)]
  simp only [udcRecords, List.mem_cons, List.not_mem_nil, or_false] at hmem
  rcases hmem with rfl | rfl | rfl | rfl | rfl
  · rfl
  · rw [hread (k := 2) (by decide), hread (k := 3) (by decide)]
    simp only [isIface, udiIfaceDesc, List.getElem?_cons_succ, List.getElem?_cons_zero,
      Option.bind_eq_bind, Option.bind_some, Option.pure_def, true_and, Option.some.injEq,
      @eq_comm _ iface, @eq_comm _ setting]
    exact (apply_ite some _ _ _).symm
  · rfl
  · rfl
  · rfl

/-- The one interface is found with its one setting, else the walk runs to the end. -/
theorem udcFindIface_udcDesc (iface setting : UInt8) :
    udcFindIface udcDesc iface setting =
      some (if iface = 0 ∧ setting = 0 then (true, 9) else (false, 41)) := by
  have hwalk : Record.walk udcDesc udcDesc.length (udcIsIface iface setting udcDesc)
      (udcDesc.length + 1) 0 = some (Record.settled (isIface iface setting) [] udcRecords) :=
    Record.walk_chain udcRecords [] _ rfl
      (fun pre r post h => udcIsIface_udcDesc iface setting h) (by decide)
  rw [udcFindIface, udcGetEofConf_udcDesc]
  simp only [Option.bind_eq_bind, Option.bind_some]
  rw [hwalk]
  by_cases h0 : iface = 0 ∧ setting = 0
  · obtain ⟨rfl, rfl⟩ := h0
    rfl
  · have hiface : isIface iface setting udiIfaceDesc = none := by
      refine if_neg fun h => h0 ⟨?_, ?_⟩
      · exact (Option.some.inj h.2.1).symm
      · exact (Option.some.inj h.2.2).symm
    rw [if_neg h0]
    simp only [Record.settled, udcRecords, List.findSome?_cons, List.findSome?_nil,
      List.takeWhile_cons, hiface]
    rfl

/-- What `udc_next_desc_in_iface` makes of a record. -/
def isDesc (descId : UInt8) (r : Record) : Option Bool := r.bytes[1]?.bind (udcIsDesc descId)

/-- The search from behind a record on is a search in the rest of the list. -/
theorem udcNextDescInIface_udcDesc (descId : UInt8) {pre rs : List Record} {r : Record}
    (h : pre ++ r :: rs = udcRecords) :
    udcNextDescInIface udcDesc (Record.chain pre).length descId =
      some (if rs.findSome? (isDesc descId) = some true then
        some (Record.settled (isDesc descId) (pre ++ [r]) rs).2 else none) := by
  have hlen := getElem?_udcDesc h r.length_pos
  have hhead : r.bytes[0]?.map UInt8.toNat = some r.bytes.length := by
    rw [← List.head?_eq_getElem?, r.head_eq]
  obtain ⟨len, hlen', hnat⟩ := Option.map_eq_some_iff.1 hhead
  have hwalk := Record.walk_chain rs (q := isDesc descId)
    (p := fun pos => udcDesc[pos + 1]?.map (udcIsDesc descId)) (pre ++ [r]) (udcDesc.length + 1)
    (show udcDesc = _ by rw [udcDesc, ← h, List.append_assoc]; rfl)
    (fun pre' r' post h' => by
      have hrec : pre' ++ r' :: post = udcRecords := by rw [h', ← h, List.append_assoc]; rfl
      have htwo : 2 ≤ r'.bytes.length := two_le_of_mem (hrec ▸ by simp)
      rw [getElem?_udcDesc hrec (by omega), isDesc, List.getElem?_eq_getElem (by omega)]
      rfl)
    (by rw [length_udcDesc]; have := congrArg List.length h; simp [udcRecords] at this; omega)
  rw [udcNextDescInIface, udcGetEofConf_udcDesc]
  rw [Nat.add_zero, hlen'] at hlen
  simp only [Option.bind_eq_bind, Option.bind_some, hlen, hnat]
  rw [Record.chain_append, List.length_append] at hwalk
  simp only [Record.chain_cons, Record.chain_nil, List.append_nil] at hwalk
  rw [hwalk]
  simp [Record.settled]

/-- The endpoints that the interface describes, one behind the other. -/
theorem udcNextDescInIface_endpoint :
    udcNextDescInIface udcDesc 9 usbDtEndpoint = some (some 27) ∧
      udcNextDescInIface udcDesc 27 usbDtEndpoint = some (some 34) ∧
      udcNextDescInIface udcDesc 34 usbDtEndpoint = some none := by
  refine ⟨?_, ?_, ?_⟩
  · exact udcNextDescInIface_udcDesc _
      (rfl : [udcConfDesc] ++ udiIfaceDesc :: [udiHidDesc, udiEpInDesc, udiEpOutDesc] = _)
  · exact udcNextDescInIface_udcDesc _
      (rfl : [udcConfDesc, udiIfaceDesc, udiHidDesc] ++ udiEpInDesc :: [udiEpOutDesc] = _)
  · exact udcNextDescInIface_udcDesc _
      (rfl : [udcConfDesc, udiIfaceDesc, udiHidDesc, udiEpInDesc] ++ udiEpOutDesc :: [] = _)

end PowerMeterDisplay
