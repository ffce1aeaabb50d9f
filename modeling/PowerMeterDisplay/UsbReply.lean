import PowerMeterDisplay.UsbCommands

/-!
# Replies on the control endpoint

`udd_ctrl_in_sent` gives the endpoint one packet of the reply after the other.  What it still has to
give is the transfer of the rest of the reply, cut into packets (`Remains`), and when nothing is
left it waits for the host to end the request.
-/

namespace PowerMeterDisplay

namespace Usb

/-- What is left of a reply when `n` of its bytes have been given to the endpoint: `short` is set
once a packet was not full, and `prev` once the end of the reply has been seen. -/
inductive Remains (w n prev : UInt16) (short : Bool) (bytes : List UInt8)
    (packets : List (List UInt8)) : Prop where
  | more (lt : n.toNat < bytes.length) (prev_eq : prev = 0)
    (packets_eq : packets = Transfer.packets 8 (w.toNat - n.toNat) (bytes.drop n.toNat))
  | full (eq : n.toNat = bytes.length) (short_eq : short = false) (prev_eq : prev = 0)
    (packets_eq : packets = Transfer.packets 8 (w.toNat - n.toNat) [])
  | short (eq : n.toNat = bytes.length) (short_eq : short = true) (packets_eq : packets = [])

variable {s : Usb} {bytes p : List UInt8} {packets rest : List (List UInt8)}

theorem Remains.le {w n prev : UInt16} {short : Bool} (h : Remains w n prev short bytes packets) :
    n.toNat ≤ bytes.length := by
  rcases h with ⟨hlt, -, -⟩ | ⟨heq, -, -, -⟩ | ⟨heq, -, -⟩
  · exact Nat.le_of_lt hlt
  · exact Nat.le_of_eq heq
  · exact Nat.le_of_eq heq

/-- What is left of the reply to the request under way. -/
def RemainsOf (s : Usb) (bytes : List UInt8) (packets : List (List UInt8)) : Prop :=
  Remains s.ctrlreq.req.wLength s.payloadNbTrans s.prevPayloadNbTrans s.bShortpacket bytes packets

/-- A packet has been given to the endpoint. -/
def loadPacket (nb prev : UInt16) (short : Bool) (s : Usb) : Usb :=
  { s with
    epCtrl := Function.update s.epCtrl 1 { s.epCtrl 1 with
      cnt := nb
      dataptr := ⟨s.ctrlreq.payload.object, s.ctrlreq.payload.offset + s.payloadNbTrans.toNat⟩
      nack0 := false }
    prevPayloadNbTrans := prev
    bShortpacket := short
    payloadNbTrans := s.payloadNbTrans + nb }

/-- Bytes are left to give: a full packet of them, or all. -/
theorem uddCtrlInSent_more (hstate : s.controlState ≠ .handshakeWaitInZlp)
    (hmore : s.ctrlreq.payloadSize - s.payloadNbTrans ≠ 0) :
    s.uddCtrlInSent =
      if 8 ≤ s.ctrlreq.payloadSize - s.payloadNbTrans then s.loadPacket 8 s.prevPayloadNbTrans false
      else s.loadPacket (s.ctrlreq.payloadSize - s.payloadNbTrans) s.prevPayloadNbTrans true := by
  rw [uddCtrlInSent, if_neg hstate]
  simp only [hmore, if_false, false_and]
  by_cases hfull : usbDeviceEpCtrlSize ≤ s.ctrlreq.payloadSize - s.payloadNbTrans
  · simp only [if_pos hfull, decide_eq_false (not_not.2 hfull)]
    rfl
  · simp only [if_neg hfull, decide_eq_true hfull]
    rfl

/-- Nothing is left to give. -/
theorem uddCtrlInSent_none (hstate : s.controlState ≠ .handshakeWaitInZlp)
    (hnone : s.ctrlreq.payloadSize - s.payloadNbTrans = 0) :
    s.uddCtrlInSent =
      if s.ctrlreq.req.wLength = s.prevPayloadNbTrans + s.payloadNbTrans ∨ s.bShortpacket then
        uddCtrlSendZlpOut { s with
          prevPayloadNbTrans := s.prevPayloadNbTrans + s.payloadNbTrans }
      else s.loadPacket 0 (s.prevPayloadNbTrans + s.payloadNbTrans) true := by
  rw [uddCtrlInSent, if_neg hstate]
  simp only [hnone, if_true, true_and]
  rfl

theorem toNat_remain (hcarries : s.Carries bytes) (hle : s.payloadNbTrans.toNat ≤ bytes.length) :
    (s.ctrlreq.payloadSize - s.payloadNbTrans).toNat = bytes.length - s.payloadNbTrans.toNat := by
  rw [hcarries.length_eq] at hle ⊢
  exact UInt16.toNat_sub_of_le _ _ (UInt16.le_iff_toNat_le.2 hle)

theorem remain_eq_zero_iff (hcarries : s.Carries bytes)
    (hle : s.payloadNbTrans.toNat ≤ bytes.length) :
    s.ctrlreq.payloadSize - s.payloadNbTrans = 0 ↔ s.payloadNbTrans.toNat = bytes.length := by
  rw [← UInt16.toNat_inj, toNat_remain hcarries hle]
  show _ = 0 ↔ _
  omega

/-- With nothing left to send, the host is to end the request. -/
theorem uddCtrlInSent_end (hstate : s.controlState ≠ .handshakeWaitInZlp)
    (hcarries : s.Carries bytes) (hw : bytes.length ≤ s.ctrlreq.req.wLength.toNat)
    (hr : s.RemainsOf bytes []) :
    ∃ prev, s.uddCtrlInSent = uddCtrlSendZlpOut { s with prevPayloadNbTrans := prev } := by
  rcases hr with ⟨hlt, -, hpackets⟩ | ⟨heq, hshort, hprev, hpackets⟩ | ⟨heq, hshort, -⟩
  · rw [Transfer.packets, if_neg (by omega)] at hpackets
    split at hpackets <;> cases hpackets
  · have hall : s.ctrlreq.req.wLength = s.prevPayloadNbTrans + s.payloadNbTrans := by
      rw [hprev, UInt16.zero_add, ← UInt16.toNat_inj]
      by_contra hne
      rw [Transfer.packets, if_neg (by omega)] at hpackets
      split at hpackets <;> cases hpackets
    rw [uddCtrlInSent_none hstate ((remain_eq_zero_iff hcarries (by omega)).2 heq),
      if_pos (.inl hall)]
    exact ⟨_, rfl⟩
  · rw [uddCtrlInSent_none hstate ((remain_eq_zero_iff hcarries (by omega)).2 heq),
      if_pos (.inr hshort)]
    exact ⟨_, rfl⟩

/-- What the endpoint reads of a reply. -/
theorem read_reply (hcarries : s.Carries bytes) {k n : ℕ} (hle : k + n ≤ bytes.length) :
    s.read ⟨s.ctrlreq.payload.object, s.ctrlreq.payload.offset + k⟩ n =
      some ((bytes.drop k).take n) := by
  have hlen := hcarries.length_eq
  have hbound := hcarries.bound
  rw [read_eq_some (.inr (show _ + k + n ≤ s.ctrlreq.payload.object.size by omega)),
    ← hcarries.bytes_eq, List.drop_take, List.take_take, List.drop_drop]
  congr 2
  omega

/-- The next packet is given to the endpoint, and what is left then. -/
def Gives (s : Usb) (bytes p : List UInt8) (rest : List (List UInt8)) : Prop :=
  ∃ nb prev short, s.uddCtrlInSent = s.loadPacket nb prev short ∧ nb ≤ 8 ∧
    (s.loadPacket nb prev short).RemainsOf bytes rest ∧
    s.read ⟨s.ctrlreq.payload.object, s.ctrlreq.payload.offset + s.payloadNbTrans.toNat⟩
      nb.toNat = some p

theorem toNat_given (hcarries : s.Carries bytes) {nb : UInt16}
    (hle : s.payloadNbTrans.toNat + nb.toNat ≤ bytes.length) :
    (s.payloadNbTrans + nb).toNat = s.payloadNbTrans.toNat + nb.toNat := by
  have hsize : bytes.length < 65536 := by
    rw [hcarries.length_eq]
    exact UInt16.toNat_lt _
  rw [UInt16.toNat_add]
  exact Nat.mod_eq_of_lt (by omega)

/-- A full packet: the reply may end with it. -/
theorem gives_full (hstate : s.controlState ≠ .handshakeWaitInZlp) (hcarries : s.Carries bytes)
    (hw : bytes.length ≤ s.ctrlreq.req.wLength.toNat) (hprev : s.prevPayloadNbTrans = 0)
    (hfull : 8 ≤ s.ctrlreq.payloadSize - s.payloadNbTrans)
    (hle : s.payloadNbTrans.toNat + 8 ≤ bytes.length)
    (hpackets : p :: rest = Transfer.packets 8
      (s.ctrlreq.req.wLength.toNat - s.payloadNbTrans.toNat)
      (bytes.drop s.payloadNbTrans.toNat)) : s.Gives bytes p rest := by
  have hdrop : (bytes.drop s.payloadNbTrans.toNat).length =
    bytes.length - s.payloadNbTrans.toNat := List.length_drop
  have hmore : s.ctrlreq.payloadSize - s.payloadNbTrans ≠ 0 := fun h => by
    have hend := (remain_eq_zero_iff hcarries (by omega)).1 h
    omega
  have hgiven : (s.payloadNbTrans + 8).toNat = s.payloadNbTrans.toNat + 8 :=
    toNat_given hcarries hle
  rw [Transfer.packets_full (by decide) (by omega) (by omega)] at hpackets
  obtain ⟨rfl, rfl⟩ := List.cons.inj hpackets
  refine ⟨8, s.prevPayloadNbTrans, false, ?_, UInt16.le_refl _, ?_, read_reply hcarries hle⟩
  · rw [uddCtrlInSent_more hstate hmore, if_pos hfull]
  have hrest : Transfer.packets 8 (s.ctrlreq.req.wLength.toNat - s.payloadNbTrans.toNat - 8)
      ((bytes.drop s.payloadNbTrans.toNat).drop 8) =
      Transfer.packets 8 (s.ctrlreq.req.wLength.toNat - (s.payloadNbTrans + 8).toNat)
        (bytes.drop (s.payloadNbTrans + 8).toNat) := by
    rw [hgiven, List.drop_drop, Nat.sub_sub]
  by_cases hend : s.payloadNbTrans.toNat + 8 < bytes.length
  · exact .more (lt_of_eq_of_lt hgiven hend) hprev hrest
  · refine .full (hgiven.trans (show _ + 8 = _ by omega)) rfl hprev (hrest.trans ?_)
    rw [List.drop_of_length_le (by omega)]
    rfl

/-- The last packet, if it is not full. -/
theorem gives_short (hstate : s.controlState ≠ .handshakeWaitInZlp) (hcarries : s.Carries bytes)
    (hw : bytes.length ≤ s.ctrlreq.req.wLength.toNat)
    (hfull : ¬ 8 ≤ s.ctrlreq.payloadSize - s.payloadNbTrans)
    (hlt : s.payloadNbTrans.toNat < bytes.length)
    (hpackets : p :: rest = Transfer.packets 8
      (s.ctrlreq.req.wLength.toNat - s.payloadNbTrans.toNat)
      (bytes.drop s.payloadNbTrans.toNat)) : s.Gives bytes p rest := by
  have hremain := toNat_remain hcarries (Nat.le_of_lt hlt)
  have hdrop : (bytes.drop s.payloadNbTrans.toNat).length =
    bytes.length - s.payloadNbTrans.toNat := List.length_drop
  have hmore : s.ctrlreq.payloadSize - s.payloadNbTrans ≠ 0 := fun h =>
    Nat.ne_of_lt hlt ((remain_eq_zero_iff hcarries (Nat.le_of_lt hlt)).1 h)
  have hlt' : bytes.length - s.payloadNbTrans.toNat < 8 := by
    rw [← hremain]
    exact UInt16.lt_iff_toNat_lt.1 (UInt16.not_le.1 hfull)
  rw [Transfer.packets_short (by omega) (by omega)] at hpackets
  obtain ⟨rfl, rfl⟩ := List.cons.inj hpackets
  refine ⟨_, s.prevPayloadNbTrans, true, ?_, UInt16.le_of_lt (UInt16.not_le.1 hfull),
    .short ?_ rfl rfl, ?_⟩
  · rw [uddCtrlInSent_more hstate hmore, if_neg hfull]
  · exact (toNat_given hcarries (by omega)).trans (by omega)
  · rw [read_reply hcarries (by omega), List.take_of_length_le (by omega)]

/-- An empty packet, for a host that waits for more than there is. -/
theorem gives_empty (hstate : s.controlState ≠ .handshakeWaitInZlp) (hcarries : s.Carries bytes)
    (heq : s.payloadNbTrans.toNat = bytes.length) (hshort : s.bShortpacket = false)
    (hprev : s.prevPayloadNbTrans = 0)
    (hpackets : p :: rest = Transfer.packets 8
      (s.ctrlreq.req.wLength.toNat - s.payloadNbTrans.toNat) []) : s.Gives bytes p rest := by
  have hpos : s.ctrlreq.req.wLength.toNat - s.payloadNbTrans.toNat ≠ 0 := fun h => by
    rw [h, Transfer.packets_zero] at hpackets
    cases hpackets
  rw [Transfer.packets_short (by omega) (by decide)] at hpackets
  obtain ⟨rfl, rfl⟩ := List.cons.inj hpackets
  refine ⟨0, s.prevPayloadNbTrans + s.payloadNbTrans, true, ?_, by decide, .short ?_ rfl rfl, ?_⟩
  · rw [uddCtrlInSent_none hstate ((remain_eq_zero_iff hcarries (by omega)).2 heq), if_neg]
    rintro (hall | hshort')
    · rw [hprev, UInt16.zero_add] at hall
      exact hpos (Nat.sub_eq_zero_of_le (Nat.le_of_eq (congrArg UInt16.toNat hall)))
    · exact Bool.false_ne_true (hshort.symm.trans hshort')
  · exact (congrArg UInt16.toNat (UInt16.add_zero _)).trans heq
  · exact (read_reply hcarries (Nat.le_of_eq heq)).trans (congrArg some (List.take_zero ..))

theorem uddCtrlInSent_next (hstate : s.controlState ≠ .handshakeWaitInZlp)
    (hcarries : s.Carries bytes) (hw : bytes.length ≤ s.ctrlreq.req.wLength.toNat)
    (hr : s.RemainsOf bytes (p :: rest)) : s.Gives bytes p rest := by
  rcases hr with ⟨hlt, hprev, hpackets⟩ | ⟨heq, hshort, hprev, hpackets⟩ | ⟨-, -, hpackets⟩
  · by_cases hfull : 8 ≤ s.ctrlreq.payloadSize - s.payloadNbTrans
    · have hremain := toNat_remain hcarries (Nat.le_of_lt hlt)
      have hle : 8 ≤ bytes.length - s.payloadNbTrans.toNat := by
        rw [← hremain]
        exact UInt16.le_iff_toNat_le.1 hfull
      exact gives_full hstate hcarries hw hprev hfull (by omega) hpackets
    · exact gives_short hstate hcarries hw hfull hlt hpackets
  · exact gives_empty hstate hcarries heq hshort hprev hpackets
  · cases hpackets

end Usb

end PowerMeterDisplay
