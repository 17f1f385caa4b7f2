import IiotMonitoring.Firmware.ModbusPoll
import IiotMonitoring.Proof.ModbusCrc
import IiotMonitoring.Proof.ModbusRequests

/-!
# What the poll takes for an answer

The status against what the bytes are. The checks decide it by the address, the exception bit and the
checksum, so the frames they misjudge can be named.
-/

namespace IiotMonitoring

/-! ### Frames from node 1 -/

/-- At least an exception frame's five bytes, from node 1. -/
def FromNode (frame : List UInt8) : Prop := 5 ≤ frame.length ∧ frame.head? = some 1

/-- The function byte has the exception bit. -/
def HasExceptionBit (frame : List UInt8) : Prop := frame.getD 1 0 &&& 0x80 ≠ 0

/-- The reply to the poll: eight registers of node 1. -/
def GenuineReply (frame : List UInt8) : Prop :=
  frame.length = 21 ∧ frame.take 3 = [1, 3, 16] ∧ crcHolds frame = true

/-- An exception frame of node 1. -/
def ExceptionFrame (frame : List UInt8) : Prop :=
  frame.length = 5 ∧ frame.head? = some 1 ∧ HasExceptionBit frame ∧ crcHolds frame = true

/-- The status after a poll that was sent and answered with these bytes. -/
def polled (bytes : List UInt8) : PollStatus :=
  modbusPollIdentity ⟨pollRequest.length, .ok, some bytes⟩

/-- The status says what the bytes are. -/
structure StatusTells (bytes : List UInt8) : Prop where
  ok : polled bytes = .ok → GenuineReply bytes
  exception : ExceptionFrame bytes → polled bytes = .exception
  crcError : FromNode bytes → crcHolds bytes = false → polled bytes = .crcError

/-- A frame of node 1 with a right checksum that does not answer the poll. -/
def ForeignFrame (frame : List UInt8) : Prop :=
  FromNode frame ∧ ¬ HasExceptionBit frame ∧ crcHolds frame = true ∧ ¬ GenuineReply frame

/-- A damaged frame of node 1 whose function byte has the exception bit. -/
def DamagedException (frame : List UInt8) : Prop :=
  FromNode frame ∧ HasExceptionBit frame ∧ crcHolds frame = false

theorem GenuineReply.fromNode {frame : List UInt8} (h : GenuineReply frame) : FromNode frame := by
  obtain ⟨hlength, hstart, -⟩ := h
  refine ⟨by omega, ?_⟩
  have hhead := congrArg List.head? hstart
  rwa [List.head?_take, if_neg (by decide)] at hhead

/-! ### The checks -/

section Checks

variable {bytes : List UInt8}

theorem fromNode_iff : ¬ (bytes.length < 5 ∨ bytes.getD 0 0 ≠ 1) ↔ FromNode bytes := by
  unfold FromNode
  cases bytes with
  | nil => simp
  | cons head tail => simp

/-- Bytes that are no frame of node 1 are taken for no answer or an old one. -/
theorem polled_of_not_fromNode (hother : ¬ FromNode bytes) :
    polled bytes = .timeout ∨ polled bytes = .stale := by
  unfold polled modbusPollIdentity
  rw [if_neg (by simp)]
  dsimp only
  split_ifs with hempty
  · exact .inl rfl
  · right
    unfold responseStatus
    exact if_pos (not_not.mp (mt fromNode_iff.mp hother))

theorem polled_of_fromNode (hfrom : FromNode bytes) : polled bytes = responseStatus bytes := by
  unfold polled modbusPollIdentity
  rw [if_neg (by simp)]
  apply if_neg
  have hfive := hfrom.1
  omega

/-- The exception bit is looked at before the checksum. -/
theorem polled_exception (hfrom : FromNode bytes) (hbit : HasExceptionBit bytes) :
    polled bytes = .exception := by
  rw [polled_of_fromNode hfrom]
  unfold responseStatus
  dsimp only
  rw [if_neg (fromNode_iff.mpr hfrom)]
  exact if_pos hbit

/-- Without the bit the checksum alone decides. -/
theorem polled_checksum (hfrom : FromNode bytes) (hbit : ¬ HasExceptionBit bytes) :
    polled bytes = if crcHolds bytes = true then .ok else .crcError := by
  rw [polled_of_fromNode hfrom]
  unfold responseStatus
  dsimp only
  rw [if_neg (fromNode_iff.mpr hfrom)]
  apply (if_neg hbit).trans
  apply if_congr _ rfl rfl
  exact decide_eq_true_iff.symm

/-- The answers that are taken for the reply. -/
theorem polled_ok_iff :
    polled bytes = .ok ↔ FromNode bytes ∧ ¬ HasExceptionBit bytes ∧ crcHolds bytes = true := by
  constructor
  · intro hok
    have hfrom : FromNode bytes := by
      by_contra hother
      rcases polled_of_not_fromNode hother with h | h
      · cases hok.symm.trans h
      · cases hok.symm.trans h
    have hbit : ¬ HasExceptionBit bytes := fun hbit => by
      cases hok.symm.trans (polled_exception hfrom hbit)
    rw [polled_checksum hfrom hbit, ite_eq_left_iff] at hok
    refine ⟨hfrom, hbit, ?_⟩
    by_contra hwrong
    cases hok hwrong
  · rintro ⟨hfrom, hbit, hcrc⟩
    rw [polled_checksum hfrom hbit, if_pos hcrc]

theorem GenuineReply.not_hasExceptionBit (h : GenuineReply bytes) : ¬ HasExceptionBit bytes := by
  obtain ⟨-, hstart, -⟩ := h
  have hfunction : bytes.getD 1 0 = 3 := by
    have hsecond := congrArg (fun frame : List UInt8 => frame.getD 1 0) hstart
    simpa [List.getD_eq_getElem?_getD] using hsecond
  unfold HasExceptionBit
  rw [hfunction]
  decide

/-- The reply to the poll is taken for it. -/
theorem GenuineReply.polled_ok (h : GenuineReply bytes) : polled bytes = .ok :=
  polled_ok_iff.mpr ⟨h.fromNode, h.not_hasExceptionBit, h.2.2⟩

/-- The status tells what the bytes are but for two kinds of frames. -/
theorem statusTells_iff (bytes : List UInt8) :
    StatusTells bytes ↔ ¬ ForeignFrame bytes ∧ ¬ DamagedException bytes := by
  constructor
  · intro htells
    constructor
    · rintro ⟨hfrom, hbit, hcrc, hforeign⟩
      exact hforeign (htells.ok (polled_ok_iff.mpr ⟨hfrom, hbit, hcrc⟩))
    · rintro ⟨hfrom, hbit, hcrc⟩
      cases (polled_exception hfrom hbit).symm.trans (htells.crcError hfrom hcrc)
  · rintro ⟨hforeign, hdamaged⟩
    refine ⟨fun hok => ?_, fun hexception => ?_, fun hfrom hcrc => ?_⟩
    · obtain ⟨hfrom, hbit, hcrc⟩ := polled_ok_iff.mp hok
      by_contra hother
      exact hforeign ⟨hfrom, hbit, hcrc, hother⟩
    · obtain ⟨hlength, hnode, hbit, -⟩ := hexception
      exact polled_exception ⟨hlength.ge, hnode⟩ hbit
    · have hbit : ¬ HasExceptionBit bytes := fun hbit => hdamaged ⟨hfrom, hbit, hcrc⟩
      rw [polled_checksum hfrom hbit, if_neg (by rw [hcrc]; decide)]

/-- The echo of the request is taken for the reply. -/
theorem echo_not_statusTells : ¬ StatusTells pollRequest := by
  intro htells
  have hok : polled pollRequest = .ok := by decide +kernel
  exact absurd (htells.ok hok).1 (by decide)

end Checks

/-! ### The node's answers -/

theorem crcHolds_appendCrc (message : List UInt8) : crcHolds (appendCrc message) = true := by
  unfold appendCrc
  rw [crcHolds_append, joinWord_split]

/-- What a node at address 1 answers to the poll is a genuine reply. -/
theorem poll_of_node (node : ModbusNode) (haddress : node.config.nodeAddress = 1) {capacity : Nat}
    (hcapacity : 21 ≤ capacity) (persistOk : Bool) :
    ∃ reply, (modbusNodeHandleRequest node pollRequest capacity persistOk).response = some reply ∧
      GenuineReply reply ∧ polled reply = .ok := by
  have hrequest : pollRequest = requestFrame node.config.nodeAddress 0x03 0 8 := by
    rw [haddress]
    rfl
  obtain ⟨words, hresponse, hlength, -⟩ := @read_inside node 0 8 capacity persistOk (by decide)
    (by decide) hcapacity
  rw [← hrequest] at hresponse
  have hgenuine : GenuineReply (appendCrc ([node.config.nodeAddress, 0x03,
      UInt8.ofNat (2 * (8 : UInt16).toNat)] ++ words.flatMap wordBytes)) := by
    refine ⟨?_, ?_, crcHolds_appendCrc _⟩
    · rw [length_appendCrc, List.length_append, length_flatMap_wordBytes, hlength]
      rfl
    · rw [haddress]
      rfl
  exact ⟨_, hresponse, hgenuine, hgenuine.polled_ok⟩

end IiotMonitoring
