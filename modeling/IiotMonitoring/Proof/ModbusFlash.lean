import IiotMonitoring.Firmware.ModbusFlash
import IiotMonitoring.Proof.ModbusConfig

/-!
# The configuration across a reset

A refused write leaves the running configuration in the page unless it got as far as programming it: a
page that was erased and programmed in part holds no configuration, or the refused one.
-/

namespace IiotMonitoring

/-! ### Programming -/

theorem programHalfword_blank (done : List UInt8) (blank : Nat) (low high : UInt8) :
    programHalfword (done ++ List.replicate (blank + 2) 0xff) done.length low high =
      (done ++ [low, high]) ++ List.replicate blank 0xff := by
  rw [programHalfword, List.set_append_right _ _ (Nat.le_refl _),
    List.set_append_right _ _ (Nat.le_succ _), Nat.sub_self,
    show done.length.succ - done.length = 1 by omega]
  simp [List.replicate_succ]

/-- An even image is programmed up to some half-word, which is its end exactly where the loop
succeeds. -/
theorem programFrom_blank (program : Nat → Bool) (image : List UInt8) :
    ∀ (done : List UInt8) (blank : Nat), Even image.length → image.length ≤ blank →
      ∃ count, count ≤ image.length ∧
        (programFrom program (done ++ List.replicate blank 0xff) done.length image).2 =
          done ++ image.take count ++ List.replicate (blank - count) 0xff ∧
        ((programFrom program (done ++ List.replicate blank 0xff) done.length image).1 = true ↔
          count = image.length) := by
  induction image using List.twoStepInduction with
  | nil => exact fun done blank _ _ => ⟨0, by simp, by simp [programFrom], by simp [programFrom]⟩
  | singleton last => exact fun done blank heven _ => absurd heven (by simp)
  | cons_cons low high rest ih _ =>
      intro done blank heven hfits
      rw [List.length_cons, List.length_cons] at heven hfits
      obtain ⟨blank, rfl⟩ : ∃ less, blank = less + 2 := ⟨blank - 2, by omega⟩
      have hrest : Even rest.length := by
        simpa [Nat.even_add_one] using heven
      rw [programFrom, programHalfword_blank]
      cases hprogram : program done.length with
      | false => exact ⟨0, by simp, by simp, by simp⟩
      | true =>
          obtain ⟨count, hle, hpage, hdone⟩ := ih (done ++ [low, high]) blank hrest (by omega)
          rw [List.length_append, List.length_cons, List.length_singleton] at hpage hdone
          refine ⟨count + 2, ?_, ?_, ?_⟩
          · simp only [List.length_cons]
            omega
          · have htake : (low :: high :: rest).take (count + 2) = low :: high :: rest.take count := rfl
            rw [if_pos rfl, hpage, Nat.add_sub_add_right, htake]
            simp
          · rw [if_pos rfl, hdone]
            simp

/-- The page after an erase and the first bytes of an image. -/
def tornPage (image : List UInt8) (count : Nat) : List UInt8 :=
  image.take count ++ List.replicate (configFlashPageSize - count) 0xff

/-- `persist_config` stores the configuration, or fails before it erases, or leaves a torn page. -/
theorem persistConfig_cases (calls : FlashCalls) (config : ModbusNodeConfig) (page : List UInt8) :
    ((persistConfig calls config page).1 = true ∧
        storedConfig (persistConfig calls config page).2 = config) ∨
      ((calls.unlock && calls.erase) = false ∧ persistConfig calls config page = (false, page)) ∨
      ((calls.unlock && calls.erase) = true ∧ ∃ count, count < modbusConfigLayout.size ∧
        persistConfig calls config page =
          (false, tornPage (modbusConfigLayout.encode config) count)) := by
  unfold persistConfig
  cases hunlock : calls.unlock with
  | false => exact .inr (.inl ⟨rfl, rfl⟩)
  | true =>
      cases herase : calls.erase with
      | false => exact .inr (.inl ⟨rfl, rfl⟩)
      | true =>
          have hsize : (modbusConfigLayout.encode config).length = 24 :=
            modbusConfigLayout.length_encode config
          obtain ⟨count, hle, hpage, hdone⟩ := programFrom_blank calls.program
            (modbusConfigLayout.encode config) [] configFlashPageSize
            (by rw [hsize]; decide) (by rw [hsize]; decide)
          rw [List.nil_append, List.length_nil] at hpage hdone
          change _ = tornPage _ count at hpage
          rw [← erasedPage] at hpage hdone
          have hset : ¬ (!true) = true := by decide
          dsimp only
          rw [if_neg hset, if_neg hset, hpage]
          by_cases hall : count = (modbusConfigLayout.encode config).length
          · have hstored : (tornPage (modbusConfigLayout.encode config) count).take
                modbusConfigLayout.size = modbusConfigLayout.encode config := by
              rw [tornPage, List.take_of_length_le hall.ge]
              exact List.take_left' (modbusConfigLayout.length_encode config)
            refine .inl ⟨?_, ?_⟩
            · rw [hdone.mpr hall, hstored]
              exact beq_self_eq_true _
            · rw [storedConfig, hstored, modbusConfigLayout.decode_encode]
          · refine .inr (.inr ⟨rfl, count, ?_, ?_⟩)
            · have hbound : count < 24 := by omega
              exact hbound
            · have hfailed : (programFrom calls.program erasedPage 0
                  (modbusConfigLayout.encode config)).1 = false := by
                rwa [← Bool.not_eq_true, hdone]
              rw [hfailed, Bool.false_and]

/-! ### Torn pages -/

theorem generation_decode (image : List UInt8) :
    (modbusConfigLayout.decode image).generation = Layout.u32.decode ((image.take 12).drop 8) := by
  have hbytes : ((((image.take 20).drop 4).drop 2).drop 2).take 4 = (image.take 12).drop 8 := by
    simp [List.drop_drop, List.drop_take, List.take_take]
  exact congrArg Layout.u32.decode hbytes

theorem nodeAddress_decode (image : List UInt8) :
    (modbusConfigLayout.decode image).nodeAddress = Layout.u8.decode ((image.take 13).drop 12) := by
  have hbytes : (((((image.take 20).drop 4).drop 2).drop 2).drop 4).take 1 =
      (image.take 13).drop 12 := by
    simp [List.drop_drop, List.drop_take, List.take_take]
  exact congrArg Layout.u8.decode hbytes

/-- A page that was torn before the node address holds no valid configuration, and one that was torn after
the generation holds the generation of the refused configuration. -/
theorem storedConfig_tornPage (config : ModbusNodeConfig) {count : Nat}
    (hcount : count < modbusConfigLayout.size) :
    modbusNodeConfigValidate
        (storedConfig (tornPage (modbusConfigLayout.encode config) count)) = false ∨
      (storedConfig (tornPage (modbusConfigLayout.encode config) count)).generation =
        config.generation := by
  have hlength : (modbusConfigLayout.encode config).length = 24 :=
    modbusConfigLayout.length_encode config
  have hbound : count < 24 := hcount
  have htake : ((modbusConfigLayout.encode config).take count).length = count := by
    rw [List.length_take, hlength]
    omega
  have hpage : ∀ width, count ≤ width → width ≤ 24 →
      ((tornPage (modbusConfigLayout.encode config) count).take modbusConfigLayout.size).take width =
        (modbusConfigLayout.encode config).take count ++ List.replicate (width - count) 0xff := by
    intro width hcovers hwithin
    rw [List.take_take, Nat.min_eq_left (show width ≤ modbusConfigLayout.size from hwithin), tornPage,
      List.take_append, htake, List.take_of_length_le (by rw [htake]; exact hcovers),
      List.take_replicate]
    congr 2
    have hsize : configFlashPageSize = 1024 := rfl
    omega
  by_cases hearly : count ≤ 12
  · left
    have haddress : (storedConfig (tornPage (modbusConfigLayout.encode config) count)).nodeAddress =
        255 := by
      rw [storedConfig, nodeAddress_decode, hpage 13 (by omega) (by decide), List.drop_append, htake,
        List.drop_replicate, List.drop_eq_nil_of_le (by rw [htake]; exact hearly),
        show 13 - count - (12 - count) = 1 by omega]
      rfl
    rw [modbusNodeConfigValidate, decide_eq_false_iff_not, haddress]
    rintro ⟨-, -, -, -, hrange, -⟩
    exact absurd hrange (by decide)
  · right
    have hfront : ((tornPage (modbusConfigLayout.encode config) count).take
        modbusConfigLayout.size).take 12 = (modbusConfigLayout.encode config).take 12 := by
      calc ((tornPage (modbusConfigLayout.encode config) count).take modbusConfigLayout.size).take 12
          = (((tornPage (modbusConfigLayout.encode config) count).take
              modbusConfigLayout.size).take count).take 12 := by
            rw [@List.take_take _ 12 count, Nat.min_eq_left (by omega)]
        _ = ((modbusConfigLayout.encode config).take count ++
              List.replicate (count - count) 0xff).take 12 := by
            rw [hpage count (Nat.le_refl _) hbound.le]
        _ = (modbusConfigLayout.encode config).take 12 := by
            rw [List.take_append_of_le_length (by omega), List.take_take, Nat.min_eq_left (by omega)]
    rw [storedConfig, generation_decode, hfront, ← generation_decode,
      modbusConfigLayout.decode_encode]

/-! ### What a request offers to the flash -/

/-- The request offers nothing and leaves the configuration. -/
structure OffersNothing (node : ModbusNode) (handled : ModbusHandled) : Prop where
  persisted : handled.persisted = none
  config : handled.node.config = node.config
  callback : handled.node.persistConfig = node.persistConfig

theorem offersNothing_exceptionResponse (node : ModbusNode) (address function exception : UInt8)
    (capacity : Nat) :
    OffersNothing node (exceptionResponse node address function exception capacity) := by
  unfold exceptionResponse
  split
  · exact ⟨rfl, rfl, rfl⟩
  · exact ⟨rfl, rfl, rfl⟩

theorem offersNothing_readRegisters (node : ModbusNode) (address function : UInt8)
    (first quantity : UInt16) (capacity : Nat) :
    OffersNothing node (readRegisters node address function first quantity capacity) := by
  unfold readRegisters
  split
  · exact offersNothing_exceptionResponse _ _ _ _ _
  split
  · exact offersNothing_exceptionResponse _ _ _ _ _
  split
  · exact ⟨rfl, rfl, rfl⟩
  · exact ⟨rfl, rfl, rfl⟩

/-- A request offers nothing, whatever the flash would answer, or it is a write in range that takes
effect where the flash stores it. -/
theorem handle_offers {node : ModbusNode} (hcallback : node.persistConfig = true)
    (frame : List UInt8) {capacity : Nat} (hcapacity : 8 ≤ capacity) :
    (∀ persistOk, OffersNothing node (modbusNodeHandleRequest node frame capacity persistOk)) ∨
      ∃ address value, WriteInRange address.toNat value.toNat ∧
        modbusNodeHandleRequest node frame capacity true =
          ⟨{ node with config := writtenConfig node.config address value }, some frame,
            some (writtenConfig node.config address value, true)⟩ ∧
        (modbusNodeHandleRequest node frame capacity false).node.config = node.config ∧
        (modbusNodeHandleRequest node frame capacity false).node.persistConfig = true := by
  by_cases hheard : Heard node frame
  · obtain ⟨function, first, second, rfl⟩ := heard_iff.mp hheard
    simp only [handle_requestFrame]
    by_cases hread : function = 0x03
    · simp only [hread, if_true]
      exact .inl fun _ => offersNothing_readRegisters _ _ _ _ _ _
    by_cases hwrite : function = 0x06
    · subst hwrite
      simp only [hread, if_false, if_true]
      by_cases haddress : Writable first.toNat
      · by_cases hrange : WriteInRange first.toNat second.toNat
        · have hnotShort : ¬ capacity < 8 := by omega
          refine .inr ⟨first, second, hrange, ?_⟩
          simp only [writeRegister_inRange node _ _ hrange, hnotShort, if_false, hcallback, true_and,
            Bool.not_true, Bool.not_false, if_true, Bool.false_eq_true]
          have hkept := offersNothing_exceptionResponse node node.config.nodeAddress 0x06 0x04 capacity
          exact ⟨hkept.config, hkept.callback.trans hcallback⟩
        · simp only [writeRegister_value node _ _ haddress hrange]
          exact .inl fun _ => offersNothing_exceptionResponse _ _ _ _ _
      · simp only [writeRegister_address node _ _ haddress]
        exact .inl fun _ => offersNothing_exceptionResponse _ _ _ _ _
    · simp only [hread, hwrite, if_false]
      exact .inl fun _ => offersNothing_exceptionResponse _ _ _ _ _
  · refine .inl fun persistOk => ?_
    obtain ⟨node', hnode', hconfig⟩ := handle_unheard node capacity persistOk frame hheard
    rw [hnode']
    exact ⟨rfl, hconfig.1, hconfig.2⟩

/-! ### Runs -/

/-- The node runs on a valid configuration, which the page holds unless it was torn; a torn page holds no
valid configuration or one of another generation. -/
structure FlashedNode.Sound (run : FlashedNode) : Prop where
  valid : modbusNodeConfigValidate run.node.config = true
  callback : run.node.persistConfig = true
  intact : run.torn = false → storedConfig run.page = run.node.config
  broken : run.torn = true → modbusNodeConfigValidate (storedConfig run.page) = false ∨
    (storedConfig run.page).generation ≠ run.node.config.generation

theorem FlashedNode.Sound.boot {page : List UInt8}
    (hvalid : modbusNodeConfigValidate (storedConfig page) = true) :
    (FlashedNode.boot page).Sound := by
  have hconfig : (FlashedNode.boot page).node.config = storedConfig page := by
    simp [FlashedNode.boot, modbusNodeInit, Option.filter, hvalid]
  exact ⟨hconfig ▸ hvalid, rfl, fun _ => hconfig.symm, fun htorn => by cases htorn⟩

theorem FlashedNode.step_of_none {run : FlashedNode} {request : FlashRequest}
    (h : run.offered request.frame = none) :
    run.step request = { run with
      node := (modbusNodeHandleRequest run.node request.frame modbusNodeMaxResponse true).node } := by
  simp only [FlashedNode.step, FlashedNode.handle, h]

theorem FlashedNode.step_of_some {run : FlashedNode} {request : FlashRequest}
    {config : ModbusNodeConfig} {outcome : Bool × List UInt8}
    (h : run.offered request.frame = some config)
    (hpersist : persistConfig request.calls config run.page = outcome) :
    run.step request =
      { node :=
          (modbusNodeHandleRequest run.node request.frame modbusNodeMaxResponse outcome.1).node
        page := outcome.2
        torn := !outcome.1 && (run.torn || (request.calls.unlock && request.calls.erase)) } := by
  simp only [FlashedNode.step, FlashedNode.handle, h, hpersist]

theorem FlashedNode.Sound.step {run : FlashedNode} (h : run.Sound) (request : FlashRequest) :
    (run.step request).Sound := by
  rcases handle_offers h.callback request.frame (show 8 ≤ modbusNodeMaxResponse by decide) with
    hnothing | ⟨address, value, hrange, hstored, hconfig, hcallback⟩
  · have hoffered : run.offered request.frame = none := by
      rw [FlashedNode.offered, (hnothing true).persisted, Option.map_none]
    have hkept := hnothing true
    rw [FlashedNode.step_of_none hoffered]
    refine ⟨?_, hkept.callback.trans h.callback, ?_, ?_⟩
    · rw [hkept.config]
      exact h.valid
    · rw [hkept.config]
      exact h.intact
    · rw [hkept.config]
      exact h.broken
  · have hoffered : run.offered request.frame =
        some (writtenConfig run.node.config address value) := by
      rw [FlashedNode.offered, hstored, Option.map_some]
    rcases persistConfig_cases request.calls (writtenConfig run.node.config address value) run.page with
      ⟨hsuccess, hpage⟩ | ⟨hearly, hpersist⟩ | ⟨hreached, count, hcount, hpersist⟩
    · rw [FlashedNode.step_of_some hoffered rfl, hsuccess, hstored]
      exact ⟨validate_writtenConfig h.valid hrange, h.callback, fun _ => hpage,
        fun htorn => (by cases htorn)⟩
    · rw [FlashedNode.step_of_some hoffered hpersist, hearly, Bool.or_false]
      refine ⟨?_, hcallback, ?_, ?_⟩
      · rw [hconfig]
        exact h.valid
      · rw [hconfig]
        exact h.intact
      · rw [hconfig]
        exact h.broken
    · rw [FlashedNode.step_of_some hoffered hpersist, hreached, Bool.or_true]
      refine ⟨?_, hcallback, fun htorn => (by cases htorn), fun _ => ?_⟩
      · rw [hconfig]
        exact h.valid
      · rw [hconfig]
        refine (storedConfig_tornPage _ hcount).imp_right fun hgeneration => ?_
        rw [hgeneration, writtenConfig_generation]
        intro hsame
        simp at hsame

/-- What a reset makes of the page. -/
theorem FlashedNode.Sound.reset_iff {run : FlashedNode} (h : run.Sound) :
    ((FlashedNode.boot run.page).node.config = run.node.config ∧
        (FlashedNode.boot run.page).node.faultFlags = 0) ↔ run.torn = false := by
  have hboot : FlashedNode.boot run.page =
      ⟨modbusNodeInit (some (storedConfig run.page)) true, run.page, false⟩ := rfl
  cases htorn : run.torn with
  | false =>
      have hvalid : modbusNodeConfigValidate (storedConfig run.page) = true :=
        h.intact htorn ▸ h.valid
      simpa [hboot, modbusNodeInit, Option.filter, hvalid] using h.intact htorn
  | true =>
      have hrefused : modbusNodeConfigValidate (storedConfig run.page) = true →
          storedConfig run.page ≠ run.node.config := by
        intro hvalid hsame
        rcases h.broken htorn with hinvalid | hother
        · rw [hinvalid] at hvalid
          cases hvalid
        · exact hother (congrArg ModbusNodeConfig.generation hsame)
      cases hvalid : modbusNodeConfigValidate (storedConfig run.page) with
      | false => simp [hboot, modbusNodeInit, Option.filter, hvalid]
      | true => simp [hboot, modbusNodeInit, Option.filter, hvalid, hrefused hvalid]

/-- **A reset after refused writes.** In every state of every run that began with a valid configuration
in the page, a reset restores the running configuration exactly where no half-word has failed to be
programmed since the last write that was echoed. -/
theorem reset_restores_unless_torn {page : List UInt8}
    (hvalid : modbusNodeConfigValidate (storedConfig page) = true) (requests : List FlashRequest) :
    StatesMeet FlashedNode.step
      (fun run => ((FlashedNode.boot run.page).node.config = run.node.config ∧
        (FlashedNode.boot run.page).node.faultFlags = 0) ↔ run.torn = false)
      (FlashedNode.boot page) requests := by
  have hsound : StatesMeet FlashedNode.step FlashedNode.Sound (FlashedNode.boot page) requests :=
    statesMeet_of_invariant (fun _ request h => h.step request) (.boot hvalid) requests
  exact hsound.mono fun _ h => h.reset_iff

theorem storedConfig_append (config : ModbusNodeConfig) (rest : List UInt8) :
    storedConfig (modbusConfigLayout.encode config ++ rest) = config := by
  rw [storedConfig, List.take_left' (modbusConfigLayout.length_encode config),
    modbusConfigLayout.decode_encode]

/-- The page of a node that was given address 7. -/
def addressedPage : List UInt8 :=
  modbusConfigLayout.encode (writtenConfig modbusNodeConfigDefaults 2 7) ++ List.replicate 1000 0xff

theorem validate_addressedPage : modbusNodeConfigValidate (storedConfig addressedPage) = true := by
  rw [addressedPage, storedConfig_append]
  exact validate_writtenConfig validate_defaults (.inl ⟨rfl, by decide, by decide⟩)

/-- A write of the gain whose erase succeeds and whose first half-word fails. -/
def tornWrite : FlashRequest := ⟨requestFrame 7 0x06 17 20000, ⟨true, true, fun _ => false⟩⟩

/-- Before and after that write. -/
theorem reset_restores_unless_torn_write :
    StatesMeet FlashedNode.step
      (fun run => ((FlashedNode.boot run.page).node.config = run.node.config ∧
        (FlashedNode.boot run.page).node.faultFlags = 0) ↔ run.torn = false)
      (FlashedNode.boot addressedPage) [tornWrite] :=
  reset_restores_unless_torn validate_addressedPage [tornWrite]

/-- The write is refused with exception 4, the node keeps address 7, and a reset loads the defaults. -/
theorem refused_write_loses_config :
    modbusNodeConfigValidate (storedConfig addressedPage) = true ∧
      ((FlashedNode.boot addressedPage).handle tornWrite).response =
        some (appendCrc [7, 0x86, 0x04]) ∧
      ((FlashedNode.boot addressedPage).step tornWrite).node.config =
        writtenConfig modbusNodeConfigDefaults 2 7 ∧
      (FlashedNode.boot ((FlashedNode.boot addressedPage).step tornWrite).page).node.config =
        modbusNodeConfigDefaults ∧
      writtenConfig modbusNodeConfigDefaults 2 7 ≠ modbusNodeConfigDefaults := by
  refine ⟨validate_addressedPage, ?_, ?_, ?_, ?_⟩
  · decide +kernel
  · decide +kernel
  · decide +kernel
  · decide

end IiotMonitoring
