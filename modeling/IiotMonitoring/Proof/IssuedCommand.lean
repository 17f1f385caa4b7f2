import IiotMonitoring.Firmware.CJsonTree
import IiotMonitoring.Lib.JsonWritten
import IiotMonitoring.Proof.CommandTexts
import IiotMonitoring.Proof.Topics

/-!
# Issued commands pass the gateway's checks

The payload of an issued command fits the gateway's buffer. cJSON builds a tree of it whose members
`command_task` finds, and each of its checks passes.
-/

namespace IiotMonitoring

/-! ### Texts that are written as they are -/

theorem Identifier.verbatim {text : Text} (h : Identifier text) : Verbatim text := by
  intro code hcode
  have hidentifier := h.codes code hcode
  unfold IdentifierCode at hidentifier
  omega

theorem verbatim_codes {text : String} (h : ∀ character ∈ text.toList, 45 ≤ character.toNat ∧
    character.toNat ≤ 126 ∧ character.toNat ≠ 92) : Verbatim (codes text) := by
  intro code hcode
  obtain ⟨character, hcharacter, rfl⟩ := List.mem_map.mp hcode
  have hrange := h character hcharacter
  omega

theorem isDigit_range {character : Char} (h : character.isDigit = true) :
    48 ≤ character.toNat ∧ character.toNat ≤ 57 := Char.isDigit_iff_toNat.mp h

/-- A text has no other characters than digits and those of its shape. -/
theorem FitsShape.range {shape text : List Char} (h : FitsShape shape text)
    (hshape : ∀ place ∈ shape, 45 ≤ place.toNat ∧ place.toNat ≤ 126 ∧ place.toNat ≠ 92) :
    ∀ character ∈ text, 45 ≤ character.toNat ∧ character.toNat ≤ 126 ∧ character.toNat ≠ 92 := by
  unfold FitsShape at h
  induction h with
  | nil => exact List.forall_mem_nil _
  | cons hplace _ ih =>
      rw [List.forall_mem_cons] at hshape
      refine List.forall_mem_cons.mpr ⟨?_, ih hshape.2⟩
      unfold FitsPlace at hplace
      split_ifs at hplace with hdigit
      · have hrange := isDigit_range hplace
        omega
      · rw [hplace]
        exact hshape.1

theorem UtcParts.verbatim (parts : UtcParts) {value : String} (h : value.toList = parts.text) :
    Verbatim (codes value) := by
  apply verbatim_codes
  rw [h]
  apply parts.fits.range
  unfold utcShape
  refine List.forall_mem_append.mpr ⟨by simp, List.forall_mem_append.mpr ⟨?_, by simp⟩⟩
  split_ifs
  · exact List.forall_mem_nil _
  · refine List.forall_mem_cons.mpr ⟨by decide, ?_⟩
    intro place hplace
    rw [List.eq_of_mem_replicate hplace]
    decide

theorem verbatim_of_isUuidText {text : String} (h : isUuidText text.toList = true) :
    Verbatim (codes text) := by
  unfold isUuidText at h
  rw [Bool.and_eq_true, decide_eq_true_eq, List.all_eq_true] at h
  apply verbatim_codes
  intro character hcharacter
  obtain ⟨index, hindex, rfl⟩ := List.mem_iff_getElem.mp hcharacter
  have hplace := h.2 (text.toList[index], index)
    (List.mk_mem_zipIdx_iff_getElem?.mpr (List.getElem?_eq_getElem hindex))
  unfold uuidPlace at hplace
  dsimp only at hplace
  split_ifs at hplace with hhyphen
  · rw [decide_eq_true_eq] at hplace
    rw [hplace]
    decide
  · unfold isLowerHex at hplace
    rw [Bool.or_eq_true, Bool.and_eq_true, decide_eq_true_eq, decide_eq_true_eq] at hplace
    obtain hdigit | ⟨hlow, hhigh⟩ := hplace
    · have hrange := isDigit_range hdigit
      omega
    · have hlow' : 97 ≤ (text.toList[index]).toNat := hlow
      have hhigh' : (text.toList[index]).toNat ≤ 102 := hhigh
      omega

/-! ### The payload -/

/-- A command as its callers give it: names of the pattern, an actor of at most 80 characters, a checked
request, an id of `uuid4`, and times that are a `datetime`. -/
structure CommandIssue.Valid (issue : CommandIssue) (siteId : String) : Prop where
  site : identifierPattern (codes siteId) = true
  device : identifierPattern (codes issue.deviceId) = true
  actor : issue.actor.length ≤ 80
  timeout : 1 ≤ issue.request.timeoutS ∧ issue.request.timeoutS ≤ 30
  commandId : ∃ random, issue.commandId = uuid4 random
  start : datetimeMin ≤ issue.now
  finish : issue.command.expiresAt ≤ datetimeMax

section Payload

variable {issue : CommandIssue} {siteId : String}

theorem CommandIssue.now_le_expiresAt (issue : CommandIssue) : issue.now ≤ issue.command.expiresAt := by
  unfold CommandIssue.command
  dsimp only
  omega

theorem isUuidText_uuid4 (random : Vector UInt8 16) : isUuidText (uuid4 random).toList = true := by
  rw [uuid4, String.toList_ofList]
  exact isUuidText_randomUuid random

theorem verbatim_uuid4 (random : Vector UInt8 16) :
    Verbatim (codes (uuid4 random)) ∧ (codes (uuid4 random)).length = 36 := by
  have htext := isUuidText_uuid4 random
  refine ⟨verbatim_of_isUuidText htext, ?_⟩
  unfold isUuidText at htext
  rw [Bool.and_eq_true, decide_eq_true_eq] at htext
  rw [codes, List.length_map, htext.1]

theorem CommandIssue.Valid.verbatim_commandId (h : issue.Valid siteId) :
    Verbatim (codes issue.commandId) ∧ (codes issue.commandId).length = 36 := by
  obtain ⟨random, hid⟩ := h.commandId
  rw [hid]
  exact verbatim_uuid4 random

theorem length_zuluText_le {value : Int} (hmax : value ≤ datetimeMax) :
    Verbatim (codes (zuluText value)) ∧ (codes (zuluText value)).length ≤ 27 := by
  refine ⟨(zuluParts value hmax).verbatim (zuluText_eq hmax), ?_⟩
  have hfits := (zuluParts value hmax).fits.length_eq
  have hdigits : (zuluParts value hmax).fractionDigits ≤ 6 := by
    dsimp only [zuluParts]
    split_ifs <;> decide
  rw [length_utcShape] at hfits
  rw [codes, List.length_map, zuluText_eq hmax, ← hfits]
  split_ifs <;> omega

theorem print_ofNat (value : Nat) : (JsonNumber.ofNat value).print = printNat value := by
  simp [JsonNumber.ofNat, JsonNumber.print]

/-- The payload fits the buffer of a received command. -/
theorem CommandIssue.Valid.length_payload (h : issue.Valid siteId) :
    (issue.payload siteId).print.length ≤ 2047 := by
  have hsite := (identifierPattern_iff _).mp h.site
  have hdevice := (identifierPattern_iff _).mp h.device
  obtain ⟨hid, hidLength⟩ := h.verbatim_commandId
  obtain ⟨hissued, hissuedLength⟩ := length_zuluText_le (issue.now_le_expiresAt.trans h.finish)
  obtain ⟨hexpires, hexpiresLength⟩ := length_zuluText_le h.finish
  have hsiteLength := hsite.length
  have hdeviceLength := hdevice.length
  have hactor := length_printString_le (codes issue.actor)
  have hactorLength := h.actor
  rw [length_codes] at hactor
  have htimeout : (printNat issue.request.timeoutS).length ≤ 2 :=
    length_printNat_le (by have := h.timeout.2; omega)
  have hrelay : (if issue.request.relayOn = true then codes "true" else codes "false").length ≤ 5 := by
    split_ifs
    · decide
    · decide
  have hkeys : ∀ key ∈ ["schema_version", "command_id", "site_id", "device_id", "issued_at", "expires_at",
      "issued_by", "kind", "set_demo_relay", "parameters", "relay_on", "timeout_s"],
      (printString (codes key)).length ≤ 16 := by decide
  have hversion : (printNat 1).length = 1 := by decide
  simp only [List.forall_mem_cons] at hkeys
  unfold CommandIssue.payload
  simp only [Json.print, printMembers, printMoreMembers, List.length_append, List.length_cons,
    List.length_nil, print_ofNat, hid.length_print, hsite.verbatim.length_print,
    hdevice.verbatim.length_print, hissued.length_print, hexpires.length_print, hversion]
  omega

/-! ### The tree -/

theorem valuestringOf_codes {text : String} (h : 0 ∉ codes text) :
    valuestringOf (codes text) = some text := by
  have hall : (codes text).takeWhile (· ≠ 0) = codes text := by
    rw [List.takeWhile_eq_self_iff]
    intro code hcode
    apply decide_eq_true
    rintro rfl
    exact h hcode
  rw [valuestringOf, hall, textString_iff]

theorem Verbatim.zero_notMem {text : Text} (h : Verbatim text) : 0 ∉ text := by
  intro hzero
  have hlow := (h 0 hzero).1
  omega

theorem Verbatim.tree {text : String} (h : Verbatim (codes text)) :
    (Json.string (codes text)).tree = some (.string text) := by
  rw [Json.tree, valuestringOf_codes h.zero_notMem, Option.map_some]

theorem treeMembers_cons {key : String} {value : Json} {tree : CJson} {members : List (Text × Json)}
    {trees : List (String × CJson)} (hkey : Verbatim (codes key)) (hvalue : value.tree = some tree)
    (hmembers : treeMembers members = some trees) :
    treeMembers ((codes key, value) :: members) = some ((key, tree) :: trees) := by
  rw [treeMembers, valuestringOf_codes hkey.zero_notMem, hvalue, hmembers]
  rfl

/-- Any string without surrogates is a C string up to its first NUL. -/
theorem exists_tree (text : String) : ∃ start, (Json.string (codes text)).tree = some (.string start) := by
  have hunicode : isUnicode ((codes text).takeWhile (· ≠ 0)) = true := by
    have hall := isUnicode_codes text
    unfold isUnicode at hall ⊢
    rw [List.all_eq_true] at hall ⊢
    exact fun code hcode => hall code (List.takeWhile_sublist _ |>.subset hcode)
  exact ⟨_, by rw [Json.tree, valuestringOf, textString, if_pos hunicode, Option.map_some]⟩

/-- The tree of the payload, with the actor's name as a C string. -/
def CommandIssue.tree (issue : CommandIssue) (siteId actor : String) : CJson :=
  .object
    [("schema_version", .number (.finite 1)),
      ("command_id", .string issue.commandId),
      ("site_id", .string siteId),
      ("device_id", .string issue.deviceId),
      ("issued_at", .string (zuluText issue.now)),
      ("expires_at", .string (zuluText issue.command.expiresAt)),
      ("issued_by", .string actor),
      ("kind", .string "set_demo_relay"),
      ("parameters", .object
        [("relay_on", .bool issue.request.relayOn),
          ("timeout_s", .number (.finite issue.request.timeoutS))])]

theorem value_ofNat (value : Nat) : (JsonNumber.ofNat value).value = value := by
  simp [JsonNumber.ofNat, JsonNumber.value]

theorem tree_ofNat {value : Nat} (h : value ≤ 2 ^ 53) :
    (Json.number (.ofNat value)).tree = some (.number (.finite value)) := by
  rw [Json.tree, if_pos ⟨rfl, h⟩, value_ofNat]

theorem CommandIssue.Valid.tree_payload (h : issue.Valid siteId) :
    ∃ actor, (issue.payload siteId).tree = some (issue.tree siteId actor) := by
  obtain ⟨actor, hactor⟩ := exists_tree issue.actor
  have hsite := ((identifierPattern_iff _).mp h.site).verbatim
  have hdevice := ((identifierPattern_iff _).mp h.device).verbatim
  have hid := h.verbatim_commandId.1
  have hissued := (length_zuluText_le (issue.now_le_expiresAt.trans h.finish)).1
  have hexpires := (length_zuluText_le h.finish).1
  have htimeout : issue.request.timeoutS ≤ 2 ^ 53 := by
    have := h.timeout.2
    omega
  have hparameters : (Json.object [(codes "relay_on", .bool issue.request.relayOn),
      (codes "timeout_s", .number (.ofNat issue.request.timeoutS))]).tree =
      some (.object [("relay_on", .bool issue.request.relayOn),
        ("timeout_s", .number (.finite issue.request.timeoutS))]) := by
    rw [Json.tree, treeMembers_cons (by decide) rfl
      (treeMembers_cons (by decide) (tree_ofNat htimeout) rfl), Option.map_some]
  refine ⟨actor, ?_⟩
  unfold CommandIssue.payload CommandIssue.tree
  rw [Json.tree, treeMembers_cons (by decide) (@tree_ofNat 1 (by decide)) <|
    treeMembers_cons (by decide) hid.tree <| treeMembers_cons (by decide) hsite.tree <|
    treeMembers_cons (by decide) hdevice.tree <| treeMembers_cons (by decide) hissued.tree <|
    treeMembers_cons (by decide) hexpires.tree <| treeMembers_cons (by decide) hactor <|
    treeMembers_cons (by decide) (Verbatim.tree (by decide)) <|
    treeMembers_cons (by decide) hparameters (by rw [treeMembers]), Option.map_some, Nat.cast_one]

theorem within_ofNat {limits : JsonLimits} {value count : Nat} (hvalue : value < 10 ^ (count + 1))
    (hlimits : count + 1 ≤ limits.digits) : (JsonNumber.ofNat value).Within limits := by
  intro _
  have hlength := length_printNat_le hvalue
  rw [printNat, List.length_map] at hlength
  exact hlength.trans hlimits

theorem CommandIssue.Valid.restorable (h : issue.Valid siteId) :
    (issue.payload siteId).Restorable cJsonLimits cJsonLimits.nesting := by
  have htimeout : issue.request.timeoutS < 10 ^ (1 + 1) := by
    have := h.timeout.2
    omega
  have hnumber : (JsonNumber.ofNat issue.request.timeoutS).Within cJsonLimits :=
    within_ofNat htimeout (by decide)
  have hversion : (JsonNumber.ofNat 1).Within cJsonLimits := within_ofNat (show 1 < 10 ^ (0 + 1) by decide)
    (by decide)
  unfold CommandIssue.payload
  simp only [Json.Restorable, RestorableMembers, isUnicode_codes, hnumber, hversion, and_self, and_true,
    true_and]
  decide

/-! ### The checks -/

section Checks

variable {identity : GatewayIdentity} {actor : String}

theorem toInt_natCast (value : Nat) : (CDouble.finite value).toInt = value := by
  unfold CDouble.toInt
  dsimp only
  rw [Rat.num_natCast, Rat.den_natCast, Nat.cast_one, Int.tdiv_one]

/-- Every check before the one on `relay_locked` passes. -/
theorem CommandIssue.Valid.checkCommand (h : issue.Valid siteId) (hsite : identity.siteId = siteId)
    (hdevice : identity.deviceId = issue.deviceId) {time : Int}
    (hbefore : time * 1000000 < issue.command.expiresAt) {now : String}
    (hnow : gatewayUtcNow time 32 = some now) :
    checkCommand identity (some now) (some (issue.tree siteId actor)) =
      .ok ⟨issue.tree siteId actor, issue.commandId, now⟩ := by
  obtain ⟨random, hid⟩ := h.commandId
  have huuid : uuidIsValid issue.commandId = true := by
    rw [hid]
    exact uuidIsValid_of_isUuidText (isUuidText_uuid4 random)
  have hstart := h.start.trans issue.now_le_expiresAt
  have hvalid := zuluText_valid h.finish
  have hexpired := not_expired_zulu hstart h.finish hbefore hnow
  unfold IiotMonitoring.checkCommand
  simp [CommandIssue.tree, CJson.getObjectItem, CJson.isObject, CJson.isNumber, CJson.isString,
    CJson.valuedouble, CJson.valuestring, CDouble.eq, CDouble.ofInt, List.lookup_cons, huuid, hvalid, hexpired,
    hsite, hdevice]

theorem CommandIssue.Valid.checkParameters (h : issue.Valid siteId) (now : String) :
    checkParameters ⟨issue.tree siteId actor, issue.commandId, now⟩ =
      .ok ⟨issue.commandId, issue.request.relayOn, issue.request.timeoutS⟩ := by
  obtain ⟨hlow, hhigh⟩ := h.timeout
  unfold IiotMonitoring.checkParameters
  simp [CommandIssue.tree, CJson.getObjectItem, CJson.isObject, CJson.isNumber, CJson.isBool, CJson.isTrue,
    CJson.getArraySize, CJson.valuedouble, CDouble.eq, CDouble.lt, CDouble.ofInt, List.lookup_cons,
    toInt_natCast]
  omega

end Checks

end Payload

end IiotMonitoring
