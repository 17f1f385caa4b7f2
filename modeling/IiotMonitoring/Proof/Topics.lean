import IiotMonitoring.Firmware.Topics
import IiotMonitoring.Proof.ContractAgree
import IiotMonitoring.Server.Topics

/-!
# One language of topics

The byte strings that `iiot_make_topic` accepts are those of the texts that `topic` accepts, both make
one string of them, and `parse_topic` takes it apart again.
-/

namespace IiotMonitoring

/-! ### Identifiers -/

/-- The characters of an identifier. -/
def IdentifierCode (code : Nat) : Prop :=
  (97 ≤ code ∧ code ≤ 122) ∨ (48 ≤ code ∧ code ≤ 57) ∨ code = 45

/-- One to 63 characters, of which the first is no hyphen. -/
structure Identifier (text : Text) : Prop where
  nonempty : text ≠ []
  length : text.length ≤ 63
  codes : ∀ code ∈ text, IdentifierCode code
  head : text.head? ≠ some 45

theorem isLowerAlphanumeric_iff (code : Nat) :
    isLowerAlphanumeric code = true ↔ IdentifierCode code ∧ code ≠ 45 := by
  simp only [isLowerAlphanumeric, IdentifierCode, Bool.or_eq_true, Bool.and_eq_true,
    decide_eq_true_iff]
  omega

theorem identifierPattern_iff (text : Text) : identifierPattern text = true ↔ Identifier text := by
  cases text with
  | nil => exact iff_of_false (by decide) fun h => h.nonempty rfl
  | cons head tail =>
      simp only [identifierPattern, Bool.and_eq_true, decide_eq_true_iff, List.all_eq_true,
        Bool.or_eq_true, isLowerAlphanumeric_iff]
      constructor
      · rintro ⟨⟨⟨hhead, hne⟩, htail⟩, hlength⟩
        refine ⟨List.cons_ne_nil _ _, Nat.succ_le_succ hlength, ?_, by simpa using hne⟩
        rintro code (_ | ⟨_, hmem⟩)
        · exact hhead
        · rcases htail code hmem with h | rfl
          · exact h.1
          · exact .inr (.inr rfl)
      · intro h
        have hlength := h.length
        rw [List.length_cons] at hlength
        have hhead : head ≠ 45 := by simpa using h.head
        refine ⟨⟨⟨h.codes head List.mem_cons_self, hhead⟩, fun code hmem => ?_⟩, by omega⟩
        by_cases hhyphen : code = 45
        · exact .inr hhyphen
        · exact .inl ⟨h.codes code (.tail _ hmem), hhyphen⟩

theorem Identifier.ascii {text : Text} (h : Identifier text) : ∀ code ∈ text, code < 128 := by
  intro code hcode
  rcases h.codes code hcode with h | h | h
  · omega
  · omega
  · omega

/-! ### Bytes and characters -/

theorem decodeUtf8_iff_ascii {bytes : List UInt8} {text : Text} (hascii : ∀ code ∈ text, code < 128) :
    decodeUtf8 bytes = some text ↔ bytes = plainBytes text := by
  constructor
  · exact fun h => decodeUtf8_eq_ascii h hascii
  · rintro rfl
    exact decodeUtf8_ascii hascii

/-- The loop accepts the bytes of the identifiers. -/
theorem identifierIsValid_codes (value : CString) :
    value.identifierIsValid = true ↔ Identifier (value.bytes.map UInt8.toNat) := by
  have hcharacter : ∀ byte : UInt8, ((97 ≤ byte ∧ byte ≤ 122) ∨ (48 ≤ byte ∧ byte ≤ 57) ∨ byte = 45) ↔
      IdentifierCode byte.toNat := by
    intro byte
    simp only [IdentifierCode, UInt8.le_iff_toNat_le, ← UInt8.toNat_inj, UInt8.reduceToNat]
  have hhead : (value.bytes.map UInt8.toNat).head? ≠ some 45 ↔ value.bytes.head? ≠ some 45 := by
    rw [List.head?_map, ne_eq, ne_eq, Option.map_eq_some_iff]
    apply not_congr
    constructor
    · rintro ⟨byte, hbyte, hcode⟩
      rw [hbyte, ← @UInt8.ofNat_toNat byte, hcode]
      rfl
    · exact fun h => ⟨45, h, rfl⟩
  unfold CString.identifierIsValid
  dsimp only
  rw [decide_eq_true_iff]
  by_cases hlength : value.bytes.length ≤ 63
  · have hmin : min value.bytes.length (iiotIdMax + 1) = value.bytes.length :=
      Nat.min_eq_left (Nat.le_succ_of_le hlength)
    rw [hmin, List.take_length, List.all_eq_true]
    simp only [decide_eq_true_iff]
    constructor
    · rintro ⟨hpos, -, hcodes, hfirst⟩
      refine ⟨?_, by rwa [List.length_map], ?_, hhead.mpr hfirst⟩
      · rwa [ne_eq, List.map_eq_nil_iff, ← List.length_eq_zero_iff]
      · intro code hcode
        obtain ⟨byte, hbyte, rfl⟩ := List.mem_map.mp hcode
        exact (hcharacter byte).mp (hcodes byte hbyte)
    · intro h
      refine ⟨?_, hlength, ?_, hhead.mp h.head⟩
      · rw [ne_eq, List.length_eq_zero_iff, ← List.map_eq_nil_iff]
        exact h.nonempty
      · intro byte hbyte
        exact (hcharacter byte).mpr (h.codes _ (List.mem_map_of_mem hbyte))
  · apply iff_of_false
    · rintro ⟨-, hshort, -⟩
      unfold iiotIdMax at hshort
      omega
    · intro h
      have hshort := h.length
      rw [List.length_map] at hshort
      exact hlength hshort

/-- A C string is an identifier if and only if it is the UTF-8 of one. -/
theorem identifierIsValid_iff (value : CString) :
    value.identifierIsValid = true ↔
      ∃ text, decodeUtf8 value.bytes = some text ∧ identifierPattern text = true := by
  rw [identifierIsValid_codes]
  constructor
  · intro h
    refine ⟨_, (decodeUtf8_iff_ascii h.ascii).mpr ?_, (identifierPattern_iff _).mpr h⟩
    exact (plainBytes_toNat value.bytes).symm
  · rintro ⟨text, hdecode, hpattern⟩
    have htext := (identifierPattern_iff text).mp hpattern
    rw [(decodeUtf8_iff_ascii htext.ascii).mp hdecode, toNat_plainBytes htext.ascii]
    exact htext

/-! ### Suffixes -/

theorem codes_text_ascii (kind : TopicKind) : ∀ code ∈ codes kind.text, code < 128 := by
  cases kind with
  | _ => decide

theorem literalText_text (kind : TopicKind) : literalText kind.text = plainBytes (codes kind.text) :=
  toUTF8_ascii (codes_text_ascii kind)

/-- The suffixes in the source are the kinds. -/
theorem knownSuffixes_eq : knownSuffixes = TopicKind.all.map TopicKind.text := rfl

theorem mem_all (kind : TopicKind) : kind ∈ TopicKind.all := by
  cases kind with
  | _ => decide

theorem suffix_known_iff (suffix : CString) :
    (knownSuffixes.any fun known => suffix.bytes = literalText known) = true ↔
      ∃ kind : TopicKind, decodeUtf8 suffix.bytes = some (codes kind.text) := by
  simp only [decodeUtf8_iff_ascii (codes_text_ascii _), ← literalText_text, knownSuffixes_eq,
    List.any_map, List.any_eq_true, Function.comp_apply, decide_eq_true_iff]
  constructor
  · rintro ⟨kind, -, hsuffix⟩
    exact ⟨kind, hsuffix⟩
  · rintro ⟨kind, hsuffix⟩
    exact ⟨kind, mem_all kind, hsuffix⟩

/-! ### Building a topic -/

theorem topic_ok_iff {kind : TopicKind} {siteId deviceId value : Text} :
    kind.topic siteId deviceId = .ok value ↔
      identifierPattern siteId = true ∧ identifierPattern deviceId = true ∧
        value = codes "iiot/v1/" ++ siteId ++ codes "/" ++ deviceId ++ codes "/" ++ codes kind.text := by
  unfold TopicKind.topic
  cases hsite : identifierPattern siteId with
  | false => simp
  | true =>
      cases hdevice : identifierPattern deviceId with
      | false => simp
      | true => simp [eq_comm]

section Made

variable {site device suffix : CString} {siteId deviceId value : Text} {kind : TopicKind}

/-- The longest topic fits the buffer. -/
theorem length_topicText (hsite : site.identifierIsValid = true)
    (hdevice : device.identifierIsValid = true)
    (hsuffix : (knownSuffixes.any fun known => suffix.bytes = literalText known) = true) :
    (topicText site device suffix).length < iiotTopicMax := by
  have hsiteLength := ((identifierIsValid_codes site).mp hsite).length
  have hdeviceLength := ((identifierIsValid_codes device).mp hdevice).length
  have hsuffixLength : suffix.bytes.length ≤ 12 := by
    have hlongest : ∀ known ∈ knownSuffixes, (literalText known).length ≤ 12 := by decide +kernel
    obtain ⟨known, hknown, hsame⟩ := List.any_eq_true.mp hsuffix
    rw [decide_eq_true_iff] at hsame
    rw [hsame]
    exact hlongest known hknown
  have hroot : (literalText "iiot/v1/").length = 8 := by decide +kernel
  have hslash : (literalText "/").length = 1 := by decide +kernel
  rw [List.length_map] at hsiteLength hdeviceLength
  simp only [topicText, List.length_append, hroot, hslash]
  unfold iiotTopicMax
  omega

theorem iiotMakeTopic_eq (output : Vector UInt8 iiotTopicMax)
    (hsite : site.identifierIsValid = true) (hdevice : device.identifierIsValid = true)
    (hsuffix : (knownSuffixes.any fun known => suffix.bytes = literalText known) = true) :
    iiotMakeTopic output site device suffix =
      (true, printText output (topicText site device suffix)) := by
  unfold iiotMakeTopic
  rw [if_neg (by rw [hsite, hdevice]; decide), if_neg (by rw [hsuffix]; decide)]
  dsimp only
  rw [decide_eq_true (length_topicText hsite hdevice hsuffix)]

theorem iiotMakeTopic_iff (output : Vector UInt8 iiotTopicMax) :
    (iiotMakeTopic output site device suffix).1 = true ↔
      site.identifierIsValid = true ∧ device.identifierIsValid = true ∧
        (knownSuffixes.any fun known => suffix.bytes = literalText known) = true := by
  constructor
  · intro hmade
    unfold iiotMakeTopic at hmade
    split_ifs at hmade with hnames hknown
    rw [Bool.or_eq_true, not_or, Bool.not_eq_true', Bool.not_eq_true', Bool.not_eq_false,
      Bool.not_eq_false] at hnames
    rw [Bool.not_eq_true', Bool.not_eq_false] at hknown
    exact ⟨hnames.1, hnames.2, hknown⟩
  · rintro ⟨hsite, hdevice, hsuffix⟩
    rw [iiotMakeTopic_eq output hsite hdevice hsuffix]

/-- What a topic is made of, in characters and in bytes. -/
theorem topicText_eq (hsite : decodeUtf8 site.bytes = some siteId)
    (hdevice : decodeUtf8 device.bytes = some deviceId)
    (hsuffix : decodeUtf8 suffix.bytes = some (codes kind.text))
    (hvalue : kind.topic siteId deviceId = .ok value) :
    (∀ code ∈ value, code < 128) ∧ topicText site device suffix = plainBytes value := by
  obtain ⟨hsitePattern, hdevicePattern, rfl⟩ := topic_ok_iff.mp hvalue
  have hsiteAscii := ((identifierPattern_iff siteId).mp hsitePattern).ascii
  have hdeviceAscii := ((identifierPattern_iff deviceId).mp hdevicePattern).ascii
  have hroot : ∀ code ∈ codes "iiot/v1/", code < 128 := by decide
  have hslash : ∀ code ∈ codes "/", code < 128 := by decide
  constructor
  · intro code hcode
    simp only [List.mem_append] at hcode
    rcases hcode with ((((hcode | hcode) | hcode) | hcode) | hcode) | hcode
    · exact hroot code hcode
    · exact hsiteAscii code hcode
    · exact hslash code hcode
    · exact hdeviceAscii code hcode
    · exact hslash code hcode
    · exact codes_text_ascii kind code hcode
  · unfold topicText
    rw [(decodeUtf8_iff_ascii hsiteAscii).mp hsite, (decodeUtf8_iff_ascii hdeviceAscii).mp hdevice,
      (decodeUtf8_iff_ascii (codes_text_ascii kind)).mp hsuffix, literalText, literalText,
      toUTF8_ascii hroot, toUTF8_ascii hslash]
    simp only [plainBytes, List.map_append]

end Made

/-! ### Taking a topic apart -/

/-- The parts of a topic between its slashes. -/
def topicParts (siteId deviceId kind : Text) : List Text :=
  [codes "iiot", codes "v1", siteId, deviceId, kind]

theorem intercalate_topicParts (siteId deviceId kind : Text) :
    [47].intercalate (topicParts siteId deviceId kind) =
      codes "iiot/v1/" ++ siteId ++ codes "/" ++ deviceId ++ codes "/" ++ kind := by
  simp [topicParts, List.intercalate_cons_cons, codes]

theorem Identifier.slash_notMem {text : Text} (h : Identifier text) : 47 ∉ text := by
  intro hmem
  have hcode := h.codes 47 hmem
  unfold IdentifierCode at hcode
  omega

theorem parseTopic_topic {kind : TopicKind} {siteId deviceId value : Text}
    (hvalue : kind.topic siteId deviceId = .ok value) :
    parseTopic value = .ok ⟨siteId, deviceId, kind⟩ := by
  obtain ⟨hsite, hdevice, rfl⟩ := topic_ok_iff.mp hvalue
  have hparts : (codes "iiot/v1/" ++ siteId ++ codes "/" ++ deviceId ++ codes "/" ++
      codes kind.text).splitOn 47 = topicParts siteId deviceId (codes kind.text) := by
    rw [← intercalate_topicParts]
    apply List.splitOn_intercalate
    · have hroot : 47 ∉ codes "iiot" ∧ 47 ∉ codes "v1" := by decide
      have hkind : 47 ∉ codes kind.text := by
        cases kind with
        | _ => decide
      simp only [topicParts, List.mem_cons, List.not_mem_nil, or_false, forall_eq_or_imp, forall_eq]
      exact ⟨hroot.1, hroot.2, ((identifierPattern_iff siteId).mp hsite).slash_notMem,
        ((identifierPattern_iff deviceId).mp hdevice).slash_notMem, hkind⟩
    · exact List.cons_ne_nil _ _
  have hkind : (TopicKind.all.find? fun candidate => codes candidate.text = codes kind.text) =
      some kind := by
    cases kind with
    | _ => decide
  unfold parseTopic
  rw [hparts]
  unfold topicParts
  dsimp only
  rw [if_pos ⟨rfl, rfl⟩, hkind]

/-- A topic that is taken apart is the concatenation of its parts. -/
theorem parseTopic_parts {value : Text} {parsed : ParsedTopic} (h : parseTopic value = .ok parsed) :
    value = codes "iiot/v1/" ++ parsed.siteId ++ codes "/" ++ parsed.deviceId ++ codes "/" ++
      codes parsed.kind.text := by
  unfold parseTopic at h
  split at h
  · rename_i root version siteId deviceId kindText hparts
    split_ifs at h with hroot
    split at h
    · cases h
    · rename_i kind hkind
      cases h
      have hsame := List.find?_some hkind
      rw [decide_eq_true_iff] at hsame
      rw [← intercalate_topicParts, hsame, topicParts, ← hroot.1, ← hroot.2, ← hparts,
        List.intercalate_splitOn]
  · cases h

/-! ### Identities of payloads -/

/-- Two identities that a payload gives, and one of the three models accepts. -/
inductive PayloadIdentity (scalars : PydanticScalars) (raw : Json) : String → String → Prop where
  | telemetry (envelope : TelemetryEnvelope) (h : validateTelemetry scalars raw = some envelope) :
      PayloadIdentity scalars raw envelope.siteId envelope.deviceId
  | health (envelope : HealthEnvelope) (h : validateHealth scalars raw = some envelope) :
      PayloadIdentity scalars raw envelope.siteId envelope.deviceId
  | commandAck (envelope : CommandAckEnvelope) (h : validateCommandAck scalars raw = some envelope) :
      PayloadIdentity scalars raw envelope.siteId envelope.deviceId

theorem requiredField_identifier {scalars : PydanticScalars} {name : String}
    {members : List (Text × Json)} {text : String}
    (h : requiredField name members (identifierField scalars) = some text) :
    identifierPattern (codes text) = true := by
  obtain ⟨value, -, hfield⟩ := requiredField_some h
  exact (Option.filter_eq_some_iff.mp hfield).2

/-- The models accept identifiers only. -/
theorem PayloadIdentity.patterns {scalars : PydanticScalars} {raw : Json} {siteId deviceId : String}
    (h : PayloadIdentity scalars raw siteId deviceId) :
    identifierPattern (codes siteId) = true ∧ identifierPattern (codes deviceId) = true := by
  cases h with
  | telemetry envelope h =>
      obtain ⟨members, -, hreads⟩ := validateTelemetry_iff.mp h
      exact ⟨requiredField_identifier hreads.siteId, requiredField_identifier hreads.deviceId⟩
  | health envelope h =>
      unfold validateHealth at h
      obtain ⟨members, -, h⟩ := Option.bind_eq_some_iff.mp h
      obtain ⟨_, -, h⟩ := Option.bind_eq_some_iff.mp h
      obtain ⟨_, -, h⟩ := Option.bind_eq_some_iff.mp h
      obtain ⟨_, hsite, h⟩ := Option.bind_eq_some_iff.mp h
      obtain ⟨_, hdevice, h⟩ := Option.bind_eq_some_iff.mp h
      obtain ⟨_, -, h⟩ := Option.bind_eq_some_iff.mp h
      obtain ⟨_, -, h⟩ := Option.bind_eq_some_iff.mp h
      obtain ⟨_, -, h⟩ := Option.bind_eq_some_iff.mp h
      obtain ⟨_, -, h⟩ := Option.bind_eq_some_iff.mp h
      obtain ⟨_, -, h⟩ := Option.bind_eq_some_iff.mp h
      obtain ⟨_, -, h⟩ := Option.bind_eq_some_iff.mp h
      obtain ⟨_, -, h⟩ := Option.bind_eq_some_iff.mp h
      obtain ⟨_, -, h⟩ := Option.bind_eq_some_iff.mp h
      obtain ⟨_, -, h⟩ := Option.bind_eq_some_iff.mp h
      obtain ⟨_, -, h⟩ := Option.bind_eq_some_iff.mp h
      obtain ⟨_, -, h⟩ := Option.bind_eq_some_iff.mp h
      obtain ⟨_, -, h⟩ := Option.bind_eq_some_iff.mp h
      obtain ⟨_, -, h⟩ := Option.bind_eq_some_iff.mp h
      cases h
      exact ⟨requiredField_identifier hsite, requiredField_identifier hdevice⟩
  | commandAck envelope h =>
      unfold validateCommandAck at h
      obtain ⟨members, -, h⟩ := Option.bind_eq_some_iff.mp h
      obtain ⟨_, -, h⟩ := Option.bind_eq_some_iff.mp h
      obtain ⟨_, -, h⟩ := Option.bind_eq_some_iff.mp h
      obtain ⟨_, -, h⟩ := Option.bind_eq_some_iff.mp h
      obtain ⟨_, hsite, h⟩ := Option.bind_eq_some_iff.mp h
      obtain ⟨_, hdevice, h⟩ := Option.bind_eq_some_iff.mp h
      obtain ⟨_, -, h⟩ := Option.bind_eq_some_iff.mp h
      obtain ⟨_, -, h⟩ := Option.bind_eq_some_iff.mp h
      obtain ⟨_, -, h⟩ := Option.bind_eq_some_iff.mp h
      obtain ⟨_, -, h⟩ := Option.bind_eq_some_iff.mp h
      obtain ⟨_, -, h⟩ := Option.bind_eq_some_iff.mp h
      cases h
      exact ⟨requiredField_identifier hsite, requiredField_identifier hdevice⟩

/-! ### One language -/

/-- The C function and the Python function accept the same names and make the same topic, which is
taken apart into them. -/
structure SameTopic (output : Vector UInt8 iiotTopicMax) (site device suffix : CString) : Prop where
  accepted : (iiotMakeTopic output site device suffix).1 = true ↔
    ∃ siteId deviceId kind value, decodeUtf8 site.bytes = some siteId ∧
      decodeUtf8 device.bytes = some deviceId ∧
      decodeUtf8 suffix.bytes = some (codes (TopicKind.text kind)) ∧
      kind.topic siteId deviceId = .ok value
  text : ∀ siteId deviceId kind value, decodeUtf8 site.bytes = some siteId →
    decodeUtf8 device.bytes = some deviceId →
    decodeUtf8 suffix.bytes = some (codes (TopicKind.text kind)) →
    kind.topic siteId deviceId = .ok value →
    decodeUtf8 (cText (iiotMakeTopic output site device suffix).2) = some value ∧
      parseTopic value = .ok ⟨siteId, deviceId, kind⟩

theorem topicText_terminated (site device suffix : CString) :
    ∀ byte ∈ topicText site device suffix, byte ≠ 0 := by
  have hroot : ∀ byte ∈ literalText "iiot/v1/", byte ≠ 0 := by decide +kernel
  have hslash : ∀ byte ∈ literalText "/", byte ≠ 0 := by decide +kernel
  intro byte hbyte
  simp only [topicText, List.mem_append] at hbyte
  rcases hbyte with ((((hbyte | hbyte) | hbyte) | hbyte) | hbyte) | hbyte
  · exact hroot byte hbyte
  · exact site.terminated byte hbyte
  · exact hslash byte hbyte
  · exact device.terminated byte hbyte
  · exact hslash byte hbyte
  · exact suffix.terminated byte hbyte

theorem sameTopic (output : Vector UInt8 iiotTopicMax) (site device suffix : CString) :
    SameTopic output site device suffix := by
  have hnames : ∀ siteId deviceId kind value, decodeUtf8 site.bytes = some siteId →
      decodeUtf8 device.bytes = some deviceId →
      decodeUtf8 suffix.bytes = some (codes (TopicKind.text kind)) →
      kind.topic siteId deviceId = .ok value →
      site.identifierIsValid = true ∧ device.identifierIsValid = true ∧
        (knownSuffixes.any fun known => suffix.bytes = literalText known) = true := by
    intro siteId deviceId kind value hsite hdevice hsuffix hvalue
    obtain ⟨hsitePattern, hdevicePattern, -⟩ := topic_ok_iff.mp hvalue
    exact ⟨(identifierIsValid_iff site).mpr ⟨siteId, hsite, hsitePattern⟩,
      (identifierIsValid_iff device).mpr ⟨deviceId, hdevice, hdevicePattern⟩,
      (suffix_known_iff suffix).mpr ⟨kind, hsuffix⟩⟩
  constructor
  · rw [iiotMakeTopic_iff, identifierIsValid_iff, identifierIsValid_iff, suffix_known_iff]
    constructor
    · rintro ⟨⟨siteId, hsite, hsitePattern⟩, ⟨deviceId, hdevice, hdevicePattern⟩, kind, hsuffix⟩
      exact ⟨siteId, deviceId, kind, _, hsite, hdevice, hsuffix,
        topic_ok_iff.mpr ⟨hsitePattern, hdevicePattern, rfl⟩⟩
    · rintro ⟨siteId, deviceId, kind, value, hsite, hdevice, hsuffix, hvalue⟩
      obtain ⟨hsitePattern, hdevicePattern, -⟩ := topic_ok_iff.mp hvalue
      exact ⟨⟨siteId, hsite, hsitePattern⟩, ⟨deviceId, hdevice, hdevicePattern⟩, kind, hsuffix⟩
  · intro siteId deviceId kind value hsite hdevice hsuffix hvalue
    obtain ⟨hsiteValid, hdeviceValid, hknown⟩ := hnames siteId deviceId kind value hsite hdevice
      hsuffix hvalue
    obtain ⟨hascii, htext⟩ := topicText_eq hsite hdevice hsuffix hvalue
    rw [iiotMakeTopic_eq output hsiteValid hdeviceValid hknown]
    dsimp only
    rw [cText_printText (length_topicText hsiteValid hdeviceValid hknown)
      (topicText_terminated site device suffix), htext]
    exact ⟨decodeUtf8_ascii hascii, parseTopic_topic hvalue⟩

/-- A topic whose identities match a payload is the one that is built from them. -/
theorem topic_of_payload {value : Text} {parsed : ParsedTopic} {scalars : PydanticScalars} {raw : Json}
    {siteId deviceId : String} (hparsed : parseTopic value = .ok parsed)
    (hpayload : PayloadIdentity scalars raw siteId deviceId) (hsite : codes siteId = parsed.siteId)
    (hdevice : codes deviceId = parsed.deviceId) :
    parsed.kind.topic parsed.siteId parsed.deviceId = .ok value := by
  obtain ⟨hsitePattern, hdevicePattern⟩ := hpayload.patterns
  rw [hsite] at hsitePattern
  rw [hdevice] at hdevicePattern
  exact topic_ok_iff.mpr ⟨hsitePattern, hdevicePattern, parseTopic_parts hparsed⟩

/-- One topic language in C and Python. -/
theorem topics_agree :
    (∀ output site device suffix, SameTopic output site device suffix) ∧
      ∀ value parsed scalars raw siteId deviceId, parseTopic value = .ok parsed →
        PayloadIdentity scalars raw siteId deviceId → codes siteId = parsed.siteId →
        codes deviceId = parsed.deviceId →
        parsed.kind.topic parsed.siteId parsed.deviceId = .ok value :=
  ⟨sameTopic, fun _ _ _ _ _ _ => topic_of_payload⟩

/-- An acknowledgement that the model accepts. -/
def publishedAck : Json :=
  .object
    [(codes "schema_version", naturalJson 1),
      (codes "message_id", textJson "12345678-1234-4234-8234-123456789abc"),
      (codes "command_id", textJson "12345678-1234-4234-8234-123456789abd"),
      (codes "site_id", textJson "site-1"),
      (codes "device_id", textJson "motor-1"),
      (codes "device_time", .null),
      (codes "status", textJson "completed"),
      (codes "result_code", textJson "RELAY_ON"),
      (codes "relay_on", .bool true)]

theorem publishedAck_identity : PayloadIdentity strictScalars publishedAck "site-1" "motor-1" :=
  .commandAck
    { messageId := "12345678-1234-4234-8234-123456789abc"
      commandId := "12345678-1234-4234-8234-123456789abd"
      siteId := "site-1"
      deviceId := "motor-1"
      deviceTime := none
      status := .completed
      resultCode := "RELAY_ON"
      detail := none
      relayOn := true }
    (by decide +kernel)

theorem topics_agree_sample :
    parseTopic (codes "iiot/v1/site-1/motor-1/command-acks") =
        .ok ⟨codes "site-1", codes "motor-1", .commandAcks⟩ ∧
      TopicKind.commandAcks.topic (codes "site-1") (codes "motor-1") =
        .ok (codes "iiot/v1/site-1/motor-1/command-acks") := by
  have hparsed : parseTopic (codes "iiot/v1/site-1/motor-1/command-acks") =
      .ok ⟨codes "site-1", codes "motor-1", .commandAcks⟩ := by decide
  exact ⟨hparsed, topics_agree.2 _ _ strictScalars publishedAck "site-1" "motor-1" hparsed
    publishedAck_identity rfl rfl⟩

end IiotMonitoring
