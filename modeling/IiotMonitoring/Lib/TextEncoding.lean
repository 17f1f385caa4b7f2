import IiotMonitoring.Lib.JsonReadBack

/-!
# From bytes to JSON

`json.loads` of bytes: the encoding is told from a byte order mark or from where the first bytes are
zero, and surrogates are let through (`surrogatepass`).
-/

namespace IiotMonitoring

inductive TextEncoding where
  | utf8
  | utf16 (bigEndian : Bool)
  | utf32 (bigEndian : Bool)
  deriving DecidableEq, Repr

/-- `detect_encoding`, and the length of the byte order mark. -/
def detectEncoding (bytes : List UInt8) : TextEncoding × Nat :=
  if [0x00, 0x00, 0xfe, 0xff].isPrefixOf bytes then (.utf32 true, 4)
  else if [0xff, 0xfe, 0x00, 0x00].isPrefixOf bytes then (.utf32 false, 4)
  else if [0xfe, 0xff].isPrefixOf bytes then (.utf16 true, 2)
  else if [0xff, 0xfe].isPrefixOf bytes then (.utf16 false, 2)
  else if [0xef, 0xbb, 0xbf].isPrefixOf bytes then (.utf8, 3)
  else
    match bytes with
    | a :: b :: c :: d :: _ =>
        if a = 0 then (if b = 0 then .utf32 true else .utf16 true, 0)
        else if b = 0 then (if c = 0 ∧ d = 0 then .utf32 false else .utf16 false, 0)
        else (.utf8, 0)
    | [a, b] => (if a = 0 then .utf16 true else if b = 0 then .utf16 false else .utf8, 0)
    | _ => (.utf8, 0)

def isContinuation (byte : UInt8) : Bool := 0x80 ≤ byte && byte < 0xc0

def decodeUtf8 : List UInt8 → Option Text
  | [] => some []
  | a :: rest =>
      if a < 0x80 then (decodeUtf8 rest).map (a.toNat :: ·)
      else
        match rest with
        | [] => none
        | b :: rest =>
            if !isContinuation b then none
            else if 0xc2 ≤ a ∧ a < 0xe0 then
              (decodeUtf8 rest).map ((64 * (a.toNat % 32) + b.toNat % 64) :: ·)
            else
              match rest with
              | [] => none
              | c :: rest =>
                  let code := 4096 * (a.toNat % 16) + 64 * (b.toNat % 64) + c.toNat % 64
                  if !isContinuation c then none
                  else if 0xe0 ≤ a ∧ a < 0xf0 then
                    if code < 0x800 then none else (decodeUtf8 rest).map (code :: ·)
                  else
                    match rest with
                    | [] => none
                    | d :: rest =>
                        let code := 262144 * (a.toNat % 8) + 4096 * (b.toNat % 64) +
                          64 * (c.toNat % 64) + d.toNat % 64
                        if !isContinuation d ∨ a < 0xf0 ∨ 0xf5 ≤ a ∨ code < 0x10000 ∨ 0x10ffff < code
                        then none
                        else (decodeUtf8 rest).map (code :: ·)

/-- The code units of UTF-16. -/
def decodeUnits (bigEndian : Bool) : List UInt8 → Option (List Nat)
  | [] => some []
  | [_] => none
  | a :: b :: rest =>
      let unit := if bigEndian then 256 * a.toNat + b.toNat else 256 * b.toNat + a.toNat
      (decodeUnits bigEndian rest).map (unit :: ·)

def joinCodeUnits : List Nat → Text
  | [] => []
  | [unit] => [unit]
  | unit :: next :: units =>
      if isHighSurrogate unit && isLowSurrogate next then
        joinSurrogates unit next :: joinCodeUnits units
      else
        unit :: joinCodeUnits (next :: units)

def decodeUtf32 (bigEndian : Bool) : List UInt8 → Option Text
  | [] => some []
  | a :: b :: c :: d :: rest =>
      let code :=
        if bigEndian then 16777216 * a.toNat + 65536 * b.toNat + 256 * c.toNat + d.toNat
        else 16777216 * d.toNat + 65536 * c.toNat + 256 * b.toNat + a.toNat
      if 0x10ffff < code then none else (decodeUtf32 bigEndian rest).map (code :: ·)
  | _ => none

/-- `s.decode(detect_encoding(s), "surrogatepass")`. -/
def decodeText (bytes : List UInt8) : Option Text :=
  let rest := bytes.drop (detectEncoding bytes).2
  match (detectEncoding bytes).1 with
  | .utf8 => decodeUtf8 rest
  | .utf16 bigEndian => (decodeUnits bigEndian rest).map joinCodeUnits
  | .utf32 bigEndian => decodeUtf32 bigEndian rest

/-- `json.loads`. A `UnicodeDecodeError` counts as malformed. -/
def jsonLoads (limits : JsonLimits) (bytes : List UInt8) : Except JsonError Json :=
  match decodeText bytes with
  | none => .error .malformed
  | some text => parseJson limits text

/-! ### ASCII -/

def plainBytes (text : Text) : List UInt8 := text.map UInt8.ofNat

theorem plainBytes_append (left right : Text) :
    plainBytes (left ++ right) = plainBytes left ++ plainBytes right := List.map_append

theorem length_plainBytes (text : Text) : (plainBytes text).length = text.length := List.length_map _

theorem plainBytes_toNat (bytes : List UInt8) : plainBytes (bytes.map UInt8.toNat) = bytes := by
  unfold plainBytes
  rw [List.map_map]
  calc bytes.map (UInt8.ofNat ∘ UInt8.toNat) = bytes.map id :=
        List.map_congr_left fun byte _ => UInt8.ofNat_toNat
    _ = bytes := List.map_id bytes

theorem toNat_plainBytes {text : Text} (hascii : ∀ code ∈ text, code < 128) :
    (plainBytes text).map UInt8.toNat = text := by
  unfold plainBytes
  rw [List.map_map]
  calc text.map (UInt8.toNat ∘ UInt8.ofNat) = text.map id := by
        apply List.map_congr_left
        intro code hcode
        have hsmall := hascii code hcode
        rw [Function.comp_apply, UInt8.toNat_ofNat', id]
        omega
    _ = text := List.map_id text

theorem decodeUtf8_ascii {text : Text} (hascii : ∀ code ∈ text, code < 128) :
    decodeUtf8 (plainBytes text) = some text := by
  induction text with
  | nil => rfl
  | cons code text ih =>
      have hsmall := hascii code List.mem_cons_self
      have htail := ih fun code' hcode' => hascii code' (.tail _ hcode')
      have hcode : (UInt8.ofNat code).toNat = code := by
        rw [UInt8.toNat_ofNat']
        omega
      have hbyte : UInt8.ofNat code < 0x80 := by
        rw [UInt8.lt_iff_toNat_lt, hcode]
        exact hsmall
      unfold plainBytes at htail ⊢
      rw [List.map_cons]
      unfold decodeUtf8
      rw [if_pos hbyte, htail, hcode]
      rfl

theorem byte_plain {code : Nat} (hlow : 32 ≤ code) (hhigh : code ≤ 126) :
    UInt8.ofNat code ≠ 0 ∧ UInt8.ofNat code ≠ 0xef ∧ UInt8.ofNat code ≠ 0xfe ∧
      UInt8.ofNat code ≠ 0xff := by
  have hcode : (UInt8.ofNat code).toNat = code := by
    rw [UInt8.toNat_ofNat']
    omega
  refine ⟨?_, ?_, ?_, ?_⟩
  all_goals
    intro hsame
    have hvalue := congrArg UInt8.toNat hsame
    rw [hcode] at hvalue
    simp at hvalue
    omega

/-- No signature starts with a plain character. -/
theorem detectEncoding_ascii {text : Text} (hplain : Plain text) :
    detectEncoding (plainBytes text) = (.utf8, 0) := by
  unfold plainBytes detectEncoding
  cases text with
  | nil => rfl
  | cons a text =>
      obtain ⟨hzero, hsig, hbig, hlittle⟩ := byte_plain (hplain a (by simp)).1 (hplain a (by simp)).2
      have hother : ∀ {first : UInt8} {signature rest : List UInt8}, first ≠ UInt8.ofNat a →
          ¬ (first :: signature).isPrefixOf (UInt8.ofNat a :: rest) = true := by
        intro first signature rest hne
        simp [hne]
      rw [List.map_cons, if_neg (hother hzero.symm), if_neg (hother hlittle.symm),
        if_neg (hother hbig.symm), if_neg (hother hlittle.symm), if_neg (hother hsig.symm)]
      cases text with
      | nil => rfl
      | cons b text =>
          obtain ⟨hzero', -, -, -⟩ := byte_plain (hplain b (by simp)).1 (hplain b (by simp)).2
          rcases text with _ | ⟨c, _ | ⟨d, text⟩⟩
          · simp only [List.map_cons, List.map_nil, if_neg hzero, if_neg hzero']
          · rfl
          · simp only [List.map_cons, if_neg hzero, if_neg hzero']

/-- Plain text is read from its bytes as from its characters. -/
theorem jsonLoads_ascii (limits : JsonLimits) {text : Text} (hplain : Plain text) :
    jsonLoads limits (plainBytes text) = parseJson limits text := by
  have hascii : ∀ code ∈ text, code < 128 :=
    fun code hcode => Nat.lt_of_le_of_lt (hplain code hcode).2 (by decide)
  unfold jsonLoads decodeText
  rw [detectEncoding_ascii hplain]
  dsimp only
  rw [List.drop_zero, decodeUtf8_ascii hascii]

/-- Text that is ASCII has no other bytes. -/
theorem decodeUtf8_eq_ascii {bytes : List UInt8} {text : Text} (h : decodeUtf8 bytes = some text)
    (hascii : ∀ code ∈ text, code < 128) : bytes = plainBytes text := by
  have hlarge : ∀ {code : Nat} {rest : Option Text} {text : Text}, 128 ≤ code →
      rest.map (code :: ·) = some text → ¬ ∀ code ∈ text, code < 128 := by
    intro code rest text hcode h hascii
    obtain ⟨tail, -, rfl⟩ := Option.map_eq_some_iff.mp h
    exact absurd (hascii code List.mem_cons_self) (by omega)
  fun_induction decodeUtf8 bytes generalizing text with
  | case1 =>
      cases h
      rfl
  | case2 byte rest hbyte ih =>
      obtain ⟨tail, htail, rfl⟩ := Option.map_eq_some_iff.mp h
      have hrest := ih htail fun code hcode => hascii code (.tail _ hcode)
      unfold plainBytes at hrest ⊢
      rw [List.map_cons, UInt8.ofNat_toNat, ← hrest]
  | case5 a ha b rest hb hrange ih =>
      have hlow := UInt8.le_iff_toNat_le.mp hrange.1
      have hhigh := UInt8.lt_iff_toNat_lt.mp hrange.2
      simp only [UInt8.reduceToNat] at hlow hhigh
      exact absurd hascii (hlarge (by omega) h)
  | case9 a ha b hb htwo c rest hc hthree hcode ih =>
      exact absurd hascii (hlarge (by omega) h)
  | case12 a ha b hb htwo c hc hthree d rest hrange ih =>
      exact absurd hascii (hlarge (by omega) h)
  | _ => cases h

/-! ### Strings -/

theorem toList_loop (bytes : ByteArray) (index : Nat) (start : List UInt8) :
    ByteArray.toList.loop bytes index start = start.reverse ++ bytes.data.toList.drop index := by
  fun_induction ByteArray.toList.loop bytes index start with
  | case1 index start hindex ih =>
      have hsplit : bytes.data.toList.drop index =
          bytes.get! index :: bytes.data.toList.drop (index + 1) := by
        rw [List.drop_eq_getElem_cons (show index < bytes.data.toList.length from hindex)]
        congr
        exact (getElem!_pos bytes.data index hindex).symm
      rw [ih, hsplit, List.reverse_cons, List.append_assoc, List.singleton_append]
  | case2 index start hindex =>
      rw [List.drop_eq_nil_of_le (Nat.le_of_not_lt hindex), List.append_nil]

/-- A string of ASCII characters is stored as their codes. -/
theorem toUTF8_ascii {text : String} (hascii : ∀ code ∈ codes text, code < 128) :
    text.toUTF8.toList = plainBytes (codes text) := by
  have hchar : ∀ char ∈ text.toList, String.utf8EncodeChar char = [UInt8.ofNat char.toNat] := by
    intro char hchar
    have hsmall := hascii char.toNat (List.mem_map_of_mem hchar)
    unfold String.utf8EncodeChar
    exact if_pos (Nat.le_of_lt_succ hsmall)
  unfold String.toUTF8 codes plainBytes
  rw [← String.utf8Encode_toList, List.utf8Encode, List.map_map]
  calc (text.toList.flatMap String.utf8EncodeChar).toByteArray.toList
      = text.toList.flatMap String.utf8EncodeChar := by
        unfold ByteArray.toList
        rw [toList_loop, List.toList_data_toByteArray, List.reverse_nil, List.nil_append, List.drop_zero]
    _ = text.toList.flatMap fun char => [UInt8.ofNat char.toNat] := List.flatMap_congr hchar
    _ = text.toList.map (UInt8.ofNat ∘ Char.toNat) := List.map_eq_flatMap.symm

theorem toUTF8_ne_zero {text : String} (hplain : ∀ code ∈ codes text, 0 < code ∧ code < 128) :
    ∀ byte ∈ text.toUTF8.toList, byte ≠ 0 := by
  rw [toUTF8_ascii fun code hcode => (hplain code hcode).2]
  intro byte hbyte hzero
  obtain ⟨code, hcode, rfl⟩ := List.mem_map.mp hbyte
  have hvalue := congrArg UInt8.toNat hzero
  rw [UInt8.toNat_ofNat', UInt8.toNat_zero] at hvalue
  have hrange := hplain code hcode
  omega

end IiotMonitoring
