import IiotMonitoring.Lib.CFormat

/-!
# Documents that are written piece by piece

A text that is read as a value wherever it stands in a document, and how such texts are joined without
white space. The characters of a string stand for themselves.
-/

namespace IiotMonitoring

/-! ### Strings -/

/-- Characters that need no escape. -/
def CleanText (text : Text) : Prop := ∀ code ∈ text, 32 ≤ code ∧ code ≠ 34 ∧ code ≠ 92

instance (text : Text) : Decidable (CleanText text) :=
  inferInstanceAs (Decidable (∀ code ∈ text, _))

theorem plain_append {left right : Text} : Plain (left ++ right) ↔ Plain left ∧ Plain right :=
  List.forall_mem_append

def quoted (text : Text) : Text := 34 :: text ++ [34]

/-- Plain characters that need no escape. -/
def Verbatim (text : Text) : Prop := ∀ code ∈ text, 32 ≤ code ∧ code ≤ 126 ∧ code ≠ 34 ∧ code ≠ 92

instance (text : Text) : Decidable (Verbatim text) :=
  inferInstanceAs (Decidable (∀ code ∈ text, _))

theorem Verbatim.clean {text : Text} (h : Verbatim text) : CleanText text :=
  fun code hcode => ⟨(h code hcode).1, (h code hcode).2.2⟩

theorem Verbatim.plain {text : Text} (h : Verbatim text) : Plain text :=
  fun code hcode => ⟨(h code hcode).1, (h code hcode).2.1⟩

theorem scanUnits_clean {text : Text} (htext : CleanText text) (rest : Text) :
    scanUnits (text ++ 34 :: rest) = some (text.map (StringUnit.mk false), rest) := by
  induction text with
  | nil => simp [scanUnits]
  | cons code text ih =>
      obtain ⟨hlow, hquote, hbackslash⟩ := htext code List.mem_cons_self
      have htail := ih fun code' hcode' => htext code' (.tail _ hcode')
      rw [List.cons_append, scanUnits_plain hquote hbackslash hlow, htail]
      rfl

theorem joinUnits_unescaped (text : Text) : joinUnits (text.map (StringUnit.mk false)) = text := by
  induction text with
  | nil => rfl
  | cons code text ih =>
      cases text with
      | nil => rfl
      | cons next text =>
          rw [List.map_cons] at ih
          rw [List.map_cons, List.map_cons, joinUnits, ih]
          rfl

theorem scanString_clean {text : Text} (htext : CleanText text) (rest : Text) :
    scanString (text ++ 34 :: rest) = .ok (text, rest) := by
  unfold scanString
  rw [scanUnits_clean htext]
  dsimp only
  rw [joinUnits_unescaped]

/-! ### Values -/

/-- The text is read as the value, up to what follows it. -/
structure Written (limits : JsonLimits) (nesting : Nat) (text : Text) (value : Json) : Prop where
  head : ∃ code rest, text = code :: rest ∧ isSpace code = false ∧ code ≠ 93 ∧ code ≠ 125
  scan : ∀ fuel rest, EndsNumber rest → 2 * (text ++ rest).length < fuel →
    scanValue limits fuel nesting (text ++ rest) = .ok (value, rest)

section Values

variable {limits : JsonLimits} {nesting : Nat}

theorem Written.skipSpaces {text : Text} {value : Json} (h : Written limits nesting text value)
    (rest : Text) : skipSpaces (text ++ rest) = text ++ rest := by
  obtain ⟨code, text', rfl, hspace, -⟩ := h.head
  exact skipSpaces_of_head _ hspace

theorem written_literal {literal : Text} {value : Json} (hmem : (literal, value) ∈ literals) :
    Written limits nesting literal value := by
  constructor
  · simp only [literals, List.mem_cons, Prod.mk.injEq, List.not_mem_nil, or_false] at hmem
    rcases hmem with ⟨rfl, -⟩ | ⟨rfl, -⟩ | ⟨rfl, -⟩ | ⟨rfl, -⟩ | ⟨rfl, -⟩ | ⟨rfl, -⟩ <;>
      exact ⟨_, _, rfl, rfl, by decide, by decide⟩
  · intro fuel rest _ hfuel
    obtain ⟨fuel, rfl⟩ : ∃ fuel', fuel = fuel' + 1 := ⟨fuel - 1, by omega⟩
    exact scanValue_literal rest hmem

theorem written_bool (value : Bool) :
    Written limits nesting (codes (if value then "true" else "false")) (.bool value) := by
  cases value with
  | true => exact written_literal (by simp [literals])
  | false => exact written_literal (by simp [literals])

theorem written_number {number : JsonNumber} (hwithin : number.Within limits) :
    Written limits nesting number.print (.number number) := by
  constructor
  · have hprint := number.print_append []
    obtain ⟨digit, rest', htext⟩ := printNat_head number.whole
      (printFraction number.fraction ++ (printExponent number.exponent ++ []))
    rw [List.append_nil, htext] at hprint
    cases hnegative : number.negative with
    | true =>
        rw [hnegative] at hprint
        exact ⟨45, _, hprint, rfl, by decide, by decide⟩
    | false =>
        rw [hnegative] at hprint
        have hdigit : ∀ digit : Fin 10, isSpace (digitCode digit) = false ∧ digitCode digit ≠ 93 ∧
            digitCode digit ≠ 125 := by decide
        exact ⟨digitCode digit, _, hprint, hdigit digit⟩
  · intro fuel rest hrest hfuel
    obtain ⟨fuel, rfl⟩ : ∃ fuel', fuel = fuel' + 1 := ⟨fuel - 1, by omega⟩
    exact scanValue_number number hwithin hrest

theorem written_string {text : Text} (htext : CleanText text) :
    Written limits nesting (quoted text) (.string text) := by
  constructor
  · exact ⟨34, _, rfl, rfl, by decide, by decide⟩
  · intro fuel rest _ hfuel
    obtain ⟨fuel, rfl⟩ : ∃ fuel', fuel = fuel' + 1 := ⟨fuel - 1, by omega⟩
    unfold quoted
    rw [List.cons_append, List.cons_append, List.append_assoc, List.singleton_append]
    simp only [scanValue, scanString_clean htext]

/-! ### Arrays and objects -/

/-- Texts with commas between them. -/
def commaJoin (texts : List Text) : Text := [44].intercalate texts

theorem commaJoin_cons_cons (first second : Text) (texts : List Text) (rest : Text) :
    commaJoin (first :: second :: texts) ++ rest = first ++ 44 :: (commaJoin (second :: texts) ++ rest) := by
  unfold commaJoin
  rw [List.intercalate_cons_cons, List.append_assoc, List.append_assoc, List.singleton_append]

theorem commaJoin_singleton (text : Text) : commaJoin [text] = text := List.intercalate_singleton

theorem commaJoin_cons (text : Text) (texts : List Text) :
    commaJoin (text :: texts) = text ++ texts.flatMap (44 :: ·) := by
  induction texts generalizing text with
  | nil => rw [commaJoin_singleton, List.flatMap_nil, List.append_nil]
  | cons next texts ih =>
      have hjoined := commaJoin_cons_cons text next texts []
      rw [List.append_nil, List.append_nil, ih] at hjoined
      rw [hjoined, List.flatMap_cons, List.cons_append]

/-- What is joined starts as its first text. -/
theorem commaJoin_head {first : Text} {value : Json} (h : Written limits nesting first value)
    (texts : List Text) (rest : Text) : ∃ code more, commaJoin (first :: texts) ++ rest = code :: more ∧
      isSpace code = false ∧ code ≠ 93 ∧ code ≠ 125 := by
  obtain ⟨code, more, rfl, hcode⟩ := h.head
  cases texts with
  | nil => exact ⟨code, more ++ rest, by rw [commaJoin_singleton, List.cons_append], hcode⟩
  | cons second texts => exact ⟨code, _, by rw [commaJoin_cons_cons, List.cons_append], hcode⟩

theorem scanItems_written {items : List (Text × Json)} (hitems : items ≠ [])
    (hwritten : ∀ item ∈ items, Written limits nesting item.1 item.2) (rest : Text) (fuel : Nat)
    (hfuel : 2 * (commaJoin (items.map (·.1)) ++ 93 :: rest).length + 1 < fuel) :
    scanItems limits fuel nesting (commaJoin (items.map (·.1)) ++ 93 :: rest) =
      .ok (items.map (·.2), rest) := by
  induction items generalizing fuel with
  | nil => exact absurd rfl hitems
  | cons item items ih =>
      obtain ⟨fuel, rfl⟩ : ∃ fuel', fuel = fuel' + 1 := ⟨fuel - 1, by omega⟩
      have hitem := hwritten item List.mem_cons_self
      cases items with
      | nil =>
          rw [List.map_singleton, commaJoin_singleton] at hfuel ⊢
          exact scanItems_last (List.forall_mem_nil _)
            (hitem.scan fuel _ (endsNumber_of_head rest (by omega)) (by omega))
      | cons next items =>
          have hnext := hwritten next (.tail _ List.mem_cons_self)
          rw [List.map_cons, List.map_cons, commaJoin_cons_cons] at hfuel ⊢
          rw [List.length_append, List.length_cons] at hfuel
          have hfirst := hitem.scan fuel (44 :: (commaJoin (next.1 :: items.map (·.1)) ++ 93 :: rest))
            (endsNumber_of_head _ (by omega)) (by rw [List.length_append, List.length_cons]; omega)
          have hrest := ih (List.cons_ne_nil _ _) (fun other hother => hwritten other (.tail _ hother)) fuel
            (by rw [List.map_cons]; omega)
          have hskip : skipSpaces (commaJoin (next.1 :: items.map (·.1)) ++ 93 :: rest) =
              commaJoin (next.1 :: items.map (·.1)) ++ 93 :: rest := by
            obtain ⟨code, more, htext, hspace, -⟩ := commaJoin_head hnext (items.map (·.1)) (93 :: rest)
            rw [htext]
            exact skipSpaces_of_head more hspace
          exact scanItems_more (List.forall_mem_nil _) hfirst hskip hrest

theorem written_array {items : List (Text × Json)} (hitems : items ≠ [])
    (hwritten : ∀ item ∈ items, Written limits nesting item.1 item.2) :
    Written limits (nesting + 1) (91 :: commaJoin (items.map (·.1)) ++ [93])
      (.array (items.map (·.2))) := by
  constructor
  · exact ⟨91, _, rfl, rfl, by decide, by decide⟩
  · intro fuel rest _ hfuel
    obtain ⟨fuel, rfl⟩ : ∃ fuel', fuel = fuel' + 1 := ⟨fuel - 1, by omega⟩
    rw [List.cons_append, List.cons_append, List.append_assoc, List.singleton_append] at hfuel ⊢
    rw [List.length_cons] at hfuel
    have hread := scanItems_written hitems hwritten rest fuel (by omega)
    obtain ⟨item, items, rfl⟩ := List.exists_cons_of_ne_nil hitems
    rw [List.map_cons] at hread ⊢
    obtain ⟨code, more, htext, hspace, hclose, -⟩ :=
      commaJoin_head (hwritten item List.mem_cons_self) (items.map (·.1)) (93 :: rest)
    rw [htext] at hread ⊢
    exact scanValue_array (List.forall_mem_nil _) hspace hclose hread

theorem written_empty_array : Written limits (nesting + 1) [91, 93] (.array []) := by
  constructor
  · exact ⟨91, _, rfl, rfl, by decide, by decide⟩
  · intro fuel rest _ hfuel
    obtain ⟨fuel, rfl⟩ : ∃ fuel', fuel = fuel' + 1 := ⟨fuel - 1, by omega⟩
    simp [scanValue, skipSpaces, isSpace]

/-- A key and the text of its value. -/
def memberText (key text : Text) : Text := quoted key ++ 58 :: text

def objectText (members : List (Text × Text)) : Text :=
  123 :: commaJoin (members.map fun member => memberText member.1 member.2) ++ [125]

/-- A member of an object: its key, the text of its value, and the value. -/
structure WrittenMember where
  key : String
  text : Text
  value : Json

/-- The member is read. -/
structure WrittenMember.Reads (limits : JsonLimits) (nesting : Nat) (member : WrittenMember) : Prop where
  key : CleanText (codes member.key) ∧ Plain (codes member.key)
  value : Written limits nesting member.text member.value

namespace WrittenMember

def string (key : String) (text : Text) : WrittenMember := ⟨key, quoted text, .string text⟩

def natural (key : String) (number : Nat) : WrittenMember := ⟨key, printNat number, .number (.ofNat number)⟩

def bool (key : String) (value : Bool) : WrittenMember :=
  ⟨key, codes (if value then "true" else "false"), .bool value⟩

def object (key : String) (members : List WrittenMember) : WrittenMember :=
  ⟨key, objectText (members.map fun member => (codes member.key, member.text)),
    .object (members.map fun member => (codes member.key, member.value))⟩

end WrittenMember

/-- No character of the key is escaped. -/
theorem printString_clean {text : Text} (hclean : CleanText text) (hplain : Plain text) :
    printString text = quoted text := by
  have hself : text.flatMap escapeCode = text := by
    calc text.flatMap escapeCode = text.flatMap fun code => [code] := by
          apply List.flatMap_congr
          intro code hcode
          obtain ⟨hlow, hquote, hbackslash⟩ := hclean code hcode
          have hhigh := (hplain code hcode).2
          unfold escapeCode
          rw [if_neg (by omega), if_neg (by omega), if_neg (by omega), if_neg (by omega),
            if_neg (by omega), if_neg (by omega), if_pos ⟨hlow, hhigh⟩]
      _ = text := List.flatMap_singleton' text
  unfold printString quoted
  rw [hself]

theorem Verbatim.print {text : Text} (h : Verbatim text) : printString text = quoted text :=
  printString_clean h.clean h.plain

theorem Verbatim.length_print {text : Text} (h : Verbatim text) :
    (printString text).length = text.length + 2 := by
  rw [h.print, quoted, List.length_append, List.length_cons, List.length_singleton]

/-- Members start with the quote of a key. -/
theorem members_head (key text : Text) (texts : List Text) (rest : Text) :
    ∃ more, commaJoin (memberText key text :: texts) ++ rest = 34 :: more := by
  cases texts with
  | nil => exact ⟨_, by rw [commaJoin_singleton]; rfl⟩
  | cons second texts => exact ⟨_, by rw [commaJoin_cons_cons]; rfl⟩

theorem scanMembers_written {members : List WrittenMember} (hmembers : members ≠ [])
    (hreads : ∀ member ∈ members, member.Reads limits nesting) (rest : Text) (fuel : Nat)
    (hfuel : 2 * (commaJoin (members.map fun member => memberText (codes member.key) member.text) ++
      125 :: rest).length + 1 < fuel) :
    scanMembers limits fuel nesting
        (commaJoin (members.map fun member => memberText (codes member.key) member.text) ++ 125 :: rest) =
      .ok (members.map fun member => (codes member.key, member.value), rest) := by
  induction members generalizing fuel with
  | nil => exact absurd rfl hmembers
  | cons member members ih =>
      obtain ⟨fuel, rfl⟩ : ∃ fuel', fuel = fuel' + 1 := ⟨fuel - 1, by omega⟩
      obtain ⟨⟨hclean, hplain⟩, hvalue⟩ := hreads member List.mem_cons_self
      have hkey : ∀ after, memberText (codes member.key) member.text ++ after =
          printString (codes member.key) ++ 58 :: ([] ++ (member.text ++ after)) := by
        intro after
        unfold memberText
        rw [printString_clean hclean hplain, List.append_assoc, List.cons_append, List.nil_append]
      cases members with
      | nil =>
          rw [List.map_singleton, commaJoin_singleton, hkey] at hfuel ⊢
          rw [List.length_append, List.length_cons, List.nil_append] at hfuel
          exact scanMembers_last hplain.isUnicode (List.forall_mem_nil _) (hvalue.skipSpaces _)
            (List.forall_mem_nil _) (hvalue.scan fuel _ (endsNumber_of_head rest (by omega)) (by omega))
      | cons next members =>
          rw [List.map_cons, List.map_cons, commaJoin_cons_cons, hkey] at hfuel ⊢
          rw [List.length_append, List.length_cons, List.nil_append, List.length_append,
            List.length_cons] at hfuel
          have hfirst := hvalue.scan fuel (44 :: (commaJoin (memberText (codes next.key) next.text ::
            members.map fun member => memberText (codes member.key) member.text) ++ 125 :: rest))
            (endsNumber_of_head _ (by omega)) (by rw [List.length_append, List.length_cons]; omega)
          have hrest := ih (List.cons_ne_nil _ _) (fun other hother => hreads other (.tail _ hother)) fuel
            (by rw [List.map_cons]; omega)
          have hskip : skipSpaces (commaJoin (memberText (codes next.key) next.text ::
              members.map fun member => memberText (codes member.key) member.text) ++ 125 :: rest) =
              commaJoin (memberText (codes next.key) next.text ::
                members.map fun member => memberText (codes member.key) member.text) ++ 125 :: rest := by
            obtain ⟨more, htext⟩ := members_head (codes next.key) next.text
              (members.map fun member => memberText (codes member.key) member.text) (125 :: rest)
            rw [htext]
            exact skipSpaces_of_head more rfl
          exact scanMembers_more hplain.isUnicode (List.forall_mem_nil _) (hvalue.skipSpaces _)
            (List.forall_mem_nil _) hfirst hskip hrest

theorem written_object {members : List WrittenMember} (hmembers : members ≠ [])
    (hreads : ∀ member ∈ members, member.Reads limits nesting) :
    Written limits (nesting + 1)
      (objectText (members.map fun member => (codes member.key, member.text)))
      (.object (members.map fun member => (codes member.key, member.value))) := by
  unfold objectText
  rw [List.map_map]
  change Written limits (nesting + 1) (123 :: commaJoin
    (members.map fun member => memberText (codes member.key) member.text) ++ [125]) _
  constructor
  · exact ⟨123, _, rfl, rfl, by decide, by decide⟩
  · intro fuel rest _ hfuel
    obtain ⟨fuel, rfl⟩ : ∃ fuel', fuel = fuel' + 1 := ⟨fuel - 1, by omega⟩
    rw [List.cons_append, List.cons_append, List.append_assoc, List.singleton_append] at hfuel ⊢
    rw [List.length_cons] at hfuel
    have hread := scanMembers_written hmembers hreads rest fuel (by omega)
    obtain ⟨member, members, rfl⟩ := List.exists_cons_of_ne_nil hmembers
    rw [List.map_cons] at hread ⊢
    obtain ⟨more, htext⟩ := members_head (codes member.key) member.text
      (members.map fun member => memberText (codes member.key) member.text) (125 :: rest)
    rw [htext] at hread ⊢
    exact scanValue_object (List.forall_mem_nil _) rfl (by omega) hread

theorem reads_string {key : String} {text : Text} (hkey : CleanText (codes key) ∧ Plain (codes key))
    (htext : CleanText text) : (WrittenMember.string key text).Reads limits nesting :=
  ⟨hkey, written_string htext⟩

theorem reads_natural {key : String} {number width : Nat}
    (hkey : CleanText (codes key) ∧ Plain (codes key)) (hwidth : 1 ≤ width) (hnumber : number < 10 ^ width)
    (hlimits : width ≤ limits.digits) : (WrittenMember.natural key number).Reads limits nesting := by
  have hwithin : (JsonNumber.ofNat number).Within limits := fun _ =>
    (length_decimalDigits_le hwidth hnumber).trans hlimits
  have hwritten := @written_number limits nesting _ hwithin
  have hprint : (JsonNumber.ofNat number).print = printNat number := by
    simp [JsonNumber.ofNat, JsonNumber.print]
  rw [hprint] at hwritten
  exact ⟨hkey, hwritten⟩

theorem reads_bool {key : String} {value : Bool} (hkey : CleanText (codes key) ∧ Plain (codes key)) :
    (WrittenMember.bool key value).Reads limits nesting :=
  ⟨hkey, written_bool value⟩

theorem reads_object {key : String} {members : List WrittenMember}
    (hkey : CleanText (codes key) ∧ Plain (codes key)) (hmembers : members ≠ [])
    (hreads : ∀ member ∈ members, member.Reads limits nesting) :
    (WrittenMember.object key members).Reads limits (nesting + 1) :=
  ⟨hkey, written_object hmembers hreads⟩

/-- A written text is a document. -/
theorem Written.parseJson {text : Text} {value : Json} (h : Written limits limits.nesting text value) :
    parseJson limits text = .ok value := by
  have hskip := h.skipSpaces []
  have hscan := h.scan (2 * text.length + 1) [] (by intro code hcode; cases hcode)
    (by rw [List.append_nil]; omega)
  rw [List.append_nil] at hskip hscan
  unfold IiotMonitoring.parseJson
  rw [hskip, hscan]
  rfl

end Values

/-! ### Characters in bytes -/

/-- Bytes that stand for no character that needs an escape. -/
def CleanBytes (bytes : List UInt8) : Prop := ∀ byte ∈ bytes, 32 ≤ byte ∧ byte ≠ 34 ∧ byte ≠ 92

instance (bytes : List UInt8) : Decidable (CleanBytes bytes) :=
  inferInstanceAs (Decidable (∀ byte ∈ bytes, _))

/-- A decoding of bytes that agrees with ASCII. -/
structure CharacterDecoding where
  decode : List UInt8 → Option Text
  append : ∀ first second firstText secondText, decode first = some firstText →
    decode second = some secondText → decode (first ++ second) = some (firstText ++ secondText)
  ascii : ∀ text : Text, (∀ code ∈ text, code < 128) → decode (plainBytes text) = some text
  clean : ∀ bytes text, CleanBytes bytes → decode bytes = some text → CleanText text

theorem CharacterDecoding.plain (decoding : CharacterDecoding) {text : Text} (h : Plain text) :
    decoding.decode (plainBytes text) = some text :=
  decoding.ascii text fun code hcode => Nat.lt_of_le_of_lt (h code hcode).2 (by decide)

def byteCodes (bytes : List UInt8) : Text := bytes.map UInt8.toNat

theorem CleanBytes.byteCodes {bytes : List UInt8} (h : CleanBytes bytes) :
    CleanText (byteCodes bytes) := by
  intro code hcode
  obtain ⟨byte, hbyte, rfl⟩ := List.mem_map.mp hcode
  obtain ⟨hlow, hquote, hbackslash⟩ := h byte hbyte
  exact ⟨UInt8.le_iff_toNat_le.mp hlow, fun hsame => hquote (UInt8.toNat_inj.mp hsame),
    fun hsame => hbackslash (UInt8.toNat_inj.mp hsame)⟩

/-- Each byte is a character. -/
def byteDecoding : CharacterDecoding where
  decode bytes := some (byteCodes bytes)
  append first second firstText secondText hfirst hsecond := by
    obtain rfl := Option.some.inj hfirst
    obtain rfl := Option.some.inj hsecond
    exact congrArg some List.map_append
  ascii text htext := congrArg some (toNat_plainBytes htext)
  clean bytes text hbytes htext := by
    obtain rfl := Option.some.inj htext
    exact hbytes.byteCodes

/-- The bytes of one character, and how they are read before more bytes. -/
structure SpellsUtf8 (bytes : List UInt8) (code : Nat) : Prop where
  nonempty : bytes ≠ []
  read : ∀ rest, decodeUtf8 (bytes ++ rest) = (decodeUtf8 rest).map (code :: ·)
  clean : CleanBytes bytes → 32 ≤ code ∧ code ≠ 34 ∧ code ≠ 92

theorem large_clean {code : Nat} (h : 128 ≤ code) : 32 ≤ code ∧ code ≠ 34 ∧ code ≠ 92 := by omega

theorem decodeUtf8_step {bytes : List UInt8} {text : Text} (h : decodeUtf8 bytes = some text) :
    (bytes = [] ∧ text = []) ∨ ∃ first rest code text', bytes = first ++ rest ∧ text = code :: text' ∧
      SpellsUtf8 first code ∧ decodeUtf8 rest = some text' := by
  revert h
  fun_cases decodeUtf8 bytes
  case case1 => exact fun h => .inl ⟨rfl, (Option.some.inj h).symm⟩
  case case2 a rest ha =>
    intro h
    obtain ⟨text', hrest, rfl⟩ := Option.map_eq_some_iff.mp h
    refine .inr ⟨[a], rest, a.toNat, text', rfl, rfl, ⟨List.cons_ne_nil _ _, ?_, ?_⟩, hrest⟩
    · intro more
      rw [List.singleton_append]
      conv_lhs => unfold decodeUtf8
      rw [if_pos ha]
    · intro hclean
      exact hclean.byteCodes a.toNat (List.mem_map_of_mem List.mem_cons_self)
  case case5 a ha b rest hb htwo =>
    intro h
    obtain ⟨text', hrest, rfl⟩ := Option.map_eq_some_iff.mp h
    refine .inr ⟨[a, b], rest, _, text', rfl, rfl, ⟨List.cons_ne_nil _ _, ?_, ?_⟩, hrest⟩
    · intro more
      rw [List.cons_append, List.singleton_append]
      conv_lhs => unfold decodeUtf8
      simp only [if_neg ha, if_neg hb, if_pos htwo]
    · intro _
      have hlow : 194 ≤ a.toNat := UInt8.le_iff_toNat_le.mp htwo.1
      have hhigh : a.toNat < 224 := UInt8.lt_iff_toNat_lt.mp htwo.2
      apply large_clean
      omega
  case case9 a ha b hb htwo c rest code hc hthree hcode =>
    intro h
    obtain ⟨text', hrest, rfl⟩ := Option.map_eq_some_iff.mp h
    refine .inr ⟨[a, b, c], rest, code, text', rfl, rfl, ⟨List.cons_ne_nil _ _, ?_, ?_⟩, hrest⟩
    · intro more
      rw [List.cons_append, List.cons_append, List.singleton_append]
      conv_lhs => unfold decodeUtf8
      simp only [if_neg ha, if_neg hb, if_neg htwo, if_neg hc, if_pos hthree]
      exact if_neg hcode
    · intro _
      apply large_clean
      omega
  case case12 a ha b hb htwo c hc hthree d rest code hfour =>
    intro h
    obtain ⟨text', hrest, rfl⟩ := Option.map_eq_some_iff.mp h
    refine .inr ⟨[a, b, c, d], rest, code, text', rfl, rfl, ⟨List.cons_ne_nil _ _, ?_, ?_⟩, hrest⟩
    · intro more
      rw [List.cons_append, List.cons_append, List.cons_append, List.singleton_append]
      conv_lhs => unfold decodeUtf8
      simp only [if_neg ha, if_neg hb, if_neg htwo, if_neg hc, if_neg hthree]
      exact if_neg hfour
    · intro _
      apply large_clean
      by_contra hsmall
      exact hfour (.inr (.inr (.inr (.inl (by omega)))))
  all_goals
    intro h
    cases h

theorem byteDecoding_decode (bytes : List UInt8) :
    byteDecoding.decode bytes = some (byteCodes bytes) := rfl

theorem decodeUtf8_append {first second : List UInt8} {firstText secondText : Text}
    (hfirst : decodeUtf8 first = some firstText) (hsecond : decodeUtf8 second = some secondText) :
    decodeUtf8 (first ++ second) = some (firstText ++ secondText) := by
  induction firstText generalizing first with
  | nil =>
      rcases decodeUtf8_step hfirst with ⟨rfl, -⟩ | ⟨_, _, _, _, -, hcons, -⟩
      · exact hsecond
      · cases hcons
  | cons code firstText ih =>
      rcases decodeUtf8_step hfirst with ⟨-, hnil⟩ | ⟨character, rest, _, _, rfl, hcons, hspells, hrest⟩
      · cases hnil
      · obtain ⟨rfl, rfl⟩ := List.cons.inj hcons
        rw [List.append_assoc, hspells.read, ih hrest]
        rfl

theorem decodeUtf8_clean {bytes : List UInt8} {text : Text} (hbytes : CleanBytes bytes)
    (h : decodeUtf8 bytes = some text) : CleanText text := by
  induction text generalizing bytes with
  | nil => exact List.forall_mem_nil _
  | cons code text ih =>
      rcases decodeUtf8_step h with ⟨-, hnil⟩ | ⟨character, rest, _, _, rfl, hcons, hspells, hrest⟩
      · cases hnil
      · obtain ⟨rfl, rfl⟩ := List.cons.inj hcons
        have hclean := List.forall_mem_append.mp hbytes
        exact List.forall_mem_cons.mpr ⟨hspells.clean hclean.1, ih hclean.2 hrest⟩

/-- `bytes.decode("utf-8", "surrogatepass")`. -/
def utf8Decoding : CharacterDecoding where
  decode := decodeUtf8
  append _ _ _ _ := decodeUtf8_append
  ascii _ := decodeUtf8_ascii
  clean _ _ := decodeUtf8_clean

theorem utf8Decoding_decode : utf8Decoding.decode = decodeUtf8 := rfl

end IiotMonitoring
