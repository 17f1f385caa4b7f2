import Mathlib.Data.Nat.Digits.Lemmas
import Mathlib.Data.Rat.Defs

/-!
# JSON documents

Values, and the compact text that `json.dumps(value, separators=(",", ":"))` gives them. A text is a
list of code points, so that a lone surrogate, which an escape can denote, is a character like any
other. A number is kept as it is written.
-/

namespace IiotMonitoring

/-- A string of code points. -/
abbrev Text : Type := List Nat

def codes (value : String) : Text := value.toList.map Char.toNat

/-- Without surrogates. -/
def isUnicode (text : Text) : Bool := text.all fun code => decide code.isValidChar

theorem isUnicode_codes (string : String) : isUnicode (codes string) = true := by
  unfold isUnicode codes
  rw [List.all_map, List.all_eq_true]
  intro char _
  rw [Function.comp_apply, decide_eq_true_eq]
  exact char.valid

theorem codes_ofList {text : Text} (h : isUnicode text = true) :
    codes (String.ofList (text.map Char.ofNat)) = text := by
  unfold isUnicode at h
  rw [List.all_eq_true] at h
  unfold codes
  rw [String.toList_ofList, List.map_map]
  calc text.map (Char.toNat ∘ Char.ofNat) = text.map id := by
        apply List.map_congr_left
        intro code hcode
        have hvalid := h code hcode
        rw [decide_eq_true_eq] at hvalid
        unfold Char.ofNat
        rw [Function.comp_apply, dif_pos hvalid]
        rfl
    _ = text := List.map_id text

theorem codes_injective : Function.Injective codes := by
  intro left right h
  unfold codes at h
  apply String.toList_inj.mp
  apply List.map_injective_iff.mpr _ h
  intro a b hab
  exact Char.toNat_inj.mp hab

/-- The string of a text. -/
def textString (text : Text) : Option String :=
  if isUnicode text then some (String.ofList (text.map Char.ofNat)) else none

theorem textString_iff {text : Text} {string : String} :
    textString text = some string ↔ text = codes string := by
  unfold textString
  constructor
  · intro h
    obtain ⟨hunicode, rfl⟩ := Option.ite_some_none_eq_some.mp h
    exact (codes_ofList hunicode).symm
  · rintro rfl
    rw [if_pos (isUnicode_codes string)]
    exact congrArg some (codes_injective (codes_ofList (isUnicode_codes string)))

theorem length_codes (string : String) : (codes string).length = string.length := by
  unfold codes
  rw [List.length_map, String.length_toList]

/-! ### Values -/

/-- One or more decimal digits. -/
structure Digits where
  head : Fin 10
  tail : List (Fin 10)
  deriving DecidableEq, Repr

/-- `sign` is `some true` for a minus and `some false` for a plus. -/
structure JsonExponent where
  capital : Bool
  sign : Option Bool
  digits : Digits
  deriving DecidableEq, Repr

/-- A number as written. The whole part has no leading zeros. -/
structure JsonNumber where
  negative : Bool
  whole : Nat
  fraction : Option Digits
  exponent : Option JsonExponent
  deriving DecidableEq, Repr

/-- The literals that are not in the grammar of JSON, and that `json` reads and writes. -/
inductive NonFinite where
  | nan | infinity | negativeInfinity
  deriving DecidableEq, Repr

inductive Json where
  | null
  | bool (value : Bool)
  | number (number : JsonNumber)
  | nonFinite (literal : NonFinite)
  | string (text : Text)
  | array (items : List Json)
  | object (members : List (Text × Json))

namespace Digits

def toList (digits : Digits) : List (Fin 10) := digits.head :: digits.tail

/-- The number the digits denote. -/
def value (digits : Digits) : Nat :=
  digits.toList.foldl (fun (number : Nat) (digit : Fin 10) => 10 * number + digit) 0

end Digits

namespace JsonExponent

def value (exponent : JsonExponent) : Int :=
  if exponent.sign = some true then -(exponent.digits.value : Int) else exponent.digits.value

end JsonExponent

namespace JsonNumber

def ofNat (value : Nat) : JsonNumber := ⟨false, value, none, none⟩

/-- Written without fraction and exponent. -/
def isInteger (number : JsonNumber) : Bool := number.fraction.isNone && number.exponent.isNone

def value (number : JsonNumber) : ℚ :=
  let fraction : ℚ :=
    match number.fraction with
    | none => 0
    | some digits => (digits.value : ℚ) / 10 ^ digits.toList.length
  let exponent : Int := (number.exponent.map JsonExponent.value).getD 0
  (if number.negative then -1 else 1) * (number.whole + fraction) * (10 : ℚ) ^ exponent

end JsonNumber

/-! ### Text -/

def digitCode (digit : Fin 10) : Nat := 48 + digit

/-- The decimal digits of a number, most significant first. -/
def decimalDigits (value : Nat) : List Nat :=
  if value = 0 then [0] else (Nat.digits 10 value).reverse

def printNat (value : Nat) : Text := (decimalDigits value).map (48 + ·)

def Digits.print (digits : Digits) : Text := digits.toList.map digitCode

def JsonExponent.print (exponent : JsonExponent) : Text :=
  (if exponent.capital then 69 else 101) ::
    match exponent.sign with
    | none => exponent.digits.print
    | some negative => (if negative then 45 else 43) :: exponent.digits.print

def JsonNumber.print (number : JsonNumber) : Text :=
  (if number.negative then [45] else []) ++ printNat number.whole ++
    (match number.fraction with
    | none => []
    | some digits => 46 :: digits.print) ++
    match number.exponent with
    | none => []
    | some exponent => exponent.print

def NonFinite.print : NonFinite → Text
  | nan => codes "NaN"
  | infinity => codes "Infinity"
  | negativeInfinity => codes "-Infinity"

def hexCode (digit : Nat) : Nat := if digit < 10 then 48 + digit else 87 + digit

/-- The escape `\u` of a code unit, in four hexadecimal digits. -/
def escapeUnit (unit : Nat) : Text :=
  [92, 117, hexCode (unit / 4096 % 16), hexCode (unit / 256 % 16), hexCode (unit / 16 % 16),
    hexCode (unit % 16)]

/-- A code point inside a string, in ASCII. -/
def escapeCode (code : Nat) : Text :=
  if code = 34 ∨ code = 92 then [92, code]
  else if code = 8 then [92, 98]
  else if code = 9 then [92, 116]
  else if code = 10 then [92, 110]
  else if code = 12 then [92, 102]
  else if code = 13 then [92, 114]
  else if 32 ≤ code ∧ code ≤ 126 then [code]
  else if code < 0x10000 then escapeUnit code
  else
    escapeUnit (0xd800 + (code - 0x10000) / 1024) ++ escapeUnit (0xdc00 + (code - 0x10000) % 1024)

def printString (text : Text) : Text := 34 :: text.flatMap escapeCode ++ [34]

mutual

def Json.print : Json → Text
  | .null => codes "null"
  | .bool value => if value then codes "true" else codes "false"
  | .number number => number.print
  | .nonFinite literal => literal.print
  | .string text => printString text
  | .array items => 91 :: printItems items ++ [93]
  | .object members => 123 :: printMembers members ++ [125]

/-- Array items with commas between them. -/
def printItems : List Json → Text
  | [] => []
  | item :: items => item.print ++ printMoreItems items

def printMoreItems : List Json → Text
  | [] => []
  | item :: items => 44 :: item.print ++ printMoreItems items

def printMembers : List (Text × Json) → Text
  | [] => []
  | (key, value) :: members => printString key ++ 58 :: value.print ++ printMoreMembers members

def printMoreMembers : List (Text × Json) → Text
  | [] => []
  | (key, value) :: members =>
      44 :: printString key ++ 58 :: value.print ++ printMoreMembers members

end

example :
    (Json.object [(codes "a", .array [.number ⟨true, 0, some ⟨1, []⟩, none⟩, .null]),
      (codes "b\n", .string [0xe9, 0x1f600])]).print =
      codes "\x7b\"a\":[-0.1,null],\"b\\n\":\"\\u00e9\\ud83d\\ude00\"\x7d" := by
  decide

end IiotMonitoring
