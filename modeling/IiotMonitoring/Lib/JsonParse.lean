import IiotMonitoring.Lib.Json

/-!
# Reading JSON

The reader of Python's `json`: a recursive scanner over code points, after the bytes are decoded by the
encoding their first bytes show. Arrays and objects may nest up to a limit, beyond which
`RecursionError` is raised, and the digits of an integer are limited. The literals `NaN`, `Infinity`
and `-Infinity` are read. An object keeps the members of a repeated key; the last one counts.
-/

namespace IiotMonitoring

/-- Why a text is not read: `JSONDecodeError`, `RecursionError`, or the `ValueError` of an integer that
is too long. -/
inductive JsonError where
  | malformed | nesting | digits
  deriving DecidableEq, Repr

structure JsonLimits where
  nesting : Nat
  digits : Nat

/-- What is read, and the text that is left. -/
abbrev Scanned (α : Type) : Type := Except JsonError (α × Text)

/-! ### Tokens -/

def isSpace (code : Nat) : Bool := code = 32 || code = 9 || code = 10 || code = 13

def skipSpaces : Text → Text
  | [] => []
  | code :: rest => if isSpace code then skipSpaces rest else code :: rest

def readDigit (code : Nat) : Option (Fin 10) :=
  if h : 48 ≤ code ∧ code ≤ 57 then some ⟨code - 48, by omega⟩ else none

def scanDigitList : Text → List (Fin 10) × Text
  | [] => ([], [])
  | code :: rest =>
      match readDigit code with
      | none => ([], code :: rest)
      | some digit => (digit :: (scanDigitList rest).1, (scanDigitList rest).2)

/-- One or more digits. -/
def scanDigits (text : Text) : Option (Digits × Text) :=
  match scanDigitList text with
  | ([], _) => none
  | (head :: tail, rest) => some (⟨head, tail⟩, rest)

/-- The digits before the point: one zero, or more digits that do not start with one. -/
def scanWhole : Text → Option (Digits × Text)
  | 48 :: rest => some (⟨0, []⟩, rest)
  | text => scanDigits text

def scanFraction : Text → Option Digits × Text
  | 46 :: rest =>
      match scanDigits rest with
      | none => (none, 46 :: rest)
      | some (digits, rest') => (some digits, rest')
  | text => (none, text)

def scanSign : Text → Option Bool × Text
  | 43 :: rest => (some false, rest)
  | 45 :: rest => (some true, rest)
  | text => (none, text)

def scanExponent : Text → Option JsonExponent × Text
  | [] => (none, [])
  | code :: rest =>
      if code = 69 ∨ code = 101 then
        match scanDigits (scanSign rest).2 with
        | none => (none, code :: rest)
        | some (digits, rest') => (some ⟨code = 69, (scanSign rest).1, digits⟩, rest')
      else
        (none, code :: rest)

/-- A number after its sign. Without fraction and exponent it is an integer, whose digits are
limited. -/
def scanMagnitude (limits : JsonLimits) (negative : Bool) (text : Text) : Scanned Json :=
  match scanWhole text with
  | none => .error .malformed
  | some (whole, rest) =>
      let number : JsonNumber :=
        { negative := negative
          whole := whole.value
          fraction := (scanFraction rest).1
          exponent := (scanExponent (scanFraction rest).2).1 }
      if number.isInteger ∧ limits.digits < whole.toList.length then .error .digits
      else .ok (.number number, (scanExponent (scanFraction rest).2).2)

def scanNumber (limits : JsonLimits) : Text → Scanned Json
  | 45 :: rest => scanMagnitude limits true rest
  | text => scanMagnitude limits false text

def readHex (code : Nat) : Option Nat :=
  if 48 ≤ code ∧ code ≤ 57 then some (code - 48)
  else if 97 ≤ code ∧ code ≤ 102 then some (code - 87)
  else if 65 ≤ code ∧ code ≤ 70 then some (code - 55)
  else none

def readUnit (a b c d : Nat) : Option Nat := do
  return 4096 * (← readHex a) + 256 * (← readHex b) + 16 * (← readHex c) + (← readHex d)

/-- The character after a backslash, other than `u`. -/
def readEscape (code : Nat) : Option Nat :=
  if code = 34 ∨ code = 92 ∨ code = 47 then some code
  else if code = 98 then some 8
  else if code = 102 then some 12
  else if code = 110 then some 10
  else if code = 114 then some 13
  else if code = 116 then some 9
  else none

/-- A character of a string, and whether it was written as an escape `\u`. -/
structure StringUnit where
  escaped : Bool
  code : Nat

/-- The characters of a string and the text after its closing quote. Control characters are refused. -/
def scanUnits : Text → Option (List StringUnit × Text)
  | [] => none
  | 34 :: rest => some ([], rest)
  | 92 :: 117 :: a :: b :: c :: d :: rest => do
      let unit ← readUnit a b c d
      let (units, rest') ← scanUnits rest
      return (⟨true, unit⟩ :: units, rest')
  | 92 :: code :: rest => do
      let char ← readEscape code
      let (units, rest') ← scanUnits rest
      return (⟨false, char⟩ :: units, rest')
  | code :: rest =>
      if code < 32 then none
      else do
        let (units, rest') ← scanUnits rest
        return (⟨false, code⟩ :: units, rest')

def isHighSurrogate (code : Nat) : Bool := 0xd800 ≤ code && code < 0xdc00

def isLowSurrogate (code : Nat) : Bool := 0xdc00 ≤ code && code < 0xe000

def joinSurrogates (high low : Nat) : Nat := 0x10000 + 1024 * (high - 0xd800) + (low - 0xdc00)

/-- Two escapes that make a surrogate pair are one character. -/
def joinUnits : List StringUnit → Text
  | [] => []
  | [unit] => [unit.code]
  | unit :: next :: units =>
      if unit.escaped && next.escaped && isHighSurrogate unit.code && isLowSurrogate next.code then
        joinSurrogates unit.code next.code :: joinUnits units
      else
        unit.code :: joinUnits (next :: units)

/-- A string after its opening quote. -/
def scanString (text : Text) : Scanned Text :=
  match scanUnits text with
  | none => .error .malformed
  | some (units, rest) => .ok (joinUnits units, rest)

/-- The text after a literal it starts with. -/
def afterLiteral : Text → Text → Option Text
  | [], text => some text
  | _ :: _, [] => none
  | code :: literal, code' :: text => if code = code' then afterLiteral literal text else none

def literals : List (Text × Json) :=
  [(codes "null", .null), (codes "true", .bool true), (codes "false", .bool false),
    (codes "NaN", .nonFinite .nan), (codes "Infinity", .nonFinite .infinity),
    (codes "-Infinity", .nonFinite .negativeInfinity)]

/-- A literal the text starts with, and the text after it. -/
def scanLiteral (text : Text) : Option (Json × Text) :=
  literals.findSome? fun (literal, value) =>
    (afterLiteral literal text).map fun rest => (value, rest)

/-- A literal or a number. -/
def scanAtom (limits : JsonLimits) (text : Text) : Scanned Json :=
  match scanLiteral text with
  | some read => .ok read
  | none => scanNumber limits text

/-! ### Values -/

mutual

/-- `scan_once`. The fuel is for two calls a character. -/
def scanValue (limits : JsonLimits) : Nat → Nat → Text → Scanned Json
  | 0, _, _ => .error .malformed
  | fuel + 1, nesting, text =>
      match text with
      | 34 :: rest =>
          match scanString rest with
          | .error error => .error error
          | .ok (value, rest') => .ok (.string value, rest')
      | 123 :: rest =>
          match nesting with
          | 0 => .error .nesting
          | nesting + 1 =>
              match skipSpaces rest with
              | 125 :: rest' => .ok (.object [], rest')
              | rest' =>
                  match scanMembers limits fuel nesting rest' with
                  | .error error => .error error
                  | .ok (members, rest'') => .ok (.object members, rest'')
      | 91 :: rest =>
          match nesting with
          | 0 => .error .nesting
          | nesting + 1 =>
              match skipSpaces rest with
              | 93 :: rest' => .ok (.array [], rest')
              | rest' =>
                  match scanItems limits fuel nesting rest' with
                  | .error error => .error error
                  | .ok (items, rest'') => .ok (.array items, rest'')
      | text => scanAtom limits text

/-- The items of an array that is not empty, up to its closing bracket. -/
def scanItems (limits : JsonLimits) : Nat → Nat → Text → Scanned (List Json)
  | 0, _, _ => .error .malformed
  | fuel + 1, nesting, text =>
      match scanValue limits fuel nesting text with
      | .error error => .error error
      | .ok (item, rest) =>
          match skipSpaces rest with
          | 93 :: rest' => .ok ([item], rest')
          | 44 :: rest' =>
              match scanItems limits fuel nesting (skipSpaces rest') with
              | .error error => .error error
              | .ok (items, rest'') => .ok (item :: items, rest'')
          | _ => .error .malformed

/-- The members of an object that is not empty, up to its closing brace. -/
def scanMembers (limits : JsonLimits) : Nat → Nat → Text → Scanned (List (Text × Json))
  | 0, _, _ => .error .malformed
  | fuel + 1, nesting, text =>
      match text with
      | 34 :: rest =>
          match scanString rest with
          | .error error => .error error
          | .ok (key, rest) =>
              match skipSpaces rest with
              | 58 :: rest =>
                  match scanValue limits fuel nesting (skipSpaces rest) with
                  | .error error => .error error
                  | .ok (value, rest) =>
                      match skipSpaces rest with
                      | 125 :: rest' => .ok ([(key, value)], rest')
                      | 44 :: rest' =>
                          match scanMembers limits fuel nesting (skipSpaces rest') with
                          | .error error => .error error
                          | .ok (members, rest'') => .ok ((key, value) :: members, rest'')
                      | _ => .error .malformed
              | _ => .error .malformed
      | _ => .error .malformed

end

/-- `JSONDecoder.decode`. -/
def parseJson (limits : JsonLimits) (text : Text) : Except JsonError Json :=
  match scanValue limits (2 * text.length + 1) limits.nesting (skipSpaces text) with
  | .error error => .error error
  | .ok (value, rest) => if skipSpaces rest = [] then .ok value else .error .malformed

end IiotMonitoring
