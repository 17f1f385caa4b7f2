import IiotMonitoring.Firmware.Command
import IiotMonitoring.Lib.TextEncoding

/-!
# What cJSON reads

The tree that cJSON builds of a JSON document. cJSON is no part of the repository, so that its reader
is a parameter, of which only this is known.
-/

namespace IiotMonitoring

/-- A C string ends before its first NUL. There is none for a lone surrogate. -/
def valuestringOf (text : Text) : Option String := textString (text.takeWhile (· ≠ 0))

mutual

/-- The tree of a value whose numbers are integers that a `double` holds. -/
def Json.tree : Json → Option CJson
  | .null => some .null
  | .bool value => some (.bool value)
  | .number number =>
      if number.isInteger = true ∧ number.whole ≤ 2 ^ 53 then some (.number (.finite number.value))
      else none
  | .nonFinite _ => none
  | .string text => (valuestringOf text).map .string
  | .array items => (treeItems items).map .array
  | .object members => (treeMembers members).map .object

def treeItems : List Json → Option (List CJson)
  | [] => some []
  | item :: items => do return (← item.tree) :: (← treeItems items)

def treeMembers : List (Text × Json) → Option (List (String × CJson))
  | [] => some []
  | (key, value) :: members => do
      return (← valuestringOf key, ← value.tree) :: (← treeMembers members)

end

/-- `CJSON_NESTING_LIMIT`, and the digits that the buffer of `parse_number` takes. -/
def cJsonLimits : JsonLimits := ⟨1000, 63⟩

/-- A document within the limits is read to its tree. -/
def ReadsTrees (parse : List UInt8 → Option CJson) : Prop :=
  ∀ (value : Json) (tree : CJson), value.Restorable cJsonLimits cJsonLimits.nesting →
    value.tree = some tree → parse (plainBytes value.print) = some tree

end IiotMonitoring
