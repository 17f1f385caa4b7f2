import IiotMonitoring.Lib.JsonParse

/-!
# JSON over several lines

The text that `json.dumps` gives a value when items stand on lines of their own, as with `indent`. The
compact text is the one where nothing stands between the tokens.
-/

namespace IiotMonitoring

/-- White space only. -/
def Blank (text : Text) : Prop := ∀ code ∈ text, isSpace code = true

/-- What stands between the tokens: before an item or a closing bracket of a depth, and after a colon. -/
structure JsonLayout where
  line : Nat → Text
  colon : Text
  blank_line : ∀ depth, Blank (line depth)
  blank_colon : Blank colon

namespace JsonLayout

def compact : JsonLayout where
  line := fun _ => []
  colon := []
  blank_line := fun _ => List.forall_mem_nil _
  blank_colon := List.forall_mem_nil _

/-- The layout of `indent=width`. -/
def indented (width : Nat) : JsonLayout where
  line := fun depth => 10 :: List.replicate (width * depth) 32
  colon := [32]
  blank_line := by
    intro depth code hcode
    rcases List.mem_cons.mp hcode with rfl | hspace
    · rfl
    · rw [List.eq_of_mem_replicate hspace]
      rfl
  blank_colon := by
    intro code hcode
    rw [List.mem_singleton.mp hcode]
    rfl

end JsonLayout

mutual

/-- The text of a value that stands at a depth. -/
def Json.layOut (layout : JsonLayout) : Nat → Json → Text
  | _, .null => codes "null"
  | _, .bool value => if value then codes "true" else codes "false"
  | _, .number number => number.print
  | _, .nonFinite literal => literal.print
  | _, .string text => printString text
  | depth, .array items => 91 :: layOutItems layout depth items ++ [93]
  | depth, .object members => 123 :: layOutMembers layout depth members ++ [125]

/-- The items of an array that stands at a depth. -/
def layOutItems (layout : JsonLayout) : Nat → List Json → Text
  | _, [] => []
  | depth, item :: items =>
      layout.line (depth + 1) ++ item.layOut layout (depth + 1) ++ layOutMoreItems layout depth items

def layOutMoreItems (layout : JsonLayout) : Nat → List Json → Text
  | depth, [] => layout.line depth
  | depth, item :: items =>
      44 :: layout.line (depth + 1) ++ item.layOut layout (depth + 1) ++
        layOutMoreItems layout depth items

def layOutMembers (layout : JsonLayout) : Nat → List (Text × Json) → Text
  | _, [] => []
  | depth, (key, value) :: members =>
      layout.line (depth + 1) ++ printString key ++ 58 :: layout.colon ++
        value.layOut layout (depth + 1) ++ layOutMoreMembers layout depth members

def layOutMoreMembers (layout : JsonLayout) : Nat → List (Text × Json) → Text
  | depth, [] => layout.line depth
  | depth, (key, value) :: members =>
      44 :: layout.line (depth + 1) ++ printString key ++ 58 :: layout.colon ++
        value.layOut layout (depth + 1) ++ layOutMoreMembers layout depth members

end

example :
    (Json.object [(codes "a", .array [.null, .null]), (codes "b", .array [])]).layOut (.indented 2) 0 =
      codes "\x7b\n  \"a\": [\n    null,\n    null\n  ],\n  \"b\": []\n\x7d" := by
  decide

mutual

theorem Json.layOut_compact (depth : Nat) : ∀ value : Json, value.layOut .compact depth = value.print
  | .null => rfl
  | .bool _ => rfl
  | .number _ => rfl
  | .nonFinite _ => rfl
  | .string _ => rfl
  | .array items => by rw [Json.layOut, layOutItems_compact depth items, Json.print]
  | .object members => by rw [Json.layOut, layOutMembers_compact depth members, Json.print]

theorem layOutItems_compact (depth : Nat) :
    ∀ items : List Json, layOutItems .compact depth items = printItems items
  | [] => rfl
  | item :: items => by
      rw [layOutItems, item.layOut_compact (depth + 1), layOutMoreItems_compact depth items, printItems]
      rfl

theorem layOutMoreItems_compact (depth : Nat) :
    ∀ items : List Json, layOutMoreItems .compact depth items = printMoreItems items
  | [] => rfl
  | item :: items => by
      rw [layOutMoreItems, item.layOut_compact (depth + 1), layOutMoreItems_compact depth items,
        printMoreItems]
      rfl

theorem layOutMembers_compact (depth : Nat) :
    ∀ members : List (Text × Json), layOutMembers .compact depth members = printMembers members
  | [] => rfl
  | (key, value) :: members => by
      rw [layOutMembers, value.layOut_compact (depth + 1), layOutMoreMembers_compact depth members,
        printMembers]
      simp [JsonLayout.compact]

theorem layOutMoreMembers_compact (depth : Nat) :
    ∀ members : List (Text × Json), layOutMoreMembers .compact depth members = printMoreMembers members
  | [] => rfl
  | (key, value) :: members => by
      rw [layOutMoreMembers, value.layOut_compact (depth + 1), layOutMoreMembers_compact depth members,
        printMoreMembers]
      simp [JsonLayout.compact]

end

end IiotMonitoring
