import IiotMonitoring.Lib.Json
import Mathlib.Data.List.TakeWhile

/-!
# The path of a URL

What the URL parser makes of a path: it ends at a query or a fragment, a backslash counts as a slash,
dot segments are resolved, and characters of the path percent-encode set are escaped. A path of plain
segments is left as it is.
-/

namespace IiotMonitoring

/-- The path percent-encode set. -/
def inPathSet (code : Nat) : Bool :=
  code < 33 || 126 < code || [34, 35, 60, 62, 63, 94, 96, 123, 125].contains code

/-- Where a segment ends in a URL with a special scheme. -/
def isPathSlash (code : Nat) : Bool := code = 47 || code = 92

def upperHexCode (digit : Nat) : Nat := if digit < 10 then 48 + digit else 55 + digit

/-- The percent-encoding of a character, after UTF-8. -/
def percentEncode (code : Nat) : Text :=
  (String.singleton (Char.ofNat code)).toUTF8.toList.flatMap fun byte =>
    [37, upperHexCode (byte.toNat / 16), upperHexCode (byte.toNat % 16)]

def encodeSegment (segment : Text) : Text :=
  segment.flatMap fun code => if inPathSet code then percentEncode code else [code]

def lowerCode (code : Nat) : Nat := if 65 ≤ code ∧ code ≤ 90 then code + 32 else code

def isSingleDot (segment : Text) : Bool :=
  [codes ".", codes "%2e"].contains (segment.map lowerCode)

def isDoubleDot (segment : Text) : Bool :=
  [codes "..", codes ".%2e", codes "%2e.", codes "%2e%2e"].contains (segment.map lowerCode)

/-- The path state: the segments so far, and the segments to come. -/
def pushSegments : List Text → List Text → List Text
  | path, [] => path
  | path, segment :: rest =>
      if isDoubleDot segment then
        pushSegments (if rest = [] then path.dropLast ++ [[]] else path.dropLast) rest
      else if isSingleDot segment then
        pushSegments (if rest = [] then path ++ [[]] else path) rest
      else
        pushSegments (path ++ [encodeSegment segment]) rest

/-- The input without controls and spaces at its ends, and without tabs and newlines. -/
def trimInput (input : Text) : Text :=
  let started := input.dropWhile (· ≤ 32)
  let ended := (started.reverse.dropWhile (· ≤ 32)).reverse
  ended.filter fun code => code ≠ 9 && code ≠ 10 && code ≠ 13

/-- The path of `new URL(input, base)` for an input with one slash in front. -/
def urlPath (input : Text) : Text :=
  let path := (trimInput input).takeWhile fun code => code ≠ 63 && code ≠ 35
  47 :: [47].intercalate (pushSegments [] ((path.drop 1).splitOnP isPathSlash))

/-! ### Plain segments -/

/-- A segment that the parser leaves alone. -/
structure PlainSegment (segment : Text) : Prop where
  codes : ∀ code ∈ segment, inPathSet code = false ∧ isPathSlash code = false
  noDot : isSingleDot segment = false
  noDots : isDoubleDot segment = false

theorem PlainSegment.encode {segment : Text} (h : PlainSegment segment) :
    encodeSegment segment = segment := by
  unfold encodeSegment
  calc segment.flatMap (fun code => if inPathSet code then percentEncode code else [code])
      = segment.flatMap fun code => [code] := by
        apply List.flatMap_congr
        intro code hcode
        exact if_neg (by rw [(h.codes code hcode).1]; decide)
    _ = segment := List.flatMap_singleton' segment

theorem pushSegments_plain {segments : List Text} (hplain : ∀ segment ∈ segments, PlainSegment segment)
    (path : List Text) : pushSegments path segments = path ++ segments := by
  induction segments generalizing path with
  | nil => exact (List.append_nil path).symm
  | cons segment rest ih =>
      have hsegment := hplain segment List.mem_cons_self
      have hrest : ∀ other ∈ rest, PlainSegment other := fun other hother => hplain other (.tail _ hother)
      rw [pushSegments, if_neg (by rw [hsegment.noDots]; decide),
        if_neg (by rw [hsegment.noDot]; decide), ih hrest, hsegment.encode, List.append_assoc]
      rfl

theorem splitOnP_intercalate {segments : List Text} (hsegments : segments ≠ [])
    (hplain : ∀ segment ∈ segments, PlainSegment segment) :
    ([47].intercalate segments).splitOnP isPathSlash = segments := by
  induction segments with
  | nil => exact absurd rfl hsegments
  | cons segment rest ih =>
      have hslash : ∀ code ∈ segment, isPathSlash code = false :=
        fun code hcode => ((hplain segment List.mem_cons_self).codes code hcode).2
      cases rest with
      | nil => rw [List.intercalate_singleton, List.splitOnP_eq_singleton hslash]
      | cons next rest =>
          have hrest := ih (List.cons_ne_nil _ _) fun other hother => hplain other (.tail _ hother)
          rw [List.intercalate_cons_cons, List.append_assoc, List.singleton_append,
            List.splitOnP_append_cons_of_forall_mem hslash 47 rfl, hrest]

/-- Nothing is trimmed where nothing is a control or a space. -/
theorem trimInput_eq {input : Text} (hinput : ∀ code ∈ input, 32 < code) : trimInput input = input := by
  have hkeep : ∀ {text : Text}, (∀ code ∈ text, 32 < code) → text.dropWhile (· ≤ 32) = text := by
    intro text htext
    cases text with
    | nil => rfl
    | cons code rest =>
        have hcode := htext code List.mem_cons_self
        exact List.dropWhile_cons_of_neg (by simpa using hcode)
  have hreverse : ∀ code ∈ input.reverse, 32 < code :=
    fun code hcode => hinput code (List.mem_reverse.mp hcode)
  unfold trimInput
  dsimp only
  rw [hkeep hinput, hkeep hreverse, List.reverse_reverse, List.filter_eq_self]
  intro code hcode
  have hlarge := hinput code hcode
  simp only [Bool.and_eq_true, decide_eq_true_iff, ne_eq]
  omega

/-- The characters of joined segments. -/
theorem mem_intercalate {segments : List Text} {code : Nat} (h : code ∈ [47].intercalate segments) :
    code = 47 ∨ ∃ segment ∈ segments, code ∈ segment := by
  induction segments with
  | nil => cases h
  | cons segment rest ih =>
      have hhead : code ∈ segment → code = 47 ∨ ∃ other ∈ segment :: rest, code ∈ other :=
        fun hcode => .inr ⟨segment, List.mem_cons_self, hcode⟩
      cases rest with
      | nil =>
          rw [List.intercalate_singleton] at h
          exact hhead h
      | cons next rest =>
          rw [List.intercalate_cons_cons, List.append_assoc, List.singleton_append] at h
          rcases List.mem_append.mp h with hcode | hcode
          · exact hhead hcode
          · rcases List.mem_cons.mp hcode with hslash | hcode
            · exact .inl hslash
            · rcases ih hcode with hslash | ⟨other, hother, hmem⟩
              · exact .inl hslash
              · exact .inr ⟨other, .tail _ hother, hmem⟩

/-- A character outside the percent-encode set is none of those that the parser looks for. -/
theorem not_inPathSet {code : Nat} (h : inPathSet code = false) : 32 < code ∧ code ≠ 63 ∧ code ≠ 35 := by
  simp only [inPathSet, Bool.or_eq_false_iff, decide_eq_false_iff_not, List.contains_eq_mem,
    List.mem_cons, List.not_mem_nil, or_false, not_or] at h
  omega

/-- A path of plain segments is its own normal form. -/
theorem urlPath_plain {segments : List Text} (hsegments : segments ≠ [])
    (hplain : ∀ segment ∈ segments, PlainSegment segment) :
    urlPath (47 :: [47].intercalate segments) = 47 :: [47].intercalate segments := by
  have hkept : ∀ code ∈ 47 :: [47].intercalate segments, 32 < code ∧ code ≠ 63 ∧ code ≠ 35 := by
    intro code hcode
    rcases List.mem_cons.mp hcode with rfl | hcode
    · decide
    · rcases mem_intercalate hcode with rfl | ⟨segment, hsegment, hmem⟩
      · decide
      · exact not_inPathSet ((hplain segment hsegment).codes code hmem).1
  have hwhole : (47 :: [47].intercalate segments).takeWhile
      (fun code => code ≠ 63 && code ≠ 35) = 47 :: [47].intercalate segments := by
    rw [List.takeWhile_eq_self_iff]
    intro code hcode
    obtain ⟨-, hquery, hfragment⟩ := hkept code hcode
    rw [Bool.and_eq_true, decide_eq_true_iff, decide_eq_true_iff]
    exact ⟨hquery, hfragment⟩
  unfold urlPath
  dsimp only
  rw [trimInput_eq fun code hcode => (hkept code hcode).1, hwhole, List.drop_one, List.tail_cons,
    splitOnP_intercalate hsegments hplain, pushSegments_plain hplain, List.nil_append]

end IiotMonitoring
