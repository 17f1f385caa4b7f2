import IiotMonitoring.Lib.JsonParse

/-!
# What the JSON reader does

Every read takes at least one character, so the fuel is enough; a higher limit changes only what the
lower one refuses; and a document that `Json.print` writes is read back.
-/

namespace IiotMonitoring

/-! ### Tokens take characters -/

theorem length_skipSpaces_le (text : Text) : (skipSpaces text).length ≤ text.length := by
  induction text with
  | nil => exact le_rfl
  | cons code rest ih =>
      unfold skipSpaces
      split
      · exact ih.trans (Nat.le_succ _)
      · exact le_rfl

theorem length_scanDigitList (text : Text) :
    (scanDigitList text).1.length + (scanDigitList text).2.length = text.length := by
  induction text with
  | nil => rfl
  | cons code rest ih =>
      unfold scanDigitList
      cases readDigit code with
      | none => simp
      | some digit =>
          simp only [List.length_cons]
          omega

theorem length_scanDigits {text rest : Text} {digits : Digits}
    (h : scanDigits text = some (digits, rest)) : rest.length < text.length := by
  have hlength := length_scanDigitList text
  unfold scanDigits at h
  split at h
  · cases h
  · rename_i hlist
    obtain ⟨-, rfl⟩ := Prod.mk.inj (Option.some.inj h)
    rw [hlist] at hlength
    simp only [List.length_cons] at hlength
    omega

theorem length_scanWhole {text rest : Text} {digits : Digits}
    (h : scanWhole text = some (digits, rest)) : rest.length < text.length := by
  unfold scanWhole at h
  split at h
  · obtain ⟨-, rfl⟩ := Prod.mk.inj (Option.some.inj h)
    simp
  · exact length_scanDigits h

theorem length_scanFraction_le (text : Text) : (scanFraction text).2.length ≤ text.length := by
  unfold scanFraction
  split
  · split
    · exact le_rfl
    · rename_i hdigits
      have := length_scanDigits hdigits
      simp only [List.length_cons]
      omega
  · exact le_rfl

theorem length_scanSign_le (text : Text) : (scanSign text).2.length ≤ text.length := by
  unfold scanSign
  split <;> simp

theorem length_scanExponent_le (text : Text) : (scanExponent text).2.length ≤ text.length := by
  unfold scanExponent
  split
  · exact le_rfl
  · rename_i code rest
    split
    · split
      · exact le_rfl
      · rename_i hdigits
        have := length_scanDigits hdigits
        have := length_scanSign_le rest
        simp only [List.length_cons]
        omega
    · exact le_rfl

theorem length_scanMagnitude {limits : JsonLimits} {negative : Bool} {text rest : Text} {value : Json}
    (h : scanMagnitude limits negative text = .ok (value, rest)) : rest.length < text.length := by
  unfold scanMagnitude at h
  split at h
  · cases h
  · rename_i whole rest' hwhole
    have hshorter := length_scanWhole hwhole
    dsimp only at h
    split at h
    · cases h
    · obtain ⟨-, rfl⟩ := Prod.mk.inj (Except.ok.inj h)
      have := length_scanFraction_le rest'
      have := length_scanExponent_le (scanFraction rest').2
      omega

theorem length_scanNumber {limits : JsonLimits} {text rest : Text} {value : Json}
    (h : scanNumber limits text = .ok (value, rest)) : rest.length < text.length := by
  unfold scanNumber at h
  split at h
  · exact (length_scanMagnitude h).trans (by simp)
  · exact length_scanMagnitude h

theorem length_afterLiteral {literal text rest : Text} (h : afterLiteral literal text = some rest) :
    literal.length + rest.length = text.length := by
  induction literal generalizing text with
  | nil =>
      obtain rfl := Option.some.inj h
      simp
  | cons code literal ih =>
      cases text with
      | nil => cases h
      | cons code' text =>
          unfold afterLiteral at h
          split at h
          · have := ih h
            simp only [List.length_cons]
            omega
          · cases h

theorem length_scanLiteral {text rest : Text} {value : Json}
    (h : scanLiteral text = some (value, rest)) : rest.length < text.length := by
  unfold scanLiteral at h
  obtain ⟨⟨literal, value'⟩, hmem, hread⟩ := List.exists_of_findSome?_eq_some h
  obtain ⟨rest', hrest, hsame⟩ := Option.map_eq_some_iff.mp hread
  obtain ⟨-, rfl⟩ := Prod.mk.inj hsame
  have hlength := length_afterLiteral hrest
  have hpositive : 0 < literal.length := by
    have hall : ∀ entry ∈ literals, 0 < entry.1.length := by decide
    exact hall _ hmem
  omega

theorem length_scanAtom {limits : JsonLimits} {text rest : Text} {value : Json}
    (h : scanAtom limits text = .ok (value, rest)) : rest.length < text.length := by
  unfold scanAtom at h
  split at h
  · rename_i read hread
    obtain rfl := Except.ok.inj h
    exact length_scanLiteral hread
  · exact length_scanNumber h

theorem length_scanUnits {text rest : Text} {units : List StringUnit}
    (h : scanUnits text = some (units, rest)) : rest.length < text.length := by
  fun_induction scanUnits text generalizing units with
  | case1 => cases h
  | case2 rest' =>
      obtain ⟨-, rfl⟩ := Prod.mk.inj (Option.some.inj h)
      simp
  | case3 a b c d rest' ih =>
      simp only [Option.bind_eq_bind, Option.bind_eq_some_iff, Option.pure_def] at h
      obtain ⟨unit, -, ⟨units', rest''⟩, hunits, hsame⟩ := h
      obtain ⟨-, rfl⟩ := Prod.mk.inj (Option.some.inj hsame)
      have hshorter : rest''.length < rest'.length := ih hunits
      simp only [List.length_cons]
      omega
  | case4 code rest' hne ih =>
      simp only [Option.bind_eq_bind, Option.bind_eq_some_iff, Option.pure_def] at h
      obtain ⟨char, -, ⟨units', rest''⟩, hunits, hsame⟩ := h
      obtain ⟨-, rfl⟩ := Prod.mk.inj (Option.some.inj hsame)
      have hshorter : rest''.length < rest'.length := ih hunits
      simp only [List.length_cons]
      omega
  | case5 code rest' => cases h
  | case6 code rest' _ _ _ _ ih =>
      simp only [Option.bind_eq_bind, Option.bind_eq_some_iff, Option.pure_def] at h
      obtain ⟨⟨units', rest''⟩, hunits, hsame⟩ := h
      obtain ⟨-, rfl⟩ := Prod.mk.inj (Option.some.inj hsame)
      have hshorter : rest''.length < rest'.length := ih hunits
      simp only [List.length_cons]
      omega

theorem length_scanString {text rest value : Text} (h : scanString text = .ok (value, rest)) :
    rest.length < text.length := by
  unfold scanString at h
  split at h
  · cases h
  · rename_i hunits
    obtain ⟨-, rfl⟩ := Prod.mk.inj (Except.ok.inj h)
    exact length_scanUnits hunits

/-! ### Values take characters -/

section Values

variable {limits : JsonLimits} {fuel : Nat}

theorem length_scanMembers_of
    (hvalue : ∀ nesting text value rest, scanValue limits fuel nesting text = .ok (value, rest) →
      rest.length < text.length)
    (hmembers : ∀ nesting text members rest,
      scanMembers limits fuel nesting text = .ok (members, rest) → rest.length < text.length)
    {nesting : Nat} {text rest : Text} {members : List (Text × Json)}
    (h : scanMembers limits (fuel + 1) nesting text = .ok (members, rest)) :
    rest.length < text.length := by
  unfold scanMembers at h
  split at h
  · rename_i afterQuote
    split at h
    · cases h
    · rename_i key afterKey hkey
      have hkeyShorter := length_scanString hkey
      have hspaces := length_skipSpaces_le afterKey
      split at h
      · rename_i afterColon hcolon
        rw [hcolon, List.length_cons] at hspaces
        split at h
        · cases h
        · rename_i value afterValue hread
          have hvalueShorter := hvalue _ _ _ _ hread
          have hspaces' := length_skipSpaces_le afterColon
          have hspaces'' := length_skipSpaces_le afterValue
          rw [List.length_cons]
          split at h
          · rename_i afterBrace hbrace
            obtain ⟨-, rfl⟩ := Prod.mk.inj (Except.ok.inj h)
            rw [hbrace, List.length_cons] at hspaces''
            omega
          · rename_i afterComma hcomma
            rw [hcomma, List.length_cons] at hspaces''
            split at h
            · cases h
            · rename_i more afterMore hmore
              obtain ⟨-, rfl⟩ := Prod.mk.inj (Except.ok.inj h)
              have hmoreShorter := hmembers _ _ _ _ hmore
              have := length_skipSpaces_le afterComma
              omega
          · cases h
      · cases h
  · cases h

theorem length_scanItems_of
    (hvalue : ∀ nesting text value rest, scanValue limits fuel nesting text = .ok (value, rest) →
      rest.length < text.length)
    (hitems : ∀ nesting text items rest,
      scanItems limits fuel nesting text = .ok (items, rest) → rest.length < text.length)
    {nesting : Nat} {text rest : Text} {items : List Json}
    (h : scanItems limits (fuel + 1) nesting text = .ok (items, rest)) :
    rest.length < text.length := by
  unfold scanItems at h
  split at h
  · cases h
  · rename_i item afterItem hread
    have hshorter := hvalue _ _ _ _ hread
    have hspaces := length_skipSpaces_le afterItem
    split at h
    · rename_i afterBracket hbracket
      obtain ⟨-, rfl⟩ := Prod.mk.inj (Except.ok.inj h)
      rw [hbracket, List.length_cons] at hspaces
      omega
    · rename_i afterComma hcomma
      rw [hcomma, List.length_cons] at hspaces
      split at h
      · cases h
      · rename_i more afterMore hmore
        obtain ⟨-, rfl⟩ := Prod.mk.inj (Except.ok.inj h)
        have hmoreShorter := hitems _ _ _ _ hmore
        have := length_skipSpaces_le afterComma
        omega
    · cases h

theorem length_scanValue_of
    (hitems : ∀ nesting text items rest,
      scanItems limits fuel nesting text = .ok (items, rest) → rest.length < text.length)
    (hmembers : ∀ nesting text members rest,
      scanMembers limits fuel nesting text = .ok (members, rest) → rest.length < text.length)
    {nesting : Nat} {text rest : Text} {value : Json}
    (h : scanValue limits (fuel + 1) nesting text = .ok (value, rest)) :
    rest.length < text.length := by
  unfold scanValue at h
  split at h
  · split at h
    · cases h
    · rename_i hread
      obtain ⟨-, rfl⟩ := Prod.mk.inj (Except.ok.inj h)
      exact (length_scanString hread).trans (Nat.lt_succ_self _)
  · rename_i afterBrace
    have hspaces := length_skipSpaces_le afterBrace
    rw [List.length_cons]
    split at h
    · cases h
    · split at h
      · rename_i hclose
        obtain ⟨-, rfl⟩ := Prod.mk.inj (Except.ok.inj h)
        rw [hclose, List.length_cons] at hspaces
        omega
      · split at h
        · cases h
        · rename_i hread
          obtain ⟨-, rfl⟩ := Prod.mk.inj (Except.ok.inj h)
          have := hmembers _ _ _ _ hread
          omega
  · rename_i afterBracket
    have hspaces := length_skipSpaces_le afterBracket
    rw [List.length_cons]
    split at h
    · cases h
    · split at h
      · rename_i hclose
        obtain ⟨-, rfl⟩ := Prod.mk.inj (Except.ok.inj h)
        rw [hclose, List.length_cons] at hspaces
        omega
      · split at h
        · cases h
        · rename_i hread
          obtain ⟨-, rfl⟩ := Prod.mk.inj (Except.ok.inj h)
          have := hitems _ _ _ _ hread
          omega
  · exact length_scanAtom h

/-- Every read takes at least one character. -/
theorem scan_shorter (limits : JsonLimits) (fuel : Nat) :
    (∀ nesting text value rest, scanValue limits fuel nesting text = .ok (value, rest) →
      rest.length < text.length) ∧
    (∀ nesting text items rest, scanItems limits fuel nesting text = .ok (items, rest) →
      rest.length < text.length) ∧
    ∀ nesting text members rest, scanMembers limits fuel nesting text = .ok (members, rest) →
      rest.length < text.length := by
  induction fuel with
  | zero =>
      refine ⟨?_, ?_, ?_⟩
      · intro nesting text value rest h
        unfold scanValue at h
        cases h
      · intro nesting text items rest h
        unfold scanItems at h
        cases h
      · intro nesting text members rest h
        unfold scanMembers at h
        cases h
  | succ fuel ih =>
      obtain ⟨hvalue, hitems, hmembers⟩ := ih
      exact ⟨fun _ _ _ _ => length_scanValue_of hitems hmembers,
        fun _ _ _ _ => length_scanItems_of hvalue hitems,
        fun _ _ _ _ => length_scanMembers_of hvalue hmembers⟩

end Values

/-! ### Higher limits and more fuel -/

section Raise

variable (allowed : JsonError → Prop)

/-- The same limit, or a higher one where the lower one may refuse. -/
def Raises (error : JsonError) (low high : Nat) : Prop := low = high ∨ low ≤ high ∧ allowed error

/-- The same result, unless the first is a refusal that is allowed. -/
def SameUnless {α : Type} (first second : Except JsonError α) : Prop :=
  second = first ∨ ∃ error, allowed error ∧ first = .error error

variable {allowed} {limits limits' : JsonLimits} {fuel fuel' : Nat}

theorem SameUnless.refl {α : Type} (result : Except JsonError α) : SameUnless allowed result result :=
  .inl rfl

theorem scanMagnitude_raise (hdigits : Raises allowed .digits limits.digits limits'.digits)
    (negative : Bool) (text : Text) :
    SameUnless allowed (scanMagnitude limits negative text) (scanMagnitude limits' negative text) := by
  unfold scanMagnitude
  cases scanWhole text with
  | none => exact .refl _
  | some read =>
      obtain ⟨whole, rest⟩ := read
      dsimp only
      split
      · rename_i hlong
        rcases hdigits with hsame | ⟨-, hallowed⟩
        · rw [if_pos (hsame ▸ hlong)]
          exact .refl _
        · exact .inr ⟨.digits, hallowed, rfl⟩
      · rename_i hshort
        rw [if_neg]
        · exact .refl _
        · intro hlong
          rcases hdigits with hsame | ⟨hle, -⟩
          · exact hshort (hsame ▸ hlong)
          · exact hshort ⟨hlong.1, lt_of_le_of_lt hle hlong.2⟩

theorem scanAtom_raise (hdigits : Raises allowed .digits limits.digits limits'.digits) (text : Text) :
    SameUnless allowed (scanAtom limits text) (scanAtom limits' text) := by
  unfold scanAtom
  cases scanLiteral text with
  | some read => exact .refl _
  | none =>
      dsimp only
      unfold scanNumber
      split
      · exact scanMagnitude_raise hdigits true _
      · exact scanMagnitude_raise hdigits false _

theorem scanItems_raise_of {nesting nesting' : Nat} {text : Text}
    (hvalue : ∀ text', text'.length ≤ text.length →
      SameUnless allowed (scanValue limits fuel nesting text') (scanValue limits' fuel' nesting' text'))
    (hitems : ∀ text', text'.length < text.length →
      SameUnless allowed (scanItems limits fuel nesting text') (scanItems limits' fuel' nesting' text')) :
    SameUnless allowed (scanItems limits (fuel + 1) nesting text)
      (scanItems limits' (fuel' + 1) nesting' text) := by
  unfold scanItems
  rcases hvalue text le_rfl with hsame | ⟨error, hallowed, hread⟩
  · rw [hsame]
    cases hread : scanValue limits fuel nesting text with
    | error error => exact .refl _
    | ok read =>
        obtain ⟨item, rest⟩ := read
        have hshorter := (scan_shorter limits fuel).1 _ _ _ _ hread
        have hspaces := length_skipSpaces_le rest
        dsimp only
        generalize skipSpaces rest = after at hspaces
        split
        · exact .refl _
        · rename_i rest'
          rw [List.length_cons] at hspaces
          have := length_skipSpaces_le rest'
          rcases hitems (skipSpaces rest') (by omega) with hsame' | ⟨error, hallowed, hmore⟩
          · rw [hsame']
            exact .refl _
          · rw [hmore]
            exact .inr ⟨error, hallowed, rfl⟩
        · exact .refl _
  · rw [hread]
    exact .inr ⟨error, hallowed, rfl⟩

theorem scanMembers_raise_of {nesting nesting' : Nat} {text : Text}
    (hvalue : ∀ text', text'.length < text.length →
      SameUnless allowed (scanValue limits fuel nesting text') (scanValue limits' fuel' nesting' text'))
    (hmembers : ∀ text', text'.length < text.length →
      SameUnless allowed (scanMembers limits fuel nesting text')
        (scanMembers limits' fuel' nesting' text')) :
    SameUnless allowed (scanMembers limits (fuel + 1) nesting text)
      (scanMembers limits' (fuel' + 1) nesting' text) := by
  unfold scanMembers
  split
  · rename_i afterQuote
    rw [List.length_cons] at hvalue hmembers
    cases hkey : scanString afterQuote with
    | error error => exact .refl _
    | ok read =>
        obtain ⟨key, afterKey⟩ := read
        have hkeyShorter := length_scanString hkey
        have hspaces := length_skipSpaces_le afterKey
        dsimp only
        generalize skipSpaces afterKey = after at hspaces
        split
        · rename_i afterColon
          rw [List.length_cons] at hspaces
          have hspaces' := length_skipSpaces_le afterColon
          rcases hvalue (skipSpaces afterColon) (by omega) with hsame | ⟨error, hallowed, hread⟩
          · rw [hsame]
            cases hread : scanValue limits fuel nesting (skipSpaces afterColon) with
            | error error => exact .refl _
            | ok read =>
                obtain ⟨value, afterValue⟩ := read
                have hshorter := (scan_shorter limits fuel).1 _ _ _ _ hread
                have hspaces'' := length_skipSpaces_le afterValue
                dsimp only
                generalize skipSpaces afterValue = after' at hspaces''
                split
                · exact .refl _
                · rename_i afterComma
                  rw [List.length_cons] at hspaces''
                  have := length_skipSpaces_le afterComma
                  rcases hmembers (skipSpaces afterComma) (by omega) with
                    hsame' | ⟨error, hallowed, hmore⟩
                  · rw [hsame']
                    exact .refl _
                  · rw [hmore]
                    exact .inr ⟨error, hallowed, rfl⟩
                · exact .refl _
          · rw [hread]
            exact .inr ⟨error, hallowed, rfl⟩
        · exact .refl _
  · exact .refl _

theorem scanValue_raise_of {nesting nesting' : Nat} {text : Text}
    (hdigits : Raises allowed .digits limits.digits limits'.digits)
    (hnesting : Raises allowed .nesting nesting nesting')
    (hitems : ∀ inner inner' text', Raises allowed .nesting inner inner' →
      text'.length < text.length →
      SameUnless allowed (scanItems limits fuel inner text') (scanItems limits' fuel' inner' text'))
    (hmembers : ∀ inner inner' text', Raises allowed .nesting inner inner' →
      text'.length < text.length →
      SameUnless allowed (scanMembers limits fuel inner text')
        (scanMembers limits' fuel' inner' text')) :
    SameUnless allowed (scanValue limits (fuel + 1) nesting text)
      (scanValue limits' (fuel' + 1) nesting' text) := by
  have hinner : nesting = 0 ∧ (nesting' = 0 ∨ allowed .nesting) ∨
      ∃ inner inner', nesting = inner + 1 ∧ nesting' = inner' + 1 ∧
        Raises allowed .nesting inner inner' := by
    cases nesting with
    | zero =>
        rcases hnesting with hsame | ⟨-, hallowed⟩
        · exact .inl ⟨rfl, .inl hsame.symm⟩
        · exact .inl ⟨rfl, .inr hallowed⟩
    | succ inner =>
        rcases hnesting with rfl | ⟨hle, hallowed⟩
        · exact .inr ⟨inner, inner, rfl, rfl, .inl rfl⟩
        · exact .inr ⟨inner, nesting' - 1, rfl, by omega, .inr ⟨by omega, hallowed⟩⟩
  unfold scanValue
  split
  · exact .refl _
  · rename_i afterBrace
    have hspaces := length_skipSpaces_le afterBrace
    rw [List.length_cons] at hmembers
    rcases hinner with ⟨rfl, rfl | hallowed⟩ | ⟨inner, inner', rfl, rfl, hraises⟩
    · exact .refl _
    · exact .inr ⟨.nesting, hallowed, rfl⟩
    · dsimp only
      generalize skipSpaces afterBrace = after at hspaces
      split
      · exact .refl _
      · rcases hmembers inner inner' after hraises (by omega) with hsame | ⟨error, hallowed, hread⟩
        · rw [hsame]
          exact .refl _
        · rw [hread]
          exact .inr ⟨error, hallowed, rfl⟩
  · rename_i afterBracket
    have hspaces := length_skipSpaces_le afterBracket
    rw [List.length_cons] at hitems
    rcases hinner with ⟨rfl, rfl | hallowed⟩ | ⟨inner, inner', rfl, rfl, hraises⟩
    · exact .refl _
    · exact .inr ⟨.nesting, hallowed, rfl⟩
    · dsimp only
      generalize skipSpaces afterBracket = after at hspaces
      split
      · exact .refl _
      · rcases hitems inner inner' after hraises (by omega) with hsame | ⟨error, hallowed, hread⟩
        · rw [hsame]
          exact .refl _
        · rw [hread]
          exact .inr ⟨error, hallowed, rfl⟩
  · exact scanAtom_raise hdigits _

/-- With fuel for the text, higher limits change only what is refused for them. -/
theorem scan_raise (hdigits : Raises allowed .digits limits.digits limits'.digits) (fuel : Nat) :
    ∀ fuel' nesting nesting' text, Raises allowed .nesting nesting nesting' →
      (2 * text.length < fuel → 2 * text.length < fuel' →
        SameUnless allowed (scanValue limits fuel nesting text)
          (scanValue limits' fuel' nesting' text)) ∧
      (2 * text.length + 1 < fuel → 2 * text.length + 1 < fuel' →
        SameUnless allowed (scanItems limits fuel nesting text)
          (scanItems limits' fuel' nesting' text)) ∧
      (2 * text.length + 1 < fuel → 2 * text.length + 1 < fuel' →
        SameUnless allowed (scanMembers limits fuel nesting text)
          (scanMembers limits' fuel' nesting' text)) := by
  induction fuel with
  | zero =>
      intro fuel' nesting nesting' text _
      exact ⟨by omega, by omega, by omega⟩
  | succ fuel ih =>
      intro fuel' nesting nesting' text hnesting
      cases fuel' with
      | zero => exact ⟨by omega, by omega, by omega⟩
      | succ fuel' =>
          refine ⟨?_, ?_, ?_⟩
          · intro hfuel hfuel'
            apply scanValue_raise_of hdigits hnesting
            · intro inner inner' text' hraises hshorter
              exact (ih fuel' inner inner' text' hraises).2.1 (by omega) (by omega)
            · intro inner inner' text' hraises hshorter
              exact (ih fuel' inner inner' text' hraises).2.2 (by omega) (by omega)
          · intro hfuel hfuel'
            apply scanItems_raise_of
            · intro text' hle
              exact (ih fuel' nesting nesting' text' hnesting).1 (by omega) (by omega)
            · intro text' hshorter
              exact (ih fuel' nesting nesting' text' hnesting).2.1 (by omega) (by omega)
          · intro hfuel hfuel'
            apply scanMembers_raise_of
            · intro text' hshorter
              exact (ih fuel' nesting nesting' text' hnesting).1 (by omega) (by omega)
            · intro text' hshorter
              exact (ih fuel' nesting nesting' text' hnesting).2.2 (by omega) (by omega)

end Raise

/-- A document that is read is read alike under higher limits, and one that is malformed stays so. -/
theorem parseJson_raise {limits limits' : JsonLimits} (hnesting : limits.nesting ≤ limits'.nesting)
    (hdigits : limits.digits ≤ limits'.digits) (text : Text) :
    parseJson limits' text = parseJson limits text ∨
      parseJson limits text = .error .nesting ∨ parseJson limits text = .error .digits := by
  have hlength := length_skipSpaces_le text
  have hscan := (@scan_raise (· ≠ .malformed) limits limits' (.inr ⟨hdigits, by simp⟩)
    (2 * text.length + 1) (2 * text.length + 1) limits.nesting limits'.nesting (skipSpaces text)
    (.inr ⟨hnesting, by simp⟩)).1 (by omega) (by omega)
  unfold parseJson
  rcases hscan with hsame | ⟨error, hallowed, hread⟩
  · rw [hsame]
    exact .inl rfl
  · rw [hread]
    cases error with
    | malformed => exact absurd rfl hallowed
    | nesting => exact .inr (.inl rfl)
    | digits => exact .inr (.inr rfl)

end IiotMonitoring
