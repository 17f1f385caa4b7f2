import IiotMonitoring.Lib.LineBuffer
import IiotMonitoring.Proof.Provisioning

/-!
# The lines the console executes

The window hands `handle_line` the text of each line that ends before the session does. A line that
fills the buffer before its end is not dropped as a whole: the byte that finds the buffer full empties
it, and what follows is executed as a line.
-/

namespace IiotMonitoring

/-! ### The calls of `handle_line` -/

def endsLine (character : UInt8) : Bool := character = 13 ∨ character = 10

def isPrintable (character : UInt8) : Bool := 32 ≤ character ∧ character < 127

/-- The line a turn hands to `handle_line`, with what the flash answers meanwhile. -/
def Provisioning.lineHandled (state : Provisioning) (turn : ProvisionTurn) : Option ConsoleLine :=
  turn.received.bind fun character =>
    if endsLine character ∧ state.line ≠ [] then
      some ⟨state.line, turn.setAnswer, turn.commitAnswer⟩
    else
      none

/-- The console when the window opens. -/
def Provisioning.opened (config : IiotConfig) (flash : ConfigFlash) : Provisioning where
  config := config
  line := []
  complete := false
  saved := false
  events := [.relayForcedOff, .banner]
  flash := flash

section Console

variable (strtof : List UInt8 → ParsedNumber CFloat)

/-- The lines the loop hands to `handle_line`. -/
def Provisioning.handled : List ProvisionTurn → Provisioning → List ConsoleLine
  | [], _ => []
  | turn :: turns, state =>
      if state.complete then []
      else (state.lineHandled turn).toList ++ handled turns (state.turn strtof turn)

/-- The turns the loop takes. -/
def Provisioning.taken : List ProvisionTurn → Provisioning → List ProvisionTurn
  | [], _ => []
  | turn :: turns, state => if state.complete then [] else turn :: taken turns (state.turn strtof turn)

/-! ### One turn -/

theorem turn_handled (state : Provisioning) (turn : ProvisionTurn) :
    (state.turn strtof turn).session =
      exec (Session.enter strtof) state.session (state.lineHandled turn).toList := by
  unfold Provisioning.turn Provisioning.lineHandled
  cases turn.received with
  | none => rfl
  | some character =>
      dsimp only [Option.bind_some]
      by_cases hends : character = 13 ∨ character = 10
      · by_cases hempty : state.line = []
        · rw [if_pos hends, if_pos hempty, if_neg fun h => h.2 hempty]
          rfl
        · have hend : endsLine character = true := decide_eq_true hends
          rw [if_pos hends, if_neg hempty, if_pos ⟨hend, hempty⟩, Provisioning.session,
            repliesOf_append]
          rfl
      · have hend : ¬ (endsLine character = true ∧ state.line ≠ []) := fun h =>
          hends (of_decide_eq_true h.1)
        rw [if_neg hends, if_neg hend]
        by_cases hkept : 32 ≤ character ∧ character < 127 ∧ state.line.length < lineMax - 1
        · rw [if_pos hkept]
          rfl
        · rw [if_neg hkept]
          by_cases hlong : lineMax - 1 ≤ state.line.length
          · rw [if_pos hlong, Provisioning.session, repliesOf_append]
            exact congrArg _ (List.append_nil _)
          · rw [if_neg hlong]
            rfl

theorem turn_line (state : Provisioning) (turn : ProvisionTurn) :
    (state.turn strtof turn).line =
      match turn.received with
      | none => state.line
      | some character =>
          if endsLine character then [] else bufferStep isPrintable (lineMax - 1) state.line character := by
  unfold Provisioning.turn
  cases turn.received with
  | none => rfl
  | some character =>
      dsimp only
      by_cases hends : character = 13 ∨ character = 10
      · have hend : endsLine character = true := decide_eq_true hends
        rw [if_pos hends, if_pos hend]
        by_cases hempty : state.line = []
        · rw [if_pos hempty, hempty]
        · rw [if_neg hempty]
      · have hsame : (isPrintable character = true ∧ state.line.length < lineMax - 1) ↔
            32 ≤ character ∧ character < 127 ∧ state.line.length < lineMax - 1 := by
          rw [isPrintable, decide_eq_true_iff, and_assoc]
        have hend : ¬ endsLine character = true := fun h => hends (of_decide_eq_true h)
        rw [if_neg hends, if_neg hend, bufferStep]
        simp only [hsame]
        split_ifs <;> rfl

/-! ### The loop -/

theorem loop_concat (state : Provisioning) (turns : List ProvisionTurn) (turn : ProvisionTurn) :
    state.loop strtof (turns ++ [turn]) =
      if (state.loop strtof turns).complete then state.loop strtof turns
      else (state.loop strtof turns).turn strtof turn := by
  induction turns generalizing state with
  | nil => rfl
  | cons first turns ih =>
      rw [List.cons_append, Provisioning.loop, Provisioning.loop]
      by_cases hcomplete : state.complete = true
      · rw [if_pos hcomplete, if_pos hcomplete, if_pos hcomplete]
      · rw [if_neg hcomplete, if_neg hcomplete, ih]

theorem handled_concat (state : Provisioning) (turns : List ProvisionTurn) (turn : ProvisionTurn) :
    state.handled strtof (turns ++ [turn]) =
      state.handled strtof turns ++
        if (state.loop strtof turns).complete then []
        else ((state.loop strtof turns).lineHandled turn).toList := by
  induction turns generalizing state with
  | nil =>
      rw [List.nil_append, Provisioning.handled, Provisioning.handled, Provisioning.handled,
        Provisioning.loop, List.append_nil, List.nil_append]
  | cons first turns ih =>
      rw [List.cons_append, Provisioning.handled, Provisioning.handled, Provisioning.loop]
      by_cases hcomplete : state.complete = true
      · rw [if_pos hcomplete, if_pos hcomplete, if_pos hcomplete, if_pos hcomplete, List.append_nil]
      · rw [if_neg hcomplete, if_neg hcomplete, if_neg hcomplete, ih, List.append_assoc]

theorem taken_concat (state : Provisioning) (turns : List ProvisionTurn) (turn : ProvisionTurn) :
    state.taken strtof (turns ++ [turn]) =
      state.taken strtof turns ++ if (state.loop strtof turns).complete then [] else [turn] := by
  induction turns generalizing state with
  | nil => rfl
  | cons first turns ih =>
      rw [List.cons_append, Provisioning.taken, Provisioning.taken, Provisioning.loop]
      by_cases hcomplete : state.complete = true
      · rw [if_pos hcomplete, if_pos hcomplete, if_pos hcomplete, if_pos hcomplete, List.append_nil]
      · rw [if_neg hcomplete, if_neg hcomplete, if_neg hcomplete, ih, List.cons_append]

/-- The session is that of the lines handed over. -/
theorem loop_session (state : Provisioning) (turns : List ProvisionTurn) :
    (state.loop strtof turns).session =
      exec (Session.enter strtof) state.session (state.handled strtof turns) := by
  induction turns using List.reverseRecOn with
  | nil => rfl
  | append_singleton turns turn ih =>
      rw [loop_concat, handled_concat, exec_append, ← ih]
      by_cases hcomplete : (state.loop strtof turns).complete = true
      · rw [if_pos hcomplete, if_pos hcomplete]
        rfl
      · rw [if_neg hcomplete, if_neg hcomplete, turn_handled]

/-- The bytes of the turns taken, split into lines. -/
def takenLines (turns : List ProvisionTurn) (state : Provisioning) :
    List (List UInt8) × List UInt8 :=
  splitLines endsLine ((state.taken strtof turns).filterMap ProvisionTurn.received)

theorem takenLines_concat (state : Provisioning) (turns : List ProvisionTurn) (turn : ProvisionTurn)
    (hopen : (state.loop strtof turns).complete = false) :
    takenLines strtof (turns ++ [turn]) state =
      match turn.received with
      | none => takenLines strtof turns state
      | some character =>
          if endsLine character then
            ((takenLines strtof turns state).1 ++ [(takenLines strtof turns state).2], [])
          else
            ((takenLines strtof turns state).1, (takenLines strtof turns state).2 ++ [character]) := by
  rw [takenLines, taken_concat, if_neg (by simp [hopen]), List.filterMap_append]
  cases hreceived : turn.received with
  | none => simp [hreceived, takenLines]
  | some character => simp [hreceived, takenLines, splitLines_concat]

/-- While the session is open, the buffer is that of the line that has not ended. -/
theorem line_eq_bufferOf (config : IiotConfig) (flash : ConfigFlash) (turns : List ProvisionTurn)
    (hopen : ((Provisioning.opened config flash).loop strtof turns).complete = false) :
    ((Provisioning.opened config flash).loop strtof turns).line =
      bufferOf isPrintable (lineMax - 1) (takenLines strtof turns (.opened config flash)).2 := by
  induction turns using List.reverseRecOn with
  | nil => rfl
  | append_singleton turns turn ih =>
      have hbefore : ((Provisioning.opened config flash).loop strtof turns).complete = false := by
        cases hcomplete : ((Provisioning.opened config flash).loop strtof turns).complete with
        | false => rfl
        | true =>
            rw [loop_concat, if_pos hcomplete, hcomplete] at hopen
            exact hopen
      rw [loop_concat, if_neg (by simp [hbefore]), turn_line, takenLines_concat strtof _ _ _ hbefore,
        ih hbefore]
      cases turn.received with
      | none => rfl
      | some character =>
          dsimp only
          split_ifs
          · rfl
          · exact (bufferOf_concat _ _).symm

/-! ### Whole lines -/

/-- What was executed is what the terminated lines should be: the printable text of each that is
neither empty nor too long. -/
def ExecutesWholeLines (start : Provisioning) (turns : List ProvisionTurn) : Prop :=
  (start.handled strtof turns).map ConsoleLine.text =
    (takenLines strtof turns start).1.filterMap (wholeLine isPrintable (lineMax - 1))

theorem lineHandled_text {state : Provisioning} {line : List UInt8}
    (hline : state.line = bufferOf isPrintable (lineMax - 1) line) {turn : ProvisionTurn}
    {character : UInt8} (hreceived : turn.received = some character) :
    (state.lineHandled turn).toList.map ConsoleLine.text =
      if endsLine character then (heldLine isPrintable (lineMax - 1) line).toList else [] := by
  rw [Provisioning.lineHandled, hreceived, Option.bind_some, heldLine, ← hline]
  by_cases hends : endsLine character = true
  · by_cases hempty : state.line = []
    · rw [if_neg fun h => h.2 hempty, if_pos hends, if_pos hempty]
      rfl
    · rw [if_pos ⟨hends, hempty⟩, if_pos hends, if_neg hempty]
      rfl
  · rw [if_neg fun h => hends h.1, if_neg hends]
    rfl

/-- A turn ends a line, and hands over what the buffer made of it, or does neither. -/
theorem exists_ended (config : IiotConfig) (flash : ConfigFlash) (turns : List ProvisionTurn)
    (turn : ProvisionTurn) :
    ∃ ended : Option (List UInt8),
      (takenLines strtof (turns ++ [turn]) (.opened config flash)).1 =
          (takenLines strtof turns (.opened config flash)).1 ++ ended.toList ∧
        ((Provisioning.opened config flash).handled strtof (turns ++ [turn])).map ConsoleLine.text =
          ((Provisioning.opened config flash).handled strtof turns).map ConsoleLine.text ++
            (ended.bind (heldLine isPrintable (lineMax - 1))).toList := by
  rw [handled_concat, List.map_append]
  cases hcomplete : ((Provisioning.opened config flash).loop strtof turns).complete with
  | true =>
      refine ⟨none, ?_, rfl⟩
      rw [takenLines, taken_concat, hcomplete, if_pos rfl, List.append_nil]
      exact (List.append_nil _).symm
  | false =>
      rw [takenLines_concat strtof _ _ _ hcomplete, if_neg (by decide)]
      cases hreceived : turn.received with
      | none =>
          refine ⟨none, (List.append_nil _).symm, ?_⟩
          rw [Provisioning.lineHandled, hreceived]
          rfl
      | some character =>
          rw [lineHandled_text (line_eq_bufferOf strtof config flash turns hcomplete) hreceived]
          dsimp only
          by_cases hends : endsLine character = true
          · rw [if_pos hends, if_pos hends]
            exact ⟨some _, rfl, rfl⟩
          · rw [if_neg hends, if_neg hends]
            exact ⟨none, (List.append_nil _).symm, rfl⟩

theorem toList_injective {α : Type} {left right : Option α} (h : left.toList = right.toList) :
    left = right := by
  cases left <;> cases right <;> simp_all

theorem executesWholeLines_iff (config : IiotConfig) (flash : ConfigFlash)
    (turns : List ProvisionTurn) :
    (∀ before, before <+: turns → ExecutesWholeLines strtof (.opened config flash) before) ↔
      ∀ line ∈ (takenLines strtof turns (.opened config flash)).1,
        LineSafe isPrintable (lineMax - 1) line := by
  induction turns using List.reverseRecOn with
  | nil =>
      apply iff_of_true
      · intro before hbefore
        rw [List.prefix_nil.mp hbefore]
        rfl
      · intro line hline
        cases hline
  | append_singleton turns turn ih =>
      obtain ⟨ended, hlines, hhandled⟩ := exists_ended strtof config flash turns turn
      have hwhole : ExecutesWholeLines strtof (.opened config flash) turns →
          (ExecutesWholeLines strtof (.opened config flash) (turns ++ [turn]) ↔
            ∀ line ∈ ended, LineSafe isPrintable (lineMax - 1) line) := by
        intro hbefore
        rw [ExecutesWholeLines, hlines, hhandled, hbefore, List.filterMap_append,
          List.append_cancel_left_eq]
        cases ended with
        | none => simp
        | some line =>
            simp only [Option.bind_some, Option.toList_some, Option.mem_some_iff, forall_eq']
            rw [← heldLine_eq_iff (by decide) line]
            constructor
            · intro htexts
              apply toList_injective
              cases hwhole : wholeLine isPrintable (lineMax - 1) line <;> simp_all
            · intro htexts
              rw [htexts]
              cases hwhole : wholeLine isPrintable (lineMax - 1) line <;> simp [hwhole]
      rw [hlines]
      simp only [List.mem_append, Option.mem_toList, or_imp, forall_and, ← ih, List.prefix_concat_iff,
        forall_eq]
      constructor
      · rintro ⟨hall, hbefore⟩
        exact ⟨hbefore, (hwhole (hbefore turns (List.prefix_refl _))).mp hall⟩
      · rintro ⟨hbefore, hended⟩
        exact ⟨(hwhole (hbefore turns (List.prefix_refl _))).mpr hended, hbefore⟩

end Console

/-- **The console executes whole lines.** The session of the window is that of the lines handed to
`handle_line`, and wherever the time limit falls these are the nonempty lines of at most 255 printable
characters exactly if every line that ends before the session does is safe: it fills the buffer with
its last byte at most, or it is too long and discarded to its end. -/
theorem console_lines_iff (strtof : List UInt8 → ParsedNumber CFloat) (config : IiotConfig)
    (flash : ConfigFlash) (turns : List ProvisionTurn) :
    (∀ driverInstalled installAnswer timeoutMs, (driverInstalled = true ∨ installAnswer = .ok) →
      let outcome := gatewaySerialProvision strtof driverInstalled installAnswer timeoutMs turns config
        flash
      Session.mk outcome.config outcome.flash (repliesOf outcome.events) =
        exec (Session.enter strtof) ⟨config, flash, []⟩
          ((Provisioning.opened config flash).handled strtof turns)) ∧
      ((∀ before, before <+: turns →
          ((Provisioning.opened config flash).handled strtof before).map ConsoleLine.text =
            (takenLines strtof before (.opened config flash)).1.filterMap
              (wholeLine isPrintable 255)) ↔
        ∀ line ∈ (takenLines strtof turns (.opened config flash)).1, LineSafe isPrintable 255 line) := by
  refine ⟨?_, executesWholeLines_iff strtof config flash turns⟩
  intro driverInstalled installAnswer timeoutMs hdriver
  have hready : ¬ (!driverInstalled ∧ installAnswer ≠ .ok) := by
    rintro ⟨hmissing, hfailed⟩
    rcases hdriver with rfl | rfl
    · cases hmissing
    · exact hfailed rfl
  have hreplies : ∀ (events : List ProvisionEvent) (complete : Bool),
      repliesOf (events ++ (if complete then [] else [ProvisionEvent.timeout timeoutMs]) ++
        [.relayForcedOff]) = repliesOf events := by
    intro events complete
    rw [repliesOf_append]
    cases complete with
    | true => exact (List.append_nil _).trans (congrArg repliesOf (List.append_nil _))
    | false => exact (List.append_nil _).trans ((repliesOf_append _ _).trans (List.append_nil _))
  have hsession := loop_session strtof (.opened config flash) turns
  rw [gatewaySerialProvision, if_neg hready]
  dsimp only
  rw [hreplies]
  exact hsession

section LongLine

/-- A turn for each byte, with a flash that takes every write. -/
def typed (bytes : List UInt8) : List ProvisionTurn := bytes.map fun byte => ⟨some byte, .ok, .ok⟩

/-- A `strtof` that reads nothing. -/
def noFloat (text : List UInt8) : ParsedNumber CFloat := ⟨⟨0⟩, text, false⟩

theorem console_lines_iff_help :
    let outcome := gatewaySerialProvision noFloat true .ok 60000 (typed (literalText "HELP\n"))
      iiotConfigDefaults (.holding .absent)
    Session.mk outcome.config outcome.flash (repliesOf outcome.events) =
      exec (Session.enter noFloat) ⟨iiotConfigDefaults, .holding .absent, []⟩
        ((Provisioning.opened iiotConfigDefaults (.holding .absent)).handled noFloat
          (typed (literalText "HELP\n"))) :=
  (console_lines_iff noFloat iiotConfigDefaults (.holding .absent) (typed (literalText "HELP\n"))).1
    true .ok 60000 (Or.inl rfl)

/-- The tail of a line of 256 printable characters and more is executed. -/
theorem long_line_tail_executed :
    ¬ ∀ (strtof : List UInt8 → ParsedNumber CFloat) (config : IiotConfig) (flash : ConfigFlash)
      (turns : List ProvisionTurn),
      ((Provisioning.opened config flash).handled strtof turns).map ConsoleLine.text =
        (takenLines strtof turns (.opened config flash)).1.filterMap (wholeLine isPrintable 255) := by
  intro h
  have hlines := h noFloat iiotConfigDefaults (.holding .absent)
    (typed (List.replicate 256 65 ++ literalText "ABORT\n"))
  revert hlines
  decide +kernel

end LongLine

end IiotMonitoring
