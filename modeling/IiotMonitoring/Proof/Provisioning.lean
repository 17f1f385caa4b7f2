import Mathlib.Data.List.Forall2
import IiotMonitoring.Lib.Run
import IiotMonitoring.Proof.SetAssignments

/-!
# Provisioning is all or nothing

The configuration in memory is the initial one with the acknowledged assignments. The blob in flash
changes where a `COMMIT` is answered `SAVED` and nowhere else.
-/

namespace IiotMonitoring

/-! ### Configurations before they are finalized -/

/-- A configuration without the fields that finalizing writes. -/
def IiotConfig.cleared (config : IiotConfig) : IiotConfig :=
  { config with magic := 0, schemaVersion := 0, structSize := 0, checksum := 0 }

theorem cleared_finalize (config : IiotConfig) : (iiotConfigFinalize config).cleared = config.cleared :=
  rfl

theorem finalize_cleared (config : IiotConfig) :
    iiotConfigFinalize config.cleared = iiotConfigFinalize config := by
  simp only [iiotConfigFinalize, iiotConfigChecksum_eq, IiotConfig.header, IiotConfig.cleared]

theorem cleared_store (config : IiotConfig) (assignment : Assignment) :
    (assignment.store config).cleared = assignment.store config.cleared := by
  cases assignment
  all_goals rfl

/-- What is saved does not depend on them. -/
theorem savedConfig_congr {left right : IiotConfig} (h : left.cleared = right.cleared) :
    savedConfig left = savedConfig right := by
  have hsaved : ∀ config, savedConfig config = iiotConfigFinalize
      { config.cleared with generation := config.cleared.generation + 1 } := fun config =>
    (finalize_cleared { config with generation := config.generation + 1 }).symm
  rw [hsaved, hsaved, h]

theorem savedConfig_finalize (config : IiotConfig) :
    savedConfig (iiotConfigFinalize config) = savedConfig config :=
  savedConfig_congr (cleared_finalize config)

/-! ### One line -/

section Lines

variable (strtof : List UInt8 → ParsedNumber CFloat)

/-- The field and the value of an accepted line. -/
def Reply.accepted? : Reply → Option (List UInt8 × List UInt8)
  | .accepted field value => some (field, value)
  | _ => none

/-- What a line can do, in a flash that holds `stored`. -/
inductive LineStep (config : IiotConfig) (line : List UInt8) (stored : StoredBlob) :
    LineOutcome × ConfigFlash → Prop where
  | answered (config' : IiotConfig) (reply : Reply)
      (hconfig : config' = config ∨ config' = iiotConfigFinalize config)
      (hsaved : reply ≠ .saved) (hset : reply.accepted? = none) :
      LineStep config line stored (⟨config', reply, true, false⟩, .holding stored)
  | aborted : LineStep config line stored (⟨config, .aborted, false, true⟩, .holding stored)
  | accepted (field value : List UInt8) (assignment : Assignment)
      (hline : line = literalText "SET " ++ field ++ 61 :: value)
      (hassigns : Assigns strtof field value assignment) :
      LineStep config line stored
        (⟨assignment.store config, .accepted field value, true, false⟩, .holding stored)
  | saved (hline : line = literalText "COMMIT") (hprovisioned : gatewayIsProvisioned config = true)
      (hvalid : iiotConfigValidate (savedConfig config) = true) :
      LineStep config line stored
        (⟨iiotConfigFinalize config, .saved, true, true⟩,
          .holding (.blob (configLayout.encode (savedConfig config))))

/-- The text is divided at its first `=`, which is not its first character. -/
theorem splitAssignment_iff {text field value : List UInt8} :
    splitAssignment text = some (field, value) ↔ text = field ++ 61 :: value ∧ field ≠ [] ∧ 61 ∉ field := by
  have hparts := List.takeWhile_append_dropWhile (p := fun character => decide (character ≠ 61)) (l := text)
  unfold splitAssignment
  dsimp only
  rw [Option.ite_none_left_eq_some, Option.some_inj, Prod.mk.injEq, not_or]
  constructor
  · rintro ⟨⟨hlength, hsome⟩, rfl, rfl⟩
    cases hrest : text.dropWhile fun character => decide (character ≠ 61) with
    | nil =>
        rw [hrest, List.append_nil] at hparts
        exact absurd (congrArg List.length hparts) hlength
    | cons equals value =>
        have hequals : equals = 61 := by
          have hhead := List.head?_dropWhile_not (fun character : UInt8 => decide (character ≠ 61)) text
          rw [hrest] at hhead
          simpa using hhead
        rw [hrest, hequals] at hparts
        refine ⟨?_, hsome, fun hmem => by simpa using List.mem_takeWhile_imp hmem⟩
        generalize text.takeWhile (fun character => decide (character ≠ 61)) = field at hparts
        rw [← hparts]
        simp
  · rintro ⟨rfl, hsome, hnone⟩
    have hfield : (field ++ 61 :: value).takeWhile (fun character => decide (character ≠ 61)) = field := by
      have hpass : ∀ character ∈ field, decide (character ≠ 61) = true := fun character hmem =>
        decide_eq_true fun hsame => hnone (hsame ▸ hmem)
      rw [List.takeWhile_append_of_pos hpass, List.takeWhile_cons_of_neg (by decide), List.append_nil]
    rw [hfield]
    exact ⟨⟨by simp, hsome⟩, rfl, by simp⟩

theorem field_divides (assignment : Assignment) :
    literalText assignment.field ≠ [] ∧ 61 ∉ literalText assignment.field := by
  cases assignment with
  | _ =>
      dsimp only [Assignment.field]
      decide +kernel

/-- A `SET` line is accepted where its assignment is read. -/
theorem run_handleLine_set {field : List UInt8} (hfield : field ≠ [] ∧ 61 ∉ field) (value : List UInt8)
    (config : IiotConfig) (flash : ConfigFlash) (setAnswer commitAnswer : EspErr) :
    (handleLine strtof config (literalText "SET " ++ field ++ 61 :: value)).run
        (configDevice setAnswer commitAnswer keepOld) flash =
      match readAssignment strtof field value with
      | none => (⟨config, .rejected "INVALID_FIELD_OR_VALUE", true, false⟩, flash)
      | some assignment => (⟨assignment.store config, .accepted field value, true, false⟩, flash) := by
  have hset : (literalText "SET ").length = 4 := by decide +kernel
  have htake : (literalText "SET " ++ field ++ 61 :: value).take 4 = literalText "SET " := by
    rw [List.append_assoc, List.take_append_of_le_length hset.ge, List.take_of_length_le hset.le]
  have hdrop : (literalText "SET " ++ field ++ 61 :: value).drop 4 = field ++ 61 :: value := by
    rw [List.append_assoc, List.drop_append_of_le_length hset.ge, List.drop_of_length_le hset.le,
      List.nil_append]
  have hother : ∀ name ∈ ["HELP", "SHOW", "ABORT", "COMMIT"],
      literalText "SET " ++ field ++ 61 :: value ≠ literalText name := by
    have hnames : ∀ name ∈ ["HELP", "SHOW", "ABORT", "COMMIT"],
        (literalText name).take 4 ≠ literalText "SET " := by decide +kernel
    intro name hname hsame
    exact hnames name hname (hsame ▸ htake)
  rw [handleLine, if_neg (hother _ (by decide)), if_neg (hother _ (by decide)),
    if_neg (hother _ (by decide)), if_neg (hother _ (by decide)), if_pos htake, hdrop,
    splitAssignment_iff.mpr ⟨rfl, hfield⟩]
  dsimp only
  rw [applyField_eq]
  cases readAssignment strtof field value with
  | none => exact Program.run_pure _ _ _
  | some assignment => exact Program.run_pure _ _ _

/-- A `COMMIT` that passes the checks. -/
theorem run_handleLine_commit {config : IiotConfig}
    (hprovisioned : gatewayIsProvisioned (iiotConfigFinalize config) = true)
    (hvalid : iiotConfigValidate (iiotConfigFinalize config) = true) (stored : StoredBlob)
    (setAnswer commitAnswer : EspErr) :
    (handleLine strtof config (literalText "COMMIT")).run
        (configDevice setAnswer commitAnswer keepOld) (.holding stored) =
      if setAnswer = .ok ∧ commitAnswer = .ok then
        (⟨iiotConfigFinalize config, .saved, true, true⟩,
          .holding (.blob (configLayout.encode (savedConfig config))))
      else
        (⟨iiotConfigFinalize config, .rejected "NVS_WRITE_FAILED", true, false⟩, .holding stored) := by
  have hsaved : iiotConfigValidate (savedConfig config) = true :=
    savedConfig_finalize config ▸ validate_savedConfig hvalid
  have hrun : (gatewayConfigSave (iiotConfigFinalize config)).run
      (configDevice setAnswer commitAnswer keepOld) (.holding stored) =
        if setAnswer = .ok ∧ commitAnswer = .ok then
          (true, .holding (.blob (configLayout.encode (savedConfig config))))
        else
          (false, .holding stored) := by
    rw [run_gatewayConfigSave, savedConfig_finalize, hsaved, if_neg (by decide), keepOld]
  rw [handleLine, if_neg (by decide +kernel), if_neg (by decide +kernel), if_neg (by decide +kernel),
    if_pos rfl]
  dsimp only
  rw [hprovisioned, hvalid, if_neg (by decide), Program.run_bind, hrun]
  by_cases hstores : setAnswer = .ok ∧ commitAnswer = .ok
  · rw [if_pos hstores, if_pos hstores]
    exact Program.run_pure _ _ _
  · rw [if_neg hstores, if_neg hstores]
    exact Program.run_pure _ _ _

/-- What `handle_line` does. -/
theorem run_handleLine (config : IiotConfig) (line : List UInt8) (stored : StoredBlob)
    (setAnswer commitAnswer : EspErr) :
    LineStep strtof config line stored ((handleLine strtof config line).run
      (configDevice setAnswer commitAnswer keepOld) (.holding stored)) := by
  unfold handleLine
  by_cases hhelp : line = literalText "HELP"
  · rw [if_pos hhelp]
    exact .answered config .help (.inl rfl) (by decide) rfl
  by_cases hshow : line = literalText "SHOW"
  · rw [if_neg hhelp, if_pos hshow]
    exact .answered config (.masked config) (.inl rfl) (by simp) rfl
  by_cases habort : line = literalText "ABORT"
  · rw [if_neg hhelp, if_neg hshow, if_pos habort]
    exact .aborted
  rw [if_neg hhelp, if_neg hshow, if_neg habort]
  by_cases hcommit : line = literalText "COMMIT"
  · by_cases hrefused : (!gatewayIsProvisioned (iiotConfigFinalize config) ||
        !iiotConfigValidate (iiotConfigFinalize config)) = true
    · rw [if_pos hcommit, if_pos hrefused]
      exact .answered _ (.rejected _) (.inr rfl) (by simp) rfl
    · obtain ⟨hprovisioned, hvalid⟩ : gatewayIsProvisioned (iiotConfigFinalize config) = true ∧
          iiotConfigValidate (iiotConfigFinalize config) = true := by
        simpa using hrefused
      have hrun := run_handleLine_commit strtof hprovisioned hvalid stored setAnswer commitAnswer
      rw [← hcommit, handleLine, if_neg hhelp, if_neg hshow, if_neg habort] at hrun
      rw [hrun]
      by_cases hstores : setAnswer = .ok ∧ commitAnswer = .ok
      · rw [if_pos hstores]
        exact .saved hcommit hprovisioned (savedConfig_finalize config ▸ validate_savedConfig hvalid)
      · rw [if_neg hstores]
        exact .answered _ (.rejected _) (.inr rfl) (by simp) rfl
  rw [if_neg hcommit]
  by_cases hset : line.take 4 = literalText "SET "
  · rw [if_pos hset]
    cases hsplit : splitAssignment (line.drop 4) with
    | none => exact .answered config _ (.inl rfl) (by simp) rfl
    | some parts =>
        obtain ⟨field, value⟩ := parts
        dsimp only
        rw [applyField_eq]
        cases hread : readAssignment strtof field value with
        | none => exact .answered config _ (.inl rfl) (by simp) rfl
        | some assignment =>
            have hline : line = literalText "SET " ++ field ++ 61 :: value := by
              rw [List.append_assoc, ← (splitAssignment_iff.mp hsplit).1, ← hset, List.take_append_drop]
            exact .accepted field value assignment hline ((readAssignment_iff strtof).mp hread)
  · rw [if_neg hset]
    exact .answered config _ (.inl rfl) (by simp) rfl

/-! ### Sessions -/

/-- The accepted `SET` lines ask for the assignments, one each and in order. -/
def Acknowledges (replies : List Reply) (assignments : List Assignment) : Prop :=
  List.Forall₂ (fun (set : List UInt8 × List UInt8) => Assigns strtof set.1 set.2)
    (replies.filterMap Reply.accepted?) assignments

/-- The flash holds the initial configuration with the acknowledged assignments, under the next
generation, and that configuration is valid and provisioned. -/
def SavedAs (initial : IiotConfig) (replies : List Reply) (flash : ConfigFlash) : Prop :=
  ∃ assignments saved, Acknowledges strtof replies assignments ∧
    flash = .holding (.blob (configLayout.encode saved)) ∧
    saved = savedConfig (assignments.foldl Assignment.store initial) ∧
    saved.generation = initial.generation + 1 ∧
    iiotConfigValidate saved = true ∧ gatewayIsProvisioned saved = true ∧
    ∀ setting, saved.setting setting =
      (assignments.filterMap (Assignment.gives setting)).getLast?.getD (initial.setting setting)

/-- A console between two lines: the configuration that `handle_line` edits, the flash and the replies
so far. -/
structure Session where
  config : IiotConfig
  flash : ConfigFlash
  replies : List Reply

/-- A line, and what the flash answers to a write and to a commit meanwhile. -/
structure ConsoleLine where
  text : List UInt8
  setAnswer : EspErr
  commitAnswer : EspErr

/-- The text has no terminator in it, as that of a C string. -/
def ConsoleLine.IsString (line : ConsoleLine) : Prop := ∀ byte ∈ line.text, byte ≠ 0

def Session.enter (session : Session) (line : ConsoleLine) : Session :=
  let (outcome, flash) := (handleLine strtof session.config line.text).run
    (configDevice line.setAnswer line.commitAnswer keepOld) session.flash
  ⟨outcome.config, flash, session.replies ++ [outcome.reply]⟩

theorem Session.enter_set {field : List UInt8} (hfield : field ≠ [] ∧ 61 ∉ field) (value : List UInt8)
    (session : Session) (setAnswer commitAnswer : EspErr) :
    session.enter strtof ⟨literalText "SET " ++ field ++ 61 :: value, setAnswer, commitAnswer⟩ =
      match readAssignment strtof field value with
      | none => { session with replies := session.replies ++ [.rejected "INVALID_FIELD_OR_VALUE"] }
      | some assignment =>
          { session with
            config := assignment.store session.config
            replies := session.replies ++ [.accepted field value] } := by
  rw [Session.enter, run_handleLine_set strtof hfield]
  cases readAssignment strtof field value with
  | none => rfl
  | some assignment => rfl

theorem Session.enter_commit {config : IiotConfig}
    (hprovisioned : gatewayIsProvisioned (iiotConfigFinalize config) = true)
    (hvalid : iiotConfigValidate (iiotConfigFinalize config) = true) (stored : StoredBlob)
    (replies : List Reply) (setAnswer commitAnswer : EspErr) :
    Session.enter strtof ⟨config, .holding stored, replies⟩
        ⟨literalText "COMMIT", setAnswer, commitAnswer⟩ =
      if setAnswer = .ok ∧ commitAnswer = .ok then
        ⟨iiotConfigFinalize config, .holding (.blob (configLayout.encode (savedConfig config))),
          replies ++ [.saved]⟩
      else
        ⟨iiotConfigFinalize config, .holding stored, replies ++ [.rejected "NVS_WRITE_FAILED"]⟩ := by
  rw [Session.enter, run_handleLine_commit strtof hprovisioned hvalid]
  split_ifs
  · rfl
  · rfl

/-- The line is accepted where it is a `SET` of a field to a value of its range. -/
theorem Session.enter_accepted_iff (config : IiotConfig) (stored : StoredBlob) (replies : List Reply)
    (line : ConsoleLine) (field value : List UInt8) :
    (Session.enter strtof ⟨config, .holding stored, replies⟩ line).replies =
        replies ++ [.accepted field value] ↔
      line.text = literalText "SET " ++ field ++ 61 :: value ∧
        ∃ assignment, Assigns strtof field value assignment := by
  have hreplies : ∀ outcome : LineOutcome × ConfigFlash,
      (handleLine strtof config line.text).run
        (configDevice line.setAnswer line.commitAnswer keepOld) (.holding stored) = outcome →
      (Session.enter strtof ⟨config, .holding stored, replies⟩ line).replies =
        replies ++ [outcome.1.reply] := by
    rintro outcome rfl
    rfl
  constructor
  · intro haccepted
    have hstep := run_handleLine strtof config line.text stored line.setAnswer line.commitAnswer
    generalize hrun : (handleLine strtof config line.text).run
      (configDevice line.setAnswer line.commitAnswer keepOld) (.holding stored) = outcome at hstep
    rw [hreplies outcome hrun, List.append_cancel_left_eq, List.cons.injEq] at haccepted
    cases hstep with
    | answered config' reply hconfig hsaved hset =>
        obtain ⟨rfl, -⟩ := haccepted
        cases hset
    | aborted => cases haccepted.1
    | accepted field' value' assignment hline hassigns =>
        obtain ⟨rfl, rfl⟩ := Reply.accepted.inj haccepted.1
        exact ⟨hline, assignment, hassigns⟩
    | saved hline hprovisioned hvalid => cases haccepted.1
  · rintro ⟨hline, assignment, hassigns⟩
    have hrun := run_handleLine_set strtof (hassigns.1 ▸ field_divides assignment) value config
      (.holding stored) line.setAnswer line.commitAnswer
    rw [← hline, (readAssignment_iff strtof).mpr hassigns] at hrun
    exact hreplies _ hrun

/-- The configuration in memory is the initial one with the acknowledged assignments. -/
structure Session.Follows (initial : IiotConfig) (assignments : List Assignment) (session : Session) :
    Prop where
  acknowledges : Acknowledges strtof session.replies assignments
  config : session.config.cleared = (assignments.foldl Assignment.store initial).cleared
  fits : ∀ assignment ∈ assignments, assignment.Fits
  holding : ∃ stored, session.flash = .holding stored

section Acknowledged

variable {strtof} {replies : List Reply} {assignments : List Assignment}
  (h : Acknowledges strtof replies assignments)

include h

theorem Acknowledges.append_other {reply : Reply} (hother : reply.accepted? = none) :
    Acknowledges strtof (replies ++ [reply]) assignments := by
  rw [Acknowledges, List.filterMap_append, List.filterMap_cons_none hother, List.filterMap_nil,
    List.append_nil]
  exact h

theorem Acknowledges.append_accepted {field value : List UInt8} {assignment : Assignment}
    (hassigns : Assigns strtof field value assignment) :
    Acknowledges strtof (replies ++ [.accepted field value]) (assignments ++ [assignment]) := by
  have hlast : (Reply.accepted field value).accepted? = some (field, value) := rfl
  rw [Acknowledges, List.filterMap_append, List.filterMap_cons_some hlast, List.filterMap_nil]
  exact List.rel_append h (.cons hassigns .nil)

/-- An accepted line asks for the assignment that is read of it. -/
theorem Acknowledges.read :
    (replies.filterMap Reply.accepted?).mapM (fun set => readAssignment strtof set.1 set.2) =
      some assignments := by
  unfold Acknowledges at h
  generalize replies.filterMap Reply.accepted? = sets at h
  induction h with
  | nil => rfl
  | cons hassigns _ ih =>
      rw [List.mapM_cons, (readAssignment_iff strtof).mpr hassigns, ih]
      rfl

end Acknowledged

theorem generation_store (config : IiotConfig) (assignment : Assignment) :
    (assignment.store config).generation = config.generation := by
  cases assignment with
  | _ => simp only [Assignment.store]

theorem generation_foldl_store (config : IiotConfig) (assignments : List Assignment) :
    (assignments.foldl Assignment.store config).generation = config.generation := by
  induction assignments generalizing config with
  | nil => rfl
  | cons assignment assignments ih =>
      rw [List.foldl_cons, ih, generation_store]

theorem gatewayIsProvisioned_finalize (config : IiotConfig) :
    gatewayIsProvisioned (iiotConfigFinalize config) = gatewayIsProvisioned config := rfl

theorem gatewayIsProvisioned_savedConfig (config : IiotConfig) :
    gatewayIsProvisioned (savedConfig config) = gatewayIsProvisioned config := rfl

theorem setting_savedConfig (config : IiotConfig) (setting : Setting) :
    (savedConfig config).setting setting = config.setting setting := by
  have hfields : (savedConfig config).setting = config.setting := by
    funext setting
    cases setting with
    | _ => simp only [IiotConfig.setting, savedConfig, iiotConfigFinalize]
  rw [hfields]

variable {strtof}

theorem Session.Follows.savedAs {initial : IiotConfig} {assignments : List Assignment}
    {session : Session} (h : session.Follows strtof initial assignments)
    (hprovisioned : gatewayIsProvisioned session.config = true)
    (hvalid : iiotConfigValidate (savedConfig session.config) = true) :
    SavedAs strtof initial session.replies
      (.holding (.blob (configLayout.encode (savedConfig session.config)))) := by
  have hsaved := savedConfig_congr h.config
  refine ⟨assignments, savedConfig session.config, h.acknowledges, rfl, hsaved, ?_, hvalid, ?_, ?_⟩
  · rw [hsaved]
    exact congrArg (· + 1) (generation_foldl_store initial _)
  · rwa [gatewayIsProvisioned_savedConfig]
  · intro setting
    rw [hsaved, setting_savedConfig, Assignment.setting_foldl_store _ h.fits]

/-- One line: it saves and says so, or it leaves the flash as it was. -/
theorem Session.Follows.enter {initial : IiotConfig} {assignments : List Assignment} {session : Session}
    (h : session.Follows strtof initial assignments) {line : ConsoleLine} (hstring : line.IsString) :
    (∃ assignments', (session.enter strtof line).Follows strtof initial assignments') ∧
      ((line.text = literalText "COMMIT" ∧
          (session.enter strtof line).replies = session.replies ++ [.saved] ∧
          SavedAs strtof initial session.replies (session.enter strtof line).flash) ∨
        ∃ reply, reply ≠ .saved ∧ (session.enter strtof line).replies = session.replies ++ [reply] ∧
          (session.enter strtof line).flash = session.flash) := by
  obtain ⟨stored, hflash⟩ := h.holding
  have hstep := run_handleLine strtof session.config line.text stored line.setAnswer
    line.commitAnswer
  rw [← hflash] at hstep
  have henter : ∀ outcome : LineOutcome × ConfigFlash,
      (handleLine strtof session.config line.text).run
        (configDevice line.setAnswer line.commitAnswer keepOld) session.flash = outcome →
      session.enter strtof line =
        ⟨outcome.1.config, outcome.2, session.replies ++ [outcome.1.reply]⟩ := by
    rintro outcome rfl
    rfl
  generalize hrun : (handleLine strtof session.config line.text).run
    (configDevice line.setAnswer line.commitAnswer keepOld) session.flash = outcome at hstep
  rw [henter outcome hrun]
  cases hstep with
  | answered config' reply hconfig hsaved hset =>
      have hcleared : config'.cleared = session.config.cleared := by
        rcases hconfig with rfl | rfl
        · rfl
        · exact cleared_finalize _
      refine ⟨⟨assignments, h.acknowledges.append_other hset, ?_, h.fits, stored, rfl⟩,
        .inr ⟨reply, hsaved, rfl, hflash.symm⟩⟩
      exact hcleared.trans h.config
  | aborted =>
      exact ⟨⟨assignments, h.acknowledges.append_other rfl, h.config, h.fits, stored, rfl⟩,
        .inr ⟨.aborted, by decide, rfl, hflash.symm⟩⟩
  | accepted field value assignment hline hassigns =>
      have hfits : assignment.Fits := by
        apply hassigns.fits
        intro byte hbyte
        apply hstring
        rw [hline]
        exact List.mem_append_right _ (List.mem_cons_of_mem _ hbyte)
      refine ⟨⟨assignments ++ [assignment], h.acknowledges.append_accepted hassigns, ?_, ?_, stored, rfl⟩,
        .inr ⟨_, by simp, rfl, hflash.symm⟩⟩
      · rw [List.foldl_append, cleared_store, h.config, ← cleared_store]
        rfl
      · intro other hother
        rcases List.mem_append.mp hother with hother | hother
        · exact h.fits other hother
        · rwa [List.mem_singleton.mp hother]
  | saved hline hprovisioned hvalid =>
      exact ⟨⟨assignments, h.acknowledges.append_other rfl, (cleared_finalize _).trans h.config, h.fits,
        _, rfl⟩, .inl ⟨hline, rfl, h.savedAs hprovisioned hvalid⟩⟩

theorem SavedAs.append_saved {initial : IiotConfig} {replies : List Reply} {flash : ConfigFlash}
    (h : SavedAs strtof initial replies flash) :
    SavedAs strtof initial (replies ++ [.saved]) flash := by
  obtain ⟨assignments, saved, hacknowledges, hrest⟩ := h
  exact ⟨assignments, saved, hacknowledges.append_other rfl, hrest⟩

theorem LineStep.saved_iff {config : IiotConfig} {line : List UInt8} {stored : StoredBlob}
    {outcome : LineOutcome × ConfigFlash} (h : LineStep strtof config line stored outcome) :
    (outcome.1.result && outcome.1.complete) = true ↔ outcome.1.reply = .saved := by
  cases h with
  | answered config' reply hconfig hsaved hset => simp [hsaved]
  | aborted => simp
  | accepted field value assignment hline hassigns => simp
  | saved hline hprovisioned hvalid => simp

/-! ### The window -/

/-- The reply among the events of a window. -/
def ProvisionEvent.reply? : ProvisionEvent → Option Reply
  | .reply answer => some answer
  | _ => none

def repliesOf (events : List ProvisionEvent) : List Reply := events.filterMap ProvisionEvent.reply?

theorem repliesOf_append (events : List ProvisionEvent) (event : ProvisionEvent) :
    repliesOf (events ++ [event]) = repliesOf events ++ event.reply?.toList := by
  rw [repliesOf, List.filterMap_append, repliesOf]
  cases h : event.reply? with
  | none => simp [h]
  | some reply => simp [h]

theorem mem_repliesOf {reply : Reply} {events : List ProvisionEvent} :
    reply ∈ repliesOf events ↔ .reply reply ∈ events := by
  rw [repliesOf, List.mem_filterMap]
  constructor
  · rintro ⟨event, hmem, hreply⟩
    cases event with
    | reply answer =>
        cases hreply
        exact hmem
    | _ => cases hreply
  · exact fun hmem => ⟨_, hmem, rfl⟩

def Provisioning.session (state : Provisioning) : Session :=
  ⟨state.config, state.flash, repliesOf state.events⟩

/-- The window has saved what was assigned and will close, or it has not touched the flash. -/
structure Provisioning.Sound (strtof : List UInt8 → ParsedNumber CFloat) (initial : IiotConfig)
    (stored : StoredBlob) (state : Provisioning) : Prop where
  follows : ∃ assignments, state.session.Follows strtof initial assignments
  line : ∀ byte ∈ state.line, byte ≠ 0
  saved : state.saved = true → state.complete = true ∧ .saved ∈ repliesOf state.events ∧
    SavedAs strtof initial (repliesOf state.events) state.flash
  unsaved : state.saved = false → .saved ∉ repliesOf state.events ∧ state.flash = .holding stored

/-- The state after a line that was read to its end. -/
theorem Provisioning.Sound.line_entered {initial : IiotConfig} {stored : StoredBlob}
    {state : Provisioning} (h : state.Sound strtof initial stored) (hopen : state.complete = false)
    (hflash : state.flash = .holding stored) (hnone : .saved ∉ repliesOf state.events)
    (setAnswer commitAnswer : EspErr) {outcome : LineOutcome × ConfigFlash}
    (hrun : (handleLine strtof state.config state.line).run
      (configDevice setAnswer commitAnswer keepOld) state.flash = outcome) :
    Provisioning.Sound strtof initial stored
      { config := outcome.1.config
        line := []
        complete := state.complete || outcome.1.complete
        saved := outcome.1.result && (state.complete || outcome.1.complete)
        events := state.events ++ [.reply outcome.1.reply]
        flash := outcome.2 } := by
  have hstep := run_handleLine strtof state.config state.line stored setAnswer commitAnswer
  rw [← hflash, hrun] at hstep
  have hsaved := hstep.saved_iff
  have hstring : ConsoleLine.IsString ⟨state.line, setAnswer, commitAnswer⟩ := h.line
  obtain ⟨assignments, hbefore⟩ := h.follows
  obtain ⟨hfollows, hentered⟩ := hbefore.enter hstring
  have hsession : state.session.enter strtof ⟨state.line, setAnswer, commitAnswer⟩ =
      ⟨outcome.1.config, outcome.2, repliesOf (state.events ++ [.reply outcome.1.reply])⟩ := by
    rw [repliesOf_append, ← hrun]
    rfl
  have hevents : repliesOf (state.events ++ [.reply outcome.1.reply]) =
      repliesOf state.events ++ [outcome.1.reply] := repliesOf_append _ _
  rw [hsession] at hfollows hentered
  dsimp only [Provisioning.session] at hentered
  rw [hevents, List.append_cancel_left_eq, List.cons.injEq] at hentered
  rw [hopen, Bool.false_or]
  refine ⟨hfollows, by simp, ?_, ?_⟩
  · intro htrue
    rw [hevents, hsaved.mp htrue]
    rcases hentered with ⟨-, -, hstored⟩ | ⟨reply, hother, hreply, -⟩
    · exact ⟨(Bool.and_eq_true_iff.mp htrue).2, by simp, hstored.append_saved⟩
    · rw [List.append_cancel_left_eq, List.cons.injEq] at hreply
      exact absurd (hreply.1.symm.trans (hsaved.mp htrue)) hother
  · intro hfalse
    have hother : outcome.1.reply ≠ .saved := fun hreply => by
      rw [hsaved.mpr hreply] at hfalse
      cases hfalse
    rw [hevents]
    rcases hentered with ⟨-, hreply, -⟩ | ⟨reply, -, -, hkept⟩
    · exact absurd hreply.1 hother
    · refine ⟨?_, hkept.trans hflash⟩
      simpa [hnone] using hother.symm

theorem Provisioning.Sound.turn {initial : IiotConfig} {stored : StoredBlob} {state : Provisioning}
    (h : state.Sound strtof initial stored) (hopen : state.complete = false) (turn : ProvisionTurn) :
    (state.turn strtof turn).Sound strtof initial stored := by
  have hunsaved : state.saved = false := by
    cases hsaved : state.saved with
    | false => rfl
    | true => exact absurd (h.saved hsaved).1 (by simp [hopen])
  obtain ⟨hnone, hflash⟩ := h.unsaved hunsaved
  unfold Provisioning.turn
  cases hreceived : turn.received with
  | none => exact h
  | some character =>
      dsimp only
      by_cases hend : character = 13 ∨ character = 10
      · rw [if_pos hend]
        by_cases hempty : state.line = []
        · rw [if_pos hempty]
          exact h
        · rw [if_neg hempty]
          exact h.line_entered hopen hflash hnone _ _ rfl
      · rw [if_neg hend]
        by_cases hkept : 32 ≤ character ∧ character < 127 ∧ state.line.length < lineMax - 1
        · rw [if_pos hkept]
          refine ⟨h.follows, ?_, h.saved, h.unsaved⟩
          intro byte hbyte
          rcases List.mem_append.mp hbyte with hbyte | hbyte
          · exact h.line byte hbyte
          · rw [List.mem_singleton.mp hbyte]
            rintro rfl
            exact absurd hkept.1 (by decide)
        · rw [if_neg hkept]
          by_cases hlong : lineMax - 1 ≤ state.line.length
          · rw [if_pos hlong]
            have hreplies : repliesOf (state.events ++ [.lineTooLong]) = repliesOf state.events := by
              rw [repliesOf_append]
              exact List.append_nil _
            refine ⟨?_, by simp, ?_, ?_⟩
            · rw [Provisioning.session, hreplies]
              exact h.follows
            · rw [hreplies]
              exact h.saved
            · rw [hreplies]
              exact h.unsaved
          · rw [if_neg hlong]
            exact h

theorem Provisioning.Sound.loop {initial : IiotConfig} {stored : StoredBlob}
    (turns : List ProvisionTurn) {state : Provisioning} (h : state.Sound strtof initial stored) :
    (Provisioning.loop strtof turns state).Sound strtof initial stored := by
  induction turns generalizing state with
  | nil => exact h
  | cons turn turns ih =>
      rw [Provisioning.loop]
      cases hcomplete : state.complete with
      | true => exact h
      | false => exact ih (h.turn hcomplete turn)

theorem Session.follows_start (initial : IiotConfig) (stored : StoredBlob) :
    Session.Follows strtof initial [] ⟨initial, .holding stored, []⟩ :=
  ⟨.nil, rfl, by simp, stored, rfl⟩

theorem Session.follows_exec (strtof : List UInt8 → ParsedNumber CFloat) (initial : IiotConfig)
    (stored : StoredBlob) (lines : List ConsoleLine) (hstrings : ∀ line ∈ lines, line.IsString) :
    ∃ assignments, (exec (Session.enter strtof) ⟨initial, .holding stored, []⟩ lines).Follows strtof
      initial assignments := by
  induction lines using List.reverseRecOn with
  | nil => exact ⟨[], Session.follows_start initial stored⟩
  | append_singleton lines line ih =>
      rw [exec_append]
      obtain ⟨assignments, hbefore⟩ := ih fun other hmem =>
        hstrings other (List.mem_append_left _ hmem)
      exact (hbefore.enter (hstrings line (by simp))).1

end Lines

/-- **Provisioning is all or nothing.** A line changes the flash only where it is a `COMMIT` answered
`SAVED`, and then the flash holds the initial configuration with the acknowledged assignments under the
next generation, valid and provisioned. Acknowledged is a `SET` of a field to a value of its range, and
nothing else. The window returns true exactly where it printed `SAVED`, and leaves the flash alone
otherwise. -/
theorem provisioning_all_or_nothing (strtof : List UInt8 → ParsedNumber CFloat)
    (initial : IiotConfig) (stored : StoredBlob) :
    (∀ (lines : List ConsoleLine) (line : ConsoleLine), (∀ entry ∈ lines ++ [line], entry.IsString) →
      let before := exec (Session.enter strtof) ⟨initial, .holding stored, []⟩ lines
      let after := before.enter strtof line
      ((line.text = literalText "COMMIT" ∧ after.replies = before.replies ++ [.saved] ∧
          SavedAs strtof initial before.replies after.flash) ∨
        ∃ reply, reply ≠ .saved ∧ after.replies = before.replies ++ [reply] ∧
          after.flash = before.flash) ∧
      ∀ field value, after.replies = before.replies ++ [.accepted field value] ↔
        line.text = literalText "SET " ++ field ++ 61 :: value ∧
          ∃ assignment, Assigns strtof field value assignment) ∧
      ∀ driverInstalled installAnswer timeoutMs turns,
        let outcome := gatewaySerialProvision strtof driverInstalled installAnswer timeoutMs turns
          initial (.holding stored)
        (outcome.result = true ↔ .reply .saved ∈ outcome.events) ∧
          (outcome.result = true →
            SavedAs strtof initial (repliesOf outcome.events) outcome.flash) ∧
          (outcome.result = false → outcome.flash = .holding stored) := by
  constructor
  · intro lines line hstrings
    obtain ⟨assignments, hbefore⟩ := Session.follows_exec strtof initial stored lines
      fun entry hmem => hstrings entry (List.mem_append_left _ hmem)
    refine ⟨(hbefore.enter (hstrings line (by simp))).2, fun field value => ?_⟩
    obtain ⟨stored', hflash⟩ := hbefore.holding
    generalize exec (Session.enter strtof) ⟨initial, .holding stored, []⟩ lines = before at hflash
    obtain ⟨config, flash, replies⟩ := before
    obtain rfl := hflash
    exact Session.enter_accepted_iff strtof config stored' replies line field value
  · intro driverInstalled installAnswer timeoutMs turns
    unfold gatewaySerialProvision
    by_cases hfailed : !driverInstalled ∧ installAnswer ≠ .ok
    · rw [if_pos hfailed]
      simp
    · rw [if_neg hfailed]
      dsimp only
      have hstart : Provisioning.Sound strtof initial stored
          { config := initial
            line := []
            complete := false
            saved := false
            events := [.relayForcedOff, .banner]
            flash := .holding stored } :=
        ⟨⟨[], Session.follows_start initial stored⟩, by simp, by simp,
          by simp [repliesOf, ProvisionEvent.reply?]⟩
      have hsound := hstart.loop turns
      generalize Provisioning.loop strtof turns _ = final at hsound ⊢
      have hreplies : repliesOf (final.events ++
          (if final.complete then [] else [.timeout timeoutMs]) ++ [.relayForcedOff]) =
          repliesOf final.events := by
        rw [repliesOf_append]
        by_cases hcomplete : final.complete = true
        · rw [if_pos hcomplete, List.append_nil]
          exact List.append_nil _
        · rw [if_neg hcomplete, repliesOf_append]
          exact (List.append_nil _).trans (List.append_nil _)
      rw [← mem_repliesOf, hreplies]
      cases hsaved : final.saved with
      | true =>
          obtain ⟨-, hmem, hstored⟩ := hsound.saved hsaved
          exact ⟨by simp [hmem], fun _ => hstored, by simp⟩
      | false =>
          obtain ⟨hmem, hflash⟩ := hsound.unsaved hsaved
          exact ⟨by simp [hmem], by simp, fun _ => hflash⟩

/-- A `strtof` that reads the text `7`. -/
def readsSeven (text : List UInt8) : ParsedNumber CFloat :=
  if text = literalText "7" then ⟨⟨0x40e00000⟩, [], false⟩ else ⟨⟨0⟩, text, false⟩

def setLine (field value : String) : ConsoleLine :=
  ⟨literalText "SET " ++ literalText field ++ 61 :: literalText value, .ok, .ok⟩

/-- A port that is assigned twice and refused once in between, and a write that fails. -/
def siteLines : List ConsoleLine :=
  [setLine "wifi_ssid" "lab", setLine "mqtt_port" "1884", setLine "mqtt_port" "70000",
    setLine "hysteresis_percent" "7", setLine "mqtt_port" " +8883", ⟨literalText "COMMIT", .fail, .ok⟩]

def siteReplies : List Reply :=
  [.accepted (literalText "wifi_ssid") (literalText "lab"),
    .accepted (literalText "mqtt_port") (literalText "1884"), .rejected "INVALID_FIELD_OR_VALUE",
    .accepted (literalText "hysteresis_percent") (literalText "7"),
    .accepted (literalText "mqtt_port") (literalText " +8883"), .rejected "NVS_WRITE_FAILED"]

def siteConfig : IiotConfig :=
  [Assignment.wifiSsid (literalText "lab"), .mqttPort 1884, .hysteresisPercent ⟨0x40e00000⟩,
    .mqttPort 8883].foldl Assignment.store iiotConfigDefaults

theorem siteConfig_provisioned : gatewayIsProvisioned (iiotConfigFinalize siteConfig) = true := by
  decide +kernel

theorem siteConfig_valid : iiotConfigValidate (iiotConfigFinalize siteConfig) = true := by
  rw [iiotConfigValidate_finalize_iff]
  obtain ⟨hnames, ⟨hhost, hfits, -⟩, hintervals, hcapacity, -⟩ :=
    ((iiotConfigValidate_iff iiotConfigDefaults).mp validate_defaults_gateway).2.2
  exact ⟨hnames, ⟨hhost, hfits, by decide⟩, hintervals, hcapacity, by decide +kernel, by decide +kernel,
    by decide +kernel⟩

theorem setLine_entered {field value : String} {config : IiotConfig} {replies : List Reply}
    {assignment : Assignment} (hfield : literalText field ≠ [] ∧ 61 ∉ literalText field)
    (hread : readAssignment readsSeven (literalText field) (literalText value) = some assignment) :
    Session.enter readsSeven ⟨config, .holding .absent, replies⟩ (setLine field value) =
      ⟨assignment.store config, .holding .absent,
        replies ++ [.accepted (literalText field) (literalText value)]⟩ := by
  rw [setLine, Session.enter_set readsSeven hfield, hread]

theorem setLine_refused {field value : String} {config : IiotConfig} {replies : List Reply}
    (hfield : literalText field ≠ [] ∧ 61 ∉ literalText field)
    (hread : readAssignment readsSeven (literalText field) (literalText value) = none) :
    Session.enter readsSeven ⟨config, .holding .absent, replies⟩ (setLine field value) =
      ⟨config, .holding .absent, replies ++ [.rejected "INVALID_FIELD_OR_VALUE"]⟩ := by
  rw [setLine, Session.enter_set readsSeven hfield, hread]

theorem siteReplies_read :
    (siteReplies.filterMap Reply.accepted?).mapM (fun set => readAssignment readsSeven set.1 set.2) =
      some [.wifiSsid (literalText "lab"), .mqttPort 1884, .hysteresisPercent ⟨0x40e00000⟩,
        .mqttPort 8883] := by decide +kernel

theorem siteLines_entered :
    exec (Session.enter readsSeven) ⟨iiotConfigDefaults, .holding .absent, []⟩ siteLines =
      ⟨iiotConfigFinalize siteConfig, .holding .absent, siteReplies⟩ := by
  have hssid : readAssignment readsSeven (literalText "wifi_ssid") (literalText "lab") =
      some (.wifiSsid (literalText "lab")) := by decide +kernel
  have hport : readAssignment readsSeven (literalText "mqtt_port") (literalText "1884") =
      some (.mqttPort 1884) := by decide +kernel
  have hrefused : readAssignment readsSeven (literalText "mqtt_port") (literalText "70000") = none := by
    decide +kernel
  have hhysteresis : readAssignment readsSeven (literalText "hysteresis_percent") (literalText "7") =
      some (.hysteresisPercent ⟨0x40e00000⟩) := by decide +kernel
  have hlast : readAssignment readsSeven (literalText "mqtt_port") (literalText " +8883") =
      some (.mqttPort 8883) := by decide +kernel
  rw [siteLines, exec_cons, setLine_entered (by decide +kernel) hssid, exec_cons,
    setLine_entered (by decide +kernel) hport, exec_cons, setLine_refused (by decide +kernel) hrefused,
    exec_cons, setLine_entered (by decide +kernel) hhysteresis, exec_cons,
    setLine_entered (by decide +kernel) hlast, exec_cons, exec_nil]
  exact Session.enter_commit readsSeven siteConfig_provisioned siteConfig_valid .absent _ .fail .ok

/-- After a `COMMIT` that is stored the last port and the hysteresis of all metrics are in the flash. -/
theorem provisioning_all_or_nothing_commit :
    ∃ saved, ((exec (Session.enter readsSeven) ⟨iiotConfigDefaults, .holding .absent, []⟩ siteLines).enter
        readsSeven ⟨literalText "COMMIT", .ok, .ok⟩).flash =
          .holding (.blob (configLayout.encode saved)) ∧
      saved.generation = iiotConfigDefaults.generation + 1 ∧
      saved.setting .wifiSsid = .text (literalText "lab") ∧ saved.setting .mqttPort = .number 8883 ∧
      saved.setting .currentHysteresis = .float ⟨0x40e00000⟩ ∧
      saved.setting .deviceId = iiotConfigDefaults.setting .deviceId := by
  have hstrings : ∀ entry ∈ siteLines ++ [(⟨literalText "COMMIT", .ok, .ok⟩ : ConsoleLine)],
      entry.IsString := by
    unfold ConsoleLine.IsString
    decide +kernel
  have hlines := (provisioning_all_or_nothing readsSeven iiotConfigDefaults .absent).1 siteLines _ hstrings
  have hvalid : iiotConfigValidate (iiotConfigFinalize (iiotConfigFinalize siteConfig)) = true :=
    (iiotConfigValidate_finalize_iff _).mpr ((iiotConfigValidate_iff _).mp siteConfig_valid).2.2
  have hprovisioned : gatewayIsProvisioned (iiotConfigFinalize (iiotConfigFinalize siteConfig)) = true := by
    rw [gatewayIsProvisioned_finalize, siteConfig_provisioned]
  have hcommit := Session.enter_commit readsSeven hprovisioned hvalid .absent siteReplies .ok .ok
  rw [if_pos ⟨rfl, rfl⟩, ← siteLines_entered] at hcommit
  rcases hlines.1 with ⟨-, -, assignments, saved, hacknowledges, hflash, -, hgeneration, -, -, hsettings⟩ |
    ⟨reply, hother, hreply, -⟩
  · refine ⟨saved, hflash, hgeneration, ?_⟩
    have hread := hacknowledges.read
    rw [siteLines_entered, siteReplies_read] at hread
    obtain rfl := Option.some.inj hread
    rw [hsettings, hsettings, hsettings, hsettings]
    exact ⟨rfl, rfl, rfl, rfl⟩
  · rw [hcommit, siteLines_entered, List.append_cancel_left_eq, List.cons.injEq] at hreply
    exact absurd hreply.1.symm hother

end IiotMonitoring
