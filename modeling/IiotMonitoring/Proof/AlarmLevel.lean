import IiotMonitoring.Proof.IngestAlarms

/-!
# The level of an alarm

For one device and code the alarm rows come down to a level: none, or the severity of the active
alarm. A write that fits sets the level of its own device and code and of no other, so a reading moves
the level by the rule alone.
-/

namespace IiotMonitoring

/-- The severity of the active alarm of a device and code, if there is one. -/
def alarmLevel (alarms : List Alarm) (deviceId : String) (code : AlarmCode) : Option Severity :=
  (alarms.find? (Database.isActive deviceId code)).map (·.severity)

/-- The level after a reading, from the level before. -/
def MetricRule.nextLevel (rule : MetricRule) (format : FloatFormat) (level : Option Severity)
    (value : FloatNumber ℚ) : Option Severity :=
  match rule.desired value with
  | some severity => some severity
  | none => if value.below (rule.clearBelow format) then none else level

/-! ### Searching a list with one cell changed -/

section Search

variable {α : Type} {p : α → Bool} {f : α → α} {l : List α} {key : Nat} {x : α}

theorem find?_modify_of_not (hkey : l[key]? = some x) (hx : p x = false) (hfx : p (f x) = false) :
    (l.modify key f).find? p = l.find? p := by
  induction l generalizing key with
  | nil => simp at hkey
  | cons head tail ih =>
      cases key with
      | zero =>
          obtain rfl : head = x := by simpa using hkey
          simp [hx, hfx]
      | succ key =>
          simp only [List.modify_succ_cons, List.find?_cons]
          rw [ih (by simpa using hkey)]

theorem find?_of_single (hkey : l[key]? = some x) (hx : p x = true)
    (hsingle : ∀ other y, l[other]? = some y → p y = true → other = key) : l.find? p = some x := by
  obtain ⟨hlt, rfl⟩ := List.getElem?_eq_some_iff.mp hkey
  apply List.find?_eq_some_iff_getElem.mpr
  refine ⟨hx, key, hlt, rfl, ?_⟩
  intro other hother
  have hne : p l[other] ≠ true := by
    intro hp
    have := hsingle other l[other] (List.getElem?_eq_getElem (by omega)) hp
    omega
  simpa using hne

theorem find?_modify_single (hkey : l[key]? = some x)
    (hsingle : ∀ other y, l[other]? = some y → p y = true → other = key) :
    (l.modify key f).find? p = if p (f x) then some (f x) else none := by
  have hplace : ∀ other y, (l.modify key f)[other]? = some y → other ≠ key → p y = false := by
    intro other y hy hne
    rw [List.getElem?_modify_ne _ _ (Ne.symm hne)] at hy
    exact Bool.eq_false_iff.mpr fun hp => hne (hsingle other y hy hp)
  have hself : (l.modify key f)[key]? = some (f x) := by rw [List.getElem?_modify_eq, hkey]; rfl
  by_cases hp : p (f x) = true
  · rw [if_pos hp]
    apply find?_of_single hself hp
    intro other y hy hpy
    by_contra hne
    rw [hplace other y hy hne] at hpy
    cases hpy
  · rw [if_neg hp]
    apply List.find?_eq_none.mpr
    intro y hmem hpy
    obtain ⟨other, hy⟩ := List.mem_iff_getElem?.mp hmem
    by_cases hne : other = key
    · rw [hne, hself] at hy
      exact hp (Option.some.inj hy ▸ hpy)
    · rw [hplace other y hy hne] at hpy
      cases hpy

end Search

/-! ### Writes -/

section Writes

variable {alarms : List Alarm} {deviceId : String} {code : AlarmCode}

theorem isActive_of_ne {alarm : Alarm} (h : (alarm.deviceId, alarm.code) ≠ (deviceId, code)) :
    Database.isActive deviceId code alarm = false := by
  apply Bool.eq_false_iff.mpr
  intro hactive
  obtain ⟨hdevice, hcode, -⟩ := isActive_iff.mp hactive
  exact h (Prod.ext hdevice hcode)

/-- A write for another device or code leaves the level. -/
theorem alarmLevel_writeAlarms_of_ne {write : Option AlarmWrite} (hfits : AlarmFits alarms write)
    (htarget : ∀ write' ∈ write, write'.target ≠ (deviceId, code)) :
    alarmLevel (Database.writeAlarms alarms write) deviceId code = alarmLevel alarms deviceId code := by
  cases write with
  | none => rfl
  | some write =>
      have hne := htarget write rfl
      unfold alarmLevel
      cases write with
      | insert alarm =>
          rw [writeAlarms_insert, List.find?_append]
          have hnew : Database.isActive deviceId code alarm = false := isActive_of_ne hne
          simp [hnew]
      | update key loaded held =>
          rw [writeAlarms_update, find?_modify_of_not hfits.1 (isActive_of_ne hne)]
          exact isActive_of_ne hne

/-- An alarm inserted where none is active gives the level. -/
theorem alarmLevel_insert {alarm : Alarm} (hfits : AlarmFits alarms (some (.insert alarm)))
    (hactive : Database.isActive deviceId code alarm = true) :
    alarmLevel (Database.writeAlarms alarms (some (.insert alarm))) deviceId code =
      some alarm.severity := by
  obtain ⟨rfl, rfl, -⟩ := isActive_iff.mp hactive
  have hnone : alarms.find? (Database.isActive alarm.deviceId alarm.code) = none :=
    List.find?_eq_none.mpr fun stored hstored => by simp [hfits stored hstored]
  unfold alarmLevel
  rw [writeAlarms_insert, List.find?_append, hnone]
  simp [hactive]

/-- An update of the active alarm gives the level, or ends it. -/
theorem alarmLevel_update {key : Nat} {loaded held : Alarm}
    (hfits : AlarmFits alarms (some (.update key loaded held)))
    (hsingle : SingleActive alarms loaded.deviceId loaded.code) :
    alarmLevel (Database.writeAlarms alarms (some (.update key loaded held))) loaded.deviceId
        loaded.code =
      if Database.isActive loaded.deviceId loaded.code held then some held.severity else none := by
  obtain ⟨hkey, hstate, hheld⟩ := hfits
  have hloaded : Database.isActive loaded.deviceId loaded.code loaded = true :=
    isActive_iff.mpr ⟨rfl, rfl, hstate⟩
  unfold alarmLevel
  rw [writeAlarms_update, find?_modify_single hkey
    fun other stored hstored hactive => hsingle other key stored loaded hstored hkey hactive hloaded,
    hheld]
  split <;> rfl

theorem alarmLevel_of_key {key : Nat} {alarm : Alarm} (hkey : alarms[key]? = some alarm)
    (hactive : Database.isActive deviceId code alarm = true)
    (hsingle : SingleActive alarms deviceId code) :
    alarmLevel alarms deviceId code = some alarm.severity := by
  unfold alarmLevel
  rw [find?_of_single hkey hactive fun other stored hstored hstate =>
    hsingle other key stored alarm hstored hkey hstate hactive]
  rfl

end Writes

/-- **A reading moves the level by the rule.** The write was decided on the tables, and other writes may
have gone in since. -/
theorem alarmLevel_decide {format : FloatFormat} {db : Database} {alarms : List Alarm}
    {rule : MetricRule} {deviceId : String} (value : FloatNumber ℚ)
    (hfits : AlarmFits alarms
      (rule.decide format deviceId value (db.activeAlarm deviceId rule.code)))
    (hsame : alarmLevel alarms deviceId rule.code = alarmLevel db.alarms deviceId rule.code)
    (hsingle : SingleActive alarms deviceId rule.code)
    (hsingle' : SingleActive db.alarms deviceId rule.code) :
    alarmLevel (Database.writeAlarms alarms
        (rule.decide format deviceId value (db.activeAlarm deviceId rule.code))) deviceId rule.code =
      rule.nextLevel format (alarmLevel db.alarms deviceId rule.code) value := by
  unfold MetricRule.nextLevel
  cases hactive : db.activeAlarm deviceId rule.code with
  | none =>
      have hnone : alarmLevel db.alarms deviceId rule.code = none := by
        unfold alarmLevel
        rw [List.find?_eq_none.mpr fun alarm halarm => by simp [activeAlarm_none hactive alarm halarm]]
        rfl
      rw [hactive] at hfits
      unfold MetricRule.decide at hfits ⊢
      cases hdesired : rule.desired value with
      | some severity =>
          rw [hdesired] at hfits
          exact alarmLevel_insert hfits (isActive_iff.mpr ⟨rfl, rfl, rfl⟩)
      | none =>
          rw [hnone, ite_self]
          exact hsame.trans hnone
  | some found =>
      obtain ⟨key, alarm⟩ := found
      obtain ⟨hkey, hsome⟩ := activeAlarm_some hactive
      have hlevel := alarmLevel_of_key hkey hsome hsingle'
      obtain ⟨rfl, hcode, hstate⟩ := isActive_iff.mp hsome
      rw [hactive] at hfits
      rw [hlevel] at hsame ⊢
      rw [← hcode] at hsame hsingle ⊢
      unfold MetricRule.decide at hfits ⊢
      cases hdesired : rule.desired value with
      | some severity =>
          rw [hdesired] at hfits
          dsimp only at hfits ⊢
          rw [alarmLevel_update hfits hsingle]
          simp [Database.isActive, hstate]
      | none =>
          rw [hdesired] at hfits
          dsimp only at hfits ⊢
          by_cases hclear : value.below (rule.clearBelow format) = true
          · rw [if_pos hclear] at hfits ⊢
            rw [alarmLevel_update hfits hsingle, if_pos hclear]
            simp [Database.isActive]
          · rw [if_neg hclear, if_neg hclear]
            exact hsame

/-! ### The writes of a commit -/

/-- The level a reading calls for, if it calls for one: in between, the level is kept. -/
def MetricRule.verdict (rule : MetricRule) (format : FloatFormat) (value : FloatNumber ℚ) :
    Option (Option Severity) :=
  match rule.desired value with
  | some severity => some (some severity)
  | none => if value.below (rule.clearBelow format) then some none else none

theorem nextLevel_eq_verdict (rule : MetricRule) (format : FloatFormat) (level : Option Severity)
    (value : FloatNumber ℚ) :
    rule.nextLevel format level value = (rule.verdict format value).getD level := by
  unfold MetricRule.nextLevel MetricRule.verdict
  cases rule.desired value with
  | some severity => rfl
  | none =>
      dsimp only
      split <;> rfl

/-- The level that the readings of a call ask for, for one code. -/
def Ingest.verdict (ingest : Ingest) (format : FloatFormat) (config : ThresholdConfig)
    (code : AlarmCode) : Option (Option Severity) :=
  ((ingest.metricRules config).find? (·.code = code)).bind fun rule =>
    rule.value.bind (rule.verdict format)

section Commits

variable {format : FloatFormat} {db : Database} {ingest : Ingest} {alarms : List Alarm}
  {code : AlarmCode}

theorem alarmLevel_foldl_of_ne {deviceId : String} {writes : List (Option AlarmWrite)}
    (hfits : ∀ write ∈ writes, AlarmFits alarms write) (hapart : writes.Pairwise AlarmWrite.Apart)
    (htarget : ∀ write ∈ writes, ∀ write' ∈ write, write'.target ≠ (deviceId, code)) :
    alarmLevel (writes.foldl Database.writeAlarms alarms) deviceId code =
      alarmLevel alarms deviceId code := by
  induction writes generalizing alarms with
  | nil => rfl
  | cons write writes ih =>
      rw [List.foldl_cons, ih (fits_rest hfits hapart) hapart.of_cons
        fun write' hmem => htarget write' (List.mem_cons_of_mem _ hmem)]
      exact alarmLevel_writeAlarms_of_ne (hfits write (List.mem_cons_self ..))
        (htarget write (List.mem_cons_self ..))

/-- One write of a call moves the level of its code. -/
theorem alarmLevel_alarmWrite {rule : MetricRule}
    (hfits : AlarmFits alarms (ingest.alarmWrite format db rule))
    (hsame : alarmLevel alarms ingest.envelope.deviceId rule.code =
      alarmLevel db.alarms ingest.envelope.deviceId rule.code)
    (hsingle : SingleActive alarms ingest.envelope.deviceId rule.code)
    (hsingle' : SingleActive db.alarms ingest.envelope.deviceId rule.code) :
    alarmLevel (Database.writeAlarms alarms (ingest.alarmWrite format db rule))
        ingest.envelope.deviceId rule.code =
      (rule.value.bind (rule.verdict format)).getD
        (alarmLevel db.alarms ingest.envelope.deviceId rule.code) := by
  unfold Ingest.alarmWrite at hfits ⊢
  cases hvalue : rule.value with
  | none => exact hsame
  | some value =>
      rw [hvalue] at hfits
      rw [Option.bind_some, Option.bind_some, ← nextLevel_eq_verdict]
      exact alarmLevel_decide value hfits hsame hsingle hsingle'

theorem alarmLevel_foldl {rules : List MetricRule} (hcodes : rules.Pairwise (·.code ≠ ·.code))
    (hfits : ∀ write ∈ rules.map (ingest.alarmWrite format db), AlarmFits alarms write)
    (hapart : (rules.map (ingest.alarmWrite format db)).Pairwise AlarmWrite.Apart)
    (hsame : alarmLevel alarms ingest.envelope.deviceId code =
      alarmLevel db.alarms ingest.envelope.deviceId code)
    (hsingle : SingleActive alarms ingest.envelope.deviceId code)
    (hsingle' : SingleActive db.alarms ingest.envelope.deviceId code) :
    alarmLevel ((rules.map (ingest.alarmWrite format db)).foldl Database.writeAlarms alarms)
        ingest.envelope.deviceId code =
      ((rules.find? (·.code = code)).bind fun rule => rule.value.bind (rule.verdict format)).getD
        (alarmLevel db.alarms ingest.envelope.deviceId code) := by
  induction rules generalizing alarms with
  | nil => exact hsame
  | cons rule rules ih =>
      rw [List.map_cons] at hfits hapart ⊢
      have hrest := fits_rest hfits hapart
      have hwrite := hfits _ (List.mem_cons_self ..)
      rw [List.foldl_cons]
      by_cases hcode : rule.code = code
      · subst hcode
        have hne : ∀ write ∈ rules.map (ingest.alarmWrite format db), ∀ write' ∈ write,
            write'.target ≠ (ingest.envelope.deviceId, rule.code) := by
          intro write hmem write' hwrite' htarget
          obtain ⟨other, hother, rfl⟩ := List.mem_map.mp hmem
          rw [(alarmWrite_fits other).2 write' hwrite'] at htarget
          exact List.rel_of_pairwise_cons hcodes hother (Prod.ext_iff.mp htarget).2.symm
        rw [alarmLevel_foldl_of_ne hrest hapart.of_cons hne,
          alarmLevel_alarmWrite hwrite hsame hsingle hsingle']
        simp
      · have hne : ∀ write ∈ ingest.alarmWrite format db rule,
            write.target ≠ (ingest.envelope.deviceId, code) := by
          intro write hmem htarget
          rw [(alarmWrite_fits rule).2 write hmem] at htarget
          exact hcode (Prod.ext_iff.mp htarget).2
        rw [ih hcodes.of_cons hrest hapart.of_cons
          ((alarmLevel_writeAlarms_of_ne hwrite hne).trans hsame) (hsingle.writeAlarms hwrite)]
        rw [List.find?_cons_of_neg (by simpa using hcode)]

theorem metricRules_codes (config : ThresholdConfig) :
    (ingest.metricRules config).Pairwise (·.code ≠ ·.code) := by
  simp [Ingest.metricRules]

/-- **A call moves every level by its readings.** -/
theorem alarmLevel_commit (hsingle : SingleActive db.alarms ingest.envelope.deviceId code) :
    alarmLevel ((ingest.alarmWrites format db).foldl Database.writeAlarms db.alarms)
        ingest.envelope.deviceId code =
      (ingest.verdict format (ingest.config db) code).getD
        (alarmLevel db.alarms ingest.envelope.deviceId code) :=
  alarmLevel_foldl (metricRules_codes _) alarmWrites_fit alarmWrites_apart rfl hsingle hsingle

end Commits

end IiotMonitoring
