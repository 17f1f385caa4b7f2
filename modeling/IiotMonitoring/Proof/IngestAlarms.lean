import IiotMonitoring.Server.IngestRace

/-!
# Alarm writes of a commit

The writes that a call makes on the tables it reads are for three codes of one device, so each still
fits the alarms when the others are in. Writes that fit keep at most one alarm active, and writes from
earlier reads that stand store the same alarms.
-/

namespace IiotMonitoring

variable {format : FloatFormat} {ingest : Ingest} {db : Database}

namespace AlarmWrite

/-- The device and code of the alarm. -/
def target : AlarmWrite → String × AlarmCode
  | .insert alarm => (alarm.deviceId, alarm.code)
  | .update _ loaded _ => (loaded.deviceId, loaded.code)

/-- Writes on alarms of different devices or codes. -/
def Apart (left right : Option AlarmWrite) : Prop :=
  ∀ write ∈ left, ∀ write' ∈ right, write.target ≠ write'.target

end AlarmWrite

/-- An insert where no such alarm is active, or an update of an active alarm as it is stored. -/
def AlarmFits (alarms : List Alarm) : Option AlarmWrite → Prop
  | none => True
  | some (.insert alarm) =>
      ∀ stored ∈ alarms, Database.isActive alarm.deviceId alarm.code stored = false
  | some (.update key loaded held) =>
      alarms[key]? = some loaded ∧ loaded.state = .active ∧ writeAlarm loaded held loaded = held

theorem isActive_iff {deviceId : String} {code : AlarmCode} {alarm : Alarm} :
    Database.isActive deviceId code alarm = true ↔
      alarm.deviceId = deviceId ∧ alarm.code = code ∧ alarm.state = .active := by
  unfold Database.isActive
  simp only [Bool.and_eq_true, decide_eq_true_eq, and_assoc]

@[simp]
theorem writeAlarm_code (loaded held stored : Alarm) :
    (writeAlarm loaded held stored).code = stored.code := rfl

/-- A column held differently is written, and one held as it was loaded is the same. -/
theorem ite_held {α : Type} [DecidableEq α] (held stored : α) :
    (if held = stored then stored else held) = held := by
  split
  · rename_i hsame
    exact hsame.symm
  · rfl

theorem writeAlarms_insert (alarms : List Alarm) (alarm : Alarm) :
    Database.writeAlarms alarms (some (.insert alarm)) = alarms ++ [alarm] := rfl

theorem writeAlarms_update (alarms : List Alarm) (key : Nat) (loaded held : Alarm) :
    Database.writeAlarms alarms (some (.update key loaded held)) =
      alarms.modify key (writeAlarm loaded held) := rfl

/-! ### One write -/

theorem AlarmFits.write_other {alarms : List Alarm} {write write' : Option AlarmWrite}
    (hfits : AlarmFits alarms write) (hfits' : AlarmFits alarms write')
    (hapart : AlarmWrite.Apart write write') :
    AlarmFits (Database.writeAlarms alarms write) write' := by
  cases write with
  | none => exact hfits'
  | some write =>
      cases write' with
      | none => trivial
      | some write' =>
          have htarget := hapart write rfl write' rfl
          cases write with
          | insert alarm =>
              rw [writeAlarms_insert]
              cases write' with
              | insert alarm' =>
                  intro stored hstored
                  rcases List.mem_append.mp hstored with hstored | hstored
                  · exact hfits' stored hstored
                  · obtain rfl := List.mem_singleton.mp hstored
                    apply Bool.eq_false_iff.mpr
                    intro hactive
                    obtain ⟨hdevice, hcode, -⟩ := isActive_iff.mp hactive
                    exact htarget (Prod.ext hdevice hcode)
              | update key loaded held =>
                  obtain ⟨hkey, hrest⟩ := hfits'
                  have hlength := (List.getElem?_eq_some_iff.mp hkey).1
                  exact ⟨by rw [List.getElem?_append_left hlength, hkey], hrest⟩
          | update key loaded held =>
              obtain ⟨hkey, -, -⟩ := hfits
              rw [writeAlarms_update]
              cases write' with
              | insert alarm' =>
                  intro stored hstored
                  obtain ⟨place, hplace⟩ := List.mem_iff_getElem?.mp hstored
                  rw [List.getElem?_modify] at hplace
                  obtain ⟨old, hold, hstored⟩ := Option.map_eq_some_iff.mp hplace
                  by_cases hsame : key = place
                  · obtain rfl : loaded = old := Option.some.inj (hkey.symm.trans (hsame ▸ hold))
                    apply Bool.eq_false_iff.mpr
                    intro hactive
                    obtain ⟨hdevice, hcode, -⟩ := isActive_iff.mp hactive
                    rw [if_pos hsame] at hstored
                    rw [← hstored] at hdevice hcode
                    exact htarget (Prod.ext hdevice hcode)
                  · rw [if_neg hsame] at hstored
                    exact hfits' stored (hstored ▸ List.mem_of_getElem? hold)
              | update key' loaded' held' =>
                  obtain ⟨hkey', hrest⟩ := hfits'
                  have hne : key ≠ key' := by
                    intro hsame
                    obtain rfl := Option.some.inj (hkey.symm.trans (hsame ▸ hkey'))
                    exact htarget rfl
                  refine ⟨?_, hrest⟩
                  rw [List.getElem?_modify_ne _ _ hne, hkey']

theorem mem_insert {alarms : List Alarm} {alarm stored : Alarm} {place : Nat}
    (hplace : (alarms ++ [alarm])[place]? = some stored) :
    alarms[place]? = some stored ∨ place = alarms.length ∧ stored = alarm := by
  rw [List.getElem?_append] at hplace
  split at hplace
  · exact .inl hplace
  · rename_i hlength
    rw [List.getElem?_singleton] at hplace
    split at hplace
    · exact .inr ⟨by omega, (Option.some.inj hplace).symm⟩
    · cases hplace

/-- An update keeps an alarm's device and code, and makes none active that was not. -/
theorem mem_update {alarms : List Alarm} {key place : Nat} {loaded held stored : Alarm}
    (hkey : alarms[key]? = some loaded) (hactive : loaded.state = .active)
    (hplace : (alarms.modify key (writeAlarm loaded held))[place]? = some stored) :
    ∃ old, alarms[place]? = some old ∧ stored.deviceId = old.deviceId ∧ stored.code = old.code ∧
      (stored.state = .active → old.state = .active) := by
  by_cases hsame : key = place
  · rw [← hsame, List.getElem?_modify_eq, hkey] at hplace
    obtain rfl := Option.some.inj hplace
    exact ⟨loaded, hsame ▸ hkey, rfl, rfl, fun _ => hactive⟩
  · rw [List.getElem?_modify_ne _ _ hsame] at hplace
    exact ⟨stored, hplace, rfl, rfl, id⟩

/-- At most one alarm of the device and code is active. -/
def SingleActive (alarms : List Alarm) (deviceId : String) (code : AlarmCode) : Prop :=
  ∀ (left right : Nat) (alarm alarm' : Alarm), alarms[left]? = some alarm →
    alarms[right]? = some alarm' → Database.isActive deviceId code alarm = true →
    Database.isActive deviceId code alarm' = true → left = right

theorem oneActive_iff {alarms : List Alarm} :
    OneActive alarms ↔ ∀ deviceId code, SingleActive alarms deviceId code := by
  constructor
  · intro hone deviceId code left right alarm alarm' hleft hright hactive hactive'
    obtain ⟨hdevice, hcode, hstate⟩ := isActive_iff.mp hactive
    obtain ⟨hdevice', hcode', hstate'⟩ := isActive_iff.mp hactive'
    exact hone left right alarm alarm' hleft hright hstate hstate' (hdevice.trans hdevice'.symm)
      (hcode.trans hcode'.symm)
  · intro hsingle left right alarm alarm' hleft hright hstate hstate' hdevice hcode
    exact hsingle alarm.deviceId alarm.code left right alarm alarm' hleft hright
      (isActive_iff.mpr ⟨rfl, rfl, hstate⟩)
      (isActive_iff.mpr ⟨hdevice.symm, hcode.symm, hstate'⟩)

theorem SingleActive.writeAlarms {alarms : List Alarm} {write : Option AlarmWrite}
    {deviceId : String} {code : AlarmCode} (hsingle : SingleActive alarms deviceId code)
    (hfits : AlarmFits alarms write) :
    SingleActive (Database.writeAlarms alarms write) deviceId code := by
  cases write with
  | none => exact hsingle
  | some write =>
      cases write with
      | insert alarm =>
          have hold : ∀ (place : Nat) (stored : Alarm), alarms[place]? = some stored →
              Database.isActive deviceId code stored = true →
              Database.isActive deviceId code alarm ≠ true := by
            intro place stored hplace hactive hnew
            obtain ⟨rfl, rfl, -⟩ := isActive_iff.mp hnew
            rw [hfits stored (List.mem_of_getElem? hplace)] at hactive
            cases hactive
          intro left right first second hleft hright hfirst hsecond
          rw [writeAlarms_insert] at hleft hright
          rcases mem_insert hleft with hmem | ⟨hlast, hnew⟩
          · rcases mem_insert hright with hmem' | ⟨hlast', hnew'⟩
            · exact hsingle left right first second hmem hmem' hfirst hsecond
            · exact absurd (hnew' ▸ hsecond) (hold left first hmem hfirst)
          · rcases mem_insert hright with hmem' | ⟨hlast', hnew'⟩
            · exact absurd (hnew ▸ hfirst) (hold right second hmem' hsecond)
            · rw [hlast, hlast']
      | update key loaded held =>
          obtain ⟨hkey, hactive, -⟩ := hfits
          intro left right first second hleft hright hfirst hsecond
          obtain ⟨old, hold, hdevice₁, hcode₁, hactive₁⟩ := mem_update hkey hactive hleft
          obtain ⟨old', hold', hdevice₂, hcode₂, hactive₂⟩ := mem_update hkey hactive hright
          rw [isActive_iff, hdevice₁, hcode₁] at hfirst
          rw [isActive_iff, hdevice₂, hcode₂] at hsecond
          exact hsingle left right old old' hold hold'
            (isActive_iff.mpr ⟨hfirst.1, hfirst.2.1, hactive₁ hfirst.2.2⟩)
            (isActive_iff.mpr ⟨hsecond.1, hsecond.2.1, hactive₂ hsecond.2.2⟩)

theorem writeAlarms_eq {alarms : List Alarm} {write write' : Option AlarmWrite}
    (hstands : AlarmStands write write') (hfits : AlarmFits alarms write') :
    Database.writeAlarms alarms write = Database.writeAlarms alarms write' := by
  unfold AlarmStands at hstands
  split at hstands
  · rfl
  · rw [hstands]
  · obtain ⟨rfl, hstands⟩ := hstands
    obtain ⟨hkey, -, hheld⟩ := hfits
    rename_i key loaded held stored held'
    rw [writeAlarms_update, writeAlarms_update]
    apply List.ext_getElem?
    intro place
    by_cases hsame : key = place
    · rw [← hsame, List.getElem?_modify_eq, List.getElem?_modify_eq, hkey]
      exact congrArg some (hstands.trans hheld.symm)
    · rw [List.getElem?_modify_ne _ _ hsame, List.getElem?_modify_ne _ _ hsame]
  · exact hstands.elim

/-! ### The writes of a call -/

theorem activeAlarm_some {deviceId : String} {code : AlarmCode} {key : Nat} {alarm : Alarm}
    (hactive : db.activeAlarm deviceId code = some (key, alarm)) :
    db.alarms[key]? = some alarm ∧ Database.isActive deviceId code alarm = true := by
  unfold Database.activeAlarm at hactive
  split at hactive
  · cases hactive
  · rename_i place hplace
    obtain ⟨hlength, hfirst, -⟩ := List.findIdx?_eq_some_iff_getElem.mp hplace
    rw [List.getElem?_eq_getElem hlength] at hactive
    obtain ⟨rfl, rfl⟩ := Prod.mk.inj (Option.some.inj hactive)
    exact ⟨List.getElem?_eq_getElem hlength, hfirst⟩

theorem activeAlarm_none {deviceId : String} {code : AlarmCode}
    (hactive : db.activeAlarm deviceId code = none) :
    ∀ alarm ∈ db.alarms, Database.isActive deviceId code alarm = false := by
  unfold Database.activeAlarm at hactive
  split at hactive
  · rename_i hnone
    exact List.findIdx?_eq_none_iff.mp hnone
  · rename_i place hplace
    obtain ⟨hlength, -, -⟩ := List.findIdx?_eq_some_iff_getElem.mp hplace
    rw [List.getElem?_eq_getElem hlength] at hactive
    cases hactive

/-- A write decided on the active alarm that is stored fits, and is for the rule's device and code. -/
theorem decide_fits {rule : MetricRule} {deviceId : String} {value : FloatNumber ℚ} :
    AlarmFits db.alarms (rule.decide format deviceId value (db.activeAlarm deviceId rule.code)) ∧
      ∀ write ∈ rule.decide format deviceId value (db.activeAlarm deviceId rule.code),
        write.target = (deviceId, rule.code) := by
  cases hactive : db.activeAlarm deviceId rule.code with
  | none =>
      have hnone := activeAlarm_none hactive
      unfold MetricRule.decide
      split
      · refine ⟨hnone, ?_⟩
        intro write hwrite
        obtain rfl := Option.some.inj hwrite
        rfl
      · exact ⟨trivial, by simp⟩
  | some found =>
      obtain ⟨key, alarm⟩ := found
      obtain ⟨hkey, hsome⟩ := activeAlarm_some hactive
      obtain ⟨hdevice, hcode, hstate⟩ := isActive_iff.mp hsome
      unfold MetricRule.decide
      split
      · refine ⟨⟨hkey, hstate, ?_⟩, ?_⟩
        · unfold writeAlarm
          simp only [ite_held, if_true]
        · intro write hwrite
          obtain rfl := Option.some.inj hwrite
          exact Prod.ext hdevice hcode
      · dsimp only
        split
        · refine ⟨⟨hkey, hstate, ?_⟩, ?_⟩
          · unfold writeAlarm
            simp only [ite_held, if_true]
          · intro write hwrite
            obtain rfl := Option.some.inj hwrite
            exact Prod.ext hdevice hcode
        · exact ⟨trivial, by simp⟩

theorem alarmWrite_fits (rule : MetricRule) :
    AlarmFits db.alarms (ingest.alarmWrite format db rule) ∧
      ∀ write ∈ ingest.alarmWrite format db rule,
        write.target = (ingest.envelope.deviceId, rule.code) := by
  unfold Ingest.alarmWrite
  cases rule.value with
  | none => exact ⟨trivial, by simp⟩
  | some value => exact decide_fits

theorem alarmWrites_fit : ∀ write ∈ ingest.alarmWrites format db, AlarmFits db.alarms write := by
  intro write hwrite
  obtain ⟨rule, -, rfl⟩ := List.mem_map.mp hwrite
  exact (alarmWrite_fits rule).1

theorem alarmWrites_apart : (ingest.alarmWrites format db).Pairwise AlarmWrite.Apart := by
  have hcodes : (ingest.metricRules (ingest.config db)).Pairwise (·.code ≠ ·.code) := by
    simp [Ingest.metricRules]
  apply List.pairwise_map.mpr
  refine hcodes.imp ?_
  intro rule rule' hcode write hwrite write' hwrite' htarget
  rw [(alarmWrite_fits rule).2 write hwrite, (alarmWrite_fits rule').2 write' hwrite'] at htarget
  exact hcode (Prod.ext_iff.mp htarget).2

/-! ### All writes of a commit -/

theorem fits_rest {alarms : List Alarm} {write : Option AlarmWrite} {writes : List (Option AlarmWrite)}
    (hfits : ∀ write' ∈ write :: writes, AlarmFits alarms write')
    (hapart : (write :: writes).Pairwise AlarmWrite.Apart) :
    ∀ write' ∈ writes, AlarmFits (Database.writeAlarms alarms write) write' := by
  intro write' hmem
  exact (hfits write (List.mem_cons_self ..)).write_other (hfits write' (List.mem_cons_of_mem _ hmem))
    (List.rel_of_pairwise_cons hapart hmem)

theorem SingleActive.foldl_writeAlarms {writes : List (Option AlarmWrite)} {alarms : List Alarm}
    {deviceId : String} {code : AlarmCode} (hsingle : SingleActive alarms deviceId code)
    (hfits : ∀ write ∈ writes, AlarmFits alarms write) (hapart : writes.Pairwise AlarmWrite.Apart) :
    SingleActive (writes.foldl Database.writeAlarms alarms) deviceId code := by
  induction writes generalizing alarms with
  | nil => exact hsingle
  | cons write writes ih =>
      rw [List.foldl_cons]
      exact ih (hsingle.writeAlarms (hfits write (List.mem_cons_self ..))) (fits_rest hfits hapart)
        hapart.of_cons

theorem OneActive.foldl_writeAlarms {writes : List (Option AlarmWrite)} {alarms : List Alarm}
    (hone : OneActive alarms) (hfits : ∀ write ∈ writes, AlarmFits alarms write)
    (hapart : writes.Pairwise AlarmWrite.Apart) :
    OneActive (writes.foldl Database.writeAlarms alarms) := by
  apply oneActive_iff.mpr
  intro deviceId code
  exact (oneActive_iff.mp hone deviceId code).foldl_writeAlarms hfits hapart

theorem foldl_writeAlarms_eq {writes writes' : List (Option AlarmWrite)} {alarms : List Alarm}
    (hstands : List.Forall₂ AlarmStands writes writes')
    (hfits : ∀ write ∈ writes', AlarmFits alarms write)
    (hapart : writes'.Pairwise AlarmWrite.Apart) :
    writes.foldl Database.writeAlarms alarms = writes'.foldl Database.writeAlarms alarms := by
  induction hstands generalizing alarms with
  | nil => rfl
  | cons hhead _ ih =>
      rw [List.foldl_cons, List.foldl_cons, writeAlarms_eq hhead (hfits _ (List.mem_cons_self ..))]
      exact ih (fits_rest hfits hapart) hapart.of_cons

end IiotMonitoring
