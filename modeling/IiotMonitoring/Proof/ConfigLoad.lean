import IiotMonitoring.Proof.StoredChecksums

/-!
# What the gateway loads

Whatever the key `config` holds and however the write of a migration ends, the configuration loaded is
valid, and it is the stored one, a migrated one or the defaults as the blob deserves.
-/

namespace IiotMonitoring

/-! ### Valid configurations -/

theorem validate_savedConfig {config : IiotConfig} (h : iiotConfigValidate config = true) :
    iiotConfigValidate (savedConfig config) = true :=
  (iiotConfigValidate_finalize_iff _).mpr ((iiotConfigValidate_iff config).mp h).2.2

theorem iiotConfigMigrateV0_valid {old : IiotConfigV0} {config : IiotConfig}
    (h : iiotConfigMigrateV0 old = some config) : iiotConfigValidate config = true := by
  unfold iiotConfigMigrateV0 at h
  split at h
  · cases h
  · rw [Option.ite_none_right_eq_some] at h
    obtain ⟨hvalid, hconfig⟩ := h
    rwa [← Option.some_inj.mp hconfig]

/-- An identifier that passes its check is shorter than the array it is copied to. -/
theorem cText_copyIdentifier {array text : Vector UInt8 64} (hvalid : identifierIsValid text = true) :
    cText (printText array (cText text)) = cText text := by
  have hlength : (cText text).length ≤ 63 := by
    have h := of_decide_eq_true hvalid
    exact h.2.1
  exact cText_printText (by omega) fun _ => ne_zero_of_mem_cText

theorem iiotConfigMigrateV0_keeps {old : IiotConfigV0} {config : IiotConfig}
    (h : iiotConfigMigrateV0 old = some config) :
    cText config.siteId = cText old.siteId ∧ cText config.deviceId = cText old.deviceId ∧
      config.sampleIntervalMs = old.sampleIntervalMs ∧
      config.telemetryIntervalMs = old.telemetryIntervalMs ∧
      config.temperature.warning = old.temperatureWarningC ∧
      config.temperature.critical = old.temperatureCriticalC := by
  unfold iiotConfigMigrateV0 at h
  split at h
  · cases h
  · rename_i hids
    rw [Option.ite_none_right_eq_some, Option.some_inj] at h
    obtain ⟨hsite, hdevice⟩ :
        identifierIsValid old.siteId = true ∧ identifierIsValid old.deviceId = true := by
      simpa using hids
    obtain ⟨-, rfl⟩ := h
    exact ⟨cText_copyIdentifier hsite, cText_copyIdentifier hdevice, rfl, rfl, rfl, rfl⟩

/-! ### Saving -/

section Device

variable (setAnswer commitAnswer : EspErr) (failed : StoredBlob → List UInt8 → StoredBlob)

theorem run_gatewayConfigSave (config : IiotConfig) (stored : StoredBlob) :
    (gatewayConfigSave config).run (configDevice setAnswer commitAnswer failed) (.holding stored) =
      if iiotConfigValidate (savedConfig config) = false then
        (false, .holding stored)
      else if setAnswer = .ok ∧ commitAnswer = .ok then
        (true, .holding (.blob (configLayout.encode (savedConfig config))))
      else
        (false, .holding (failed stored (configLayout.encode (savedConfig config)))) := by
  unfold gatewayConfigSave
  by_cases hvalid : iiotConfigValidate (savedConfig config) = true
  · simp only [hvalid, if_true, if_false, Bool.true_eq_false]
    by_cases hset : setAnswer = .ok
    · subst hset
      simp only [nvsSetBlob, Program.perform_bind, Program.run_call, configDevice, if_true]
      by_cases hcommit : commitAnswer = .ok
      · simp [nvsCommit, configDevice, hcommit, ConfigFlash.holding]
      · simp [nvsCommit, configDevice, hcommit, ConfigFlash.holding]
    · simp [nvsSetBlob, configDevice, hset, ConfigFlash.holding]
  · simp [hvalid]

theorem gatewayConfigSave_stored {config : IiotConfig} {stored : StoredBlob}
    (h : ((gatewayConfigSave config).run (configDevice setAnswer commitAnswer failed)
      (.holding stored)).1 = true) :
    iiotConfigValidate (savedConfig config) = true ∧
      ((gatewayConfigSave config).run (configDevice setAnswer commitAnswer failed) (.holding stored)).2 =
        .holding (.blob (configLayout.encode (savedConfig config))) := by
  rw [run_gatewayConfigSave] at h ⊢
  cases hvalid : iiotConfigValidate (savedConfig config) with
  | false =>
      rw [hvalid] at h
      cases h
  | true =>
      rw [hvalid, if_neg (by decide)] at h
      rw [if_neg (by decide)]
      split at h
      · rename_i hstored
        rw [if_pos hstored]
        exact ⟨rfl, rfl⟩
      · cases h

/-! ### Loading -/

/-- The key holds a valid configuration of version 1. -/
def StoredBlob.Current (stored : StoredBlob) : Prop :=
  ∃ image, stored = .blob image ∧ image.length = configLayout.size ∧
    iiotConfigValidate (configLayout.decode image) = true

/-- The key holds a configuration of version 0 that is migrated and saved. -/
def StoredBlob.Migrates (stored : StoredBlob) : Prop :=
  ∃ image config, stored = .blob image ∧ image.length = configV0Layout.size ∧
    iiotConfigMigrateV0 (configV0Layout.decode image) = some config ∧
    ((gatewayConfigSave config).run (configDevice setAnswer commitAnswer failed) (.holding stored)).1 = true

def loadedFrom (stored : StoredBlob) : LoadedConfig :=
  (gatewayConfigLoad.run (configDevice setAnswer commitAnswer failed) (.holding stored)).1

theorem loadedFrom_absent : loadedFrom setAnswer commitAnswer failed .absent = .loaded iiotConfigDefaults :=
  rfl

theorem loadedFrom_unreadable : loadedFrom setAnswer commitAnswer failed .unreadable = .fallback := rfl

variable {setAnswer commitAnswer failed}

theorem run_migrateStored {image : List UInt8} (hlength : image.length = configV0Layout.size) :
    (migrateStored.run (configDevice setAnswer commitAnswer failed) (.holding (.blob image))).1 =
      match iiotConfigMigrateV0 (configV0Layout.decode image) with
      | none => none
      | some config =>
          if ((gatewayConfigSave config).run (configDevice setAnswer commitAnswer failed)
              (.holding (.blob image))).1 = true then
            some config
          else
            none := by
  have hread : configDevice setAnswer commitAnswer failed (.getBlob "config" configV0Layout.size)
      (.holding (.blob image)) = (.ok image, .holding (.blob image)) :=
    congrArg (·, ConfigFlash.holding (.blob image)) (if_pos hlength.le)
  rw [migrateStored, nvsGetBlob, Program.run_bind, Program.run_perform, hread]
  dsimp only
  generalize iiotConfigMigrateV0 (configV0Layout.decode image) = migrated
  cases migrated with
  | none => simp
  | some config =>
      dsimp only
      rw [Program.run_bind]
      generalize (gatewayConfigSave config).run (configDevice setAnswer commitAnswer failed)
        (.holding (.blob image)) = saved
      by_cases hsaved : saved.1 = true
      · simp [hsaved, espLog]
      · simp [hsaved]

theorem loadedFrom_blob (image : List UInt8) :
    loadedFrom setAnswer commitAnswer failed (.blob image) =
      if image.length = configV0Layout.size then
        match (migrateStored.run (configDevice setAnswer commitAnswer failed) (.holding (.blob image))).1 with
        | some config => .loaded config
        | none => .fallback
      else if image.length = configLayout.size ∧
          iiotConfigValidate (configLayout.decode image) = true then
        .loaded (configLayout.decode image)
      else
        .fallback := by
  rw [loadedFrom, gatewayConfigLoad, nvsGetBlob, Program.run_bind, Program.run_perform]
  by_cases hfits : image.length ≤ configLayout.size
  · have hread : configDevice setAnswer commitAnswer failed (.getBlob "config" configLayout.size)
        (.holding (.blob image)) = (.ok image, .holding (.blob image)) :=
      congrArg (·, ConfigFlash.holding (.blob image)) (if_pos hfits)
    rw [hread]
    dsimp only
    generalize configLayout.decode image = config
    by_cases hold : image.length = configV0Layout.size
    · have hsizes : configV0Layout.size ≠ configLayout.size := by decide
      simp only [hold, if_true, Program.run_bind, hsizes, ne_eq, not_false_eq_true, true_or]
      generalize migrateStored.run (configDevice setAnswer commitAnswer failed) (.holding (.blob image)) = outcome
      cases outcome.1 with
      | none => rfl
      | some config => rfl
    · simp only [hold, if_false, pure_bind]
      by_cases hcurrent : image.length = configLayout.size ∧ iiotConfigValidate config = true
      · simp [hcurrent]
      · rw [if_neg hcurrent, if_pos]
        · rfl
        · rw [← Bool.not_eq_true]
          exact not_and_or.mp hcurrent
  · have hread : configDevice setAnswer commitAnswer failed (.getBlob "config" configLayout.size)
        (.holding (.blob image)) = (.error .nvsInvalidLength, .holding (.blob image)) :=
      congrArg (·, ConfigFlash.holding (.blob image)) (if_neg hfits)
    have hsizes : configV0Layout.size ≤ configLayout.size := by decide
    rw [hread, if_neg (by omega), if_neg (by omega)]
    rfl

theorem loadedFrom_current {image : List UInt8} (hlength : image.length = configLayout.size)
    (hvalid : iiotConfigValidate (configLayout.decode image) = true) :
    loadedFrom setAnswer commitAnswer failed (.blob image) = .loaded (configLayout.decode image) := by
  have hsizes : configLayout.size ≠ configV0Layout.size := by decide
  rw [loadedFrom_blob, if_neg (by omega), if_pos ⟨hlength, hvalid⟩]

variable (setAnswer commitAnswer failed) in
/-- A load of a stored blob takes the blob, or its migration, or falls back. -/
theorem loadedFrom_blob_cases (image : List UInt8) :
    (StoredBlob.Current (.blob image) ∧ image.length = configLayout.size ∧
      iiotConfigValidate (configLayout.decode image) = true ∧
      loadedFrom setAnswer commitAnswer failed (.blob image) = .loaded (configLayout.decode image)) ∨
    (∃ config, StoredBlob.Migrates setAnswer commitAnswer failed (.blob image) ∧
      image.length = configV0Layout.size ∧
      iiotConfigMigrateV0 (configV0Layout.decode image) = some config ∧
      loadedFrom setAnswer commitAnswer failed (.blob image) = .loaded config) ∨
    (¬ StoredBlob.Current (.blob image) ∧
      ¬ StoredBlob.Migrates setAnswer commitAnswer failed (.blob image) ∧
      loadedFrom setAnswer commitAnswer failed (.blob image) = .fallback) := by
  have hsizes : configLayout.size ≠ configV0Layout.size := by decide
  by_cases hold : image.length = configV0Layout.size
  · have hcurrent : ¬ StoredBlob.Current (.blob image) := by
      rintro ⟨image', himage, hlength, -⟩
      cases himage
      omega
    rw [loadedFrom_blob, if_pos hold, run_migrateStored hold]
    cases hmigrate : iiotConfigMigrateV0 (configV0Layout.decode image) with
    | none =>
        refine .inr (.inr ⟨hcurrent, ?_, rfl⟩)
        rintro ⟨image', config, himage, -, hmigrate', -⟩
        cases himage
        rw [hmigrate] at hmigrate'
        cases hmigrate'
    | some config =>
        by_cases hsaved : ((gatewayConfigSave config).run (configDevice setAnswer commitAnswer failed)
            (.holding (.blob image))).1 = true
        · refine .inr (.inl ⟨config, ⟨image, config, rfl, hold, hmigrate, hsaved⟩, hold, rfl, ?_⟩)
          simp only [hsaved, if_true]
        · refine .inr (.inr ⟨hcurrent, ?_, ?_⟩)
          · rintro ⟨image', config', himage, -, hmigrate', hsaved'⟩
            cases himage
            rw [hmigrate] at hmigrate'
            cases hmigrate'
            exact hsaved hsaved'
          · simp only [hsaved, if_false, Bool.false_eq_true]
  · have hmigrates : ¬ StoredBlob.Migrates setAnswer commitAnswer failed (.blob image) := by
      rintro ⟨image', config, himage, hlength, -⟩
      cases himage
      exact hold hlength
    by_cases hvalid : image.length = configLayout.size ∧
        iiotConfigValidate (configLayout.decode image) = true
    · exact .inl ⟨⟨image, rfl, hvalid⟩, hvalid.1, hvalid.2, loadedFrom_current hvalid.1 hvalid.2⟩
    · refine .inr (.inr ⟨?_, hmigrates, ?_⟩)
      · rintro ⟨image', himage, hlength, hvalid'⟩
        cases himage
        exact hvalid ⟨hlength, hvalid'⟩
      · rw [loadedFrom_blob, if_neg hold, if_neg hvalid]

theorem validate_loadedFrom (stored : StoredBlob) :
    iiotConfigValidate (loadedFrom setAnswer commitAnswer failed stored).config = true := by
  cases stored with
  | absent => exact validate_defaults_gateway
  | unreadable => exact validate_defaults_gateway
  | blob image =>
      rcases loadedFrom_blob_cases setAnswer commitAnswer failed image with
        ⟨-, -, hvalid, hloaded⟩ | ⟨config, -, -, hmigrate, hloaded⟩ | ⟨-, -, hloaded⟩
      · rw [hloaded]
        exact hvalid
      · rw [hloaded]
        exact iiotConfigMigrateV0_valid hmigrate
      · rw [hloaded]
        exact validate_defaults_gateway

theorem usedFallback_iff (stored : StoredBlob) :
    (loadedFrom setAnswer commitAnswer failed stored).usedFallback = true ↔
      stored ≠ .absent ∧ ¬ stored.Current ∧ ¬ stored.Migrates setAnswer commitAnswer failed := by
  cases stored with
  | absent => simp [loadedFrom_absent, LoadedConfig.loaded]
  | unreadable =>
      simp [loadedFrom_unreadable, LoadedConfig.fallback, StoredBlob.Current, StoredBlob.Migrates]
  | blob image =>
      rcases loadedFrom_blob_cases setAnswer commitAnswer failed image with
        ⟨hcurrent, -, -, hloaded⟩ | ⟨config, hmigrates, -, -, hloaded⟩ |
        ⟨hcurrent, hmigrates, hloaded⟩
      · simp [hloaded, LoadedConfig.loaded, hcurrent]
      · simp [hloaded, LoadedConfig.loaded, hmigrates]
      · simp [hloaded, LoadedConfig.fallback, hcurrent, hmigrates]

theorem loadedFrom_defaults {stored : StoredBlob}
    (h : (loadedFrom setAnswer commitAnswer failed stored).usedFallback = true ∨ stored = .absent) :
    (loadedFrom setAnswer commitAnswer failed stored).config = iiotConfigDefaults := by
  cases stored with
  | absent => rfl
  | unreadable => rfl
  | blob image =>
      rcases h with hfallback | habsent
      · rcases loadedFrom_blob_cases setAnswer commitAnswer failed image with
          ⟨-, -, -, hloaded⟩ | ⟨config, -, -, -, hloaded⟩ | ⟨-, -, hloaded⟩
        · rw [hloaded] at hfallback
          cases hfallback
        · rw [hloaded] at hfallback
          cases hfallback
        · rw [hloaded]
          rfl
      · cases habsent

/-- What a migration keeps. -/
theorem loadedFrom_migrates {image : List UInt8}
    (h : StoredBlob.Migrates setAnswer commitAnswer failed (.blob image)) :
    iiotConfigMigrateV0 (configV0Layout.decode image) =
      some (loadedFrom setAnswer commitAnswer failed (.blob image)).config := by
  obtain ⟨image', config, himage, hlength, hmigrate, hsaved⟩ := h
  cases himage
  rw [loadedFrom_blob, if_pos hlength, run_migrateStored hlength, hmigrate]
  simp only [hsaved, if_true]
  rfl

end Device

/-- The next load of a saved configuration. -/
theorem loadedFrom_saved {config : IiotConfig} (hvalid : iiotConfigValidate (savedConfig config) = true)
    (setAnswer commitAnswer : EspErr) (failed : StoredBlob → List UInt8 → StoredBlob) :
    loadedFrom setAnswer commitAnswer failed (.blob (configLayout.encode (savedConfig config))) =
      .loaded (savedConfig config) := by
  rw [loadedFrom_current (configLayout.length_encode _), configLayout.decode_encode]
  rwa [configLayout.decode_encode]

/-- **A load never half-trusts the flash.** Whatever the key holds and however a migration's write
ends, the configuration is valid, the defaults are taken exactly where nothing better can be had, a
migration keeps the old settings, and a saved configuration is what the next load returns. -/
theorem gatewayConfigLoad_trusts (setAnswer commitAnswer : EspErr)
    (failed : StoredBlob → List UInt8 → StoredBlob) (stored : StoredBlob) :
    let loaded := loadedFrom setAnswer commitAnswer failed stored
    iiotConfigValidate loaded.config = true ∧
      (loaded.usedFallback = true ↔
        stored ≠ .absent ∧ ¬ stored.Current ∧ ¬ stored.Migrates setAnswer commitAnswer failed) ∧
      (loaded.usedFallback = true ∨ stored = .absent → loaded.config = iiotConfigDefaults) ∧
      (∀ image, stored = .blob image → stored.Migrates setAnswer commitAnswer failed →
        let old := configV0Layout.decode image
        cText loaded.config.siteId = cText old.siteId ∧
          cText loaded.config.deviceId = cText old.deviceId ∧
          loaded.config.sampleIntervalMs = old.sampleIntervalMs ∧
          loaded.config.telemetryIntervalMs = old.telemetryIntervalMs ∧
          loaded.config.temperature.warning = old.temperatureWarningC ∧
          loaded.config.temperature.critical = old.temperatureCriticalC) ∧
      ∀ config flash,
        (gatewayConfigSave config).run (configDevice setAnswer commitAnswer failed) (.holding stored) =
          (true, flash) →
        ∀ setAnswer' commitAnswer' failed',
          (gatewayConfigLoad.run (configDevice setAnswer' commitAnswer' failed') flash).1 =
            .loaded (iiotConfigFinalize { config with generation := config.generation + 1 }) := by
  refine ⟨validate_loadedFrom stored, usedFallback_iff stored, loadedFrom_defaults, ?_, ?_⟩
  · rintro image rfl hmigrates
    exact iiotConfigMigrateV0_keeps (loadedFrom_migrates hmigrates)
  · intro config flash hsaved setAnswer' commitAnswer' failed'
    have hresult : ((gatewayConfigSave config).run (configDevice setAnswer commitAnswer failed)
        (.holding stored)).1 = true := by
      rw [hsaved]
    obtain ⟨hvalid, hflash⟩ := gatewayConfigSave_stored setAnswer commitAnswer failed hresult
    rw [hsaved] at hflash
    dsimp only at hflash
    rw [hflash]
    exact loadedFrom_saved hvalid setAnswer' commitAnswer' failed'

/-- After a save of the defaults into an empty flash, the next load returns them with generation 2. -/
theorem gatewayConfigLoad_trusts_defaults :
    (gatewayConfigLoad.run (configDevice .fail .fail fun old _ => old)
      (.holding (.blob (configLayout.encode (savedConfig iiotConfigDefaults))))).1 =
        .loaded (iiotConfigFinalize
          { iiotConfigDefaults with generation := iiotConfigDefaults.generation + 1 }) := by
  have hvalid := validate_savedConfig validate_defaults_gateway
  refine (gatewayConfigLoad_trusts .ok .ok (fun old _ => old) .absent).2.2.2.2 iiotConfigDefaults
    (.holding (.blob (configLayout.encode (savedConfig iiotConfigDefaults)))) ?_ .fail .fail
    (fun old _ => old)
  rw [run_gatewayConfigSave, hvalid]
  rfl

end IiotMonitoring
