import IiotMonitoring.Proof.ArtifactLoad
import IiotMonitoring.Proof.ScoringCall

/-!
# What a model artifact can raise

Loading a model tolerates the errors of a few classes. The conditions below say, step by step in the
order of the code, that a model's files raise no others; they are exact.
-/

namespace IiotMonitoring.AnomalyWorker

/-! ### Tolerated errors -/

/-- The handler of `_load_ready_bundle` catches the error. -/
def Tolerated (error : PyError) : Prop := caughtByLoading error.kind = true

theorem tolerated_artifactError (message : String) : Tolerated ⟨.artifactError, message⟩ := by
  change caughtByLoading .artifactError = true
  decide

theorem within_demand (condition : Bool) (code : String) : Within Tolerated (demand condition code) := by
  cases condition with
  | false => exact within_error.mpr (tolerated_artifactError code)
  | true => exact within_ok ()

theorem within_recast {α : Type} {caught : PyException → Bool} {code : String}
    {attempt : Except PyError α} :
    Within Tolerated (recast caught code attempt) ↔
      Within (fun error => caught error.kind = true ∨ Tolerated error) attempt := by
  cases attempt with
  | ok value => exact ⟨fun _ => within_ok value, fun _ => within_ok value⟩
  | error error =>
      rw [recast, within_error, within_error]
      by_cases hcaught : caught error.kind = true
      · rw [if_pos hcaught]
        exact ⟨fun _ => .inl hcaught, fun _ => tolerated_artifactError code⟩
      · rw [if_neg hcaught, or_iff_right hcaught]

/-! ### Metadata -/

section Metadata

variable {P : Type} (runtime : Runtime P)

/-- What `from_dict` makes of a member. -/
inductive FieldKind where
  | text | integer | number | names
  deriving DecidableEq

/-- The members in the order in which `from_dict` reads them. -/
def metadataFields : List (String × FieldKind) :=
  [("device_id", .text), ("asset_class", .text), ("model_version", .text),
    ("feature_schema_version", .integer), ("feature_names", .names), ("training_start", .text),
    ("training_end", .text), ("training_sample_count", .integer), ("validation_sample_count", .integer),
    ("contamination", .number), ("random_seed", .integer), ("sklearn_version", .text),
    ("created_at", .text), ("score_direction", .text), ("baseline_policy", .text),
    ("artifact_checksum", .text)]

/-- The member is read as its kind. -/
def ReadsField (members : List (Text × Json)) (field : String × FieldKind) : Prop :=
  match field.2 with
  | .text => ∃ value, member members field.1 >>= readText runtime = .ok value
  | .integer => ∃ value, member members field.1 >>= readInteger runtime = .ok value
  | .number => ∃ value, member members field.1 >>= readNumber runtime = .ok value
  | .names => ∃ value,
      member members field.1 >>= iterateJson >>= (·.mapM (readText runtime)) = .ok value

/-- Reading the member raises allowed errors only. -/
def FieldWithin (allowed : PyError → Prop) (members : List (Text × Json))
    (field : String × FieldKind) : Prop :=
  match field.2 with
  | .text => Within allowed (member members field.1 >>= readText runtime)
  | .integer => Within allowed (member members field.1 >>= readInteger runtime)
  | .number => Within allowed (member members field.1 >>= readNumber runtime)
  | .names => Within allowed
      (member members field.1 >>= iterateJson >>= (·.mapM (readText runtime)))

theorem within_readMetadata (allowed : PyError → Prop) (members : List (Text × Json)) :
    Within allowed (readMetadata runtime members) ↔
      InTurn (ReadsField runtime members) (FieldWithin runtime allowed members) metadataFields := by
  rw [readMetadata, metadataFields]
  iterate 16 refine within_bind_const fun _ => ?_
  exact ⟨fun _ => trivial, fun _ => within_ok _⟩

/-- The literal is an infinite float. -/
def isInfinite : Json → Bool
  | .number number => !number.isInteger && exceedsDouble number.value
  | .nonFinite literal => literal ≠ .nan
  | .null | .bool _ | .string _ | .array _ | .object _ => false

/-- The literal is an integer that no float is near. -/
def isTooLarge : Json → Bool
  | .number number => number.isInteger && exceedsDouble number.value
  | .null | .bool _ | .nonFinite _ | .string _ | .array _ | .object _ => false

/-- What `from_dict` catches, or the handler above it. -/
def ToleratedInFields (error : PyError) : Prop :=
  caughtByFromDict error.kind = true ∨ Tolerated error

theorem within_caught {α : Type} (kind : PyException) (message : String)
    (h : caughtByFromDict kind = true) :
    Within ToleratedInFields (.error ⟨kind, message⟩ : Except PyError α) :=
  within_error.mpr (.inl h)

theorem not_within_overflow {α : Type} (message : String) :
    ¬ Within ToleratedInFields (.error ⟨.overflowError, message⟩ : Except PyError α) := by
  rw [within_error]
  rintro (h | h)
  · cases h
  · cases h

theorem within_member {members : List (Text × Json)} {name : String} {α : Type}
    {read : Json → Except PyError α} :
    Within ToleratedInFields (member members name >>= read) ↔
      ∀ value, findMember (codes name) members = some value → Within ToleratedInFields (read value) := by
  rw [member]
  cases findMember (codes name) members with
  | none =>
      constructor
      · intro _ value hvalue
        cases hvalue
      · exact fun _ => within_caught .keyError name (by decide)
  | some value =>
      constructor
      · intro h value' hvalue
        cases hvalue
        exact h
      · exact fun h => h value rfl

theorem within_intOfFloat (value : PyFloat) :
    Within ToleratedInFields (intOfFloat value) ↔ ∀ negative, value ≠ .infinity negative := by
  cases value with
  | finite value => exact ⟨fun _ _ h => (by cases h), fun _ => within_ok _⟩
  | nan => exact ⟨fun _ _ h => (by cases h), fun _ => within_caught .valueError _ (by decide)⟩
  | infinity negative => exact ⟨fun h => absurd h (not_within_overflow _), fun h => absurd rfl (h negative)⟩

theorem within_readInteger (value : Json) :
    Within ToleratedInFields (readInteger runtime value) ↔ isInfinite value = false := by
  cases value with
  | null => exact ⟨fun _ => rfl, fun _ => within_caught .typeError _ (by decide)⟩
  | array items => exact ⟨fun _ => rfl, fun _ => within_caught .typeError _ (by decide)⟩
  | object members => exact ⟨fun _ => rfl, fun _ => within_caught .typeError _ (by decide)⟩
  | bool value => exact ⟨fun _ => rfl, fun _ => within_ok _⟩
  | string text =>
      refine ⟨fun _ => rfl, fun _ => ?_⟩
      rw [readInteger]
      cases runtime.readInt text with
      | none => exact within_caught .valueError _ (by decide)
      | some value => exact within_ok value
  | nonFinite literal =>
      rw [readInteger, within_intOfFloat]
      cases literal <;> simp [isInfinite, NonFinite.float]
  | number number =>
      rw [readInteger, isInfinite]
      by_cases hinteger : number.isInteger = true
      · rw [if_pos hinteger, hinteger]
        exact ⟨fun _ => rfl, fun _ => within_ok _⟩
      · rw [if_neg hinteger, within_intOfFloat, eq_false_of_ne_true hinteger, floatOf]
        cases hexceeds : exceedsDouble number.value with
        | false => simp
        | true => simp

theorem within_readNumber (value : Json) :
    Within ToleratedInFields (readNumber runtime value) ↔ isTooLarge value = false := by
  cases value with
  | null => exact ⟨fun _ => rfl, fun _ => within_caught .typeError _ (by decide)⟩
  | array items => exact ⟨fun _ => rfl, fun _ => within_caught .typeError _ (by decide)⟩
  | object members => exact ⟨fun _ => rfl, fun _ => within_caught .typeError _ (by decide)⟩
  | bool value => exact ⟨fun _ => rfl, fun _ => within_ok _⟩
  | nonFinite literal => exact ⟨fun _ => rfl, fun _ => within_ok _⟩
  | string text =>
      refine ⟨fun _ => rfl, fun _ => ?_⟩
      rw [readNumber]
      cases runtime.readFloat text with
      | none => exact within_caught .valueError _ (by decide)
      | some value => exact within_ok value
  | number number =>
      rw [readNumber, isTooLarge]
      cases number.isInteger && exceedsDouble number.value with
      | false => exact ⟨fun _ => rfl, fun _ => within_ok _⟩
      | true => exact ⟨fun h => absurd h (not_within_overflow _), fun h => (by cases h)⟩

/-- A value is read as a kind, or the error is tolerated: an integer field holds no infinite float, the
contamination is not too large, and values that are no strings have their `repr`. -/
def FieldKind.Tolerates (kind : FieldKind) (value : Json) : Prop :=
  match kind with
  | .text => Within ToleratedInFields (readText runtime value)
  | .integer => isInfinite value = false
  | .number => isTooLarge value = false
  | .names => ∀ items, iterateJson value = .ok items →
      InTurn (fun item => ∃ text, readText runtime item = .ok text)
        (fun item => Within ToleratedInFields (readText runtime item)) items

theorem within_iterateJson (value : Json) : Within ToleratedInFields (iterateJson value) := by
  cases value with
  | array items => exact within_ok items
  | string text => exact within_ok _
  | object members => exact within_ok _
  | null => exact within_caught .typeError _ (by decide)
  | bool value => exact within_caught .typeError _ (by decide)
  | number number => exact within_caught .typeError _ (by decide)
  | nonFinite literal => exact within_caught .typeError _ (by decide)

theorem fieldWithin_iff (members : List (Text × Json)) (field : String × FieldKind) :
    FieldWithin runtime ToleratedInFields members field ↔
      ∀ value, findMember (codes field.1) members = some value → field.2.Tolerates runtime value := by
  obtain ⟨name, kind⟩ := field
  cases kind with
  | text => exact within_member
  | integer => exact within_member.trans (forall₂_congr fun value _ => within_readInteger runtime value)
  | number => exact within_member.trans (forall₂_congr fun value _ => within_readNumber runtime value)
  | names =>
      rw [FieldWithin]
      dsimp only
      rw [bind_assoc, within_member]
      apply forall₂_congr
      intro value _
      rw [within_bind, and_iff_right (within_iterateJson value)]
      exact forall₂_congr fun items _ => within_mapM

/-- Every member in turn is read, or the error is tolerated. -/
def FieldsTolerated (members : List (Text × Json)) : Prop :=
  InTurn (ReadsField runtime members)
    (fun field => ∀ value, findMember (codes field.1) members = some value →
      field.2.Tolerates runtime value)
    metadataFields

theorem within_fromDict (members : List (Text × Json)) :
    Within Tolerated (fromDict runtime members) ↔ FieldsTolerated runtime members := by
  rw [fromDict, within_bind_within, within_recast]
  · exact (within_readMetadata runtime ToleratedInFields members).trans
      (InTurn.congr (fun _ => Iff.rfl) (fieldWithin_iff runtime members) metadataFields)
  · exact fun metadata => within_bind_pure.mpr (within_demand _ _)

end Metadata

/-! ### Bundles -/

section Bundle

variable {P : Type} (runtime : Runtime P)

/-- `metadata.json` can be read or the error is tolerated, its text is not nested too deeply, and its
members are tolerated. -/
structure MetadataTolerated (directory : ArtifactDirectory) : Prop where
  file : Within Tolerated directory.metadata
  nesting : ∀ bytes text, directory.metadata = .ok bytes → readUtf8 runtime bytes = .ok text →
    parseJson runtime.limits text ≠ .error .nesting
  fields : ∀ bytes text members, directory.metadata = .ok bytes →
    readUtf8 runtime bytes = .ok text → parseJson runtime.limits text = .ok (.object members) →
    FieldsTolerated runtime members

theorem within_caughtByReading {α : Type} {code : String} {attempt : Except PyError α} :
    Within Tolerated (recast caughtByReading code attempt) ↔ Within Tolerated attempt := by
  rw [within_recast]
  apply within_congr
  intro error
  apply or_iff_right_of_imp
  rw [Tolerated]
  cases error.kind <;> decide

theorem within_readUtf8 (bytes : List UInt8) : Within Tolerated (readUtf8 runtime bytes) := by
  rw [readUtf8]
  cases (decodeUtf8 bytes).filter isUnicode with
  | none => exact within_error.mpr rfl
  | some text => exact within_ok text

theorem within_loadsText (text : Text) :
    Within Tolerated (loadsText runtime text) ↔ parseJson runtime.limits text ≠ .error .nesting := by
  rw [loadsText]
  cases hparse : parseJson runtime.limits text with
  | ok value => exact ⟨fun _ h => (by cases h), fun _ => within_ok value⟩
  | error fault =>
      cases fault with
      | malformed => exact ⟨fun _ h => (by cases h), fun _ => within_error.mpr rfl⟩
      | digits => exact ⟨fun _ h => (by cases h), fun _ => within_error.mpr rfl⟩
      | nesting =>
          constructor
          · intro h
            cases within_error.mp h
          · exact fun h => absurd rfl h

theorem loadsText_ok {text : Text} {value : Json} :
    loadsText runtime text = .ok value ↔ parseJson runtime.limits text = .ok value := by
  rw [loadsText]
  cases parseJson runtime.limits text with
  | ok value' => exact ⟨fun h => (by cases h; rfl), fun h => (by cases h; rfl)⟩
  | error fault =>
      constructor
      · intro h
        cases fault <;> cases h
      · intro h
        cases h

theorem within_asObject (value : Json) : Within Tolerated (asObject value) := by
  cases value with
  | object members => exact within_ok members
  | null => exact within_error.mpr rfl
  | bool value => exact within_error.mpr rfl
  | number number => exact within_error.mpr rfl
  | nonFinite literal => exact within_error.mpr rfl
  | string text => exact within_error.mpr rfl
  | array items => exact within_error.mpr rfl

theorem asObject_ok {value : Json} {members : List (Text × Json)} :
    asObject value = .ok members ↔ value = .object members := by
  cases value <;> simp [asObject]

theorem within_loadMetadata (directory : ArtifactDirectory) :
    Within Tolerated (loadMetadata runtime directory) ↔ MetadataTolerated runtime directory := by
  have hchecks : ∀ metadata : ModelMetadata, Within Tolerated (do
      demand (schemaMatches metadata) "MODEL_FEATURE_SCHEMA_MISMATCH"
      demand (metadata.sklearnVersion = runtime.sklearnVersion) "MODEL_LIBRARY_VERSION_MISMATCH"
      return metadata) := fun metadata =>
    within_bind.mpr ⟨within_demand _ _, fun _ _ =>
      within_bind.mpr ⟨within_demand _ _, fun _ _ => within_ok metadata⟩⟩
  rw [loadMetadata, within_bind, within_caughtByReading, within_bind, within_bind]
  constructor
  · rintro ⟨⟨⟨hfile, -⟩, htext⟩, hraw⟩
    refine ⟨hfile, ?_, ?_⟩
    · intro bytes text hbytes hdecoded
      exact (within_loadsText runtime text).mp (htext text (bind_eq_ok.mpr ⟨bytes, hbytes, hdecoded⟩))
    · intro bytes text members hbytes hdecoded hparsed
      have hread := hraw (.object members) (recast_ok.mpr (bind_eq_ok.mpr
        ⟨text, bind_eq_ok.mpr ⟨bytes, hbytes, hdecoded⟩, (loadsText_ok runtime).mpr hparsed⟩))
      have hmembers := (within_bind.mp hread).2 members rfl
      exact (within_fromDict runtime members).mp (within_bind.mp hmembers).1
  · intro h
    refine ⟨⟨⟨h.file, fun bytes _ => within_readUtf8 runtime bytes⟩, ?_⟩, ?_⟩
    · intro text hdecoded
      obtain ⟨bytes, hbytes, htext⟩ := bind_eq_ok.mp hdecoded
      exact (within_loadsText runtime text).mpr (h.nesting bytes text hbytes htext)
    · intro raw hraw
      obtain ⟨text, hdecoded, hparsed⟩ := bind_eq_ok.mp (recast_ok.mp hraw)
      obtain ⟨bytes, hbytes, htext⟩ := bind_eq_ok.mp hdecoded
      refine within_bind.mpr ⟨within_asObject raw, ?_⟩
      intro members hmembers
      have hobject := (loadsText_ok runtime).mp hparsed
      rw [asObject_ok.mp hmembers] at hobject
      exact within_bind.mpr ⟨(within_fromDict runtime members).mpr
        (h.fields bytes text members hbytes htext hobject), fun metadata _ => hchecks metadata⟩

/-- What the handler around unpickling catches. -/
def Expected (error : PyError) : Prop := caughtByUnpickling error.kind = true

/-- Unpickling, the entries and the array of scores raise nothing else. -/
structure PayloadTolerated (bytes : List UInt8) : Prop where
  unpickle : Within Expected (runtime.unpickle bytes)
  estimator : ∀ payload, runtime.unpickle bytes = .ok payload →
    Within Expected (runtime.item payload "estimator")
  referenceScores : ∀ payload estimator, runtime.unpickle bytes = .ok payload →
    runtime.item payload "estimator" = .ok estimator →
    Within Expected (runtime.item payload "reference_scores" >>= runtime.floatArray)
  quantiles : ∀ payload estimator scores, runtime.unpickle bytes = .ok payload →
    runtime.item payload "estimator" = .ok estimator →
    runtime.item payload "reference_scores" >>= runtime.floatArray = .ok scores →
    Within Expected (runtime.item payload "feature_quantiles")

theorem within_readPayload (bytes : List UInt8) :
    Within Tolerated (recast caughtByUnpickling "MODEL_ARTIFACT_INVALID" (readPayload runtime bytes)) ↔
      PayloadTolerated runtime bytes := by
  have hexpected : ∀ error : PyError,
      (caughtByUnpickling error.kind = true ∨ Tolerated error) ↔ Expected error := by
    intro error
    apply or_iff_left_of_imp
    rw [Tolerated]
    cases error.kind <;> decide
  rw [within_recast, within_congr hexpected, readPayload, within_bind]
  constructor
  · rintro ⟨hunpickle, hpayload⟩
    refine ⟨hunpickle, ?_, ?_, ?_⟩
    · intro payload hread
      exact (within_bind.mp (hpayload payload hread)).1
    · intro payload estimator hread hestimator
      have hscores := (within_bind.mp (hpayload payload hread)).2 estimator hestimator
      exact (within_bind.mp hscores).1
    · intro payload estimator scores hread hestimator hscores
      have hrest := (within_bind.mp (hpayload payload hread)).2 estimator hestimator
      exact (within_bind.mp ((within_bind.mp hrest).2 scores hscores)).1
  · intro h
    refine ⟨h.unpickle, ?_⟩
    intro payload hread
    refine within_bind.mpr ⟨h.estimator payload hread, ?_⟩
    intro estimator hestimator
    refine within_bind.mpr ⟨h.referenceScores payload estimator hread hestimator, ?_⟩
    intro scores hscores
    exact within_bind.mpr ⟨h.quantiles payload estimator scores hread hestimator hscores,
      fun _ _ => within_ok _⟩

theorem within_checkPayload (payload : Payload P) : Within Tolerated (checkPayload runtime payload) := by
  rw [checkPayload]
  split
  · split
    · exact within_error.mpr rfl
    · exact within_ok _
  · exact within_error.mpr rfl

/-- The quantiles of each item in turn are read, or the error is tolerated. -/
def QuantilesTolerated (items : List (P × P)) : Prop :=
  InTurn (fun item => ∃ quantiles, parseQuantiles runtime item.2 = .ok quantiles)
    (fun item => Within Tolerated (runtime.iterate item.2) ∧
      ∀ values, runtime.iterate item.2 = .ok values →
        InTurn (fun value => ∃ number, runtime.toFloat value = .ok number)
          (fun value => Within Tolerated (runtime.toFloat value)) values)
    items

theorem within_parseQuantiles (values : P) :
    Within Tolerated (parseQuantiles runtime values) ↔
      Within Tolerated (runtime.iterate values) ∧ ∀ items, runtime.iterate values = .ok items →
        InTurn (fun value => ∃ number, runtime.toFloat value = .ok number)
          (fun value => Within Tolerated (runtime.toFloat value)) items := by
  rw [parseQuantiles, within_bind_within, within_bind]
  · exact and_congr_right fun _ => forall₂_congr fun items _ => within_mapM
  · intro parsed
    split
    · split
      · exact within_ok _
      · exact within_error.mpr rfl
    · exact within_error.mpr rfl

theorem within_parseItems (items : List (P × P)) :
    Within Tolerated (parseItems runtime items) ↔ QuantilesTolerated runtime items := by
  rw [parseItems, within_mapM]
  refine InTurn.congr (fun item => ?_) (fun item => ?_) items
  · constructor
    · rintro ⟨entry, hentry⟩
      obtain ⟨quantiles, hquantiles, -⟩ := bind_eq_ok.mp hentry
      exact ⟨quantiles, hquantiles⟩
    · rintro ⟨quantiles, hquantiles⟩
      exact ⟨_, bind_eq_ok.mpr ⟨quantiles, hquantiles, rfl⟩⟩
  · rw [← within_parseQuantiles]
    exact within_bind_pure

/-- The artifact can be read, and its checksum is that of the metadata. -/
def Accepted (directory : ArtifactDirectory) (bytes : List UInt8) : Prop :=
  ∃ metadata, loadMetadata runtime directory = .ok metadata ∧ directory.artifact = .ok bytes ∧
    codes "sha256:" ++ runtime.sha256 bytes = metadata.artifactChecksum

/-- Nothing on the way through the directory raises an error that is not tolerated. -/
structure BundleTolerated (directory : ArtifactDirectory) : Prop where
  metadata : MetadataTolerated runtime directory
  artifact : ∀ metadata, loadMetadata runtime directory = .ok metadata →
    Within Tolerated directory.artifact
  payload : ∀ bytes, Accepted runtime directory bytes → PayloadTolerated runtime bytes
  quantiles : ∀ bytes payload estimator items, Accepted runtime directory bytes →
    readPayload runtime bytes = .ok payload → checkPayload runtime payload = .ok (estimator, items) →
    payload.referenceScores.items.all FloatNumber.isFinite && hasFeatureKeys runtime items →
    QuantilesTolerated runtime items

theorem within_artifact {α : Type} {code : String} {attempt : Except PyError α} :
    Within Tolerated (recast (· = .osError) code attempt) ↔ Within Tolerated attempt := by
  rw [within_recast]
  apply within_congr
  intro error
  apply or_iff_right_of_imp
  rw [Tolerated]
  cases error.kind <;> decide

theorem within_demand_bind {α : Type} {condition : Bool} {code : String}
    {next : Unit → Except PyError α} :
    Within Tolerated (demand condition code >>= next) ↔
      (condition = true → Within Tolerated (next ())) := by
  rw [within_bind, and_iff_right (within_demand condition code)]
  constructor
  · exact fun h hcondition => h () (demand_ok.mpr hcondition)
  · exact fun h done hdone => h (demand_ok.mp hdone)

theorem within_loadBundle (directory : ArtifactDirectory) :
    Within Tolerated (loadBundle runtime directory) ↔ BundleTolerated runtime directory := by
  rw [loadBundle, within_bind, within_loadMetadata]
  constructor
  · rintro ⟨hmetadata, hrest⟩
    have hpayload : ∀ bytes, Accepted runtime directory bytes → PayloadTolerated runtime bytes ∧
        ∀ payload estimator items, readPayload runtime bytes = .ok payload →
          checkPayload runtime payload = .ok (estimator, items) →
          payload.referenceScores.items.all FloatNumber.isFinite && hasFeatureKeys runtime items →
          Within Tolerated (parseItems runtime items) := by
      rintro bytes ⟨metadata, hloaded, hbytes, hchecksum⟩
      have hread := (within_bind.mp (hrest metadata hloaded)).2 bytes (recast_ok.mpr hbytes)
      have hmatches := within_demand_bind.mp hread (decide_eq_true hchecksum)
      obtain ⟨hunpickled, hchecks⟩ := within_bind.mp hmatches
      refine ⟨(within_readPayload runtime bytes).mp hunpickled, ?_⟩
      intro payload estimator items hpayload hcheck hkeys
      have hentries := (within_bind.mp (hchecks payload (recast_ok.mpr hpayload))).2 _ hcheck
      exact (within_bind.mp (within_demand_bind.mp hentries hkeys)).1
    refine ⟨hmetadata, ?_, fun bytes haccepted => (hpayload bytes haccepted).1, ?_⟩
    · intro metadata hloaded
      exact within_artifact.mp (within_bind.mp (hrest metadata hloaded)).1
    · intro bytes payload estimator items haccepted hread hcheck hkeys
      exact (within_parseItems runtime items).mp
        ((hpayload bytes haccepted).2 payload estimator items hread hcheck hkeys)
  · intro h
    refine ⟨h.metadata, ?_⟩
    intro metadata hloaded
    refine within_bind.mpr ⟨within_artifact.mpr (h.artifact metadata hloaded), ?_⟩
    intro bytes hbytes
    rw [within_demand_bind]
    intro hchecksum
    have haccepted : Accepted runtime directory bytes :=
      ⟨metadata, hloaded, recast_ok.mp hbytes, of_decide_eq_true hchecksum⟩
    refine within_bind.mpr ⟨(within_readPayload runtime bytes).mpr (h.payload bytes haccepted), ?_⟩
    intro payload hpayload
    refine within_bind.mpr ⟨within_checkPayload runtime payload, ?_⟩
    rintro ⟨estimator, items⟩ hcheck
    dsimp only
    rw [within_demand_bind]
    intro hkeys
    rw [within_bind_pure]
    exact (within_parseItems runtime items).mpr
      (h.quantiles bytes payload estimator items haccepted (recast_ok.mp hpayload) hcheck hkeys)

end Bundle

/-! ### Registered models -/

section Registry

variable {P : Type} (runtime : Runtime P) (settings : Settings) (registry : AnomalyModel)
  (deviceId : String)

/-- The bundle is the registered one. -/
def Registered (bundle : ModelBundle) : Prop :=
  (bundle.metadata.deviceId = codes deviceId ∧
    bundle.metadata.modelVersion = codes registry.modelVersion) ∧
  bundle.metadata.artifactChecksum = codes registry.artifactChecksum

/-- Nothing between the registry row and the age of its model raises an error that is not tolerated. -/
structure ModelTolerated : Prop where
  path : Within Tolerated (settings.files.resolve registry.artifactPath)
  bundle : ∀ directory, trustedArtifactDirectory settings registry = .ok directory →
    BundleTolerated runtime directory
  age : ∀ directory bundle, trustedArtifactDirectory settings registry = .ok directory →
    loadBundle runtime directory = .ok bundle → Registered registry deviceId bundle →
    Within Tolerated (runtime.readInstant (replaceZ bundle.metadata.createdAt))

theorem within_trustedArtifactDirectory :
    Within Tolerated (trustedArtifactDirectory settings registry) ↔
      Within Tolerated (settings.files.resolve registry.artifactPath) :=
  within_bind_within fun _ => within_bind_pure.mpr (within_demand _ _)

theorem registered_iff {bundle : ModelBundle} :
    ((bundle.metadata.deviceId = codes deviceId &&
        bundle.metadata.modelVersion = codes registry.modelVersion) = true ∧
      (bundle.metadata.artifactChecksum = codes registry.artifactChecksum)) ↔
        Registered registry deviceId bundle := by
  rw [Bool.and_eq_true, decide_eq_true_eq, decide_eq_true_eq, Registered]

theorem within_currentBundle (now : Int) :
    Within Tolerated (currentBundle runtime settings registry deviceId now) ↔
      ModelTolerated runtime settings registry deviceId := by
  rw [currentBundle, within_bind, within_trustedArtifactDirectory]
  have hage : ∀ bundle : ModelBundle, Within Tolerated (do
      demand (bundle.metadata.deviceId = codes deviceId &&
        bundle.metadata.modelVersion = codes registry.modelVersion) "MODEL_REGISTRY_MISMATCH"
      demand (bundle.metadata.artifactChecksum = codes registry.artifactChecksum)
        "MODEL_REGISTRY_CHECKSUM_MISMATCH"
      let stale ← modelIsStale runtime bundle.metadata now settings.modelStaleAfterDays
      return if stale then none else some bundle) ↔
        (Registered registry deviceId bundle →
          Within Tolerated (runtime.readInstant (replaceZ bundle.metadata.createdAt))) := by
    intro bundle
    rw [within_demand_bind, within_demand_bind, within_bind_pure, modelIsStale, within_bind_pure,
      ← and_imp, decide_eq_true_eq, registered_iff]
  constructor
  · rintro ⟨hpath, hrest⟩
    refine ⟨hpath, ?_, ?_⟩
    · intro directory hdirectory
      exact (within_loadBundle runtime directory).mp (within_bind.mp (hrest directory hdirectory)).1
    · intro directory bundle hdirectory hloaded
      exact (hage bundle).mp ((within_bind.mp (hrest directory hdirectory)).2 bundle hloaded)
  · intro h
    refine ⟨h.path, ?_⟩
    intro directory hdirectory
    refine within_bind.mpr ⟨(within_loadBundle runtime directory).mpr (h.bundle directory hdirectory), ?_⟩
    intro bundle hloaded
    exact (hage bundle).mpr (h.age directory bundle hdirectory hloaded)

/-- Loading completes exactly where the registered model is tolerated. -/
theorem loadReadyBundle_completes {models : List AnomalyModel} {now : Int} :
    (∃ loaded, loadReadyBundle runtime settings models deviceId now = .ok loaded) ↔
      ∀ registry, latestRegistry models deviceId = some registry →
        ModelTolerated runtime settings registry deviceId := by
  rw [loadReadyBundle]
  cases latestRegistry models deviceId with
  | none =>
      constructor
      · intro _ registry hregistry
        cases hregistry
      · exact fun _ => ⟨_, rfl⟩
  | some registry =>
      have hwithin := within_currentBundle runtime settings registry deviceId now
      have hsame : (∀ registry', some registry = some registry' →
          ModelTolerated runtime settings registry' deviceId) ↔
            ModelTolerated runtime settings registry deviceId := by
        constructor
        · exact fun h => h registry rfl
        · intro h registry' hregistry
          cases hregistry
          exact h
      rw [hsame, ← hwithin]
      dsimp only
      cases currentBundle runtime settings registry deviceId now with
      | ok bundle => cases bundle <;> exact ⟨fun _ => within_ok _, fun _ => ⟨_, rfl⟩⟩
      | error error =>
          rw [within_error, Tolerated]
          dsimp only
          cases hcaught : caughtByLoading error.kind with
          | true => exact ⟨fun _ => rfl, fun _ => ⟨_, rfl⟩⟩
          | false =>
              constructor
              · rintro ⟨loaded, hloaded⟩
                cases hloaded
              · intro h
                cases h

end Registry

/-! ### Scoring -/

section Score

variable (math : FloatMath) {bundle : ModelBundle}

/-- Rows are scored where there are none, or by an estimator that answers for all of them and with
reference scores in one dimension. -/
structure RowsTolerated (bundle : ModelBundle) (rows : List FeatureRow) : Prop where
  flat : rows ≠ [] → bundle.Flat
  answers : rows ≠ [] → bundle.estimator.Answers (rows.map (·.values))

theorem scoreRow_flat {row : FeatureRow} {score : PyFloat} {prediction : Int} {result : ScoreResult}
    (h : scoreRow math bundle row score prediction = .ok result) : bundle.Flat := by
  obtain ⟨place, hplace, -⟩ := bind_eq_ok.mp h
  by_contra hflat
  rw [ModelBundle.Flat] at hflat
  rw [percentile, if_pos hflat] at hplace
  cases hplace

theorem strictly_ok {α : Type} {lengths : Bool} {results results' : α}
    (h : strictly lengths results = .ok results') : lengths = true := by
  cases lengths with
  | false => cases h
  | true => rfl

theorem scoreRows_completes (hchecked : bundle.Checked) (rows : List FeatureRow) :
    (∃ results, scoreRows math bundle rows = .ok results) ↔ RowsTolerated bundle rows := by
  constructor
  · rintro ⟨results, hresults⟩
    by_cases hrows : rows = []
    · exact ⟨fun h => absurd hrows h, fun h => absurd hrows h⟩
    · have hsome : rows.isEmpty = false := List.isEmpty_eq_false_iff.mpr hrows
      rw [scoreRows, hchecked.schema, hsome] at hresults
      obtain ⟨scores, hscores, hresults⟩ := bind_eq_ok.mp hresults
      obtain ⟨predictions, hpredictions, hresults⟩ := bind_eq_ok.mp hresults
      obtain ⟨scored, hscored, hlast⟩ := bind_eq_ok.mp hresults
      have hlengths := strictly_ok hlast
      rw [Bool.and_eq_true, decide_eq_true_eq, decide_eq_true_eq] at hlengths
      constructor
      · intro _
        obtain ⟨row, rest, rfl⟩ := List.exists_cons_of_ne_nil hrows
        obtain ⟨score, scores', rfl⟩ := List.exists_cons_of_length_eq_add_one hlengths.1
        obtain ⟨prediction, predictions', rfl⟩ := List.exists_cons_of_length_eq_add_one hlengths.2
        cases mapM_results hscored with
        | cons hfirst _ => exact scoreRow_flat math hfirst
      · intro _
        rw [← rows.length_map] at hlengths
        exact ⟨⟨scores, hscores, hlengths.1⟩, ⟨predictions, hpredictions, hlengths.2⟩⟩
  · exact fun h => scoreRows_succeeds math hchecked h.flat h.answers

end Score

end IiotMonitoring.AnomalyWorker
