import IiotMonitoring.Lib.Exceptions
import IiotMonitoring.Lib.JsonText
import IiotMonitoring.Proof.ArtifactLoad
import IiotMonitoring.Worker.Training

/-!
# The metadata file

`load_bundle` reads back the metadata that `save_bundle` writes, where the texts are Unicode and the
integers are not too long.
-/

namespace IiotMonitoring.AnomalyWorker

/-! ### The sorted object -/

theorem findMember_of_mem {members : List (Text × Json)} (hkeys : (members.map Prod.fst).Nodup)
    {key : Text} {value : Json} (hmem : (key, value) ∈ members) :
    findMember key members = some value := by
  induction members with
  | nil => cases hmem
  | cons first members ih =>
      obtain ⟨key', value'⟩ := first
      rw [List.map_cons, List.nodup_cons] at hkeys
      rw [findMember]
      rcases List.mem_cons.mp hmem with hsame | hmem
      · cases hsame
        have hnone : findMember key members = none := by
          by_contra hsome
          obtain ⟨found, hfound⟩ := Option.ne_none_iff_exists'.mp hsome
          exact hkeys.1 (mem_keys hfound)
        rw [hnone, if_pos rfl, Option.none_or]
      · rw [ih hkeys.2 hmem, Option.some_or]
where
  mem_keys {key : Text} {value : Json} : ∀ {members : List (Text × Json)},
      findMember key members = some value → key ∈ members.map Prod.fst
    | [], h => by cases h
    | (key', value') :: members, h => by
        rw [findMember, Option.or_eq_some_iff] at h
        rw [List.map_cons]
        rcases h with h | ⟨-, h⟩
        · exact .tail _ (mem_keys h)
        · obtain ⟨rfl, -⟩ := Option.ite_some_none_eq_some.mp h
          exact .head _

theorem mem_sortKeys {members : List (Text × Json)} {member : Text × Json} :
    member ∈ sortKeys members ↔ member ∈ members := List.mem_mergeSort

theorem member_sortKeys {members : List (Text × Json)} (hkeys : (members.map Prod.fst).Nodup)
    {key : String} {value : Json} (hmem : (codes key, value) ∈ members) :
    member (sortKeys members) key = .ok value := by
  have hsorted : ((sortKeys members).map Prod.fst).Nodup :=
    ((List.mergeSort_perm members _).map Prod.fst).nodup_iff.mpr hkeys
  rw [member, findMember_of_mem hsorted (mem_sortKeys.mpr hmem)]

theorem restorableMembers_iff {limits : JsonLimits} {nesting : Nat} {members : List (Text × Json)} :
    RestorableMembers limits nesting members ↔
      ∀ member ∈ members, isUnicode member.1 = true ∧ member.2.Restorable limits nesting := by
  induction members with
  | nil => exact ⟨fun _ => List.forall_mem_nil _, fun _ => trivial⟩
  | cons member members ih =>
      obtain ⟨key, value⟩ := member
      rw [List.forall_mem_cons, RestorableMembers, ih, and_assoc]

theorem restorableItems_texts {limits : JsonLimits} {nesting : Nat} {texts : List Text}
    (h : ∀ text ∈ texts, isUnicode text = true) :
    RestorableItems limits nesting (texts.map .string) := by
  induction texts with
  | nil => trivial
  | cons text texts ih =>
      rw [List.forall_mem_cons] at h
      exact ⟨h.1, ih h.2⟩

/-! ### What is written -/

section Metadata

variable {P : Type} {runtime : Runtime P} {trainer : Trainer}

/-- `float` reads the number back from its literal. -/
structure Trainer.Prints (trainer : Trainer) (runtime : Runtime P) (value : ℚ) : Prop where
  fraction : (trainer.literal value).isInteger = false
  reads : floatOf runtime (trainer.literal value).value = .finite value

/-- Metadata that JSON restores. -/
structure ModelMetadata.Writable (trainer : Trainer) (runtime : Runtime P) (metadata : ModelMetadata) :
    Prop where
  texts : ∀ text ∈ [metadata.deviceId, metadata.assetClass, metadata.modelVersion,
    metadata.trainingStart, metadata.trainingEnd, metadata.sklearnVersion, metadata.createdAt,
    metadata.scoreDirection, metadata.baselinePolicy, metadata.artifactChecksum],
    isUnicode text = true
  names : ∀ name ∈ metadata.featureNames, isUnicode name = true
  integers : ∀ value ∈ [metadata.featureSchemaVersion, metadata.trainingSampleCount,
    metadata.validationSampleCount, metadata.randomSeed], value.natAbs < 10 ^ runtime.limits.digits
  contamination : ∃ value, metadata.contamination = .finite value ∧ trainer.Prints runtime value

theorem truncate_intCast (value : Int) : truncate (value : ℚ) = value := by
  unfold truncate
  split_ifs
  · exact Rat.ceil_intCast value
  · exact Rat.floor_intCast value

theorem readInteger_intJson (value : Int) : readInteger runtime (intJson value) = .ok value := by
  have hinteger : (⟨decide (value < 0), value.natAbs, none, none⟩ : JsonNumber).isInteger = true := rfl
  have hvalue : (if decide (value < 0) = true then -(value.natAbs : Int) else value.natAbs) = value := by
    split_ifs with hsign
    · rw [decide_eq_true_eq] at hsign
      omega
    · rw [decide_eq_true_eq] at hsign
      omega
  rw [intJson, readInteger, if_pos hinteger, JsonNumber.value_of_isInteger hinteger, hvalue,
    truncate_intCast]

theorem within_intJson {value : Int} {limits : JsonLimits} (hdigits : 0 < limits.digits)
    (hvalue : value.natAbs < 10 ^ limits.digits) (nesting : Nat) :
    (intJson value).Restorable limits nesting := by
  intro _
  obtain ⟨count, hcount⟩ : ∃ count, limits.digits = count + 1 := ⟨limits.digits - 1, by omega⟩
  have hlength := length_printNat_le (hcount ▸ hvalue)
  rwa [printNat, List.length_map, ← hcount] at hlength

theorem readNumber_floatJson {value : ℚ} (hprints : trainer.Prints runtime value) :
    readNumber runtime (floatJson trainer (.finite value)) = .ok (.finite value) := by
  rw [floatJson, readNumber, hprints.fraction, hprints.reads]
  rfl

theorem asDict_keys (metadata : ModelMetadata) :
    ((metadata.asDict trainer).map Prod.fst).Nodup := by
  unfold ModelMetadata.asDict
  simp only [List.map_cons, List.map_nil]
  decide

theorem mapM_readText (texts : List Text) :
    (texts.map Json.string).mapM (readText runtime) = .ok texts := by
  rw [List.mapM_map]
  exact (mapM_ok fun text _ => rfl).trans (congrArg _ (List.map_id' texts))

/-- `cls` gets back the fields. -/
theorem readMetadata_sorted {metadata : ModelMetadata} {value : ℚ}
    (hvalue : metadata.contamination = .finite value) (hprints : trainer.Prints runtime value) :
    readMetadata runtime (sortKeys (metadata.asDict trainer)) = .ok metadata := by
  have hmember : ∀ (place : Nat) {key : String} {json : Json},
      (metadata.asDict trainer)[place]? = some (codes key, json) →
        member (sortKeys (metadata.asDict trainer)) key = .ok json :=
    fun _ _ _ h => member_sortKeys (asDict_keys metadata) (List.mem_of_getElem? h)
  have hcontamination : readNumber runtime (floatJson trainer metadata.contamination) =
      .ok metadata.contamination := by
    rw [hvalue]
    exact readNumber_floatJson hprints
  simp only [readMetadata, hmember 0 rfl, hmember 1 rfl, hmember 2 rfl, hmember 3 rfl, hmember 4 rfl,
    hmember 5 rfl, hmember 6 rfl, hmember 7 rfl, hmember 8 rfl, hmember 9 rfl, hmember 10 rfl,
    hmember 11 rfl, hmember 12 rfl, hmember 13 rfl, hmember 14 rfl, hmember 15 rfl, ok_bind, readText,
    iterateJson, mapM_readText, readInteger_intJson, hcontamination]
  rfl

theorem restorable_asDict {metadata : ModelMetadata} (hwritable : metadata.Writable trainer runtime)
    (hdigits : 0 < runtime.limits.digits) (hnesting : 2 ≤ runtime.limits.nesting) :
    (Json.object (sortKeys (metadata.asDict trainer))).Restorable runtime.limits
      runtime.limits.nesting := by
  obtain ⟨value, hvalue, hprints⟩ := hwritable.contamination
  have htexts := hwritable.texts
  have hintegers := hwritable.integers
  simp only [List.forall_mem_cons] at htexts hintegers
  obtain ⟨hdevice, hasset, hversion, hstart, hend, hsklearn, hcreated, hdirection, hpolicy, hchecksum, -⟩ :=
    htexts
  obtain ⟨hschema, htraining, hvalidation, hseed, -⟩ := hintegers
  have hnames : (Json.array (metadata.featureNames.map .string)).Restorable runtime.limits
      (runtime.limits.nesting - 1) :=
    ⟨by omega, restorableItems_texts hwritable.names⟩
  have hfloat : (floatJson trainer metadata.contamination).Restorable runtime.limits
      (runtime.limits.nesting - 1) := by
    rw [hvalue, floatJson]
    intro hinteger
    rw [hprints.fraction] at hinteger
    cases hinteger
  have hinteger := fun value hvalue => @within_intJson value runtime.limits hdigits hvalue
    (runtime.limits.nesting - 1)
  have hall : ∀ member ∈ metadata.asDict trainer, isUnicode member.1 = true ∧
      member.2.Restorable runtime.limits (runtime.limits.nesting - 1) := by
    unfold ModelMetadata.asDict
    simp only [List.forall_mem_cons, isUnicode_codes, true_and]
    exact ⟨hdevice, hasset, hversion, hinteger _ hschema, hnames, hstart, hend, hinteger _ htraining,
      hinteger _ hvalidation, hfloat, hinteger _ hseed, hsklearn, hcreated, hdirection, hpolicy,
      hchecksum, List.forall_mem_nil _⟩
  refine ⟨by omega, restorableMembers_iff.mpr ?_⟩
  exact fun member hmember => hall member (mem_sortKeys.mp hmember)

theorem indented_allowed : (JsonLayout.indented 2).Allowed (· < 128) where
  plain := fun _ _ hhigh => Nat.lt_of_le_of_lt hhigh (by decide)
  line := by
    intro depth code hcode
    rcases List.mem_cons.mp hcode with rfl | hspace
    · decide
    · rw [List.eq_of_mem_replicate hspace]
      decide
  colon := by
    intro code hcode
    rw [List.mem_singleton.mp hcode]
    decide

theorem metadataText_ascii (metadata : ModelMetadata) :
    ∀ code ∈ metadataText trainer metadata, code < 128 := by
  rw [metadataText, List.forall_mem_append]
  refine ⟨Json.layOut_allowed indented_allowed 0 _, ?_⟩
  intro code hcode
  rw [List.mem_singleton.mp hcode]
  decide

theorem readUtf8_ascii {text : Text} (hascii : ∀ code ∈ text, code < 128) :
    readUtf8 runtime (plainBytes text) = .ok text := by
  have hunicode : isUnicode text = true := by
    unfold isUnicode
    rw [List.all_eq_true]
    intro code hcode
    rw [decide_eq_true_eq, Nat.isValidChar]
    have := hascii code hcode
    omega
  rw [readUtf8, decodeUtf8_ascii hascii, Option.filter_some, hunicode]
  rfl

/-- **The metadata is read back.** -/
theorem loadMetadata_saved {metadata : ModelMetadata} (hwritable : metadata.Writable trainer runtime)
    (hdigits : 0 < runtime.limits.digits) (hnesting : 2 ≤ runtime.limits.nesting)
    (hvalid : metadata.isValid runtime = true) (hschema : schemaMatches metadata = true)
    (hsklearn : metadata.sklearnVersion = runtime.sklearnVersion) {directory : ArtifactDirectory}
    (hfile : directory.metadata = .ok (plainBytes (metadataText trainer metadata))) :
    loadMetadata runtime directory = .ok metadata := by
  obtain ⟨value, hvalue, hprints⟩ := hwritable.contamination
  have hclosing : Blank [10] := by
    intro code hcode
    rw [List.mem_singleton.mp hcode]
    rfl
  have hparsed := parseJson_layOut (.indented 2)
    (restorable_asDict hwritable hdigits hnesting) hclosing
  have hloads : loadsText runtime (metadataText trainer metadata) =
      .ok (.object (sortKeys (metadata.asDict trainer))) := by
    rw [loadsText, metadataText, hparsed]
  have hfields : fromDict runtime (sortKeys (metadata.asDict trainer)) = .ok metadata := by
    rw [fromDict, readMetadata_sorted hvalue hprints]
    exact bind_eq_ok.mpr ⟨metadata, rfl, bind_demand.mpr ⟨hvalid, rfl⟩⟩
  rw [loadMetadata, hfile, ok_bind, readUtf8_ascii (metadataText_ascii metadata), ok_bind, hloads]
  refine bind_eq_ok.mpr ⟨_, rfl, ?_⟩
  refine bind_eq_ok.mpr ⟨_, rfl, ?_⟩
  refine bind_eq_ok.mpr ⟨metadata, hfields, ?_⟩
  refine bind_demand.mpr ⟨hschema, ?_⟩
  exact bind_demand.mpr ⟨decide_eq_true hsklearn, rfl⟩

end Metadata

end IiotMonitoring.AnomalyWorker
