import InlineIps.Ml.LoadArtifacts

/-!
# The artifacts of the trainer

`_save_artifacts` of the trainer writes the three files that `load_artifacts` reads. Of the libraries
this takes that they read back what they have written, and that `load_state_dict` is strict
(`RoundTrips`).

* `loadArtifacts_saved`: the loader refuses what the trainer saves, or loads it as it was.
-/

namespace InlineIps

open Library Library.Fallible Python OnlineServer AbsolutePath

namespace Artifacts

variable {File Content : Type}

/-! ## The trainer -/

/-- What a training ends with. -/
structure Training (nFeatures : Nat) where
  model : Autoencoder nFeatures
  mean : NpyArray
  scale : NpyArray
  threshold : Float
  percentile : Float
  modelVersion : String

/-- The metadata of `_save_artifacts`. -/
def Training.metadata {n : Nat} (training : Training n) : PyValue :=
  .object [
    ("feature_schema_version", .number (.int featureSchemaVersion)),
    ("model_version", .string training.modelVersion),
    ("threshold", .number (.float training.threshold)),
    ("features", .array (features.map .string)),
    ("n_features", .number (.int features.length)),
    ("percentile", .number (.float training.percentile))]

/-- Writing the whole of a file. -/
def FileStore.write [DecidableEq File] (store : FileStore File Content) (path : List Char)
    (content : Content) : FileStore File Content where
  fileAt := store.fileAt
  content := Function.update store.content (store.fileAt path) (some content)

/-- `_save_artifacts`. The directory is where `ARTIFACTS` leads. -/
def saveArtifacts [DecidableEq File] (libraries : Libraries Content)
    (store : FileStore File Content) (directory : List Char) {n : Nat} (training : Training n) :
    FileStore File Content :=
  let store := store.write (join directory "autoencoder.pt".toList)
    (libraries.torchSave training.model.stateDict)
  let store := store.write (join directory "scaler.npz".toList)
    (libraries.savez training.mean training.scale)
  store.write (join directory "metadata.json".toList) (libraries.jsonDump training.metadata)

/-! ## What the libraries do -/

/-- The libraries read back what they have written of a training. `load_state_dict` takes a state
dict with the names and the shapes of the model, and a model that has taken one has its values. -/
structure Libraries.RoundTrips (libraries : Libraries Content) {n : Nat} (training : Training n) :
    Prop where
  json : libraries.jsonLoad (libraries.jsonDump training.metadata) = .ok training.metadata
  npz : ∃ arrays, libraries.npLoad (libraries.savez training.mean training.scale) = .ok arrays ∧
    arrays "mean" = some training.mean ∧ arrays "scale" = some training.scale
  torch : libraries.torchLoad (libraries.torchSave training.model.stateDict) =
    .ok training.model.stateDict
  takes : ∀ model : Autoencoder n, ∃ loaded,
    libraries.loadStateDict model training.model.stateDict = .ok loaded
  strict : ∀ {m : Nat} (model loaded : Autoencoder m),
    libraries.loadStateDict model training.model.stateDict = .ok loaded →
      loaded.stateDict = training.model.stateDict

/-! ## Files -/

section Files

variable [DecidableEq File] {store : FileStore File Content} {path path' : List Char}
  {content : Content}

@[simp] theorem FileStore.read_write : (store.write path content).read path = .ok content := by
  simp [FileStore.read, FileStore.write]

theorem FileStore.read_write_of_ne (h : store.fileAt path' ≠ store.fileAt path) :
    (store.write path content).read path' = store.read path' := by
  simp [FileStore.read, FileStore.write, Function.update_of_ne h]

end Files

/-! ## The round trip -/

section RoundTrip

variable {floatOfText : String → Except String Float} {libraries : Libraries Content}
  {store : FileStore File Content} {path : List Char} {n : Nat} {training : Training n}

theorem equalsTexts_map (texts : List String) : equalsTexts (texts.map .string) texts = true := by
  induction texts with
  | nil => rfl
  | cons text texts ih => simpa [equalsTexts] using ih

theorem checkMetadata_saved {loaded : Float × String} :
    checkMetadata floatOfText training.metadata = .ok loaded ↔
      training.modelVersion ≠ "" ∧ training.threshold.isFinite = true ∧ 0 ≤ training.threshold ∧
        loaded = (training.threshold, training.modelVersion) := by
  have hfeatures : equalsFeatures (.array (features.map .string)) = true :=
    equalsTexts_map features
  have hfield (key : String) (value : PyValue)
      (hvalue : training.metadata.member? key = some value) :
      field training.metadata key = .ok value := by
    unfold field
    rw [hvalue]
  unfold checkMetadata
  rw [hfield "features" _ rfl, hfield "n_features" _ rfl, hfield "feature_schema_version" _ rfl,
    hfield "model_version" _ rfl, hfield "threshold" _ rfl]
  simp only [ok_bind, bind_eq_ok_iff, require_ok_iff, hfeatures, nonEmptyString_ok_iff, pure_eq_ok,
    toFloat, toFloat64?, equalsInt, beq_self_eq_true, Except.ok.injEq, Json.string.injEq]
  constructor
  · rintro ⟨-, -, -, -, -, -, -, -, version, ⟨rfl, hversion⟩, -, ⟨hfinite, hnonneg⟩, rfl⟩
    exact ⟨hversion, hfinite, (FloatSign.zero_le_iff hfinite).mpr hnonneg, rfl⟩
  · rintro ⟨hversion, hfinite, hnonneg, rfl⟩
    exact ⟨(), rfl, (), trivial, (), trivial, (), trivial, training.modelVersion, ⟨rfl, hversion⟩,
      (), ⟨hfinite, (FloatSign.zero_le_iff hfinite).mp hnonneg⟩, rfl⟩

theorem loadMetadata_saved (hjson : libraries.jsonLoad (libraries.jsonDump training.metadata) =
    .ok training.metadata) (hread : store.read path = .ok (libraries.jsonDump training.metadata))
    {loaded : Float × String} :
    loadMetadata floatOfText libraries store path = .ok loaded ↔
      training.modelVersion ≠ "" ∧ training.threshold.isFinite = true ∧ 0 ≤ training.threshold ∧
        loaded = (training.threshold, training.modelVersion) := by
  unfold loadMetadata
  rw [hread, ok_bind, hjson, ok_bind, checkMetadata_saved]

/-- Both arrays have one value for each feature, and the scaler can divide by them. -/
def Training.Scales (training : Training n)
    (arrays : Vector Float flowFeatureCount × Vector Float flowFeatureCount) : Prop :=
  ∃ (hmean : training.mean.shape = [flowFeatureCount])
    (hscale : training.scale.shape = [flowFeatureCount]),
    (∀ x ∈ training.mean.values, x.isFinite = true) ∧
    (∀ x ∈ training.scale.values, x.isFinite = true ∧ 0 < x) ∧
    arrays = (training.mean.toVector hmean, training.scale.toVector hscale)

theorem loadScaler_saved (hlibraries : libraries.RoundTrips training)
    (hread : store.read path = .ok (libraries.savez training.mean training.scale))
    {arrays : Vector Float flowFeatureCount × Vector Float flowFeatureCount} :
    loadScaler libraries store path = .ok arrays ↔ training.Scales arrays := by
  obtain ⟨loaded, hloaded, hmean, hscale⟩ := hlibraries.npz
  unfold loadScaler
  rw [hread, ok_bind, hloaded, ok_bind, checkScaler_ok_iff, hmean, hscale]
  constructor
  · rintro ⟨mean, scale, hmeanEq, hscaleEq, h⟩
    cases hmeanEq
    cases hscaleEq
    exact h
  · intro h
    exact ⟨_, _, rfl, rfl, h⟩

theorem loadModel_saved (hlibraries : libraries.RoundTrips training)
    (hread : store.read path = .ok (libraries.torchSave training.model.stateDict))
    {model : Autoencoder flowFeatureCount} :
    loadModel libraries store path = .ok model ↔
      ∃ h : n = flowFeatureCount, model = h ▸ training.model := by
  unfold loadModel
  rw [hread, ok_bind, hlibraries.torch, ok_bind]
  constructor
  · intro hmodel
    have hstate := hlibraries.strict _ _ hmodel
    have hfeatures := Autoencoder.stateDict_features hstate
    subst hfeatures
    exact ⟨rfl, Autoencoder.stateDict_injective hstate⟩
  · rintro ⟨hn, rfl⟩
    subst hn
    obtain ⟨loaded, hloaded⟩ := hlibraries.takes libraries.initialised
    rw [hloaded, Autoencoder.stateDict_injective (hlibraries.strict _ _ hloaded)]

/-- The three names in the directory lead to three files. -/
structure ThreeFiles (store : FileStore File Content) (directory : List Char) : Prop where
  modelScaler : store.fileAt (join directory "autoencoder.pt".toList) ≠
    store.fileAt (join directory "scaler.npz".toList)
  modelMetadata : store.fileAt (join directory "autoencoder.pt".toList) ≠
    store.fileAt (join directory "metadata.json".toList)
  scalerMetadata : store.fileAt (join directory "scaler.npz".toList) ≠
    store.fileAt (join directory "metadata.json".toList)

/-- What was written to one of three files is not touched by what is written to the others. -/
theorem read_saved [DecidableEq File] (libraries : Libraries Content) (training : Training n)
    {directory : List Char} (h : ThreeFiles store directory) :
    (saveArtifacts libraries store directory training).read
        (join directory "autoencoder.pt".toList) =
      .ok (libraries.torchSave training.model.stateDict) ∧
    (saveArtifacts libraries store directory training).read (join directory "scaler.npz".toList) =
      .ok (libraries.savez training.mean training.scale) ∧
    (saveArtifacts libraries store directory training).read
        (join directory "metadata.json".toList) =
      .ok (libraries.jsonDump training.metadata) := by
  unfold saveArtifacts
  dsimp only
  refine ⟨?_, ?_, FileStore.read_write⟩
  · rw [FileStore.read_write_of_ne (by exact h.modelMetadata),
      FileStore.read_write_of_ne (by exact h.modelScaler),
      FileStore.read_write]
  · rw [FileStore.read_write_of_ne (by exact h.scalerMetadata), FileStore.read_write]

end RoundTrip

/-- **The round trip of the artifacts.** The loader is given the directory that the trainer has saved
in. What it loads is what was saved, when the paths are in order, the threshold is finite and not
negative, the version is not empty, the scaler has finite values and positive scales for the features,
and the model was made for as many; otherwise it refuses. -/
theorem loadArtifacts_saved [DecidableEq File] (floatOfText : String → Except String Float)
    (libraries : Libraries Content) (store : FileStore File Content) (view : PathView)
    (cwd artifactDir directory : List Char) (requireSecurePermissions : Bool) {n : Nat}
    (training : Training n) (hlibraries : libraries.RoundTrips training)
    (hdirectory : resolve view (abspath cwd artifactDir) = .ok directory)
    (hfiles : ThreeFiles store directory) (a : LoadedArtifacts) :
    loadArtifacts floatOfText libraries (saveArtifacts libraries store directory training) view cwd
        artifactDir requireSecurePermissions = .ok a ↔
      (∃ paths, resolveArtifactPaths view cwd artifactDir requireSecurePermissions = .ok paths) ∧
      training.modelVersion ≠ "" ∧ training.threshold.isFinite = true ∧ 0 ≤ training.threshold ∧
      training.Scales (a.mean, a.scale) ∧
      (∃ h : n = flowFeatureCount,
        a.model = (h ▸ training.model : Autoencoder flowFeatureCount).forward libraries.toLayers) ∧
      a.threshold = training.threshold ∧ a.modelVersion = training.modelVersion ∧
      a.featureSchemaVersion = featureSchemaVersion := by
  obtain ⟨hmodelRead, hscalerRead, hmetadataRead⟩ := read_saved libraries training hfiles
  rw [loadArtifacts_ok_iff]
  constructor
  · rintro ⟨modelPath, scalerPath, metadataPath, model, hpaths, hmetadata, hscaler, hmodel, hforward,
      hschema⟩
    cases resolveArtifactPaths_eq hdirectory hpaths
    obtain ⟨hversion, hfinite, hnonneg, heq⟩ :=
      (loadMetadata_saved hlibraries.json hmetadataRead).mp hmetadata
    obtain ⟨hthreshold, hmodelVersion⟩ := Prod.mk.inj heq
    obtain ⟨hn, rfl⟩ := (loadModel_saved hlibraries hmodelRead).mp hmodel
    exact ⟨⟨_, hpaths⟩, hversion, hfinite, hnonneg,
      (loadScaler_saved hlibraries hscalerRead).mp hscaler, ⟨hn, hforward⟩, hthreshold,
      hmodelVersion, hschema⟩
  · rintro ⟨⟨paths, hpaths⟩, hversion, hfinite, hnonneg, hscales, ⟨hn, hforward⟩, hthreshold,
      hmodelVersion, hschema⟩
    cases resolveArtifactPaths_eq hdirectory hpaths
    refine ⟨_, _, _, _, hpaths, ?_, (loadScaler_saved hlibraries hscalerRead).mpr hscales,
      (loadModel_saved hlibraries hmodelRead).mpr ⟨hn, rfl⟩, hforward, hschema⟩
    rw [hthreshold, hmodelVersion]
    exact (loadMetadata_saved hlibraries.json hmetadataRead).mpr ⟨hversion, hfinite, hnonneg, rfl⟩

/-! A model of zeros in a directory of root. The text of the metadata is the one that `json.dump`
writes, and of the two other formats there is what they hold. -/

inductive Written where
  | text (s : String)
  | npz (mean scale : NpyArray)
  | pickle (state : StateDict)

def zeroLayer {inputs outputs : Nat} : Linear inputs outputs := ⟨.replicate _ 0, .replicate _ 0⟩

/-- An array of ones. -/
def ones : NpyArray where
  shape := [flowFeatureCount]
  values := List.replicate flowFeatureCount 1
  size := by simp

def zeroTraining : Training flowFeatureCount where
  model := ⟨zeroLayer, zeroLayer, zeroLayer, zeroLayer⟩
  mean := ones
  scale := ones
  threshold := 0.25
  percentile := 99
  modelVersion := "ae-v1"

def metadataText : String :=
  "\x7b\n  \"feature_schema_version\": 1,\n  \"model_version\": \"ae-v1\",\n" ++
  "  \"threshold\": 0.25,\n  \"features\": [\n" ++
  ",\n".intercalate (features.map fun feature => "    \"" ++ feature ++ "\"") ++
  "\n  ],\n  \"n_features\": 27,\n  \"percentile\": 99.0\n\x7d"

/-- The tensor of the name, if it has the shape. -/
def tensor? (state : StateDict) (name : String) (shape : List Nat) : Option (Tensor shape) :=
  match state.lookup name with
  | some ⟨shape', values⟩ => if h : shape' = shape then some (h ▸ values) else none
  | none => none

def linear? (state : StateDict) (name : String) {inputs outputs : Nat} :
    Option (Linear inputs outputs) := do
  let weight ← tensor? state (name ++ ".weight") [outputs, inputs]
  let bias ← tensor? state (name ++ ".bias") [outputs]
  return ⟨weight, bias⟩

/-- `load_state_dict`, for the eight names of the model. -/
def strictLoad {n : Nat} (state : StateDict) : Except ArtifactException (Autoencoder n) :=
  match state.length == 8, linear? state "encoder.0", linear? state "encoder.2",
      linear? state "decoder.0", linear? state "decoder.2" with
  | true, some encoder0, some encoder2, some decoder0, some decoder2 =>
    .ok ⟨encoder0, encoder2, decoder0, decoder2⟩
  | _, _, _, _, _ =>
    .error (.libraryError "RuntimeError" "Error(s) in loading state_dict for Autoencoder")

theorem tensor?_eq_some_iff {state : StateDict} {name : String} {shape : List Nat}
    {values : Tensor shape} :
    tensor? state name shape = some values ↔ state.lookup name = some ⟨shape, values⟩ := by
  unfold tensor?
  split
  · rename_i shape' values' hlookup
    rw [hlookup]
    by_cases h : shape' = shape
    · subst h
      simp
    · simp [h]
  · simp [*]

theorem linear?_eq_some_iff {state : StateDict} {name : String} {inputs outputs : Nat}
    {layer : Linear inputs outputs} :
    linear? state name = some layer ↔
      state.lookup (name ++ ".weight") = some ⟨_, layer.weight⟩ ∧
      state.lookup (name ++ ".bias") = some ⟨_, layer.bias⟩ := by
  obtain ⟨weight, bias⟩ := layer
  simp [linear?, tensor?_eq_some_iff, Option.bind_eq_some_iff]

theorem layers_eq_iff {n m : Nat} {model : Autoencoder n} {loaded : Autoencoder m} :
    (linear? model.stateDict "encoder.0" = some loaded.encoder0 ∧
      linear? model.stateDict "encoder.2" = some loaded.encoder2 ∧
      linear? model.stateDict "decoder.0" = some loaded.decoder0 ∧
      linear? model.stateDict "decoder.2" = some loaded.decoder2) ↔
      loaded.stateDict = model.stateDict := by
  simp only [linear?_eq_some_iff]
  constructor
  · rintro ⟨⟨h0, h1⟩, ⟨h2, h3⟩, ⟨h4, h5⟩, ⟨h6, h7⟩⟩
    simp only [Autoencoder.stateDict, Linear.parameters, List.cons_append, List.nil_append,
      List.cons.injEq, Prod.mk.injEq, true_and, and_true]
    exact ⟨(Option.some.inj h0).symm, (Option.some.inj h1).symm, (Option.some.inj h2).symm,
      (Option.some.inj h3).symm, (Option.some.inj h4).symm, (Option.some.inj h5).symm,
      (Option.some.inj h6).symm, (Option.some.inj h7).symm⟩
  · intro h
    rw [← h]
    exact ⟨⟨rfl, rfl⟩, ⟨rfl, rfl⟩, ⟨rfl, rfl⟩, ⟨rfl, rfl⟩⟩

theorem strictLoad_ok_iff {n m : Nat} {model : Autoencoder n} {loaded : Autoencoder m} :
    strictLoad model.stateDict = .ok loaded ↔ loaded.stateDict = model.stateDict := by
  have hlength : (model.stateDict.length == 8) = true := rfl
  rw [← layers_eq_iff]
  unfold strictLoad
  rw [hlength]
  constructor
  · intro h
    split at h
    · rename_i h0 h2 h4 h6
      cases h
      exact ⟨h0, h2, h4, h6⟩
    · cases h
  · rintro ⟨h0, h2, h4, h6⟩
    rw [h0, h2, h4, h6]

/-- Both round trips of the formats are of what they hold. -/
def writtenLibraries : Libraries Written where
  linear layer x := .ok (.ofFn fun i =>
    ((layer.weight.toList.drop (i * x.size)).zipWith (· * ·) x.toList).foldl (· + ·)
      (layer.bias.toList.getD i 0))
  relu x := .ok (x.map fun value => if value < 0 then 0 else value)
  jsonDump _ := .text metadataText
  jsonLoad
    | .text s =>
      if s = metadataText then .ok zeroTraining.metadata
      else .error (.valueError "Expecting value: line 1 column 1 (char 0)")
    | _ => .error (.valueError "'utf-8' codec can't decode byte 0x80 in position 0")
  savez := .npz
  npLoad
    | .npz mean scale => .ok fun key =>
      if key = "mean" then some mean else if key = "scale" then some scale else none
    | _ => .error (.valueError "Cannot load file containing pickled data when allow_pickle=False")
  torchSave := .pickle
  torchLoad
    | .pickle state => .ok state
    | _ => .error (.libraryError "UnpicklingError" "Weights only load failed.")
  initialised := ⟨zeroLayer, zeroLayer, zeroLayer, zeroLayer⟩
  loadStateDict _ := strictLoad

theorem writtenLibraries_loadStateDict {n : Nat} (model : Autoencoder n) :
    writtenLibraries.loadStateDict model = strictLoad := rfl

theorem writtenLibraries_roundTrips : writtenLibraries.RoundTrips zeroTraining where
  json := by simp only [writtenLibraries, if_true]
  npz := ⟨_, rfl, rfl, rfl⟩
  torch := rfl
  takes model := by
    rw [writtenLibraries_loadStateDict]
    exact ⟨zeroTraining.model, strictLoad_ok_iff.mpr rfl⟩
  strict model loaded h := by
    rw [writtenLibraries_loadStateDict] at h
    exact strictLoad_ok_iff.mp h

def trainedView : PathView where
  lstat path :=
    match String.ofList path with
    | "/m" => some ⟨.directory, 0, 0o755⟩
    | "/m/autoencoder.pt" | "/m/scaler.npz" | "/m/metadata.json" => some ⟨.regular, 0, 0o644⟩
    | _ => none
  stat _ := none
  resolveLinks path := .error (.fileNotFoundError (String.ofList path))

/-- Every path leads to a file of its own, and there is none yet. -/
def emptyStore : FileStore (List Char) Written where
  fileAt := id
  content _ := none

def trainedStore : FileStore (List Char) Written :=
  saveArtifacts writtenLibraries emptyStore "/m".toList zeroTraining

def trainedArtifacts : LoadedArtifacts where
  model := zeroTraining.model.forward writtenLibraries.toLayers
  mean := ones.toVector rfl
  scale := ones.toVector rfl
  threshold := 0.25
  featureSchemaVersion := 1
  modelVersion := "ae-v1"

theorem zeroTraining_scales :
    zeroTraining.Scales (trainedArtifacts.mean, trainedArtifacts.scale) :=
  ⟨rfl, rfl, by decide +kernel, by decide +kernel, rfl⟩

theorem loadArtifacts_saved_zero :
    loadArtifacts .error writtenLibraries trainedStore trainedView "/".toList "/m".toList true =
      .ok trainedArtifacts :=
  (loadArtifacts_saved .error writtenLibraries emptyStore trainedView "/".toList "/m".toList
    "/m".toList true zeroTraining writtenLibraries_roundTrips (by decide +kernel)
    ⟨by decide, by decide, by decide⟩ trainedArtifacts).mpr
    ⟨⟨("/m/autoencoder.pt".toList, "/m/scaler.npz".toList, "/m/metadata.json".toList),
      by decide +kernel⟩, by decide, by decide +kernel, by decide +kernel, zeroTraining_scales,
      ⟨rfl, rfl⟩, rfl, rfl, rfl⟩

end Artifacts

end InlineIps
