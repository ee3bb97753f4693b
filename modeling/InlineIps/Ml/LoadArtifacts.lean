import InlineIps.Ml.ArtifactPaths
import InlineIps.Ml.Autoencoder
import InlineIps.Ml.OnlineServer

/-!
# The artifact loader

`load_artifacts` reads the metadata, the scaler and the model behind the check of their paths. The
formats of the files are those of `json`, numpy and torch, whose functions are parameters.

* `loadArtifacts_ok_iff`: when it returns, and what.
* `loadArtifacts_fit`: what is loaded is fit for the server.
-/

namespace InlineIps

open Library Library.Fallible Python OnlineServer

namespace Artifacts

/-- `FEATURE_SCHEMA_VERSION`. -/
def featureSchemaVersion : Int := 1

/-- `FEATURES`. -/
def features : List String := [
  "Flow Duration", "Total Fwd Packets", "Total Backward Packets", "Total Length of Fwd Packets",
  "Total Length of Bwd Packets", "Fwd Packet Length Max", "Fwd Packet Length Min",
  "Fwd Packet Length Mean", "Fwd Packet Length Std", "Bwd Packet Length Max",
  "Bwd Packet Length Min", "Bwd Packet Length Mean", "Bwd Packet Length Std", "Fwd IAT Mean",
  "Fwd IAT Std", "Fwd IAT Max", "Fwd IAT Min", "Bwd IAT Mean", "Bwd IAT Std", "Bwd IAT Max",
  "Bwd IAT Min", "FIN Flag Count", "SYN Flag Count", "RST Flag Count", "PSH Flag Count",
  "ACK Flag Count", "URG Flag Count"]

/-- An array of doubles. -/
structure NpyArray where
  shape : List Nat
  values : List Float
  size : values.length = shape.prod

def NpyArray.toVector (a : NpyArray) {n : Nat} (h : a.shape = [n]) : Vector Float n :=
  ⟨a.values.toArray, by simp [a.size, h]⟩

/-! ## Files and libraries -/

/-- The files behind the paths, and what is in them. A path leads to one file, and two paths may lead
to the same. -/
structure FileStore (File Content : Type) where
  fileAt : List Char → File
  content : File → Option Content

variable {File Content : Type}

/-- `open` for reading. -/
def FileStore.read (store : FileStore File Content) (path : List Char) :
    Except ArtifactException Content :=
  match store.content (store.fileAt path) with
  | some content => .ok content
  | none => .error (.fileNotFoundError (String.ofList path))

/-- The functions of `json`, numpy and torch that write and read the artifacts. `npLoad` includes the
conversion of an array to doubles, and `initialised` is a new model of the loader with whatever
parameters it starts from. -/
structure Libraries (Content : Type) extends Layers where
  jsonDump : PyValue → Content
  jsonLoad : Content → Except ArtifactException PyValue
  savez : NpyArray → NpyArray → Content
  npLoad : Content → Except ArtifactException (String → Option NpyArray)
  torchSave : StateDict → Content
  torchLoad : Content → Except ArtifactException StateDict
  initialised : Autoencoder flowFeatureCount
  loadStateDict : {n : Nat} → Autoencoder n → StateDict → Except ArtifactException (Autoencoder n)

/-! ## Metadata -/

/-- `raise ValueError(message)` unless the condition holds. -/
def require (message : String) (holds : Prop) [Decidable holds] : Except ArtifactException Unit :=
  if holds then .ok () else .error (.valueError message)

/-- `metadata[key]`. -/
def field (metadata : PyValue) (key : String) : Except ArtifactException PyValue :=
  match metadata.member? key with
  | some value => .ok value
  | none => .error (.valueError s!"metadata 필수 필드 누락: {key}")

def isDict : PyValue → Bool
  | .object _ => true
  | _ => false

/-- The values are the texts. -/
def equalsTexts : List PyValue → List String → Bool
  | [], [] => true
  | .string s :: values, text :: texts => s == text && equalsTexts values texts
  | _, _ => false

/-- `value == FEATURES`. -/
def equalsFeatures : PyValue → Bool
  | .array values => equalsTexts values features
  | _ => false

/-- A string that is not empty. -/
def nonEmptyString : PyValue → Except ArtifactException String
  | .string s => if s = "" then .error (.valueError "metadata 모델 버전 오류") else .ok s
  | _ => .error (.valueError "metadata 모델 버전 오류")

/-- `float(value)`. A text that is no number has an error of its own. -/
def toFloat (floatOfText : String → Except String Float) : PyValue → Except ArtifactException Float
  | .number n =>
    match toFloat64? n with
    | some x => .ok x
    | none => .error (.valueError "metadata 임계값 오류")
  | .bool b => .ok (if b then 1 else 0)
  | .string s => (floatOfText s).mapError .valueError
  | .null | .array _ | .object _ => .error (.valueError "metadata 임계값 오류")

/-- `_load_metadata` behind `json.load`. -/
def checkMetadata (floatOfText : String → Except String Float) (metadata : PyValue) :
    Except ArtifactException (Float × String) := do
  require "metadata가 JSON object가 아님" (isDict metadata)
  let order ← field metadata "features"
  require "metadata 특징 순서 불일치" (equalsFeatures order)
  let count ← field metadata "n_features"
  require "metadata 특징 개수 불일치" (equalsInt count features.length)
  let version ← field metadata "feature_schema_version"
  require "metadata 특징 스키마 불일치" (equalsInt version featureSchemaVersion)
  let value ← field metadata "model_version"
  let modelVersion ← nonEmptyString value
  let value ← field metadata "threshold"
  let threshold ← toFloat floatOfText value
  require "metadata 임계값 오류" (threshold.isFinite = true ∧ ¬ threshold < 0)
  return (threshold, modelVersion)

/-- `_load_metadata`. -/
def loadMetadata (floatOfText : String → Except String Float) (libraries : Libraries Content)
    (store : FileStore File Content) (metadataPath : List Char) :
    Except ArtifactException (Float × String) := do
  let content ← store.read metadataPath
  let metadata ← libraries.jsonLoad content
  checkMetadata floatOfText metadata

/-! ## Scaler and model -/

/-- `scaler[key]`. -/
def array (scaler : String → Option NpyArray) (key : String) : Except ArtifactException NpyArray :=
  match scaler key with
  | some a => .ok a
  | none => .error (.valueError s!"scaler 필수 배열 누락: {key}")

/-- `_load_scaler` behind `np.load`. -/
def checkScaler (scaler : String → Option NpyArray) :
    Except ArtifactException (Vector Float flowFeatureCount × Vector Float flowFeatureCount) := do
  let mean ← array scaler "mean"
  let scale ← array scaler "scale"
  if h : mean.shape = [flowFeatureCount] ∧ scale.shape = [flowFeatureCount] then
    require "scaler에 유한하지 않은 값이 있음"
      ((∀ x ∈ mean.values, x.isFinite = true) ∧ ∀ x ∈ scale.values, x.isFinite = true)
    require "scaler scale은 0보다 커야 함" (∀ x ∈ scale.values, 0 < x)
    return (mean.toVector h.1, scale.toVector h.2)
  else .error (.valueError "scaler 배열 크기 불일치")

/-- `_load_scaler`. -/
def loadScaler (libraries : Libraries Content) (store : FileStore File Content)
    (scalerPath : List Char) :
    Except ArtifactException (Vector Float flowFeatureCount × Vector Float flowFeatureCount) := do
  let content ← store.read scalerPath
  let scaler ← libraries.npLoad content
  checkScaler scaler

/-- `_load_model`. The model computes the same in training and in inference mode. -/
def loadModel (libraries : Libraries Content) (store : FileStore File Content)
    (modelPath : List Char) : Except ArtifactException (Autoencoder flowFeatureCount) := do
  let content ← store.read modelPath
  let stateDict ← libraries.torchLoad content
  libraries.loadStateDict libraries.initialised stateDict

/-- `load_artifacts`. -/
def loadArtifacts (floatOfText : String → Except String Float) (libraries : Libraries Content)
    (store : FileStore File Content) (view : PathView) (cwd artifactDir : List Char)
    (requireSecurePermissions : Bool) : Except ArtifactException LoadedArtifacts := do
  let (modelPath, scalerPath, metadataPath) ←
    resolveArtifactPaths view cwd artifactDir requireSecurePermissions
  let (threshold, modelVersion) ← loadMetadata floatOfText libraries store metadataPath
  let (mean, scale) ← loadScaler libraries store scalerPath
  let model ← loadModel libraries store modelPath
  return {
    model := model.forward libraries.toLayers
    mean, scale, threshold, featureSchemaVersion, modelVersion }

/-! ## What is loaded -/

/-- The server can work with the artifacts. -/
structure Fit (a : LoadedArtifacts) : Prop where
  threshold : a.threshold.isFinite = true
  thresholdNonneg : 0 ≤ a.threshold
  modelVersion : a.modelVersion ≠ ""
  featureSchemaVersion : a.featureSchemaVersion = Artifacts.featureSchemaVersion
  mean : ∀ x ∈ a.mean.toList, x.isFinite = true
  scale : ∀ x ∈ a.scale.toList, x.isFinite = true ∧ 0 < x

variable {floatOfText : String → Except String Float}

@[simp] theorem require_ok_iff {message : String} {holds : Prop} [Decidable holds] {u : Unit} :
    require message holds = .ok u ↔ holds := by
  unfold require
  split <;> simp [*]

@[simp] theorem nonEmptyString_ok_iff {value : PyValue} {s : String} :
    nonEmptyString value = .ok s ↔ value = .string s ∧ s ≠ "" := by
  cases value with
  | string t =>
    by_cases hempty : t = ""
    · subst hempty
      simp [nonEmptyString, eq_comm]
    · simp only [nonEmptyString, if_neg hempty, Except.ok.injEq, Json.string.injEq]
      exact ⟨fun heq => ⟨heq, heq ▸ hempty⟩, And.left⟩
  | _ => simp [nonEmptyString]

theorem checkMetadata_fit {metadata : PyValue} {threshold : Float} {modelVersion : String}
    (h : checkMetadata floatOfText metadata = .ok (threshold, modelVersion)) :
    threshold.isFinite = true ∧ 0 ≤ threshold ∧ modelVersion ≠ "" := by
  simp only [checkMetadata, bind_eq_ok_iff, require_ok_iff, nonEmptyString_ok_iff, pure_eq_ok,
    Except.ok.injEq, Prod.mk.injEq] at h
  obtain ⟨-, -, -, -, -, -, -, -, -, -, -, -, -, -, -, -, version, ⟨-, hversion⟩, -, -, x, -, -,
    ⟨hfinite, hnonneg⟩, rfl, rfl⟩ := h
  exact ⟨hfinite, (FloatSign.zero_le_iff hfinite).mpr hnonneg, hversion⟩

theorem array_ok_iff {scaler : String → Option NpyArray} {key : String} {a : NpyArray} :
    array scaler key = .ok a ↔ scaler key = some a := by
  unfold array
  split <;> simp [*]

theorem checkScaler_ok_iff {scaler : String → Option NpyArray}
    {arrays : Vector Float flowFeatureCount × Vector Float flowFeatureCount} :
    checkScaler scaler = .ok arrays ↔
      ∃ mean scale, scaler "mean" = some mean ∧ scaler "scale" = some scale ∧
        ∃ (hmean : mean.shape = [flowFeatureCount]) (hscale : scale.shape = [flowFeatureCount]),
          (∀ x ∈ mean.values, x.isFinite = true) ∧
          (∀ x ∈ scale.values, x.isFinite = true ∧ 0 < x) ∧
          arrays = (mean.toVector hmean, scale.toVector hscale) := by
  unfold checkScaler
  simp only [bind_eq_ok_iff, array_ok_iff]
  constructor
  · rintro ⟨mean, hmean, scale, hscale, h⟩
    split at h
    · rename_i hshape
      simp only [bind_eq_ok_iff, require_ok_iff, pure_eq_ok, Except.ok.injEq] at h
      obtain ⟨-, ⟨hmeanFinite, hscaleFinite⟩, -, hpositive, rfl⟩ := h
      exact ⟨mean, scale, hmean, hscale, hshape.1, hshape.2, hmeanFinite,
        fun x hx => ⟨hscaleFinite x hx, hpositive x hx⟩, rfl⟩
    · cases h
  · rintro ⟨mean, scale, hmean, hscale, hmeanShape, hscaleShape, hmeanFinite, hgood, rfl⟩
    refine ⟨mean, hmean, scale, hscale, ?_⟩
    rw [dif_pos ⟨hmeanShape, hscaleShape⟩]
    simp only [bind_eq_ok_iff, require_ok_iff, pure_eq_ok]
    exact ⟨(), ⟨hmeanFinite, fun x hx => (hgood x hx).1⟩, (), fun x hx => (hgood x hx).2, trivial⟩

section Loaded

variable {libraries : Libraries Content} {store : FileStore File Content} {view : PathView}
  {cwd artifactDir : List Char} {requireSecurePermissions : Bool} {a : LoadedArtifacts}

/-- **When the loader returns, and what.** -/
theorem loadArtifacts_ok_iff :
    loadArtifacts floatOfText libraries store view cwd artifactDir requireSecurePermissions = .ok a ↔
      ∃ modelPath scalerPath metadataPath model,
        resolveArtifactPaths view cwd artifactDir requireSecurePermissions =
          .ok (modelPath, scalerPath, metadataPath) ∧
        loadMetadata floatOfText libraries store metadataPath = .ok (a.threshold, a.modelVersion) ∧
        loadScaler libraries store scalerPath = .ok (a.mean, a.scale) ∧
        loadModel libraries store modelPath = .ok model ∧
        a.model = model.forward libraries.toLayers ∧
        a.featureSchemaVersion = Artifacts.featureSchemaVersion := by
  unfold loadArtifacts
  simp only [bind_eq_ok_iff, pure_eq_ok, Except.ok.injEq]
  constructor
  · rintro ⟨⟨modelPath, scalerPath, metadataPath⟩, hpaths, ⟨threshold, modelVersion⟩, hmetadata,
      ⟨mean, scale⟩, hscaler, model, hmodel, rfl⟩
    exact ⟨modelPath, scalerPath, metadataPath, model, hpaths, hmetadata, hscaler, hmodel, rfl, rfl⟩
  · rintro ⟨modelPath, scalerPath, metadataPath, model, hpaths, hmetadata, hscaler, hmodel, hforward,
      hversion⟩
    refine ⟨_, hpaths, _, hmetadata, _, hscaler, model, hmodel, ?_⟩
    rw [← hforward, ← hversion]

/-- **What is loaded is fit for the server.** -/
theorem loadArtifacts_fit
    (h : loadArtifacts floatOfText libraries store view cwd artifactDir requireSecurePermissions =
      .ok a) : Fit a := by
  obtain ⟨_, _, _, _, -, hmetadata, hscaler, -, -, hschema⟩ := loadArtifacts_ok_iff.mp h
  obtain ⟨_, -, hmetadata⟩ := bind_eq_ok_iff.mp hmetadata
  obtain ⟨_, -, hmetadata⟩ := bind_eq_ok_iff.mp hmetadata
  obtain ⟨hfinite, hnonneg, hversion⟩ := checkMetadata_fit hmetadata
  obtain ⟨_, -, hscaler⟩ := bind_eq_ok_iff.mp hscaler
  obtain ⟨_, -, hscaler⟩ := bind_eq_ok_iff.mp hscaler
  obtain ⟨mean, scale, -, -, hmean, hscale, hmeanFinite, hgood, harrays⟩ :=
    checkScaler_ok_iff.mp hscaler
  obtain ⟨hmeanEq, hscaleEq⟩ := Prod.mk.inj harrays
  refine ⟨hfinite, hnonneg, hversion, hschema, ?_, ?_⟩
  · rw [hmeanEq]
    exact hmeanFinite
  · rw [hscaleEq]
    exact hgood

end Loaded

end Artifacts

end InlineIps
