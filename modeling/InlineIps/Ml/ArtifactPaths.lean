import InlineIps.App.SecurePaths

/-!
# The paths of the artifacts

`_resolve_artifact_paths` takes the artifact directory of the configuration and returns the paths of
the three files in it.

* `abspath_text`: the directory becomes a normalised absolute path.
* `resolveArtifactPaths_eq`: the paths lead to the three names in the directory.
* `resolveArtifactPaths_iff`: when the paths are returned to root.
-/

namespace InlineIps

open Library AbsolutePath

/-- What Python sees of a file system. `stat` follows links, and `resolveLinks` is what
`Path.resolve` does with a path that leads through something else than directories. -/
structure PathView where
  lstat : FileSystem
  stat : FileSystem
  resolveLinks : List Char → Except ArtifactException (List Char)

/-- The path is a regular file that only root can change. -/
def SecureFile (fs : FileSystem) (path : List Char) : Prop :=
  ∃ stat, fs path = some stat ∧ stat.type = .regular ∧ stat.uid = 0 ∧
    stat.mode &&& groupOrOtherWrite = 0

namespace Artifacts

/-- `os.path.abspath`. The normalisation is that of `QDir::cleanPath`, except that Python keeps exactly
two slashes at the beginning, which become one here. Linux takes both for the root. -/
def abspath (cwd path : List Char) : List Char :=
  SecurePaths.cleanPath (if path.head? = some '/' then path else cwd ++ '/' :: path)

/-- `Path.resolve(strict=True)` of a normalised absolute path. -/
def resolve (view : PathView) (path : List Char) : Except ArtifactException (List Char) :=
  if (namesOf path).inits.all fun taken =>
      taken.isEmpty || (view.lstat (textOf taken)).any (·.type = .directory) then .ok path
  else view.resolveLinks path

def requireRegularFile (view : PathView) (path : List Char) (requireSecurePermissions : Bool) :
    Except ArtifactException Unit :=
  match if requireSecurePermissions then view.lstat path else view.stat path with
  | none => .error (.fileNotFoundError (String.ofList path))
  | some fileStat =>
    if requireSecurePermissions ∧ fileStat.type = .symbolicLink then
      .error (.permissionError s!"symbolic link artifact는 허용하지 않음: {String.ofList path}")
    else if fileStat.type ≠ .regular then
      .error (.valueError s!"artifact가 일반 파일이 아님: {String.ofList path}")
    else if requireSecurePermissions then requireRootOwned path fileStat
    else .ok ()

/-- `_resolve_artifact_paths`: the paths of the model, the scaler and the metadata. -/
def resolveArtifactPaths (view : PathView) (cwd artifactDir : List Char)
    (requireSecurePermissions : Bool) :
    Except ArtifactException (List Char × List Char × List Char) := do
  let configuredDirectory := abspath cwd artifactDir
  if requireSecurePermissions then
    requireSecureDirectoryTree view.lstat configuredDirectory
  let directory ← resolve view configuredDirectory
  if !(view.lstat directory).any (·.type = .directory) then
    throw (.valueError s!"artifact 경로가 디렉터리가 아님: {String.ofList directory}")
  let modelPath := join directory "autoencoder.pt".toList
  let scalerPath := join directory "scaler.npz".toList
  let metadataPath := join directory "metadata.json".toList
  requireRegularFile view modelPath requireSecurePermissions
  requireRegularFile view scalerPath requireSecurePermissions
  requireRegularFile view metadataPath requireSecurePermissions
  return (modelPath, scalerPath, metadataPath)

section Paths

variable {view : PathView}

/-- A normalisation ends with the names of a path. -/
theorem cleanPath_text (path : List Char) :
    ∃ clean : AbsolutePath, SecurePaths.cleanPath path = clean.text := by
  have hnames : ∀ names taken : List (List Char), (∀ n ∈ taken, IsName n) →
      (∀ n ∈ names, n ≠ [] ∧ '/' ∉ n ∧ n ≠ ['.']) →
      ∀ n ∈ names.foldl (fun names name =>
        if name = ['.', '.'] then names.dropLast else names ++ [name]) taken, IsName n := by
    intro names
    induction names with
    | nil => exact fun taken htaken _ => htaken
    | cons name names ih =>
      intro taken htaken hvalid
      obtain ⟨hfirst, hrest⟩ := List.forall_mem_cons.mp hvalid
      refine ih _ ?_ hrest
      dsimp only
      split
      · exact fun n hn => htaken n (List.dropLast_subset _ hn)
      · rename_i hparent
        intro n hn
        rcases List.mem_append.mp hn with hold | hnew
        · exact htaken n hold
        · rw [List.mem_singleton.mp hnew]
          exact ⟨hfirst.1, hfirst.2.1, hfirst.2.2, hparent⟩
  exact ⟨⟨_, hnames (namesOf path) [] (by simp) (namesOf_valid path)⟩, rfl⟩

theorem abspath_text (cwd path : List Char) :
    ∃ directory : AbsolutePath, abspath cwd path = directory.text :=
  cleanPath_text _

theorem requireRegularFile_iff {path : List Char} :
    requireRegularFile view path true = .ok () ↔ SecureFile view.lstat path := by
  unfold requireRegularFile SecureFile
  rw [if_pos rfl]
  cases hstat : view.lstat path with
  | none => simp
  | some stat =>
    obtain ⟨type, uid, mode⟩ := stat
    cases type <;> by_cases huid : uid = 0 <;> by_cases hmode : mode &&& groupOrOtherWrite = 0 <;>
      simp [requireRootOwned, huid, hmode]

/-- Below the root a tree of directories holds no links. -/
theorem resolve_of_directories {directory : AbsolutePath}
    (h : ∀ above : AbsolutePath, above.names ≠ [] → above.OnPath directory →
      SecureDirectory view.lstat above.text) : resolve view directory.text = .ok directory.text := by
  unfold resolve
  rw [if_pos]
  apply List.all_eq_true.mpr
  intro taken htaken
  rw [show directory.text = textOf directory.names from rfl, namesOf_textOf directory.valid,
    List.mem_inits] at htaken
  rcases eq_or_ne taken [] with rfl | hne
  · rfl
  · obtain ⟨stat, hstat, htype, -⟩ :=
      h ⟨taken, fun n hn => directory.valid n (htaken.subset hn)⟩ hne htaken
    rw [Bool.or_eq_true]
    right
    rw [show view.lstat (textOf taken) = some stat from hstat]
    simpa using htype

/-- The paths are those of the three names in the directory. -/
theorem resolveArtifactPaths_eq {cwd artifactDir directory : List Char}
    {requireSecurePermissions : Bool}
    (hdirectory : resolve view (abspath cwd artifactDir) = .ok directory)
    {paths : List Char × List Char × List Char}
    (h : resolveArtifactPaths view cwd artifactDir requireSecurePermissions = .ok paths) :
    paths = (join directory "autoencoder.pt".toList, join directory "scaler.npz".toList,
      join directory "metadata.json".toList) := by
  unfold resolveArtifactPaths at h
  dsimp only at h
  rw [hdirectory, Fallible.ok_bind] at h
  cases hany : (view.lstat directory).any (·.type = .directory) with
  | false =>
    rw [hany] at h
    cases requireSecurePermissions with
    | false => cases h
    | true =>
      obtain ⟨_, -, h⟩ := Fallible.bind_eq_ok_iff.mp h
      cases h
  | true =>
    rw [hany] at h
    cases requireSecurePermissions with
    | false =>
      obtain ⟨_, -, h⟩ := Fallible.bind_eq_ok_iff.mp h
      obtain ⟨_, -, h⟩ := Fallible.bind_eq_ok_iff.mp h
      obtain ⟨_, -, h⟩ := Fallible.bind_eq_ok_iff.mp h
      cases h
      rfl
    | true =>
      obtain ⟨_, -, h⟩ := Fallible.bind_eq_ok_iff.mp h
      obtain ⟨_, -, h⟩ := Fallible.bind_eq_ok_iff.mp h
      obtain ⟨_, -, h⟩ := Fallible.bind_eq_ok_iff.mp h
      obtain ⟨_, -, h⟩ := Fallible.bind_eq_ok_iff.mp h
      cases h
      rfl

/-- The artifact directory is reached through directories that only root can change, and its three
files are such files. -/
structure SecureArtifacts (fs : FileSystem) (directory : AbsolutePath) : Prop where
  onPath : ∀ above : AbsolutePath, above.names ≠ [] → above.OnPath directory →
    SecureDirectory fs above.text
  /-- This says something new of the root only. -/
  isDirectory : (fs directory.text).any (·.type = .directory) = true
  model : SecureFile fs (join directory.text "autoencoder.pt".toList)
  scaler : SecureFile fs (join directory.text "scaler.npz".toList)
  metadata : SecureFile fs (join directory.text "metadata.json".toList)

/-- The three paths in the directory. -/
def artifactPaths (directory : AbsolutePath) : List Char × List Char × List Char :=
  (join directory.text "autoencoder.pt".toList, join directory.text "scaler.npz".toList,
    join directory.text "metadata.json".toList)

/-- **The loader takes exactly the artifacts that only root can change.** -/
theorem resolveArtifactPaths_iff {cwd artifactDir : List Char} {directory : AbsolutePath}
    (hdirectory : abspath cwd artifactDir = directory.text)
    {paths : List Char × List Char × List Char} :
    resolveArtifactPaths view cwd artifactDir true = .ok paths ↔
      SecureArtifacts view.lstat directory ∧ paths = artifactPaths directory := by
  unfold resolveArtifactPaths
  rw [hdirectory]
  dsimp only
  rw [if_pos rfl, Fallible.bind_eq_ok_iff]
  constructor
  · rintro ⟨_, htree, h⟩
    have honPath := (requireSecureDirectoryTree_iff directory).mp htree
    rw [resolve_of_directories honPath, Fallible.ok_bind] at h
    cases hany : (view.lstat directory.text).any (·.type = .directory) with
    | false =>
      rw [hany] at h
      cases h
    | true =>
      rw [hany] at h
      obtain ⟨_, hmodel, h⟩ := Fallible.bind_eq_ok_iff.mp h
      obtain ⟨_, hscaler, h⟩ := Fallible.bind_eq_ok_iff.mp h
      obtain ⟨_, hmetadata, h⟩ := Fallible.bind_eq_ok_iff.mp h
      cases h
      exact ⟨⟨honPath, hany, requireRegularFile_iff.mp hmodel, requireRegularFile_iff.mp hscaler,
        requireRegularFile_iff.mp hmetadata⟩, rfl⟩
  · rintro ⟨h, rfl⟩
    refine ⟨(), (requireSecureDirectoryTree_iff directory).mpr h.onPath, ?_⟩
    rw [resolve_of_directories h.onPath, Fallible.ok_bind, h.isDirectory,
      requireRegularFile_iff.mpr h.model, requireRegularFile_iff.mpr h.scaler,
      requireRegularFile_iff.mpr h.metadata]
    rfl

end Paths

end Artifacts

end InlineIps
