import InlineIps.Ml.Artifacts

/-!
# The path checks before the AI process starts

`validate_secure_directory_tree` walks from a directory up to the file system root, the loader of
the AI process (`Artifacts.requireSecureDirectoryTree`) from the root down.

* `validateSecureDirectoryTree_iff`: the walk up ends and checks every directory on the way, the
  root included.
* `walkers_agree_iff`: the two walks agree unless the root is all that is wrong.
-/

namespace InlineIps

open Library AbsolutePath

namespace SecurePaths

/-- What `lstat` leaves in `errno` for a missing path. -/
def noSuchFile : String := "No such file or directory"

def validateRootOwnedPath (fs : FileSystem) (path : List Char) (expectDirectory : Bool) :
    Except String Unit :=
  match fs path with
  | none => .error s!"{String.ofList path}: {noSuchFile}"
  | some stat =>
    if stat.type = .symbolicLink then
      .error s!"symbolic link 경로는 허용하지 않음: {String.ofList path}"
    else if (expectDirectory ∧ stat.type ≠ .directory) ∨
        (¬ expectDirectory ∧ stat.type ≠ .regular) then
      .error s!"예상한 파일 형식이 아님: {String.ofList path}"
    else if stat.uid ≠ 0 then .error s!"root 소유 경로가 아님: {String.ofList path}"
    else if stat.mode &&& groupOrOtherWrite ≠ 0 then
      .error s!"group/other 쓰기 가능 경로: {String.ofList path}"
    else .ok ()

/-- `QDir::cleanPath` of an absolute path. -/
def cleanPath (path : List Char) : List Char :=
  textOf ((namesOf path).foldl
    (fun names name => if name = ['.', '.'] then names.dropLast else names ++ [name]) [])

/-- The loop, for at most the given number of rounds. -/
def walkUp (fs : FileSystem) : Nat → List Char → Option (Except String Unit)
  | 0, _ => none
  | rounds + 1, current =>
    match validateRootOwnedPath fs current true with
    | .error error => some (.error error)
    | .ok () =>
      let parent := parentOf current
      if parent = current then some (.ok ()) else walkUp fs rounds parent

def validateSecureDirectoryTree (fs : FileSystem) (rounds : Nat) (path : List Char) :
    Option (Except String Unit) :=
  walkUp fs rounds (cleanPath path)

variable {fs : FileSystem}

theorem validateRootOwnedPath_iff {path : List Char} :
    validateRootOwnedPath fs path true = .ok () ↔ SecureDirectory fs path := by
  unfold validateRootOwnedPath SecureDirectory
  cases hstat : fs path with
  | none => simp
  | some stat =>
    obtain ⟨type, uid, mode⟩ := stat
    cases type <;> by_cases huid : uid = 0 <;> by_cases hmode : mode &&& groupOrOtherWrite = 0 <;>
      simp [huid, hmode]

theorem cleanPath_text (path : AbsolutePath) : cleanPath path.text = path.text := by
  have hnames : ∀ names taken : List (List Char), (∀ n ∈ names, IsName n) →
      names.foldl (fun names name => if name = ['.', '.'] then names.dropLast else names ++ [name])
        taken = taken ++ names := by
    intro names
    induction names with
    | nil => simp
    | cons name names ih =>
      intro taken hvalid
      rw [List.foldl_cons, if_neg (hvalid name List.mem_cons_self).2.2.2,
        ih _ fun n hn => hvalid n (List.mem_cons_of_mem _ hn), List.append_assoc]
      rfl
  unfold cleanPath text
  rw [namesOf_textOf path.valid, hnames _ _ path.valid]
  rfl

/-- The walk up from a path takes a round for each directory and checks them all. -/
theorem walkUp_iff (fs : FileSystem) {names : List (List Char)} (hvalid : ∀ n ∈ names, IsName n) :
    ∃ result, (∀ rounds, names.length < rounds → walkUp fs rounds (textOf names) = some result) ∧
      (result = .ok () ↔ ∀ taken, taken <+: names → SecureDirectory fs (textOf taken)) := by
  induction names using List.reverseRecOn with
  | nil =>
    refine ⟨validateRootOwnedPath fs (textOf []) true, fun rounds hrounds => ?_, ?_⟩
    · obtain ⟨rounds, rfl⟩ := Nat.exists_eq_add_one.mpr hrounds
      rw [walkUp]
      split
      · rename_i heq
        rw [heq]
      · rename_i heq
        rw [heq, if_pos]
        rfl
    · rw [validateRootOwnedPath_iff]
      refine ⟨fun h taken htaken => ?_, fun h => h [] List.nil_prefix⟩
      rw [List.prefix_nil.mp htaken]
      exact h
  | append_singleton names name ih =>
    have hname : IsName name := hvalid name (by simp)
    obtain ⟨result, hresult, hiff⟩ := ih fun n hn => hvalid n (List.mem_append_left _ hn)
    cases hcheck : validateRootOwnedPath fs (textOf (names ++ [name])) true with
    | error error =>
      refine ⟨.error error, fun rounds hrounds => ?_, ?_⟩
      · obtain ⟨rounds, rfl⟩ := Nat.exists_eq_add_one.mpr (Nat.zero_lt_of_lt hrounds)
        rw [walkUp, hcheck]
      · refine iff_of_false (by simp) fun h => ?_
        have hok := validateRootOwnedPath_iff.mpr (h _ (List.prefix_refl _))
        rw [hok] at hcheck
        cases hcheck
    | ok done =>
      refine ⟨result, fun rounds hrounds => ?_, ?_⟩
      · obtain ⟨rounds, rfl⟩ := Nat.exists_eq_add_one.mpr (Nat.zero_lt_of_lt hrounds)
        rw [walkUp, hcheck]
        dsimp only
        rw [parentOf_textOf hname, if_neg (textOf_ne_parent hvalid)]
        rw [List.length_append, List.length_singleton] at hrounds
        exact hresult rounds (by omega)
      · rw [hiff]
        refine ⟨fun h taken htaken => ?_, fun h taken htaken => ?_⟩
        · rcases List.prefix_concat_iff.mp htaken with rfl | hshorter
          · exact validateRootOwnedPath_iff.mp hcheck
          · exact h taken hshorter
        · exact h taken (htaken.trans (List.prefix_append _ _))

/-- **The walk up ends, and it accepts secure trees.** -/
theorem validateSecureDirectoryTree_iff (fs : FileSystem) (path : AbsolutePath) :
    ∃ result, (∀ rounds, path.names.length < rounds →
        validateSecureDirectoryTree fs rounds path.text = some result) ∧
      (result = .ok () ↔ SecureTree fs path) := by
  obtain ⟨result, hresult, hiff⟩ := walkUp_iff fs path.valid
  refine ⟨result, fun rounds hrounds => ?_, hiff.trans ⟨fun h directory hon => ?_,
    fun h taken htaken => ?_⟩⟩
  · rw [validateSecureDirectoryTree, cleanPath_text]
    exact hresult rounds hrounds
  · exact h directory.names hon
  · exact h ⟨taken, fun n hn => path.valid n (htaken.subset hn)⟩ htaken

/-- The walk up ends with a verdict, the walk down comes to the same one, and it is that the tree is
secure. -/
def WalkersAgree (fs : FileSystem) (path : AbsolutePath) : Prop :=
  ∃ result, (∀ rounds, path.names.length < rounds →
      validateSecureDirectoryTree fs rounds path.text = some result) ∧
    (result = .ok () ↔ Artifacts.requireSecureDirectoryTree fs path.text = .ok ()) ∧
    (Artifacts.requireSecureDirectoryTree fs path.text = .ok () ↔ SecureTree fs path)

/-- A tree is secure when its root is and what is below it. -/
theorem secureTree_iff {path : AbsolutePath} : SecureTree fs path ↔
    SecureDirectory fs root.text ∧ Artifacts.requireSecureDirectoryTree fs path.text = .ok () := by
  rw [Artifacts.requireSecureDirectoryTree_iff]
  refine ⟨fun h => ⟨h root List.nil_prefix, fun directory _ => h directory⟩, ?_⟩
  rintro ⟨hroot, hbelow⟩ directory hon
  obtain ⟨names, hvalid⟩ := directory
  rcases eq_or_ne names [] with rfl | hne
  · exact hroot
  · exact hbelow ⟨names, hvalid⟩ hne hon

/-- **When the two walks agree.** The root is secure, or a directory below it is not. -/
theorem walkers_agree_iff (fs : FileSystem) (path : AbsolutePath) :
    WalkersAgree fs path ↔ SecureDirectory fs root.text ∨
      ∃ directory : AbsolutePath, directory.names ≠ [] ∧ directory.OnPath path ∧
        ¬ SecureDirectory fs directory.text := by
  obtain ⟨result, hresult, hiff⟩ := validateSecureDirectoryTree_iff fs path
  constructor
  · rintro ⟨-, -, -, hdown⟩
    by_contra hnot
    obtain ⟨hroot, hbelow⟩ := not_or.mp hnot
    refine hroot (secureTree_iff.mp (hdown.mp ?_)).1
    rw [Artifacts.requireSecureDirectoryTree_iff]
    intro directory hne hon
    by_contra hinsecure
    exact hbelow ⟨directory, hne, hon, hinsecure⟩
  · intro h
    have hbelow : Artifacts.requireSecureDirectoryTree fs path.text = .ok () → _ :=
      (Artifacts.requireSecureDirectoryTree_iff path).mp
    have hsame : Artifacts.requireSecureDirectoryTree fs path.text = .ok () ↔
        SecureTree fs path := by
      rw [secureTree_iff]
      rcases h with hroot | ⟨directory, hne, hon, hinsecure⟩
      · exact ⟨fun hdown => ⟨hroot, hdown⟩, And.right⟩
      · refine iff_of_false (fun hdown => ?_) (fun hboth => ?_)
        · exact hinsecure (hbelow hdown directory hne hon)
        · exact hinsecure (hbelow hboth.2 directory hne hon)
    exact ⟨result, hresult, hiff.trans hsame.symm, hsame⟩

/-- The directory `/opt`. -/
def optDirectory : AbsolutePath := ⟨["opt".toList], by simp [IsName]⟩

/-- A file system whose root belongs to another user. -/
def foreignRoot : FileSystem := fun path =>
  if path = root.text then some ⟨.directory, 1000, 0o755⟩
  else if path = optDirectory.text then some ⟨.directory, 0, 0o755⟩
  else none

theorem walkers_disagree : ¬ WalkersAgree foreignRoot optDirectory := by
  rintro ⟨-, -, -, hdown⟩
  obtain ⟨stat, hstat, -, huid, -⟩ := hdown.mp rfl root List.nil_prefix
  cases hstat
  cases huid

end SecurePaths

end InlineIps
