import InlineIps.Common.FileSystem
import InlineIps.Library.Fallible

/-!
# The directory check of the artifact loader

`_require_secure_directory_tree` walks from the anchor of a path down to the path itself.

* `requireSecureDirectoryTree_iff`: it checks every directory on the way except the root.
-/

namespace InlineIps

open Library AbsolutePath

/-- The exceptions of the loader. `libraryError` is one of `json`, numpy or torch, by its name. -/
inductive ArtifactException where
  | fileNotFoundError (path : String)
  | permissionError (message : String)
  | valueError (message : String)
  | libraryError (name message : String)
  deriving DecidableEq

namespace Artifacts

/-- `_require_root_owned`. -/
def requireRootOwned (path : List Char) (stat : FileStat) : Except ArtifactException Unit :=
  if stat.uid ≠ 0 then
    .error (.permissionError s!"root 소유 경로가 아님: {String.ofList path}")
  else if stat.mode &&& groupOrOtherWrite ≠ 0 then
    .error (.permissionError s!"group/other 쓰기 가능 경로: {String.ofList path}")
  else .ok ()

/-- One round of the loop. -/
def requireSecureDirectory (fs : FileSystem) (current : List Char) :
    Except ArtifactException Unit :=
  match fs current with
  | none => .error (.fileNotFoundError (String.ofList current))
  | some stat =>
    if stat.type = .symbolicLink then
      .error (.permissionError s!"symbolic link 디렉터리는 허용하지 않음: {String.ofList current}")
    else if stat.type ≠ .directory then
      .error (.valueError s!"artifact 경로가 디렉터리가 아님: {String.ofList current}")
    else requireRootOwned current stat

/-- The loop over the parts of the path. -/
def walkDown (fs : FileSystem) (current : List Char) :
    List (List Char) → Except ArtifactException Unit
  | [] => .ok ()
  | part :: parts => do
    requireSecureDirectory fs (join current part)
    walkDown fs (join current part) parts

/-- `_require_secure_directory_tree`. The first part is the anchor. -/
def requireSecureDirectoryTree (fs : FileSystem) (directory : List Char) :
    Except ArtifactException Unit :=
  walkDown fs ['/'] (namesOf directory)

variable {fs : FileSystem}

theorem requireSecureDirectory_iff {current : List Char} :
    requireSecureDirectory fs current = .ok () ↔ SecureDirectory fs current := by
  unfold requireSecureDirectory SecureDirectory
  cases hstat : fs current with
  | none => simp
  | some stat =>
    obtain ⟨type, uid, mode⟩ := stat
    cases type <;> by_cases huid : uid = 0 <;> by_cases hmode : mode &&& groupOrOtherWrite = 0 <;>
      simp [requireRootOwned, huid, hmode]

/-- The walk from a directory on checks the directories below it. -/
theorem walkDown_iff {start parts : List (List Char)} (hvalid : ∀ n ∈ start ++ parts, IsName n) :
    walkDown fs (textOf start) parts = .ok () ↔
      ∀ taken, taken ≠ [] → taken <+: parts → SecureDirectory fs (textOf (start ++ taken)) := by
  induction parts generalizing start with
  | nil =>
    refine iff_of_true rfl fun taken hne htaken => ?_
    exact absurd (List.prefix_nil.mp htaken) hne
  | cons part parts ih =>
    have hstart : ∀ n ∈ start, IsName n := fun n hn => hvalid n (List.mem_append_left _ hn)
    have hmoved : ∀ n ∈ (start ++ [part]) ++ parts, IsName n := by
      simpa [List.append_assoc] using hvalid
    rw [walkDown, join_textOf hstart, Fallible.bind_eq_ok_iff]
    constructor
    · rintro ⟨⟨⟩, hfirst, hrest⟩ taken hne htaken
      obtain ⟨first, others, rfl⟩ := List.exists_cons_of_ne_nil hne
      obtain ⟨rfl, hothers⟩ := List.cons_prefix_cons.mp htaken
      rcases eq_or_ne others [] with rfl | hothersNe
      · exact requireSecureDirectory_iff.mp hfirst
      · have hsecure := (ih hmoved).mp hrest others hothersNe hothers
        rw [List.append_assoc] at hsecure
        exact hsecure
    · intro hall
      refine ⟨(), requireSecureDirectory_iff.mpr (hall [part] (by simp) (by simp)),
        (ih hmoved).mpr fun taken hne htaken => ?_⟩
      rw [List.append_assoc]
      exact hall (part :: taken) (by simp) (List.cons_prefix_cons.mpr ⟨rfl, htaken⟩)

/-- **The loader checks the directories below the root.** -/
theorem requireSecureDirectoryTree_iff (path : AbsolutePath) :
    requireSecureDirectoryTree fs path.text = .ok () ↔
      ∀ directory : AbsolutePath, directory.names ≠ [] → directory.OnPath path →
        SecureDirectory fs directory.text := by
  rw [requireSecureDirectoryTree, text, namesOf_textOf path.valid]
  refine (@walkDown_iff fs [] _ path.valid).trans ⟨fun h directory hne hon => ?_,
    fun h taken hne htaken => ?_⟩
  · exact h directory.names hne hon
  · exact h ⟨taken, fun n hn => path.valid n (htaken.subset hn)⟩ hne htaken

end Artifacts

end InlineIps
