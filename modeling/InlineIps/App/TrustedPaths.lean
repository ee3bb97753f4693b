import InlineIps.Library.GuardedTree
import InlineIps.Ml.ArtifactPaths

/-!
# What the path checks are for

The supervisor checks the Python modules before every start of the AI process, and the process
checks the artifacts before it loads them. Other users work on the same disk before, between and
after.

* `validatePythonPaths_iff`: what the supervisor checks.
* `Disk`: the files behind `lstat`, and what other users can do with them.
* `checked_files_stay`: the modules and the artifacts stay what they were at their check.
-/

namespace InlineIps

open Library AbsolutePath GuardedTree

namespace SecurePaths

/-- `RUNTIME_DIRECTORY`. -/
def runtimeDirectory : List Char := "/opt/ips-with-ai/python-packages".toList

/-- `REQUIRED_MODULES`, by their names in `ml`. -/
def requiredModules : List (List Char) :=
  ["__init__.py".toList, "online_server.py".toList, "artifacts.py".toList, "features.py".toList,
    "model.py".toList]

/-- The check of the modules from a given one on. -/
def validateModules (fs : FileSystem) (ml : List Char) : List (List Char) → Except String Unit
  | [] => .ok ()
  | name :: names => do
    validateRootOwnedPath fs (join ml name) false
    validateModules fs ml names

/-- The three walks and the modules, for at most the given number of rounds in each walk. -/
def validatePythonPaths (fs : FileSystem) (rounds : Nat) (checkout : List Char) :
    Option (Except String Unit) :=
  let ml := join checkout "ml".toList
  match validateSecureDirectoryTree fs rounds checkout with
  | some (.ok ()) =>
    match validateSecureDirectoryTree fs rounds ml with
    | some (.ok ()) =>
      match validateSecureDirectoryTree fs rounds runtimeDirectory with
      | some (.ok ()) => some (validateModules fs ml requiredModules)
      | refused => refused
    | refused => refused
  | refused => refused

/-- A directory with one more name. -/
def below (directory : AbsolutePath) (name : List Char) (h : IsName name) : AbsolutePath :=
  ⟨directory.names ++ [name], by
    intro n hn
    rcases List.mem_append.mp hn with hold | hnew
    · exact directory.valid n hold
    · rw [List.mem_singleton.mp hnew]
      exact h⟩

theorem join_text (directory : AbsolutePath) {name : List Char} (h : IsName name) :
    join directory.text name = (below directory name h).text :=
  join_textOf directory.valid

theorem isName_ml : IsName "ml".toList := by
  unfold IsName
  decide

/-- The directory of the modules. -/
def modulesOf (checkout : AbsolutePath) : AbsolutePath := below checkout "ml".toList isName_ml

/-- The names are those of `runtimeDirectory`. -/
def runtimePath : AbsolutePath where
  names := ["opt".toList, "ips-with-ai".toList, "python-packages".toList]
  valid := by
    unfold IsName
    decide

theorem runtimePath_text : runtimePath.text = runtimeDirectory := by decide

section Checks

variable {fs : FileSystem}

theorem validateFile_iff {path : List Char} :
    validateRootOwnedPath fs path false = .ok () ↔ SecureFile fs path := by
  unfold validateRootOwnedPath SecureFile
  cases hstat : fs path with
  | none => simp
  | some stat =>
    obtain ⟨type, uid, mode⟩ := stat
    cases type <;> by_cases huid : uid = 0 <;> by_cases hmode : mode &&& groupOrOtherWrite = 0 <;>
      simp [huid, hmode]

theorem validateModules_iff {ml : List Char} {names : List (List Char)} :
    validateModules fs ml names = .ok () ↔ ∀ name ∈ names, SecureFile fs (join ml name) := by
  induction names with
  | nil => exact iff_of_true rfl fun _ hname => absurd hname List.not_mem_nil
  | cons name names ih =>
    rw [validateModules, Fallible.bind_eq_ok_iff, List.forall_mem_cons, ← ih, ← validateFile_iff]
    exact ⟨fun ⟨_, hfirst, hrest⟩ => ⟨hfirst, hrest⟩, fun ⟨hfirst, hrest⟩ => ⟨(), hfirst, hrest⟩⟩

/-- The directories and the modules that Python runs are those that only root can change. -/
structure SecurePython (fs : FileSystem) (checkout : AbsolutePath) : Prop where
  onPath : SecureTree fs checkout
  ml : SecureTree fs (modulesOf checkout)
  runtime : SecureTree fs runtimePath
  files : ∀ name ∈ requiredModules, SecureFile fs (join (modulesOf checkout).text name)

/-- **The supervisor starts Python exactly from secure paths.** -/
theorem validatePythonPaths_iff {rounds : Nat} (checkout : AbsolutePath)
    (hrounds : checkout.names.length + 3 < rounds) :
    validatePythonPaths fs rounds checkout.text = some (.ok ()) ↔ SecurePython fs checkout := by
  have hwalk (path : AbsolutePath) (hlength : path.names.length < rounds) :
      ∃ result, validateSecureDirectoryTree fs rounds path.text = some result ∧
        (result = .ok () ↔ SecureTree fs path) := by
    obtain ⟨result, hresult, hiff⟩ := validateSecureDirectoryTree_iff fs path
    exact ⟨result, hresult rounds hlength, hiff⟩
  have hlength : (modulesOf checkout).names.length = checkout.names.length + 1 := by
    unfold modulesOf below
    simp
  obtain ⟨first, hfirst, hfirstIff⟩ := hwalk checkout (by omega)
  obtain ⟨second, hsecond, hsecondIff⟩ := hwalk (modulesOf checkout) (by omega)
  obtain ⟨third, hthird, hthirdIff⟩ :=
    hwalk runtimePath (Nat.lt_of_le_of_lt (Nat.le_add_left 3 _) hrounds)
  rw [runtimePath_text] at hthird
  have hml : join checkout.text "ml".toList = (modulesOf checkout).text :=
    join_text checkout isName_ml
  unfold validatePythonPaths
  dsimp only
  rw [hml, hfirst, hsecond, hthird]
  have hparts : SecurePython fs checkout ↔ first = .ok () ∧ second = .ok () ∧ third = .ok () ∧
      validateModules fs (modulesOf checkout).text requiredModules = .ok () := by
    rw [hfirstIff, hsecondIff, hthirdIff, validateModules_iff]
    exact ⟨fun h => ⟨h.onPath, h.ml, h.runtime, h.files⟩,
      fun ⟨h, h', h'', h'''⟩ => ⟨h, h', h'', h'''⟩⟩
  rw [hparts]
  cases first with
  | error e => simp
  | ok _ =>
    cases second with
    | error e => simp
    | ok _ =>
      cases third with
      | error e => simp
      | ok _ => simp

end Checks

end SecurePaths

/-! ## The disk -/

structure FileNode where
  stat : FileStat
  content : List UInt8
  deriving DecidableEq

/-- The files by the names on their way from the root. `throughLinks` is what `lstat` finds of a
path that leads through something else than directories. -/
structure Disk where
  tree : Tree (List Char) FileNode
  throughLinks : List Char → Option FileStat

namespace Disk

def lstat (d : Disk) : FileSystem := fun path =>
  let names := namesOf path
  if (List.range names.length).all fun n =>
      (d.tree (names.take n)).any (·.stat.type = .directory) then
    (d.tree names).map FileNode.stat
  else d.throughLinks path

/-- Only root can change the file: other users neither own it nor may they write to it. -/
def Guarded (node : FileNode) : Prop :=
  node.stat.uid = 0 ∧ node.stat.mode &&& groupOrOtherWrite = 0

/-- What users other than root can do in any number of steps. -/
def Changes : Disk → Disk → Prop :=
  Relation.ReflTransGen fun d d' => Step Guarded d.tree d'.tree

/-- The second disk still has the regular file of the first one, and only root can change that. -/
structure Unchanged (d d' : Disk) (names : List (List Char)) : Prop where
  same : ∃ node, d.tree names = some node ∧ d'.tree names = some node ∧ node.stat.type = .regular
  guarded : GuardedUpTo Guarded d'.tree names

section Checked

variable {d d' : Disk}

theorem lstat_textOf {names : List (List Char)} (hvalid : ∀ n ∈ names, IsName n)
    (habove : ∀ above, above <+: names → above ≠ names →
      ∃ node, d.tree above = some node ∧ node.stat.type = .directory) :
    d.lstat (textOf names) = (d.tree names).map FileNode.stat := by
  unfold lstat
  dsimp only
  rw [namesOf_textOf hvalid, if_pos]
  apply List.all_eq_true.mpr
  intro n hn
  have hlt := List.mem_range.mp hn
  have hproper : names.take n ≠ names := by
    intro heq
    have hlength := congrArg List.length heq
    rw [List.length_take] at hlength
    omega
  obtain ⟨node, hnode, htype⟩ := habove (names.take n) (List.take_prefix n names) hproper
  rw [hnode]
  simpa using htype

/-- Every directory of a secure tree is a guarded directory of the disk. -/
theorem tree_of_secureTree {path : AbsolutePath} (h : SecureTree d.lstat path) :
    ∀ above, above <+: path.names →
      ∃ node, d.tree above = some node ∧ Guarded node ∧ node.stat.type = .directory := by
  intro above
  induction hlength : above.length using Nat.strong_induction_on generalizing above with
  | _ n ih =>
    intro habove
    have hvalid : ∀ n ∈ above, IsName n := fun n hn => path.valid n (habove.subset hn)
    obtain ⟨stat, hstat, htype, huid, hmode⟩ := h ⟨above, hvalid⟩ habove
    change d.lstat (textOf above) = some stat at hstat
    rw [lstat_textOf hvalid fun first hfirst hne => ?_] at hstat
    · obtain ⟨node, hnode, rfl⟩ := Option.map_eq_some_iff.mp hstat
      exact ⟨node, hnode, ⟨huid, hmode⟩, htype⟩
    · have hshorter : first.length < n := by
        have hle := hfirst.length_le
        rcases Nat.lt_or_ge first.length above.length with hlt | hge
        · omega
        · exact absurd (hfirst.eq_of_length (by omega)) hne
      obtain ⟨node, hnode, -, htype'⟩ := ih first.length hshorter first rfl (hfirst.trans habove)
      exact ⟨node, hnode, htype'⟩

/-- A secure file in a secure tree is a guarded regular file of the disk. -/
theorem file_of_secure {directory : AbsolutePath} (htree : SecureTree d.lstat directory)
    {name : List Char} (hname : IsName name)
    (hfile : SecureFile d.lstat (join directory.text name)) :
    GuardedUpTo Guarded d.tree (directory.names ++ [name]) ∧
      ∃ node, d.tree (directory.names ++ [name]) = some node ∧ node.stat.type = .regular := by
  have hdirectories := tree_of_secureTree htree
  have hvalid : ∀ n ∈ directory.names ++ [name], IsName n :=
    (SecurePaths.below directory name hname).valid
  obtain ⟨stat, hstat, htype, huid, hmode⟩ := hfile
  rw [SecurePaths.join_text directory hname] at hstat
  change d.lstat (textOf (directory.names ++ [name])) = some stat at hstat
  rw [lstat_textOf hvalid fun above habove hne => ?_] at hstat
  · obtain ⟨node, hnode, rfl⟩ := Option.map_eq_some_iff.mp hstat
    refine ⟨fun above habove => ?_, node, hnode, htype⟩
    rcases List.prefix_concat_iff.mp habove with rfl | hshorter
    · exact ⟨node, hnode, huid, hmode⟩
    · obtain ⟨node', hnode', hguarded, -⟩ := hdirectories above hshorter
      exact ⟨node', hnode', hguarded⟩
  · rcases List.prefix_concat_iff.mp habove with rfl | hshorter
    · exact absurd rfl hne
    · obtain ⟨node, hnode, -, htype'⟩ := hdirectories above hshorter
      exact ⟨node, hnode, htype'⟩

theorem Changes.keeps (hchanges : Changes d d') {names : List (List Char)}
    (h : GuardedUpTo Guarded d.tree names) :
    GuardedUpTo Guarded d'.tree names ∧ d'.tree names = d.tree names :=
  reaches_keeps h (hchanges.lift Disk.tree fun _ _ hstep => hstep)

/-- The directories of a secure tree are there for good. -/
theorem Changes.directories (hchanges : Changes d d') {path : AbsolutePath}
    (h : SecureTree d.lstat path) : ∀ above, above <+: path.names →
      ∃ node, d'.tree above = some node ∧ Guarded node ∧ node.stat.type = .directory := by
  intro above habove
  have hdirectories := tree_of_secureTree h
  obtain ⟨node, hnode, hguarded, htype⟩ := hdirectories above habove
  have hupTo : GuardedUpTo Guarded d.tree above := fun first hfirst => by
    obtain ⟨node', hnode', hguarded', -⟩ := hdirectories first (hfirst.trans habove)
    exact ⟨node', hnode', hguarded'⟩
  exact ⟨node, (hchanges.keeps hupTo).2.trans hnode, hguarded, htype⟩

theorem Changes.secureTree (hchanges : Changes d d') {path : AbsolutePath}
    (h : SecureTree d.lstat path) : SecureTree d'.lstat path := by
  intro directory hon
  obtain ⟨node, hnode, ⟨huid, hmode⟩, htype⟩ := hchanges.directories h directory.names hon
  refine ⟨node.stat, ?_, htype, huid, hmode⟩
  rw [show directory.text = textOf directory.names from rfl,
    lstat_textOf directory.valid fun above habove _ => ?_, hnode]
  · rfl
  · obtain ⟨node', hnode', -, htype'⟩ := hchanges.directories h above (habove.trans hon)
    exact ⟨node', hnode', htype'⟩

/-- **A file that a check has passed stays what it was.** -/
theorem Changes.unchanged (hchanges : Changes d d') {directory : AbsolutePath}
    (htree : SecureTree d.lstat directory) {name : List Char} (hname : IsName name)
    (hfile : SecureFile d.lstat (join directory.text name)) :
    Unchanged d d' (directory.names ++ [name]) := by
  obtain ⟨hguarded, node, hnode, htype⟩ := file_of_secure htree hname hfile
  obtain ⟨hguarded', hsame⟩ := hchanges.keeps hguarded
  exact ⟨⟨node, hnode, hsame.trans hnode, htype⟩, hguarded'⟩

theorem Changes.secureFile (hchanges : Changes d d') {directory : AbsolutePath}
    (htree : SecureTree d.lstat directory) {name : List Char} (hname : IsName name)
    (hfile : SecureFile d.lstat (join directory.text name)) :
    SecureFile d'.lstat (join directory.text name) := by
  obtain ⟨⟨node, -, hnode, htype⟩, hguarded⟩ := hchanges.unchanged htree hname hfile
  obtain ⟨node', hnode', huid, hmode⟩ := hguarded _ (List.prefix_refl _)
  obtain rfl : node = node' := Option.some.inj (hnode.symm.trans hnode')
  have hvalid : ∀ n ∈ directory.names ++ [name], IsName n :=
    (SecurePaths.below directory name hname).valid
  refine ⟨node.stat, ?_, htype, huid, hmode⟩
  rw [SecurePaths.join_text directory hname]
  show d'.lstat (textOf (directory.names ++ [name])) = _
  rw [lstat_textOf hvalid fun above habove hne => ?_, hnode]
  · rfl
  · rcases List.prefix_concat_iff.mp habove with rfl | hshorter
    · exact absurd rfl hne
    · obtain ⟨node', hnode', -, htype'⟩ := hchanges.directories htree above hshorter
      exact ⟨node', hnode', htype'⟩

/-- The root of a secure tree stays secure. -/
theorem Changes.root (hchanges : Changes d d') {path : AbsolutePath}
    (h : SecureTree d.lstat path) : SecureDirectory d'.lstat AbsolutePath.root.text :=
  hchanges.secureTree h AbsolutePath.root List.nil_prefix

theorem isName_required : ∀ name ∈ SecurePaths.requiredModules, IsName name := by
  unfold IsName
  decide

/-- The names of the artifacts. -/
def artifactNames : List (List Char) :=
  ["autoencoder.pt".toList, "scaler.npz".toList, "metadata.json".toList]

theorem isName_artifact : ∀ name ∈ artifactNames, IsName name := by
  unfold IsName
  decide

end Checked

/-- **What a check has passed, only root changes.** The supervisor has checked the modules on the
first disk, the loader the artifacts on the second one, and other users have been at work between
and after. Then the modules are still those of the first check, the artifacts those of the second,
and both checks pass again. -/
theorem checked_files_stay {d₀ d₁ d₂ : Disk} {checkout : AbsolutePath} {rounds : Nat}
    (hrounds : checkout.names.length + 3 < rounds)
    (hstarted : SecurePaths.validatePythonPaths d₀.lstat rounds checkout.text = some (.ok ()))
    (hbefore : d₀.Changes d₁) {view view' : PathView} (hview : view.lstat = d₁.lstat)
    (hview' : view'.lstat = d₂.lstat) {cwd artifactDir : List Char}
    {paths : List Char × List Char × List Char}
    (hloaded : Artifacts.resolveArtifactPaths view cwd artifactDir true = .ok paths)
    (hafter : d₁.Changes d₂) :
    (∀ name ∈ SecurePaths.requiredModules,
      Unchanged d₀ d₂ ((SecurePaths.modulesOf checkout).names ++ [name])) ∧
    (∃ directory : AbsolutePath, Artifacts.abspath cwd artifactDir = directory.text ∧
      paths = Artifacts.artifactPaths directory ∧
      ∀ name ∈ artifactNames, Unchanged d₁ d₂ (directory.names ++ [name])) ∧
    SecurePaths.validatePythonPaths d₂.lstat rounds checkout.text = some (.ok ()) ∧
    Artifacts.resolveArtifactPaths view' cwd artifactDir true = .ok paths := by
  have hpython := (SecurePaths.validatePythonPaths_iff checkout hrounds).mp hstarted
  obtain ⟨directory, hdirectory⟩ := Artifacts.abspath_text cwd artifactDir
  obtain ⟨hartifacts, rfl⟩ := (Artifacts.resolveArtifactPaths_iff hdirectory).mp hloaded
  rw [hview] at hartifacts
  have hall : d₀.Changes d₂ := hbefore.trans hafter
  -- the loader leaves the root to the supervisor's check
  have htree : SecureTree d₁.lstat directory := SecurePaths.secureTree_iff.mpr
    ⟨hbefore.root hpython.onPath,
      (Artifacts.requireSecureDirectoryTree_iff directory).mpr hartifacts.onPath⟩
  have hfiles : ∀ name ∈ artifactNames, SecureFile d₁.lstat (join directory.text name) := by
    intro name hname
    simp only [artifactNames, List.mem_cons, List.not_mem_nil, or_false] at hname
    rcases hname with rfl | rfl | rfl
    · exact hartifacts.model
    · exact hartifacts.scaler
    · exact hartifacts.metadata
  have hstays (name : List Char) (hname : name ∈ artifactNames) :
      SecureFile d₂.lstat (join directory.text name) :=
    hafter.secureFile htree (isName_artifact name hname) (hfiles name hname)
  refine ⟨fun name hname => ?_, ⟨directory, hdirectory, rfl, fun name hname => ?_⟩, ?_, ?_⟩
  · exact hall.unchanged hpython.ml (isName_required name hname) (hpython.files name hname)
  · exact hafter.unchanged htree (isName_artifact name hname) (hfiles name hname)
  · refine (SecurePaths.validatePythonPaths_iff checkout hrounds).mpr ?_
    exact ⟨hall.secureTree hpython.onPath, hall.secureTree hpython.ml, hall.secureTree hpython.runtime,
      fun name hname =>
        hall.secureFile hpython.ml (isName_required name hname) (hpython.files name hname)⟩
  · refine (Artifacts.resolveArtifactPaths_iff hdirectory).mpr ⟨?_, rfl⟩
    rw [hview']
    have htree' := hafter.secureTree htree
    obtain ⟨stat, hstat, htype, -⟩ := htree' directory (List.prefix_refl _)
    refine ⟨fun above _ hon => htree' above hon, ?_, hstays _ (by decide), hstays _ (by decide),
      hstays _ (by decide)⟩
    rw [hstat]
    simpa using htype

/-- A checkout with its modules and artifacts, the runtime directory, and a directory for all
users, which holds the given text. -/
def sharedDisk (note : List UInt8) : Disk where
  tree names :=
    let directory : FileNode := ⟨⟨.directory, 0, 0o755⟩, []⟩
    let file : FileNode := ⟨⟨.regular, 0, 0o644⟩, [35]⟩
    match names.map String.ofList with
    | [] | ["opt"] | ["opt", "ips-with-ai"] | ["opt", "ips-with-ai", "python-packages"]
    | ["opt", "ips-with-ai", "ml"] | ["opt", "ips-with-ai", "artifacts"] => some directory
    | ["opt", "ips-with-ai", "ml", name] =>
      if name.toList ∈ SecurePaths.requiredModules then some file else none
    | ["opt", "ips-with-ai", "artifacts", name] =>
      if name.toList ∈ artifactNames then some file else none
    | ["tmp"] => some ⟨⟨.directory, 0, 0o1777⟩, []⟩
    | ["tmp", "note"] => some ⟨⟨.regular, 1000, 0o644⟩, note⟩
    | _ => none
  throughLinks _ := none

theorem sharedDisk_changes (note note' : List UInt8) :
    (sharedDisk note).Changes (sharedDisk note') := by
  refine Relation.ReflTransGen.single ⟨["tmp".toList], ⟨⟨.directory, 0, 0o1777⟩, []⟩, rfl, ?_, ?_⟩
  · rintro ⟨-, hmode⟩
    revert hmode
    decide
  · intro names hnot
    unfold sharedDisk
    dsimp only
    split
    all_goals try rfl
    rename_i hnames
    refine absurd ⟨["note".toList], ?_⟩ hnot
    have hback := congrArg (List.map String.toList) hnames
    rw [List.map_map] at hback
    have hid : (String.toList ∘ String.ofList : List Char → List Char) = id :=
      funext fun _ => String.toList_ofList
    rw [hid, List.map_id] at hback
    exact hback.symm

/-- The checkout of `sharedDisk`. -/
def sharedCheckout : AbsolutePath where
  names := ["opt".toList, "ips-with-ai".toList]
  valid := by
    unfold IsName
    decide

def sharedView (note : List UInt8) : PathView where
  lstat := (sharedDisk note).lstat
  stat := (sharedDisk note).lstat
  resolveLinks path := .error (.fileNotFoundError (String.ofList path))

/-- The artifacts stay, whatever users write into their common directory. -/
theorem checked_files_stay_shared :
    ∃ directory : AbsolutePath, ∀ name ∈ artifactNames,
      Unchanged (sharedDisk [1]) (sharedDisk [2]) (directory.names ++ [name]) := by
  have hstarted : SecurePaths.validatePythonPaths (sharedDisk [0]).lstat 10 sharedCheckout.text =
      some (.ok ()) := by decide +kernel
  have hloaded : Artifacts.resolveArtifactPaths (sharedView [1]) "/".toList
      "/opt/ips-with-ai/artifacts".toList true =
        .ok ("/opt/ips-with-ai/artifacts/autoencoder.pt".toList,
          "/opt/ips-with-ai/artifacts/scaler.npz".toList,
          "/opt/ips-with-ai/artifacts/metadata.json".toList) := by decide +kernel
  have hview : (sharedView [2]).lstat = (sharedDisk [2]).lstat := rfl
  obtain ⟨-, ⟨directory, -, -, hartifacts⟩, -⟩ := checked_files_stay (by decide) hstarted
    (sharedDisk_changes [0] [1]) rfl hview hloaded (sharedDisk_changes [1] [2])
  exact ⟨directory, hartifacts⟩

end Disk

end InlineIps
