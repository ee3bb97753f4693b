import InlineIps.Capture.FirewallQueueGuard

/-!
# The commands of the guard

* `run_returned`: what the guard learns from the status of a command.
* `Managed`: what the commands of the guard can make of a firewall.
* `built_install` and its like: of which commands the programs of the guard are built.
* `keeps_session`: `Managed` holds wherever the sensor is killed.
-/

namespace InlineIps

open Library Library.Interruptible

/-! ## Single commands -/

section Commands

variable {fw fw' : Firewall} {command : IptablesCommand} {chain : String} {rule : FirewallRule}
  {outcomes rest : List Outcome} {status : Int}

theorem atomic_run (command : IptablesCommand) : Atomic (runIptables command) := by
  cases command with
  | list chain => exact atomic_query _
  | check chain rule => exact atomic_query _
  | _ => exact atomic_command _

theorem onChain_succeeded {f : List FirewallRule → Int × Firewall}
    (h : fw.onChain chain f = (0, fw')) :
    ∃ rules, fw.lookup chain = some rules ∧ f rules = (0, fw') := by
  unfold Firewall.onChain at h
  split at h
  · cases h
  · exact ⟨_, ‹_›, h⟩

theorem onChain_state {P : Firewall → Prop} (h : P fw) {f : List FirewallRule → Int × Firewall}
    (hf : ∀ rules, fw.lookup chain = some rules → P (f rules).2) : P (fw.onChain chain f).2 := by
  unfold Firewall.onChain
  split
  · exact h
  · rename_i rules hrules
    exact hf rules hrules

/-- A refused command changes nothing. -/
theorem exec_refused (h : (Firewall.exec command fw).1 ≠ 0) :
    (Firewall.exec command fw).2 = fw := by
  cases command <;> simp only [Firewall.exec, Firewall.onChain] at h ⊢ <;> grind

theorem exec_list_state (chain : String) (fw : Firewall) :
    (Firewall.exec (.list chain) fw).2 = fw :=
  onChain_state (P := (· = fw)) rfl fun _ _ => rfl

theorem exec_check_state (chain : String) (rule : FirewallRule) (fw : Firewall) :
    (Firewall.exec (.check chain rule) fw).2 = fw :=
  onChain_state (P := (· = fw)) rfl fun _ _ => rfl

/-- A command does as the firewall says, or fails. -/
theorem run_returned (h : runIptables command outcomes fw = .returned status rest fw') :
    Firewall.exec command fw = (status, fw') ∨ status ≠ 0 ∧ fw' = fw := by
  cases command with
  | list chain =>
    obtain ⟨rfl, rfl | hfailed⟩ := query_returned h
    · exact .inl (Prod.ext rfl (exec_list_state chain fw'))
    · exact .inr ⟨hfailed.1, rfl⟩
  | check chain rule =>
    obtain ⟨rfl, rfl | hfailed⟩ := query_returned h
    · exact .inl (Prod.ext rfl (exec_check_state chain rule fw'))
    · exact .inr ⟨hfailed.1, rfl⟩
  | _ => exact command_returned h

theorem run_succeeded (h : runIptables command outcomes fw = .returned 0 rest fw') :
    Firewall.exec command fw = (0, fw') :=
  (run_returned h).resolve_right fun hfailed => hfailed.1 rfl

theorem run_failed (h : runIptables command outcomes fw = .returned status rest fw')
    (hne : status ≠ 0) : fw' = fw := by
  rcases run_returned h with hexec | ⟨-, hsame⟩
  · have hrefused : (Firewall.exec command fw).2 = fw := exec_refused (by rw [hexec]; exact hne)
    rw [hexec] at hrefused
    exact hrefused
  · exact hsame

/-- Only a chain that does not exist is answered with 1. -/
theorem list_answered (h : runIptables (.list chain) outcomes fw = .returned 1 rest fw') :
    fw' = fw ∧ fw.lookup chain = none := by
  obtain ⟨hsame, hanswer | hfailed⟩ := query_returned h
  · refine ⟨hsame, ?_⟩
    simp only [Firewall.exec, Firewall.onChain] at hanswer
    split at hanswer
    · assumption
    · cases hanswer
  · exact absurd rfl hfailed.2

theorem check_found (h : runIptables (.check chain rule) outcomes fw = .returned 0 rest fw') :
    fw' = fw ∧ ∃ rules, fw.lookup chain = some rules ∧ rule ∈ rules := by
  obtain ⟨rules, hrules, hexec⟩ := onChain_succeeded (run_succeeded h)
  split at hexec
  · cases hexec
    exact ⟨rfl, rules, hrules, ‹_›⟩
  · cases hexec

end Commands

/-! ## What the guard can make of a firewall -/

def IsBuiltin (chain : String) : Prop := chain = "INPUT" ∨ chain = "OUTPUT"

theorem isBuiltin_input : IsBuiltin "INPUT" := .inl rfl

theorem isBuiltin_output : IsBuiltin "OUTPUT" := .inr rfl

theorem output_ne_input : "OUTPUT" ≠ "INPUT" := by decide

theorem IsBuiltin.ne_chainName {chain : String} (h : IsBuiltin chain) : chain ≠ chainName := by
  rcases h with rfl | rfl <;> decide

/-- A firewall without the guard's chain. No rule jumps to a chain that does not exist. -/
structure Unmanaged (fw : Firewall) : Prop where
  builtin : ∀ chain, IsBuiltin chain → (fw.lookup chain).isSome = true
  noChain : fw.lookup chainName = none
  noJumps : ∀ chain rules, fw.lookup chain = some rules →
    ∀ rule ∈ rules, rule.target ≠ .chain chainName

/-- The rules that are not managed, in their order. -/
def userRules (rules : List FirewallRule) : List FirewallRule := rules.filter (· ≠ jumpRule)

/-- The firewall `fw₀` with some managed jumps and perhaps the guard's chain. -/
structure Managed (fw₀ fw : Firewall) : Prop where
  others : ∀ chain, ¬ IsBuiltin chain → chain ≠ chainName → fw.lookup chain = fw₀.lookup chain
  builtin : ∀ chain, IsBuiltin chain → ∃ rules, fw.lookup chain = some rules ∧
    fw₀.lookup chain = some (userRules rules) ∧ (fw.lookup chainName = none → jumpRule ∉ rules)

/-- The commands of the guard. -/
def IsManaged : IptablesCommand → Prop
  | .list _ | .check _ _ => True
  | .delete chain rule | .insert chain rule => IsBuiltin chain ∧ rule = jumpRule
  | .append chain _ | .newChain chain | .flush chain | .deleteChain chain => chain = chainName

/-- The commands of its removals. -/
def IsRemoval : IptablesCommand → Prop
  | .list _ | .check _ _ => True
  | .delete chain rule => IsBuiltin chain ∧ rule = jumpRule
  | .append chain rule => chain = chainName ∧ rule = ownerRule
  | .flush chain | .deleteChain chain => chain = chainName
  | .insert _ _ | .newChain _ => False

theorem IsRemoval.isManaged (command : IptablesCommand) (h : IsRemoval command) :
    IsManaged command := by
  cases command with
  | append chain rule => exact h.1
  | insert chain rule => exact h.elim
  | newChain chain => exact h.elim
  | _ => exact h

/-- What a command of a removal can do. -/
inductive Removed (fw : Firewall) : Firewall → Prop
  | same : Removed fw fw
  | own (rules : List FirewallRule) (hpresent : fw.lookup chainName ≠ none) :
      Removed fw (fw.assign chainName rules)
  | jump {chain : String} {rules : List FirewallRule} (hchain : IsBuiltin chain)
      (hrules : fw.lookup chain = some rules) : Removed fw (fw.assign chain (rules.erase jumpRule))
  | chain (hunused : fw.references chainName = false) : Removed fw (fw.erase chainName)

/-- What a command of the guard can do. -/
inductive Changed (fw : Firewall) : Firewall → Prop
  | removal {fw' : Firewall} (h : Removed fw fw') : Changed fw fw'
  | created : Changed fw (fw.assign chainName [])
  | inserted {chain : String} {rules : List FirewallRule} (hchain : IsBuiltin chain)
      (hrules : fw.lookup chain = some rules) (hpresent : fw.lookup chainName ≠ none) :
      Changed fw (fw.assign chain (jumpRule :: rules))

theorem removed_exec (fw : Firewall) {command : IptablesCommand} (h : IsRemoval command) :
    Removed fw (Firewall.exec command fw).2 := by
  cases command with
  | list chain => exact onChain_state .same fun _ _ => .same
  | check chain rule => exact onChain_state .same fun _ _ => .same
  | delete chain rule =>
    obtain ⟨hchain, rfl⟩ := h
    refine onChain_state .same fun rules hrules => ?_
    split
    · exact .jump hchain hrules
    · exact .same
  | append chain rule =>
    obtain ⟨rfl, rfl⟩ := h
    refine onChain_state .same fun rules hrules => ?_
    split
    · exact .own _ (by simp [hrules])
    · exact .same
  | insert chain rule => exact h.elim
  | newChain chain => exact h.elim
  | flush chain =>
    cases h
    exact onChain_state .same fun rules hrules => .own [] (by simp [hrules])
  | deleteChain chain =>
    cases h
    refine onChain_state .same fun rules _ => ?_
    split
    · rename_i hdelete
      exact .chain hdelete.2
    · exact .same

theorem changed_exec (fw : Firewall) {command : IptablesCommand} (h : IsManaged command) :
    Changed fw (Firewall.exec command fw).2 := by
  cases command with
  | append chain rule =>
    cases h
    refine onChain_state (.removal .same) fun rules hrules => ?_
    split
    · exact .removal (.own _ (by simp [hrules]))
    · exact .removal .same
  | insert chain rule =>
    obtain ⟨hchain, rfl⟩ := h
    refine onChain_state (.removal .same) fun rules hrules => ?_
    split
    · rename_i htarget
      exact .inserted hchain hrules (Option.isSome_iff_ne_none.mp htarget)
    · exact .removal .same
  | newChain chain =>
    cases h
    unfold Firewall.exec
    dsimp only
    split
    · exact .created
    · exact .removal .same
  | _ => exact .removal (removed_exec fw h)

section UserRules

variable {rules : List FirewallRule}

@[simp] theorem userRules_cons_jumpRule (rules : List FirewallRule) :
    userRules (jumpRule :: rules) = userRules rules := List.filter_cons_of_neg (by simp)

theorem notMem_userRules (rules : List FirewallRule) : jumpRule ∉ userRules rules := by
  intro hmem
  exact absurd (List.mem_filter.mp hmem).2 (by simp)

theorem userRules_of_notMem (h : jumpRule ∉ rules) : userRules rules = rules := by
  refine List.filter_eq_self.mpr fun rule hrule => ?_
  rw [decide_eq_true_eq]
  rintro rfl
  exact h hrule

@[simp] theorem userRules_erase (rules : List FirewallRule) :
    userRules (rules.erase jumpRule) = userRules rules := by
  induction rules with
  | nil => rfl
  | cons rule rules ih =>
    by_cases hrule : rule = jumpRule
    · rw [hrule, List.erase_cons_head, userRules_cons_jumpRule]
    · rw [List.erase_cons_tail (by simpa using hrule)]
      simp only [userRules, List.filter_cons] at ih ⊢
      rw [ih]

end UserRules

section Managed

variable {fw₀ fw : Firewall}

theorem Unmanaged.notMem (h : Unmanaged fw₀) {chain : String} {rules : List FirewallRule}
    (hrules : fw₀.lookup chain = some rules) : jumpRule ∉ rules :=
  fun hmem => h.noJumps chain rules hrules jumpRule hmem rfl

theorem Unmanaged.managed (h : Unmanaged fw₀) : Managed fw₀ fw₀ where
  others _ _ _ := rfl
  builtin chain hchain := by
    obtain ⟨rules, hrules⟩ := Option.isSome_iff_exists.mp (h.builtin chain hchain)
    refine ⟨rules, hrules, ?_, fun _ => h.notMem hrules⟩
    rw [userRules_of_notMem (h.notMem hrules)]
    exact hrules

/-- Writing the guard's chain keeps everything else. -/
theorem Managed.assignChain (h : Managed fw₀ fw) (rules : List FirewallRule) :
    Managed fw₀ (fw.assign chainName rules) where
  others chain hbuiltin hne := by
    rw [Table.lookup_assign, if_neg hne]
    exact h.others chain hbuiltin hne
  builtin chain hchain := by
    obtain ⟨rules₁, hrules, hrules₀, -⟩ := h.builtin chain hchain
    refine ⟨rules₁, ?_, hrules₀, fun hnone => ?_⟩
    · rw [Table.lookup_assign, if_neg hchain.ne_chainName]
      exact hrules
    · rw [Table.lookup_assign, if_pos rfl] at hnone
      cases hnone

/-- Writing the jumps of a builtin chain keeps everything else. -/
theorem Managed.assignJumps (h : Managed fw₀ fw) {chain : String} (hchain : IsBuiltin chain)
    {rules : List FirewallRule} (hrules : fw₀.lookup chain = some (userRules rules))
    (hjumps : fw.lookup chainName = none → jumpRule ∉ rules) :
    Managed fw₀ (fw.assign chain rules) where
  others other hbuiltin hne := by
    have hother : other ≠ chain := fun heq => hbuiltin (heq ▸ hchain)
    rw [Table.lookup_assign, if_neg hother]
    exact h.others other hbuiltin hne
  builtin other hother := by
    have hown : (fw.assign chain rules).lookup chainName = fw.lookup chainName := by
      rw [Table.lookup_assign, if_neg hchain.ne_chainName.symm]
    rw [hown, Table.lookup_assign]
    by_cases heq : other = chain
    · subst heq
      exact ⟨rules, if_pos rfl, hrules, hjumps⟩
    · rw [if_neg heq]
      exact h.builtin other hother

theorem references_of_jump {chain : String} {rules : List FirewallRule}
    (hrules : fw.lookup chain = some rules) (hmem : jumpRule ∈ rules) :
    fw.references chainName = true := by
  unfold Firewall.references
  rw [List.any_eq_true]
  refine ⟨⟨chain, rules⟩, Table.lookup_eq_some_iff.mp hrules, ?_⟩
  rw [List.any_eq_true]
  exact ⟨jumpRule, hmem, by simp [jumpRule]⟩

/-- Without a reference to the chain there are no jumps. -/
theorem Managed.eraseChain (h : Managed fw₀ fw) (hunused : fw.references chainName = false) :
    Managed fw₀ (fw.erase chainName) where
  others chain hbuiltin hne := by
    rw [Table.lookup_erase', if_neg hne]
    exact h.others chain hbuiltin hne
  builtin chain hchain := by
    obtain ⟨rules, hrules, hrules₀, -⟩ := h.builtin chain hchain
    refine ⟨rules, ?_, hrules₀, fun _ hmem => ?_⟩
    · rw [Table.lookup_erase', if_neg hchain.ne_chainName]
      exact hrules
    · rw [references_of_jump hrules hmem] at hunused
      cases hunused

/-- **No command of the guard makes more of the firewall.** -/
theorem Managed.change {fw' : Firewall} (h : Managed fw₀ fw) (hchanged : Changed fw fw') :
    Managed fw₀ fw' := by
  cases hchanged with
  | created => exact h.assignChain []
  | inserted hchain hrules hpresent =>
    obtain ⟨rules, hrules', hrules₀, -⟩ := h.builtin _ hchain
    cases hrules.symm.trans hrules'
    refine h.assignJumps hchain (by rw [userRules_cons_jumpRule, hrules₀]) fun hnone => ?_
    exact absurd hnone hpresent
  | removal hremoved =>
    cases hremoved with
    | same => exact h
    | own rules hpresent => exact h.assignChain rules
    | jump hchain hrules =>
      obtain ⟨rules, hrules', hrules₀, hjumps⟩ := h.builtin _ hchain
      cases hrules.symm.trans hrules'
      refine h.assignJumps hchain (by rw [userRules_erase, hrules₀]) fun hnone hmem => ?_
      exact hjumps hnone (List.mem_of_mem_erase hmem)
    | chain hunused => exact h.eraseChain hunused

theorem keeps_run {I : Firewall → Prop} {command : IptablesCommand}
    (h : ∀ fw, I fw → I (Firewall.exec command fw).2) : Keeps I (runIptables command) := by
  cases command with
  | list chain => exact keeps_query _
  | check chain rule => exact keeps_query _
  | _ => exact keeps_command h

end Managed

/-! ## Programs of the guard -/

abbrev BuiltOf (K : IptablesCommand → Prop) {A : Type} (p : Iptables A) : Prop :=
  Built runIptables K p

section Rules

variable {I : Firewall → Prop} {A : Type} {p : Iptables A}

theorem keeps_of_changed (hI : ∀ fw fw', Changed fw fw' → I fw → I fw')
    (h : BuiltOf IsManaged p) : Keeps I p :=
  h.keeps fun _ hcommand => keeps_run fun fw hfw => hI fw _ (changed_exec fw hcommand) hfw

theorem keeps_of_removed (hI : ∀ fw fw', Removed fw fw' → I fw → I fw')
    (h : BuiltOf IsRemoval p) : Keeps I p :=
  h.keeps fun _ hcommand => keeps_run fun fw hfw => hI fw _ (removed_exec fw hcommand) hfw

theorem stays_of_removed (hI : ∀ fw fw', Removed fw fw' → I fw → I fw')
    (h : BuiltOf IsRemoval p) : Stays I p :=
  h.stays atomic_run fun _ hcommand =>
    keeps_run fun fw hfw => hI fw _ (removed_exec fw hcommand) hfw

end Rules

theorem spends_run (command : IptablesCommand) : Spends 1 (runIptables command) := by
  cases command with
  | list chain => exact spends_query _
  | check chain rule => exact spends_query _
  | _ => exact spends_command _

theorem spends_removeManagedJump (chain : String) : Spends 1 (removeManagedJump chain) := by
  refine spends_bind (n := 0) (spends_run _) fun status => ?_
  split
  · exact spends_pure _
  · split
    · exact spends_pure _
    · exact (spends_bind (spends_run _) fun _ => spends_pure _).mono (Nat.zero_le _)

/-- The measure of the loop. -/
def jumpCount (chain : String) (fw : Firewall) : Nat := ((fw.lookup chain).getD []).count jumpRule

/-- A round that is followed by another one has removed a jump. -/
theorem removeManagedJump_returned {chain : String} {outcomes rest : List Outcome}
    {fw fw' : Firewall}
    (h : removeManagedJump chain outcomes fw = .returned none rest fw') :
    jumpCount chain fw' < jumpCount chain fw := by
  obtain ⟨checkStatus, middle, fw₁, hcheck, hround⟩ := returned_bind h
  split at hround
  · cases hround
  · split at hround
    · cases hround
    · rename_i hzero
      rw [not_not] at hzero
      subst hzero
      obtain ⟨rfl, rules, hrules, hmem⟩ := check_found hcheck
      obtain ⟨deleteStatus, last, fw₂, hdelete, hreturned⟩ := returned_bind hround
      by_cases hstatus : deleteStatus = 0
      · subst hstatus
        cases hreturned
        obtain ⟨rules', hrules', hexec⟩ := onChain_succeeded (run_succeeded hdelete)
        rw [hrules] at hrules'
        cases hrules'
        rw [if_pos hmem] at hexec
        cases hexec
        have hcount := List.count_pos_iff.mpr hmem
        simp only [jumpCount, Table.lookup_assign, if_true, Option.getD_some, hrules,
          List.count_erase_self]
        omega
      · rw [if_pos hstatus] at hreturned
        cases hreturned

theorem built_removeManagedJumps {chain : String} (hchain : IsBuiltin chain) :
    BuiltOf IsRemoval (removeManagedJumps chain) := by
  refine .loop ?_ (spends_removeManagedJump chain) (jumpCount chain) fun _ _ _ _ hround =>
    removeManagedJump_returned hround
  refine .bind (.command trivial) fun status => ?_
  split
  · exact .pure _
  · split
    · exact .pure _
    · exact .bind (.command ⟨hchain, rfl⟩) fun _ => .pure _

namespace FirewallQueueGuard

theorem built_restoreOwnerMarker : BuiltOf IsRemoval restoreOwnerMarker := by
  refine .bind (.command trivial) fun status => ?_
  split
  · exact .pure _
  · split
    · exact .pure _
    · exact .bind (.command ⟨rfl, rfl⟩) fun _ => .pure _

theorem built_dismantle : BuiltOf IsRemoval dismantle := by
  refine .bind (built_removeManagedJumps isBuiltin_input) fun removed => ?_
  split
  · exact .pure _
  · refine .bind (built_removeManagedJumps isBuiltin_output) fun removed => ?_
    split
    · exact .pure _
    · refine .bind (.command rfl) fun status => ?_
      split
      · exact .pure _
      · refine .bind (.command rfl) fun status => ?_
        split
        · exact .pure _
        · exact built_restoreOwnerMarker

theorem built_removeChain (requireOwnerMarker : Bool) :
    BuiltOf IsRemoval (removeChain requireOwnerMarker) := by
  refine .bind (.command trivial) fun status => ?_
  split
  · exact .pure _
  · split
    · exact .pure _
    · split
      · refine .bind (.command trivial) fun status => ?_
        split
        · exact .pure _
        · exact built_dismantle
      · exact built_dismantle

theorem built_removeCurrentChain (guard : FirewallQueueGuard) :
    BuiltOf IsRemoval guard.removeCurrentChain :=
  .bind (built_removeChain false) fun _ => .pure _

theorem built_rollback (guard : FirewallQueueGuard) : BuiltOf IsRemoval guard.rollback :=
  .bind (built_removeCurrentChain guard) fun _ => .pure _

/-- The commands of `register`, up to the first that fails. -/
def registerRules (queueNum : UInt16) : Iptables Bool := do
  let queueStatus ← runIptables (.append chainName (queueRule queueNum))
  if queueStatus ≠ 0 then pure false
  else do
    let ownerStatus ← runIptables (.append chainName ownerRule)
    if ownerStatus ≠ 0 then pure false
    else do
      let inputStatus ← runIptables (.insert "INPUT" jumpRule)
      if inputStatus ≠ 0 then pure false
      else do
        let outputStatus ← runIptables (.insert "OUTPUT" jumpRule)
        if outputStatus ≠ 0 then pure false else pure true

theorem register_eq (guard : FirewallQueueGuard) :
    guard.register = (do
      let registered ← registerRules guard.queueNum
      if registered then pure (true, { guard with installed := true }) else guard.rollback) := by
  unfold register registerRules
  rw [bind_assoc]
  congr 1
  funext queueStatus
  split
  · rfl
  · rw [bind_assoc]
    congr 1
    funext ownerStatus
    split
    · rfl
    · rw [bind_assoc]
      congr 1
      funext inputStatus
      split
      · rfl
      · rw [bind_assoc]
        congr 1
        funext outputStatus
        split <;> rfl

theorem built_registerRules (queueNum : UInt16) : BuiltOf IsManaged (registerRules queueNum) := by
  refine .bind (.command rfl) fun status => ?_
  split
  · exact .pure _
  · refine .bind (.command rfl) fun status => ?_
    split
    · exact .pure _
    · refine .bind (.command ⟨.inl rfl, rfl⟩) fun status => ?_
      split
      · exact .pure _
      · refine .bind (.command ⟨.inr rfl, rfl⟩) fun status => ?_
        split
        · exact .pure _
        · exact .pure _

theorem built_register (guard : FirewallQueueGuard) : BuiltOf IsManaged guard.register := by
  rw [register_eq]
  refine .bind (built_registerRules guard.queueNum) fun registered => ?_
  split
  · exact .pure _
  · exact (built_rollback guard).mono IsRemoval.isManaged

theorem built_create (guard : FirewallQueueGuard) : BuiltOf IsManaged guard.create := by
  refine .bind ((built_removeChain true).mono IsRemoval.isManaged) fun cleaned => ?_
  split
  · exact .pure _
  · refine .bind (.command rfl) fun status => ?_
    split
    · exact .pure _
    · exact built_register _

theorem built_install (guard : FirewallQueueGuard) : BuiltOf IsManaged guard.install := by
  unfold install
  split
  · exact .pure _
  · split
    · refine .bind ((built_removeCurrentChain guard).mono IsRemoval.isManaged) ?_
      rintro ⟨removed, guard⟩
      cases removed with
      | false => exact .pure _
      | true => exact built_create guard
    · exact built_create guard

theorem built_uninstall (guard : FirewallQueueGuard) : BuiltOf IsRemoval guard.uninstall := by
  unfold uninstall
  split
  · exact .pure _
  · exact built_removeCurrentChain guard

theorem built_destroy (guard : FirewallQueueGuard) : BuiltOf IsRemoval guard.destroy := by
  unfold destroy
  split
  · exact .bind (built_removeCurrentChain guard) fun _ => .pure _
  · exact .pure _

theorem built_session (queueNum : UInt16) : BuiltOf IsManaged (session queueNum) := by
  refine .bind (built_install _) fun (installed, guard) => ?_
  cases installed with
  | false => exact (built_destroy guard).mono IsRemoval.isManaged
  | true =>
    refine .bind ((built_uninstall guard).mono IsRemoval.isManaged) ?_
    rintro ⟨_, guard⟩
    exact (built_destroy guard).mono IsRemoval.isManaged

theorem keeps_managed {fw₀ : Firewall} {A : Type} {p : Iptables A} (h : BuiltOf IsManaged p) :
    Keeps (Managed fw₀) p :=
  keeps_of_changed (fun _ _ hchanged hmanaged => hmanaged.change hchanged) h

/-- **Wherever the sensor is killed, the firewall is that of the start with some managed jumps
and perhaps the guard's chain.** -/
theorem keeps_session (fw₀ : Firewall) (queueNum : UInt16) :
    Keeps (Managed fw₀) (session queueNum) := keeps_managed (built_session queueNum)

end FirewallQueueGuard

end InlineIps
