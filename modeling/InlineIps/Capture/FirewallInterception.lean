import InlineIps.Capture.FirewallOwnership

/-!
# What a successful installation promises

`install` believes its flag: once `installed` is set it returns true without a command. The flag
is right as long as no `uninstall` has stopped between its first change of the firewall and its
last one.
-/

namespace InlineIps

open Library Library.Interruptible

/-- The builtin chains exist, and no rule jumps to a chain of the guard that does not. -/
structure WellFormed (fw : Firewall) : Prop where
  builtin : ∀ chain, IsBuiltin chain → (fw.lookup chain).isSome = true
  targets : Absent fw → fw.references chainName = false

/-- Packets of both directions reach the queue. -/
def Intercepts (queueNum : UInt16) (fw : Firewall) : Prop :=
  (∀ chain, IsBuiltin chain → ∃ rules, fw.lookup chain = some rules ∧ jumpRule ∈ rules) ∧
    ∃ rules, fw.lookup chainName = some rules ∧ queueRule queueNum ∈ rules

/-- An `uninstall` of an installed guard fails before it changes anything, or not at all: one of
its first three commands fails, or none of its nine. -/
def Careful (s : GuardState) (e : GuardCall × List Outcome) : Prop :=
  e.1 = .uninstall → (∃ guard, s.guard = some guard ∧ guard.installed = true) →
    (∃ o ∈ e.2.take 3, o ≠ .succeeds) ∨ ∀ o ∈ e.2.take 9, o = .succeeds

/-! ## Well-formed firewalls -/

section WellFormed

variable {fw : Firewall} {chain : String}

theorem references_eq_false_iff {chain : String} :
    fw.references chain = false ↔ ∀ other rules, fw.lookup other = some rules →
      ∀ rule ∈ rules, rule.target ≠ .chain chain := by
  unfold Firewall.references
  simp only [List.any_eq_false, List.any_eq_true, not_exists, not_and, decide_eq_true_eq]
  constructor
  · intro h other rules hrules rule hrule
    exact h ⟨other, rules⟩ (Table.lookup_eq_some_iff.mp hrules) rule hrule
  · rintro h ⟨other, rules⟩ hentry rule hrule
    exact h other rules (Table.lookup_eq_some_iff.mpr hentry) rule hrule

theorem WellFormed.unmanaged (h : WellFormed fw) (habsent : Absent fw) : Unmanaged fw where
  builtin := h.builtin
  noChain := habsent
  noJumps := references_eq_false_iff.mp (h.targets habsent)

theorem Unmanaged.wellFormed (h : Unmanaged fw) : WellFormed fw where
  builtin := h.builtin
  targets _ := references_eq_false_iff.mpr h.noJumps

theorem WellFormed.assignChain (h : WellFormed fw) (rules : List FirewallRule) :
    WellFormed (fw.assign chainName rules) where
  builtin chain hchain := by
    rw [Table.lookup_assign, if_neg hchain.ne_chainName]
    exact h.builtin chain hchain
  targets habsent := by
    unfold Absent at habsent
    rw [Table.lookup_assign, if_pos rfl] at habsent
    cases habsent

theorem WellFormed.assignRules (h : WellFormed fw) (hchain : IsBuiltin chain)
    {rules : List FirewallRule}
    (hrules : Absent fw → ∀ rule ∈ rules, rule.target ≠ .chain chainName) :
    WellFormed (fw.assign chain rules) where
  builtin other hother := by
    rw [Table.lookup_assign]
    split
    · rfl
    · exact h.builtin other hother
  targets habsent := by
    unfold Absent at habsent
    rw [Table.lookup_assign, if_neg hchain.ne_chainName.symm] at habsent
    refine references_eq_false_iff.mpr fun other rules' hlookup => ?_
    rw [Table.lookup_assign] at hlookup
    split at hlookup
    · cases hlookup
      exact hrules habsent
    · exact references_eq_false_iff.mp (h.targets habsent) other rules' hlookup

theorem WellFormed.eraseChain (h : WellFormed fw) (hunused : fw.references chainName = false) :
    WellFormed (fw.erase chainName) where
  builtin chain hchain := by
    rw [Table.lookup_erase', if_neg hchain.ne_chainName]
    exact h.builtin chain hchain
  targets _ := by
    refine references_eq_false_iff.mpr fun other rules hlookup => ?_
    have hrules := (Table.lookup_erase_eq_some.mp hlookup).2
    exact references_eq_false_iff.mp hunused other rules hrules

theorem WellFormed.change {fw' : Firewall} (h : WellFormed fw) (hchanged : Changed fw fw') :
    WellFormed fw' := by
  cases hchanged with
  | created => exact h.assignChain []
  | inserted hchain hrules hpresent =>
    exact h.assignRules hchain fun habsent => absurd habsent hpresent
  | removal hremoved =>
    cases hremoved with
    | same => exact h
    | own rules hpresent => exact h.assignChain rules
    | jump hchain hrules =>
      refine h.assignRules hchain fun habsent rule hrule => ?_
      have hmem := List.mem_of_mem_erase hrule
      exact references_eq_false_iff.mp (h.targets habsent) _ _ hrules rule hmem
    | chain hunused => exact h.eraseChain hunused

theorem keeps_wellFormed {A : Type} {p : Iptables A} (h : BuiltOf IsManaged p) :
    Keeps WellFormed p :=
  keeps_of_changed (fun _ _ hchanged hwell => hwell.change hchanged) h

end WellFormed

/-! ## Registered rules -/

section Installed

variable {queueNum : UInt16} {fw₀ fw : Firewall} {chain : String}

theorem Installed.intercepts (h : Installed queueNum fw₀ fw) : Intercepts queueNum fw := by
  refine ⟨fun chain hchain => ?_, _, h.chain, List.mem_cons_self⟩
  obtain ⟨rules, -, -, hrules⟩ := h.builtin chain hchain
  exact ⟨_, hrules, List.mem_cons_self⟩

theorem Installed.managed (h : Installed queueNum fw₀ fw) : Managed fw₀ fw where
  others := h.others
  builtin chain hchain := by
    obtain ⟨rules, hrules₀, hnotMem, hrules⟩ := h.builtin chain hchain
    refine ⟨_, hrules, ?_, fun hnone => ?_⟩
    · rw [userRules_cons_jumpRule, userRules_of_notMem hnotMem, hrules₀]
    · rw [h.chain] at hnone
      cases hnone

theorem Installed.jumpCount (h : Installed queueNum fw₀ fw) (hchain : IsBuiltin chain) :
    jumpCount chain fw = 1 := by
  obtain ⟨rules, -, hnotMem, hrules⟩ := h.builtin chain hchain
  rw [jumpCount_eq hrules, List.count_cons_self, List.count_eq_zero.mpr hnotMem]

end Installed

namespace FirewallQueueGuard

/-! ## Removals that fail early -/

section Early

variable {fw : Firewall} {rules inputs : List FirewallRule} {outcomes : List Outcome}

/-- One of the first outcomes is a failure. -/
theorem exists_failure {n : Nat} (h : ∃ o ∈ outcomes.take n, o ≠ .succeeds) :
    ∃ m status hne rest, m < n ∧
      outcomes = List.replicate m .succeeds ++ .fails status hne :: rest := by
  induction n generalizing outcomes with
  | zero =>
    obtain ⟨o, ho, -⟩ := h
    simp at ho
  | succ n ih =>
    obtain ⟨o, ho, hfails⟩ := h
    cases outcomes with
    | nil => cases ho
    | cons first outcomes =>
      cases first with
      | fails status hne => exact ⟨0, status, hne, outcomes, Nat.succ_pos n, rfl⟩
      | succeeds =>
        have hrest : ∃ o ∈ outcomes.take n, o ≠ .succeeds := by
          rcases List.mem_cons.mp ho with rfl | hmem
          · exact absurd rfl hfails
          · exact ⟨o, hmem, hfails⟩
        obtain ⟨m, status, hne, rest, hlt, rfl⟩ := ih hrest
        exact ⟨m + 1, status, hne, rest, Nat.succ_lt_succ hlt, rfl⟩

/-- The first round of the loop fails: at `-C` or at `-D`. -/
theorem removeManagedJumps_early {chain : String} (hrules : fw.lookup chain = some rules)
    (hmem : jumpRule ∈ rules) {m : Nat} (hm : m < 2) {status : Int} (hne : status ≠ 0)
    (rest : List Outcome) :
    removeManagedJumps chain (List.replicate m .succeeds ++ .fails status hne :: rest) fw =
      .returned false rest fw := by
  have hround : removeManagedJump chain (List.replicate m .succeeds ++ .fails status hne :: rest)
      fw = .returned (some false) rest fw := by
    obtain rfl | rfl : m = 0 ∨ m = 1 := by omega
    · obtain ⟨answer, hzero, hone, hcheck⟩ := query_fails
        (fun fw => (Firewall.exec (.check chain jumpRule) fw).1) hne rest fw
      refine (bind_returned hcheck _).trans ?_
      rw [if_neg hone, if_pos hzero]
      rfl
    · have hcheck : Firewall.exec (.check chain jumpRule) fw = (0, fw) := by
        rw [exec_check hrules, if_pos hmem]
      refine (bind_returned (completesIn_run hcheck _) _).trans ?_
      rw [if_neg (by decide), if_neg (by decide)]
      refine (bind_returned (show runIptables _ _ _ = .returned status rest fw from rfl) _).trans ?_
      rw [if_pos hne]
      rfl
  unfold removeManagedJumps
  rw [loop_eq (spends_removeManagedJump chain), hround]

/-- One of the first three commands fails: nothing has changed. -/
theorem removeCurrentChain_early (hchain : fw.lookup chainName = some rules)
    (hinputs : fw.lookup "INPUT" = some inputs) (hmem : jumpRule ∈ inputs)
    (h : ∃ o ∈ outcomes.take 3, o ≠ .succeeds) (guard : FirewallQueueGuard) :
    ∃ rest, guard.removeCurrentChain outcomes fw = .returned (false, guard) rest fw := by
  obtain ⟨m, status, hne, rest, hlt, rfl⟩ := exists_failure h
  refine ⟨rest, ?_⟩
  have hremoved : removeChain false (List.replicate m .succeeds ++ .fails status hne :: rest) fw =
      .returned false rest fw := by
    cases m with
    | zero =>
      obtain ⟨answer, hzero, hone, hlist⟩ := query_fails
        (fun fw => (Firewall.exec (.list chainName) fw).1) hne rest fw
      refine (bind_returned hlist _).trans ?_
      rw [if_neg hone, if_pos hzero]
      rfl
    | succ m =>
      refine (bind_returned (completesIn_run (exec_list hchain) _) _).trans ?_
      rw [if_neg (by decide), if_neg (by decide), if_neg (by decide)]
      exact bind_returned (removeManagedJumps_early hinputs hmem (by omega) hne rest) _
  exact bind_returned hremoved _

end Early

/-! ## The flag -/

/-- Where the flag says so, the rules are registered. -/
structure Sound (queueNum : UInt16) (guard : FirewallQueueGuard) (fw : Firewall) : Prop where
  queue : guard.queueNum = queueNum
  ownsChain : guard.installed = true → guard.ownsChain = true
  registered : guard.installed = true → ∃ fw₀, Unmanaged fw₀ ∧ Installed queueNum fw₀ fw

section Sound

variable {queueNum : UInt16} {guard guard' : FirewallQueueGuard} {result : Bool}
  {fw fw' : Firewall} {outcomes rest : List Outcome}

/-- Without the flag there is nothing to keep. -/
theorem Sound.of_not_installed (hqueue : guard.queueNum = queueNum)
    (hinstalled : guard.installed = false) : Sound queueNum guard fw where
  queue := hqueue
  ownsChain h := by
    rw [hinstalled] at h
    cases h
  registered h := by
    rw [hinstalled] at h
    cases h

theorem removeCurrentChain_sound (hsound : Sound queueNum guard fw)
    (hinstalled : guard.installed = false)
    (h : guard.removeCurrentChain outcomes fw = .returned (result, guard') rest fw') :
    guard'.queueNum = queueNum ∧ guard'.installed = false := by
  rcases removeCurrentChain_returned h with ⟨-, -, rfl⟩ | ⟨-, rfl⟩
  · exact ⟨hsound.queue, rfl⟩
  · exact ⟨hsound.queue, hinstalled⟩

theorem create_failed (hinstalled : guard.installed = false)
    (h : guard.create outcomes fw = .returned (false, guard') rest fw') :
    guard'.queueNum = guard.queueNum ∧ guard'.installed = false := by
  obtain ⟨cleaned, middle, fw₁, -, hcreate⟩ := returned_bind h
  cases cleaned with
  | false =>
    cases hcreate
    exact ⟨rfl, hinstalled⟩
  | true =>
    obtain ⟨newStatus, middle', fw₂, -, hregister⟩ := returned_bind hcreate
    split at hregister
    · cases hregister
      exact ⟨rfl, hinstalled⟩
    · rw [register_eq] at hregister
      obtain ⟨registered, last, fw₃, -, hrollback⟩ := returned_bind hregister
      cases registered with
      | true => cases hrollback
      | false =>
        obtain ⟨⟨removed, guard₁⟩, _, _, hremoved, hreturned⟩ := returned_bind hrollback
        cases hreturned
        rcases removeCurrentChain_returned hremoved with ⟨-, -, rfl⟩ | ⟨-, rfl⟩
        · exact ⟨rfl, rfl⟩
        · exact ⟨rfl, hinstalled⟩

theorem create_sound (hwell : WellFormed fw) (hqueue : guard.queueNum = queueNum)
    (hinstalled : guard.installed = false)
    (h : guard.create outcomes fw = .returned (result, guard') rest fw') :
    Sound queueNum guard' fw' ∧ (result = true → guard'.installed = true) := by
  cases result with
  | false =>
    obtain ⟨hsame, hnot⟩ := create_failed hinstalled h
    exact ⟨.of_not_installed (hsame.trans hqueue) hnot, fun hfalse => by cases hfalse⟩
  | true =>
    obtain ⟨middle, fw₁, hremoved, hcreated⟩ := create_returned h
    have hwell₁ : WellFormed fw₁ :=
      (keeps_wellFormed ((built_removeChain true).mono IsRemoval.isManaged)).returned hwell hremoved
    have hunmanaged : Unmanaged fw₁ := hwell₁.unmanaged (removeChain_returned hremoved)
    obtain ⟨hregistered, rfl⟩ := hcreated fw₁ hunmanaged fun _ => rfl
    rw [hqueue] at hregistered
    exact ⟨⟨hqueue, fun _ => rfl, fun _ => ⟨fw₁, hunmanaged, hregistered⟩⟩, fun _ => rfl⟩

theorem install_sound (hwell : WellFormed fw) (hsound : Sound queueNum guard fw)
    (h : guard.install outcomes fw = .returned (result, guard') rest fw') :
    Sound queueNum guard' fw' ∧ (result = true → guard'.installed = true) := by
  unfold install at h
  cases hinstalled : guard.installed with
  | true =>
    rw [if_pos hinstalled] at h
    cases h
    exact ⟨hsound, fun _ => hinstalled⟩
  | false =>
    rw [if_neg (by simp [hinstalled])] at h
    cases howns : guard.ownsChain with
    | false =>
      rw [if_neg (by simp [howns])] at h
      exact create_sound hwell hsound.queue hinstalled h
    | true =>
      rw [if_pos howns] at h
      obtain ⟨⟨removed, guard₁⟩, middle, fw₁, hremoved, hcreate⟩ := returned_bind h
      obtain ⟨hqueue, hinstalled₁⟩ := removeCurrentChain_sound hsound hinstalled hremoved
      cases removed with
      | false =>
        cases hcreate
        exact ⟨.of_not_installed hqueue hinstalled₁, fun hfalse => by cases hfalse⟩
      | true =>
        have hremoval : BuiltOf IsManaged guard.removeCurrentChain :=
          (built_removeCurrentChain guard).mono IsRemoval.isManaged
        have hwell₁ : WellFormed fw₁ := (keeps_wellFormed hremoval).returned hwell hremoved
        exact create_sound hwell₁ hqueue hinstalled₁ hcreate

/-- A flawless removal takes nine commands. -/
theorem removeCurrentChain_nine {fw₀ : Firewall} (hunmanaged : Unmanaged fw₀)
    (hregistered : Installed queueNum fw₀ fw)
    (hsucceed : ∀ o ∈ outcomes.take 9, o = Outcome.succeeds)
    (h : guard.removeCurrentChain outcomes fw = .returned (result, guard') rest fw') :
    guard' = { guard with ownsChain := false, installed := false } := by
  obtain ⟨fw₁, hremoved, -⟩ :=
    removeCurrentChain_completesIn hunmanaged hregistered.managed hregistered.chain guard
  rw [hregistered.jumpCount isBuiltin_input, hregistered.jumpCount isBuiltin_output] at hremoved
  -- the outcomes may be fewer than nine, so take some more
  have hregular : Regular guard.removeCurrentChain :=
    (built_removeCurrentChain guard).regular atomic_run
  have hmore := hregular.append h (List.replicate 9 .succeeds)
  have hnine : (outcomes ++ List.replicate 9 Outcome.succeeds).take 9 =
      List.replicate 9 Outcome.succeeds := by
    refine List.eq_replicate_iff.mpr ⟨by simp, fun o ho => ?_⟩
    rw [List.take_append] at ho
    rcases List.mem_append.mp ho with hmem | hmem
    · exact hsucceed o hmem
    · exact List.eq_of_mem_replicate (List.mem_of_mem_take hmem)
  rw [← List.take_append_drop 9 (outcomes ++ _), hnine] at hmore
  have hsame := (hremoved _).symm.trans hmore
  injection hsame with hpair
  exact (congrArg Prod.snd hpair).symm

theorem uninstall_sound (hsound : Sound queueNum guard fw)
    (hcareful : guard.installed = true →
      (∃ o ∈ outcomes.take 3, o ≠ .succeeds) ∨ ∀ o ∈ outcomes.take 9, o = .succeeds)
    (h : guard.uninstall outcomes fw = .returned (result, guard') rest fw') :
    Sound queueNum guard' fw' := by
  unfold uninstall at h
  cases howns : guard.ownsChain with
  | false =>
    rw [howns] at h
    cases h
    exact hsound
  | true =>
    rw [howns] at h
    cases hinstalled : guard.installed with
    | false =>
      obtain ⟨hqueue, hnot⟩ := removeCurrentChain_sound hsound hinstalled h
      exact .of_not_installed hqueue hnot
    | true =>
      obtain ⟨fw₀, hunmanaged, hregistered⟩ := hsound.registered hinstalled
      rcases hcareful hinstalled with hearly | hsucceed
      · obtain ⟨inputs, -, -, hinputs⟩ := hregistered.builtin "INPUT" isBuiltin_input
        obtain ⟨rest', hfailed⟩ := removeCurrentChain_early hregistered.chain hinputs
          List.mem_cons_self hearly guard
        have hsame := hfailed.symm.trans h
        cases hsame
        exact hsound
      · rw [removeCurrentChain_nine hunmanaged hregistered hsucceed h]
        exact .of_not_installed hsound.queue rfl

end Sound

end FirewallQueueGuard

/-! ## Removals that fail halfway -/

/-- INPUT does not lead to the queue. -/
def Bypassed (fw : Firewall) : Prop :=
  ∀ rules, fw.lookup "INPUT" = some rules → jumpRule ∉ rules

/-- No command of a removal brings the jump back. -/
theorem Bypassed.removed {fw fw' : Firewall} (h : Bypassed fw) (hremoved : Removed fw fw') :
    Bypassed fw' := by
  intro rules hlookup
  cases hremoved with
  | same => exact h rules hlookup
  | own own hpresent =>
    rw [Table.lookup_assign, if_neg isBuiltin_input.ne_chainName] at hlookup
    exact h rules hlookup
  | jump hchain hrules =>
    rw [Table.lookup_assign] at hlookup
    split at hlookup
    · rename_i heq
      cases hlookup
      exact fun hmem => h _ (heq ▸ hrules) (List.mem_of_mem_erase hmem)
    · exact h rules hlookup
  | chain hunused => exact h rules (Table.lookup_erase_eq_some.mp hlookup).2

namespace FirewallQueueGuard

/-- The first three commands of a removal take a jump from INPUT. -/
theorem removeCurrentChain_three {fw : Firewall} {rules inputs : List FirewallRule}
    (hchain : fw.lookup chainName = some rules) (hinputs : fw.lookup "INPUT" = some inputs)
    (hmem : jumpRule ∈ inputs) (guard : FirewallQueueGuard) :
    guard.removeCurrentChain [.succeeds, .succeeds, .succeeds] fw =
      .killed (fw.assign "INPUT" (inputs.erase jumpRule)) := by
  have hround : removeManagedJump "INPUT" [.succeeds, .succeeds] fw =
      .returned none [] (fw.assign "INPUT" (inputs.erase jumpRule)) :=
    removeManagedJump_removes hinputs hmem []
  have hloop : removeManagedJumps "INPUT" [.succeeds, .succeeds] fw =
      .killed (fw.assign "INPUT" (inputs.erase jumpRule)) := by
    unfold removeManagedJumps
    rw [loop_eq (spends_removeManagedJump _), hround]
    rfl
  refine bind_killed ?_ _
  refine (bind_returned (completesIn_run (exec_list hchain) _) _).trans ?_
  exact bind_killed hloop _

/-- **A careless uninstallation that fails leaves a flag that the next installation believes.** -/
theorem uninstall_halfway {queueNum : UInt16} {fw₀ fw fw' : Firewall}
    {guard guard' : FirewallQueueGuard} {outcomes rest : List Outcome}
    (hregistered : Installed queueNum fw₀ fw) (hinstalled : guard.installed = true)
    (howns : guard.ownsChain = true)
    (h : guard.uninstall (.succeeds :: .succeeds :: .succeeds :: outcomes) fw =
      .returned (false, guard') rest fw') :
    guard'.install = pure (true, guard') ∧ ¬ Intercepts queueNum fw' := by
  refine ⟨uninstall_forgets hinstalled howns h, ?_⟩
  rw [(retries_of_ownsChain howns).uninstall] at h
  obtain ⟨inputs, -, hnotMem, hinputs⟩ := hregistered.builtin "INPUT" isBuiltin_input
  have hthree := removeCurrentChain_three hregistered.chain hinputs List.mem_cons_self guard
  have hbypassed :
      Bypassed (guard.removeCurrentChain [.succeeds, .succeeds, .succeeds] fw).state := by
    rw [hthree]
    intro rules hrules
    have hlookup : (fw.assign "INPUT" ((jumpRule :: inputs).erase jumpRule)).lookup "INPUT" =
        some inputs := by rw [Table.lookup_assign, if_pos rfl, List.erase_cons_head]
    cases hlookup.symm.trans hrules
    exact hnotMem
  have hstays : Stays Bypassed guard.removeCurrentChain :=
    stays_of_removed (fun _ _ hremoved hfree => hfree.removed hremoved)
      (built_removeCurrentChain guard)
  have hlast := hstays _ outcomes fw hbypassed
  rw [List.cons_append, List.cons_append, List.cons_append, List.nil_append, h] at hlast
  intro hintercepts
  obtain ⟨rules, hrules, hmem⟩ := hintercepts.1 "INPUT" isBuiltin_input
  exact hlast rules hrules hmem

end FirewallQueueGuard

/-! ## Runs -/

/-- The firewall is well-formed and the flag of the guard is right. -/
structure SoundState (queueNum : UInt16) (s : GuardState) : Prop where
  wellFormed : WellFormed s.firewall
  guard : ∀ guard, s.guard = some guard → guard.Sound queueNum s.firewall

theorem guardStep_sound {queueNum : UInt16} {s : GuardState} (h : SoundState queueNum s)
    {e : GuardCall × List Outcome} (hcareful : Careful s e) :
    SoundState queueNum (guardStep s e).1 := by
  refine ⟨guardStep_keeps (fun _ _ hchanged hwell => hwell.change hchanged) h.wellFormed, ?_⟩
  intro guard' hguard'
  rcases guardStep_cases s e with ⟨hnone, -⟩ | ⟨guard, g, result, hguard, hg, -, hreturned⟩
  · rw [hnone] at hguard'
    cases hguard'
  · rw [hg] at hguard'
    cases hguard'
    have hsound := h.guard guard hguard
    generalize (guardStep s e).1.firewall = fw' at hreturned ⊢
    obtain ⟨call, outcomes⟩ := e
    cases hreturned with
    | install hcall => exact (FirewallQueueGuard.install_sound h.wellFormed hsound hcall).1
    | uninstall hcall =>
      refine FirewallQueueGuard.uninstall_sound hsound (fun hinstalled => ?_) hcall
      exact hcareful rfl ⟨guard, hguard, hinstalled⟩

theorem exec_sound {queueNum : UInt16} {fw₀ : Firewall} (h : WellFormed fw₀)
    {events : List (GuardCall × List Outcome)}
    (hcareful : Machine.Along guardStep Careful (fresh queueNum fw₀) events) :
    SoundState queueNum (Machine.exec guardStep (fresh queueNum fw₀) events) := by
  have hstart : SoundState queueNum (fresh queueNum fw₀) := by
    refine ⟨h, ?_⟩
    rintro guard ⟨⟩
    exact .of_not_installed rfl rfl
  exact Machine.exec_invariant (SoundState queueNum) (fun _ _ hs hc => guardStep_sound hs hc)
    hstart hcareful

namespace FirewallQueueGuard

/-- **As long as every uninstallation is careful, a successful installation intercepts.** -/
theorem install_intercepts {fw₀ : Firewall} (h : WellFormed fw₀) (queueNum : UInt16)
    {events : List (GuardCall × List Outcome)}
    (hcareful : Machine.Along guardStep Careful (fresh queueNum fw₀) events) :
    ∀ taken ∈ Machine.trace guardStep (fresh queueNum fw₀) events,
      taken.event.1 = .install → taken.output = some true →
      Intercepts queueNum (guardStep taken.before taken.event).1.firewall := by
  intro taken htaken hinstall houtput
  obtain ⟨before, e, after, rfl, rfl⟩ := Machine.mem_trace_iff.mp htaken
  have hsound := exec_sound h ((Machine.along_append _ _ _).mp hcareful).1
  dsimp only at hinstall houtput ⊢
  generalize Machine.exec guardStep (fresh queueNum fw₀) before = s at *
  rcases guardStep_cases s e with ⟨-, hnone⟩ | ⟨guard, g, result, hguard, -, hresult, hreturned⟩
  · rw [hnone] at houtput
    cases houtput
  · rw [hresult] at houtput
    cases houtput
    generalize (guardStep s e).1.firewall = fw' at hreturned ⊢
    obtain ⟨call, outcomes⟩ := e
    cases hreturned with
    | uninstall => cases hinstall
    | install hcall =>
      obtain ⟨hsound', hinstalled⟩ :=
        install_sound hsound.wellFormed (hsound.guard guard hguard) hcall
      obtain ⟨fw₁, -, hregistered⟩ := hsound'.registered (hinstalled rfl)
      exact hregistered.intercepts

/-- The second installation is successful, and no packet reaches the queue: the `-F` of the
uninstallation has failed. -/
theorem install_bypassed : WellFormed bareFirewall ∧
    ∃ taken ∈ Machine.trace guardStep (fresh 0 bareFirewall)
      [(.install, List.replicate 6 .succeeds),
        (.uninstall, List.replicate 7 .succeeds ++ [.fails 4 (by decide)]), (.install, [])],
      taken.event.1 = .install ∧ taken.output = some true ∧
        ¬ Intercepts 0 (guardStep taken.before taken.event).1.firewall := by
  refine ⟨bareFirewall_unmanaged.wellFormed, _, Machine.mem_trace_iff.mpr
    ⟨[_, _], (.install, []), [], rfl, rfl⟩, rfl, by decide, ?_⟩
  rintro ⟨hbuiltin, -⟩
  obtain ⟨rules, hrules, hmem⟩ := hbuiltin "INPUT" isBuiltin_input
  have hempty : some rules = some [] := hrules.symm.trans (by decide)
  cases hempty
  cases hmem

/-- Here the uninstallation fails at its third command, the `-D` on INPUT. -/
theorem install_intercepts_twice : WellFormed bareFirewall ∧
    ∀ taken ∈ Machine.trace guardStep (fresh 0 bareFirewall)
      [(.install, List.replicate 6 .succeeds),
        (.uninstall, List.replicate 2 .succeeds ++ [.fails 4 (by decide)]), (.install, [])],
      taken.event.1 = .install → taken.output = some true →
      Intercepts 0 (guardStep taken.before taken.event).1.firewall := by
  have hwell : WellFormed bareFirewall := bareFirewall_unmanaged.wellFormed
  refine ⟨hwell, install_intercepts hwell 0 ⟨?_, ?_, ?_, trivial⟩⟩
  · intro hcall
    cases hcall
  · intro _ _
    exact .inl ⟨.fails 4 (by decide), by simp, by simp⟩
  · intro hcall
    cases hcall

end FirewallQueueGuard

end InlineIps
