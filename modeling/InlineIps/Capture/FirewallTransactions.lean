import InlineIps.Capture.FirewallRecovery

/-!
# Installation and removal as transactions

`withoutGuard` is the firewall that the guard found, without its own chain and without the
managed jumps that an earlier run left. Whatever commands fail, `install` stays within
`Managed` of it: it ends with all of its rules or, when its removals go through, with none.
-/

namespace InlineIps

open Library Library.Interruptible

def stripJumps (chain : String) (fw : Firewall) : Firewall :=
  match fw.lookup chain with
  | none => fw
  | some rules => fw.assign chain (userRules rules)

/-- The firewall without the chain of the guard and the managed jumps. -/
def withoutGuard (fw : Firewall) : Firewall :=
  stripJumps "INPUT" (stripJumps "OUTPUT" (fw.erase chainName))

/-- There is no chain of the guard's name, or one of its own to which only managed jumps lead. -/
structure Manageable (fw : Firewall) : Prop where
  builtin : ∀ chain, IsBuiltin chain → (fw.lookup chain).isSome = true
  owned : FirewallQueueGuard.Recognised fw
  jumps : ∀ chain rules, fw.lookup chain = some rules →
    ∀ rule ∈ rules, rule.target = .chain chainName →
      IsBuiltin chain ∧ rule = jumpRule ∧ (fw.lookup chainName).isSome = true

section WithoutGuard

variable {fw : Firewall} {chain : String}

theorem lookup_stripJumps (chain : String) (fw : Firewall) (other : String) :
    (stripJumps chain fw).lookup other =
      if other = chain then (fw.lookup chain).map userRules else fw.lookup other := by
  unfold stripJumps
  split
  · rename_i hnone
    split
    · rename_i heq
      rw [heq, hnone]
      rfl
    · rfl
  · rename_i rules hrules
    rw [Table.lookup_assign, hrules]
    rfl

theorem withoutGuard_chainName (fw : Firewall) : (withoutGuard fw).lookup chainName = none := by
  unfold withoutGuard
  rw [lookup_stripJumps, if_neg isBuiltin_input.ne_chainName.symm, lookup_stripJumps,
    if_neg isBuiltin_output.ne_chainName.symm, Table.lookup_erase', if_pos rfl]

theorem withoutGuard_builtin (h : IsBuiltin chain) :
    (withoutGuard fw).lookup chain = (fw.lookup chain).map userRules := by
  have hname := h.ne_chainName
  unfold withoutGuard
  rcases h with rfl | rfl
  · rw [lookup_stripJumps, if_pos rfl, lookup_stripJumps, if_neg output_ne_input.symm,
      Table.lookup_erase', if_neg hname]
  · rw [lookup_stripJumps, if_neg output_ne_input, lookup_stripJumps, if_pos rfl,
      Table.lookup_erase', if_neg hname]

theorem withoutGuard_others (hbuiltin : ¬ IsBuiltin chain) (hne : chain ≠ chainName) :
    (withoutGuard fw).lookup chain = fw.lookup chain := by
  unfold withoutGuard
  rw [lookup_stripJumps, if_neg fun heq => hbuiltin (.inl heq), lookup_stripJumps,
    if_neg fun heq => hbuiltin (.inr heq), Table.lookup_erase', if_neg hne]

theorem Manageable.unmanaged (h : Manageable fw) : Unmanaged (withoutGuard fw) where
  builtin chain hchain := by
    rw [withoutGuard_builtin hchain, Option.isSome_map]
    exact h.builtin chain hchain
  noChain := withoutGuard_chainName fw
  noJumps := by
    intro chain rules hrules rule hrule htarget
    by_cases hbuiltin : IsBuiltin chain
    · rw [withoutGuard_builtin hbuiltin] at hrules
      obtain ⟨rules₁, hrules₁, rfl⟩ := Option.map_eq_some_iff.mp hrules
      have hmem : rule ∈ rules₁ := List.mem_of_mem_filter hrule
      obtain ⟨-, rfl, -⟩ := h.jumps chain rules₁ hrules₁ rule hmem htarget
      exact notMem_userRules rules₁ hrule
    · by_cases hname : chain = chainName
      · rw [hname, withoutGuard_chainName] at hrules
        cases hrules
      · rw [withoutGuard_others hbuiltin hname] at hrules
        exact hbuiltin (h.jumps chain rules hrules rule hrule htarget).1

theorem Manageable.managed (h : Manageable fw) : Managed (withoutGuard fw) fw where
  others chain hbuiltin hne := (withoutGuard_others hbuiltin hne).symm
  builtin chain hchain := by
    obtain ⟨rules, hrules⟩ := Option.isSome_iff_exists.mp (h.builtin chain hchain)
    refine ⟨rules, hrules, ?_, fun hnone hmem => ?_⟩
    · rw [withoutGuard_builtin hchain, hrules]
      rfl
    · have hchain := (h.jumps chain rules hrules jumpRule hmem rfl).2.2
      rw [hnone] at hchain
      cases hchain

end WithoutGuard

namespace FirewallQueueGuard

/-! ## What the results say -/

section Returned

variable {fw fw' : Firewall} {outcomes rest : List Outcome}

theorem restoreOwnerMarker_returned (h : restoreOwnerMarker outcomes fw = .returned true rest fw') :
    fw'.lookup chainName = none := by
  obtain ⟨status, middle, fw₁, hlist, hreturned⟩ := returned_bind h
  split at hreturned
  · rename_i hone
    subst hone
    cases hreturned
    obtain ⟨rfl, hnone⟩ := list_answered hlist
    exact hnone
  · split at hreturned
    · cases hreturned
    · obtain ⟨_, _, _, _, hreturned⟩ := returned_bind hreturned
      cases hreturned

theorem dismantle_returned (h : dismantle outcomes fw = .returned true rest fw') :
    fw'.lookup chainName = none := by
  obtain ⟨inputRemoved, middle₁, fw₁, -, h⟩ := returned_bind h
  cases inputRemoved with
  | false => cases h
  | true =>
    obtain ⟨outputRemoved, middle₂, fw₂, -, h⟩ := returned_bind h
    cases outputRemoved with
    | false => cases h
    | true =>
      obtain ⟨flushStatus, middle₃, fw₃, -, h⟩ := returned_bind h
      split at h
      · cases h
      · obtain ⟨deleteStatus, middle₄, fw₄, hdelete, h⟩ := returned_bind h
        split at h
        · rename_i hzero
          subst hzero
          cases h
          obtain ⟨rules, -, hexec⟩ := onChain_succeeded (run_succeeded hdelete)
          split at hexec
          · cases hexec
            rw [Table.lookup_erase', if_pos rfl]
          · cases hexec
        · exact restoreOwnerMarker_returned h

/-- Behind a removal that returns true the chain is gone. -/
theorem removeChain_returned {requireOwnerMarker : Bool}
    (h : removeChain requireOwnerMarker outcomes fw = .returned true rest fw') :
    fw'.lookup chainName = none := by
  obtain ⟨chainStatus, middle, fw₁, hlist, h⟩ := returned_bind h
  split at h
  · rename_i hone
    subst hone
    cases h
    obtain ⟨rfl, hnone⟩ := list_answered hlist
    exact hnone
  · split at h
    · cases h
    · split at h
      · obtain ⟨ownerStatus, middle₁, fw₂, -, h⟩ := returned_bind h
        split at h
        · cases h
        · exact dismantle_returned h
      · exact dismantle_returned h

/-- What follows a command that has to succeed is reached when it has. -/
theorem checked_returned {p : Iptables Int} {next : Iptables Bool}
    (h : (p >>= fun status => if status ≠ 0 then pure false else next) outcomes fw =
      .returned true rest fw') :
    ∃ middle fw₁, p outcomes fw = .returned 0 middle fw₁ ∧
      next middle fw₁ = .returned true rest fw' := by
  obtain ⟨status, middle, fw₁, hstatus, h⟩ := returned_bind h
  split at h
  · cases h
  · rename_i hzero
    rw [not_not] at hzero
    subst hzero
    exact ⟨middle, fw₁, hstatus, h⟩

/-- When all rules are registered, all commands have succeeded. -/
theorem registerRules_returned {queueNum : UInt16}
    (h : registerRules queueNum outcomes fw = .returned true rest fw') :
    Completes (registerRules queueNum) fw true fw' := by
  unfold registerRules at h
  obtain ⟨middle₁, fw₁, hqueue, h⟩ := checked_returned h
  obtain ⟨middle₂, fw₂, howner, h⟩ := checked_returned h
  obtain ⟨middle₃, fw₃, hinput, h⟩ := checked_returned h
  obtain ⟨middle₄, fw₄, houtput, h⟩ := checked_returned h
  cases h
  apply (completes_run (run_succeeded hqueue)).bind
  apply (completes_run (run_succeeded howner)).bind
  apply (completes_run (run_succeeded hinput)).bind
  apply (completes_run (run_succeeded houtput)).bind
  exact completes_pure _ fw'

/-- A registration that returns true is the one in which all commands succeed. -/
theorem register_returned {guard guard' : FirewallQueueGuard}
    (h : guard.register outcomes fw = .returned (true, guard') rest fw') :
    Completes guard.register fw (true, guard') fw' := by
  rw [register_eq] at h ⊢
  obtain ⟨registered, middle, fw₁, hrules, h⟩ := returned_bind h
  cases registered with
  | true =>
    cases h
    exact (registerRules_returned hrules).bind (completes_pure _ fw')
  | false =>
    obtain ⟨_, _, _, _, hreturned⟩ := returned_bind h
    cases hreturned

end Returned

/-! ## The rollback -/

/-- What `install` of a fresh guard does before its rollback: true when the rollback follows. -/
def beforeRollback (queueNum : UInt16) : Iptables Bool := do
  let cleaned ← removeOwnedChain
  if !cleaned then pure false
  else do
    let newStatus ← runIptables (.newChain chainName)
    if newStatus ≠ 0 then pure false
    else do
      let registered ← registerRules queueNum
      pure (!registered)

/-- No command fails in the removals of `install`: in that of an earlier chain, and in the
rollback if there is one. -/
structure RemovesFlawlessly (queueNum : UInt16) (outcomes : List Outcome) (fw : Firewall) :
    Prop where
  earlier : Flawless removeOwnedChain outcomes fw
  rollback : ∀ rest fw', beforeRollback queueNum outcomes fw = .returned true rest fw' →
    Flawless (rollback { queueNum, ownsChain := true }) rest fw'

theorem built_beforeRollback (queueNum : UInt16) :
    BuiltOf IsManaged (beforeRollback queueNum) := by
  refine .bind ((built_removeChain true).mono IsRemoval.isManaged) fun cleaned => ?_
  split
  · exact .pure _
  · refine .bind (.command rfl) fun status => ?_
    split
    · exact .pure _
    · exact .bind (built_registerRules queueNum) fun _ => .pure _

section Rollback

variable {fw₀ fw fw' : Firewall} {outcomes rest : List Outcome}

/-- The removal without the marker leads back. -/
theorem removeCurrentChain_completesIn (hunmanaged : Unmanaged fw₀) (h : Managed fw₀ fw)
    {rules : List FirewallRule} (hchain : fw.lookup chainName = some rules)
    (guard : FirewallQueueGuard) :
    ∃ fw', CompletesIn (2 * jumpCount "INPUT" fw + 2 * jumpCount "OUTPUT" fw + 5)
        guard.removeCurrentChain fw
        (true, { guard with ownsChain := false, installed := false }) fw' ∧
      ∀ chain, fw'.lookup chain = fw₀.lookup chain := by
  obtain ⟨fw', hdismantle, hclean⟩ := dismantle_completes hunmanaged h hchain
  have hremoved : CompletesIn (1 + (2 * jumpCount "INPUT" fw + 2 * jumpCount "OUTPUT" fw + 4))
      (removeChain false) fw true fw' :=
    (completesIn_run (exec_list hchain)).bind hdismantle
  have hcommands : 2 * jumpCount "INPUT" fw + 2 * jumpCount "OUTPUT" fw + 5 =
      1 + (2 * jumpCount "INPUT" fw + 2 * jumpCount "OUTPUT" fw + 4) + 0 := by omega
  refine ⟨fw', ?_, hclean⟩
  rw [hcommands]
  exact hremoved.bind (completesIn_pure _ fw')

theorem removeCurrentChain_completes (hunmanaged : Unmanaged fw₀) (h : Managed fw₀ fw)
    (guard : FirewallQueueGuard) :
    ∃ fw', Completes guard.removeCurrentChain fw
        (true, { guard with ownsChain := false, installed := false }) fw' ∧
      ∀ chain, fw'.lookup chain = fw₀.lookup chain := by
  cases hchain : fw.lookup chainName with
  | none =>
    refine ⟨fw, ?_, h.clean hunmanaged hchain⟩
    have hremoved : Completes (removeChain false) fw true fw :=
      (completes_run (exec_list_none hchain)).bind (completes_pure _ fw)
    exact hremoved.bind (completes_pure _ fw)
  | some rules =>
    obtain ⟨fw', hremoved, hclean⟩ := removeCurrentChain_completesIn hunmanaged h hchain guard
    exact ⟨fw', hremoved.completes, hclean⟩

theorem rollback_completes (hunmanaged : Unmanaged fw₀) (h : Managed fw₀ fw)
    (guard : FirewallQueueGuard) :
    ∃ fw', Completes guard.rollback fw
        (false, { guard with ownsChain := false, installed := false }) fw' ∧
      ∀ chain, fw'.lookup chain = fw₀.lookup chain := by
  obtain ⟨fw', hremoved, hclean⟩ := removeCurrentChain_completes hunmanaged h guard
  exact ⟨fw', hremoved.bind (completes_pure _ fw'), hclean⟩

/-- An installation that returns true has removed an earlier chain, and registered all rules. -/
theorem create_returned {guard guard' : FirewallQueueGuard}
    (h : guard.create outcomes fw = .returned (true, guard') rest fw') :
    ∃ middle fw₁, removeOwnedChain outcomes fw = .returned true middle fw₁ ∧
      ∀ fw₀, Unmanaged fw₀ → (∀ chain, fw₁.lookup chain = fw₀.lookup chain) →
        Installed guard.queueNum fw₀ fw' ∧
        guard' = { guard with installed := true, ownsChain := true } := by
  obtain ⟨cleaned, middle, fw₁, hremoved, hcreate⟩ := returned_bind h
  cases cleaned with
  | false => cases hcreate
  | true =>
    refine ⟨middle, fw₁, hremoved, fun fw₀ hunmanaged hclean => ?_⟩
    obtain ⟨newStatus, middle', fw₂, hnew, hregister⟩ := returned_bind hcreate
    split at hregister
    · cases hregister
    · rename_i hzero
      rw [not_not] at hzero
      subst hzero
      have hexec := run_succeeded hnew
      rw [exec_newChain (removeChain_returned hremoved)] at hexec
      cases hexec
      obtain ⟨fw₃, hcompletes, hinstalled⟩ :=
        register_completes hunmanaged hclean { guard with ownsChain := true }
      obtain ⟨hguard, rfl⟩ := (register_returned hregister).unique hcompletes
      cases hguard
      exact ⟨hinstalled, rfl⟩

/-- **An installation that returns true has registered all rules.** -/
theorem install_installed (hunmanaged : Unmanaged fw₀) (h : Managed fw₀ fw) {queueNum : UInt16}
    {guard : FirewallQueueGuard}
    (hinstall : install { queueNum } outcomes fw = .returned (true, guard) rest fw') :
    Installed queueNum fw₀ fw' ∧ guard = { queueNum, installed := true, ownsChain := true } := by
  obtain ⟨middle, fw₁, hremoved, hcreated⟩ := create_returned hinstall
  have hmanaged : Managed fw₀ fw₁ :=
    (keeps_managed ((built_removeChain true).mono IsRemoval.isManaged)).returned h hremoved
  exact hcreated fw₀ hunmanaged (hmanaged.clean hunmanaged (removeChain_returned hremoved))

/-- **An installation that returns false leaves nothing behind, unless its removals fail.** -/
theorem install_clean (hunmanaged : Unmanaged fw₀) (h : Managed fw₀ fw)
    (hrecognised : Recognised fw) {queueNum : UInt16} {guard : FirewallQueueGuard}
    (hremoves : RemovesFlawlessly queueNum outcomes fw)
    (hinstall : install { queueNum } outcomes fw = .returned (false, guard) rest fw')
    (chain : String) : fw'.lookup chain = fw₀.lookup chain := by
  obtain ⟨cleaned, middle₁, fw₁, hremoved, hcreate⟩ := returned_bind hinstall
  obtain ⟨fw₁', hcompletes, hclean⟩ := removeOwnedChain_completes hunmanaged h hrecognised
  have hregular : Regular removeOwnedChain := (built_removeChain true).regular atomic_run
  obtain ⟨rfl, rfl⟩ := (hremoves.earlier.completes hregular hremoved).unique hcompletes
  obtain ⟨newStatus, middle₂, fw₂, hnew, hregister⟩ := returned_bind hcreate
  split at hregister
  · rename_i hfailed
    cases hregister
    rw [run_failed hnew hfailed]
    exact hclean chain
  · rename_i hzero
    rw [register_eq] at hregister
    obtain ⟨registered, middle₃, fw₃, hrules, hrollback⟩ := returned_bind hregister
    cases registered with
    | true => cases hrollback
    | false =>
      have hbefore : beforeRollback queueNum outcomes fw = .returned true middle₃ fw₃ := by
        unfold beforeRollback
        rw [bind_returned hremoved, if_neg (by decide), bind_returned hnew, if_neg hzero,
          bind_returned hrules]
        rfl
      have hmanaged : Managed fw₀ fw₃ :=
        (keeps_managed (built_beforeRollback queueNum)).returned h hbefore
      obtain ⟨fw₃', hcompletes', hclean'⟩ :=
        rollback_completes hunmanaged hmanaged { queueNum, ownsChain := true }
      have hregular' : Regular (rollback { queueNum, ownsChain := true }) :=
        (built_rollback _).regular atomic_run
      have hflawless := (hremoves.rollback middle₃ fw₃ hbefore).completes hregular' hrollback
      obtain ⟨-, rfl⟩ := hflawless.unique hcompletes'
      exact hclean' chain

/-- **Installation and removal are transactions.** -/
theorem install_transactional (h : Manageable fw) (queueNum : UInt16) :
    Returns (install { queueNum }) ∧ ∀ outcomes,
      Managed (withoutGuard fw) (install { queueNum } outcomes fw).state ∧
      ∀ installed guard rest fw',
        install { queueNum } outcomes fw = .returned (installed, guard) rest fw' →
        (installed = true → Installed queueNum (withoutGuard fw) fw' ∧ guard.ownsChain = true) ∧
        (installed = false → RemovesFlawlessly queueNum outcomes fw →
          ∀ chain, fw'.lookup chain = (withoutGuard fw).lookup chain) ∧
        Returns guard.uninstall ∧
        (∀ outcomes', Managed (withoutGuard fw) (guard.uninstall outcomes' fw').state) ∧
        ∃ guard' fw'', Completes guard.uninstall fw' (true, guard') fw'' ∧
          (guard.ownsChain = true →
            ∀ chain, fw''.lookup chain = (withoutGuard fw).lookup chain) := by
  refine ⟨(built_install _).returns atomic_run, fun outcomes => ?_⟩
  have hmanaged := keeps_managed (built_install { queueNum }) outcomes fw h.managed
  refine ⟨hmanaged, fun installed guard rest fw' hinstall => ?_⟩
  rw [hinstall] at hmanaged
  refine ⟨?_, ?_, ?_, ?_, ?_⟩
  · rintro rfl
    obtain ⟨hinstalled, rfl⟩ := install_installed h.unmanaged h.managed hinstall
    exact ⟨hinstalled, rfl⟩
  · rintro rfl hremoves
    exact install_clean h.unmanaged h.managed h.owned hremoves hinstall
  · exact (built_uninstall guard).returns atomic_run
  · intro outcomes'
    exact keeps_managed ((built_uninstall guard).mono IsRemoval.isManaged) outcomes' fw' hmanaged
  · unfold uninstall
    cases howns : guard.ownsChain with
    | false => exact ⟨guard, fw', completes_pure _ fw', fun hfalse => by cases hfalse⟩
    | true =>
      obtain ⟨fw'', hremoved, hclean⟩ := removeCurrentChain_completes h.unmanaged hmanaged guard
      exact ⟨_, fw'', hremoved, fun _ => hclean⟩

end Rollback

/-! ## A firewall that an earlier run has left -/

def sshRule : FirewallRule := { matchSpec := "-p tcp --dport 22", target := .other "ACCEPT" }

def staleFirewall : Firewall :=
  ((bareFirewall.assign "INPUT" [jumpRule, sshRule, jumpRule]).assign "OUTPUT" [jumpRule]).assign
    chainName [queueRule 0, ownerRule]

theorem staleFirewall_manageable : Manageable staleFirewall where
  builtin := by
    rintro chain (rfl | rfl)
    · decide
    · decide
  owned := by
    intro rules hlookup
    have hrules : some rules = some [queueRule 0, ownerRule] := hlookup.symm.trans (by decide)
    cases hrules
    decide
  jumps := by
    intro chain rules hlookup rule hrule htarget
    have hchain : (staleFirewall.lookup chainName).isSome = true := by decide
    simp only [staleFirewall, bareFirewall, Table.lookup_assign, AList.lookup_empty] at hlookup
    split at hlookup
    · cases hlookup
      simp only [List.mem_cons, List.not_mem_nil, or_false] at hrule
      rcases hrule with rfl | rfl <;> cases htarget
    · split at hlookup
      · rename_i houtput
        cases hlookup
        exact ⟨.inr houtput, List.mem_singleton.mp hrule, hchain⟩
      · split at hlookup
        · rename_i hinput
          cases hlookup
          refine ⟨.inl hinput, ?_, hchain⟩
          simp only [List.mem_cons, List.not_mem_nil, or_false] at hrule
          rcases hrule with rfl | rfl | rfl
          · rfl
          · cases htarget
          · rfl
        · cases hlookup

/-- All commands succeed in one run. In another the `-I` on OUTPUT fails: the sensor is killed
before its rollback, or the rollback removes the rules. -/
theorem staleFirewall_transactional : Manageable staleFirewall ∧
    Installed 1 (withoutGuard staleFirewall)
      (install { queueNum := 1 } (List.replicate 17 .succeeds) staleFirewall).state ∧
    Managed (withoutGuard staleFirewall) (install { queueNum := 1 }
      (List.replicate 16 .succeeds ++ [.fails 4 (by decide)]) staleFirewall).state ∧
    ∀ chain, (install { queueNum := 1 } (List.replicate 16 .succeeds ++
      .fails 4 (by decide) :: List.replicate 7 .succeeds) staleFirewall).state.lookup chain =
        (withoutGuard staleFirewall).lookup chain := by
  obtain ⟨-, h⟩ := install_transactional staleFirewall_manageable 1
  refine ⟨staleFirewall_manageable, ?_, (h _).1, ?_⟩
  · exact (((h (List.replicate 17 .succeeds)).2 true _ [] _ rfl).1 rfl).1
  · have hrun := (h (List.replicate 16 .succeeds ++
      .fails 4 (by decide) :: List.replicate 7 .succeeds)).2 false _ [] _ rfl
    refine hrun.2.1 rfl ⟨⟨12, true, _, _, rfl, rfl⟩, ?_⟩
    rintro rest fw' ⟨⟩
    exact ⟨7, _, [], _, rfl, rfl⟩

end FirewallQueueGuard

end InlineIps
