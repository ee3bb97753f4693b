import InlineIps.Capture.FirewallCommands

/-!
# Recovery after a forced termination

The next run recognises what is left of the guard's chain by the owner marker. It recovers
from all states of `Managed` but those in which the chain is there without the marker: the
sensor was killed between `-N` and the `-A` of the marker, or between `-F` and `-X`.
-/

namespace InlineIps

open Library Library.Interruptible

/-- The rules of the guard, registered once, and all other rules as they were. -/
structure Installed (queueNum : UInt16) (fw₀ fw : Firewall) : Prop where
  chain : fw.lookup chainName = some [queueRule queueNum, ownerRule]
  builtin : ∀ chain, IsBuiltin chain → ∃ rules, fw₀.lookup chain = some rules ∧
    jumpRule ∉ rules ∧ fw.lookup chain = some (jumpRule :: rules)
  others : ∀ chain, ¬ IsBuiltin chain → chain ≠ chainName → fw.lookup chain = fw₀.lookup chain

theorem completesIn_run {command : IptablesCommand} {fw fw' : Firewall} {status : Int}
    (h : Firewall.exec command fw = (status, fw')) :
    CompletesIn 1 (runIptables command) fw status fw' := by
  cases command with
  | list chain =>
    obtain rfl : fw = fw' := (exec_list_state chain fw).symm.trans (congrArg Prod.snd h)
    have hquery := completesIn_query (fun fw => (Firewall.exec (.list chain) fw).1) fw
    rw [h] at hquery
    exact hquery
  | check chain rule =>
    obtain rfl : fw = fw' := (exec_check_state chain rule fw).symm.trans (congrArg Prod.snd h)
    have hquery := completesIn_query (fun fw => (Firewall.exec (.check chain rule) fw).1) fw
    rw [h] at hquery
    exact hquery
  | _ => exact completesIn_command h

theorem completes_run {command : IptablesCommand} {fw fw' : Firewall} {status : Int}
    (h : Firewall.exec command fw = (status, fw')) :
    Completes (runIptables command) fw status fw' := (completesIn_run h).completes

theorem exec_onChain {fw : Firewall} {chain : String} {rules : List FirewallRule}
    (h : fw.lookup chain = some rules) (f : List FirewallRule → Int × Firewall) :
    fw.onChain chain f = f rules := by
  unfold Firewall.onChain
  rw [h]

theorem exec_list_none {fw : Firewall} {chain : String} (h : fw.lookup chain = none) :
    Firewall.exec (.list chain) fw = (1, fw) := by
  show fw.onChain chain _ = _
  unfold Firewall.onChain
  rw [h]

theorem exec_list {fw : Firewall} {chain : String} {rules : List FirewallRule}
    (h : fw.lookup chain = some rules) : Firewall.exec (.list chain) fw = (0, fw) :=
  exec_onChain h _

theorem exec_check {fw : Firewall} {chain : String} {rules : List FirewallRule}
    (h : fw.lookup chain = some rules) (rule : FirewallRule) :
    Firewall.exec (.check chain rule) fw = (if rule ∈ rules then 0 else 1, fw) :=
  exec_onChain h _

theorem exec_delete {fw : Firewall} {chain : String} {rule : FirewallRule}
    {rules : List FirewallRule} (h : fw.lookup chain = some rules) (hmem : rule ∈ rules) :
    Firewall.exec (.delete chain rule) fw = (0, fw.assign chain (rules.erase rule)) := by
  show fw.onChain chain _ = _
  rw [exec_onChain h, if_pos hmem]

theorem exec_append {fw : Firewall} {chain : String} {rule : FirewallRule}
    {rules : List FirewallRule} (h : fw.lookup chain = some rules)
    (htarget : fw.hasTarget rule = true) :
    Firewall.exec (.append chain rule) fw = (0, fw.assign chain (rules ++ [rule])) := by
  show fw.onChain chain _ = _
  rw [exec_onChain h, if_pos htarget]

theorem exec_insert {fw : Firewall} {chain : String} {rule : FirewallRule}
    {rules : List FirewallRule} (h : fw.lookup chain = some rules)
    (htarget : fw.hasTarget rule = true) :
    Firewall.exec (.insert chain rule) fw = (0, fw.assign chain (rule :: rules)) := by
  show fw.onChain chain _ = _
  rw [exec_onChain h, if_pos htarget]

theorem exec_flush {fw : Firewall} {chain : String} {rules : List FirewallRule}
    (h : fw.lookup chain = some rules) :
    Firewall.exec (.flush chain) fw = (0, fw.assign chain []) :=
  exec_onChain h _

theorem exec_newChain {fw : Firewall} {chain : String} (h : fw.lookup chain = none) :
    Firewall.exec (.newChain chain) fw = (0, fw.assign chain []) := by
  unfold Firewall.exec
  dsimp only
  rw [h]

theorem hasTarget_jumpRule {fw : Firewall} {rules : List FirewallRule}
    (h : fw.lookup chainName = some rules) : fw.hasTarget jumpRule = true := by
  show (fw.lookup chainName).isSome = true
  rw [h]
  rfl

/-! ## Removal -/

theorem jumpCount_eq {fw : Firewall} {chain : String} {rules : List FirewallRule}
    (h : fw.lookup chain = some rules) : jumpCount chain fw = rules.count jumpRule := by
  unfold jumpCount
  rw [h, Option.getD_some]

/-- A round that finds a jump removes it. -/
theorem removeManagedJump_removes {chain : String} {rules : List FirewallRule} {fw : Firewall}
    (h : fw.lookup chain = some rules) (hmem : jumpRule ∈ rules) :
    CompletesIn (1 + (1 + 0)) (removeManagedJump chain) fw none
      (fw.assign chain (rules.erase jumpRule)) := by
  have hcheck : Firewall.exec (.check chain jumpRule) fw = (0, fw) := by
    rw [exec_check h, if_pos hmem]
  exact (completesIn_run hcheck).bind
    ((completesIn_run (exec_delete h hmem)).bind (completesIn_pure _ _))

/-- The loop takes all managed jumps from the chain, with two commands for each. -/
theorem removeManagedJumps_completes {chain : String} {rules : List FirewallRule} {fw : Firewall}
    (h : fw.lookup chain = some rules) :
    ∃ fw', CompletesIn (2 * jumpCount chain fw + 1) (removeManagedJumps chain) fw true fw' ∧
      ∀ other, fw'.lookup other =
        if other = chain then some (userRules rules) else fw.lookup other := by
  rw [jumpCount_eq h]
  generalize hjumps : rules.count jumpRule = jumps
  induction jumps generalizing fw rules with
  | zero =>
    have hnotMem : jumpRule ∉ rules := List.count_eq_zero.mp hjumps
    have hcheck : Firewall.exec (.check chain jumpRule) fw = (1, fw) := by
      rw [exec_check h, if_neg hnotMem]
    have hround : CompletesIn (1 + 0) (removeManagedJump chain) fw (some true) fw :=
      (completesIn_run hcheck).bind (completesIn_pure _ fw)
    refine ⟨fw, hround.loop_some (spends_removeManagedJump chain), fun other => ?_⟩
    split
    · rename_i heq
      rw [heq, h, userRules_of_notMem hnotMem]
    · rfl
  | succ jumps ih =>
    have hmem : jumpRule ∈ rules := List.count_pos_iff.mp (by omega)
    have hrest : (fw.assign chain (rules.erase jumpRule)).lookup chain =
        some (rules.erase jumpRule) := by rw [Table.lookup_assign, if_pos rfl]
    have hcount : (rules.erase jumpRule).count jumpRule = jumps := by
      rw [List.count_erase_self]
      omega
    obtain ⟨fw', hloop, hlookup⟩ := ih hrest hcount
    have hcommands : 2 * (jumps + 1) + 1 = 2 + (2 * jumps + 1) := by omega
    refine ⟨fw', ?_, fun other => ?_⟩
    · rw [hcommands]
      exact (removeManagedJump_removes h hmem).loop_none (spends_removeManagedJump chain) hloop
    · rw [hlookup, userRules_erase]
      split
      · rfl
      · rename_i hne
        rw [Table.lookup_assign, if_neg hne]

section Recovery

variable {fw₀ fw : Firewall}

theorem Unmanaged.rules (h : Unmanaged fw₀) {chain : String} (hchain : IsBuiltin chain) :
    ∃ rules, fw₀.lookup chain = some rules :=
  Option.isSome_iff_exists.mp (h.builtin chain hchain)

/-- Without its jumps and its rules the chain is not referenced. -/
theorem Unmanaged.unused (hunmanaged : Unmanaged fw₀)
    (h : ∀ chain, fw.lookup chain = if chain = chainName then some [] else fw₀.lookup chain) :
    fw.references chainName = false := by
  unfold Firewall.references
  rw [List.any_eq_false]
  rintro ⟨chain, rules⟩ hentry
  have hlookup : fw.lookup chain = some rules := Table.lookup_eq_some_iff.mpr hentry
  rw [h] at hlookup
  rw [Bool.not_eq_true, List.any_eq_false]
  intro rule hrule
  split at hlookup
  · cases hlookup
    cases hrule
  · simpa using hunmanaged.noJumps chain rules hlookup rule hrule

/-- Without the chain there is nothing to remove. -/
theorem Managed.clean (h : Managed fw₀ fw) (hunmanaged : Unmanaged fw₀)
    (hnone : fw.lookup chainName = none) (chain : String) : fw.lookup chain = fw₀.lookup chain := by
  by_cases hname : chain = chainName
  · rw [hname, hnone, hunmanaged.noChain]
  · by_cases hbuiltin : IsBuiltin chain
    · obtain ⟨rules, hrules, hrules₀, hjumps⟩ := h.builtin chain hbuiltin
      rw [hrules, hrules₀, userRules_of_notMem (hjumps hnone)]
    · exact h.others chain hbuiltin hname

namespace FirewallQueueGuard

/-- **The removal leads back to the rules before the guard.** -/
theorem dismantle_completes (hunmanaged : Unmanaged fw₀) (h : Managed fw₀ fw)
    {rules : List FirewallRule} (hchain : fw.lookup chainName = some rules) :
    ∃ fw', CompletesIn (2 * jumpCount "INPUT" fw + 2 * jumpCount "OUTPUT" fw + 4) dismantle
      fw true fw' ∧ ∀ chain, fw'.lookup chain = fw₀.lookup chain := by
  obtain ⟨inputs, hinput, hinputs, -⟩ := h.builtin "INPUT" isBuiltin_input
  obtain ⟨outputs, houtput, houtputs, -⟩ := h.builtin "OUTPUT" isBuiltin_output
  obtain ⟨fw₁, hrun₁, h₁⟩ := removeManagedJumps_completes hinput
  have houtput₁ : fw₁.lookup "OUTPUT" = some outputs := by rw [h₁, if_neg output_ne_input, houtput]
  obtain ⟨fw₂, hrun₂, h₂⟩ := removeManagedJumps_completes houtput₁
  have hcount : jumpCount "OUTPUT" fw₁ = jumpCount "OUTPUT" fw := by
    rw [jumpCount_eq houtput₁, jumpCount_eq houtput]
  have hchain₂ : fw₂.lookup chainName = some rules := by
    rw [h₂, if_neg isBuiltin_output.ne_chainName.symm, h₁, if_neg isBuiltin_input.ne_chainName.symm,
      hchain]
  have hflushed : ∀ chain, (fw₂.assign chainName []).lookup chain =
      if chain = chainName then some [] else fw₀.lookup chain := by
    intro chain
    rw [Table.lookup_assign]
    split
    · rfl
    · rename_i hne
      rw [h₂, h₁]
      by_cases hout : chain = "OUTPUT"
      · rw [if_pos hout, hout, houtputs]
      · rw [if_neg hout]
        by_cases hin : chain = "INPUT"
        · rw [if_pos hin, hin, hinputs]
        · rw [if_neg hin]
          exact h.others chain (fun hbuiltin => hbuiltin.elim hin hout) hne
  have hdelete : Firewall.exec (.deleteChain chainName) (fw₂.assign chainName []) =
      (0, (fw₂.assign chainName []).erase chainName) := by
    have hempty : (fw₂.assign chainName []).lookup chainName = some [] := by
      rw [hflushed, if_pos rfl]
    show Firewall.onChain _ chainName _ = _
    rw [exec_onChain hempty, if_pos ⟨rfl, hunmanaged.unused hflushed⟩]
  have hcommands : 2 * jumpCount "INPUT" fw + 2 * jumpCount "OUTPUT" fw + 4 =
      2 * jumpCount "INPUT" fw + 1 + (2 * jumpCount "OUTPUT" fw₁ + 1 + (1 + (1 + 0))) := by omega
  refine ⟨(fw₂.assign chainName []).erase chainName, ?_, fun chain => ?_⟩
  · rw [hcommands]
    refine hrun₁.bind (hrun₂.bind ((completesIn_run (exec_flush hchain₂)).bind ?_))
    exact (completesIn_run hdelete).bind (completesIn_pure _ _)
  · rw [Table.lookup_erase', hflushed]
    split
    · rename_i heq
      rw [heq, hunmanaged.noChain]
    · rfl

/-! ## Installation -/

/-- On the rules of the start, the guard's rules are registered. -/
theorem register_completes (hunmanaged : Unmanaged fw₀)
    (h : ∀ chain, fw.lookup chain = fw₀.lookup chain) (guard : FirewallQueueGuard) :
    ∃ fw', Completes guard.register (fw.assign chainName [])
        (true, { guard with installed := true }) fw' ∧ Installed guard.queueNum fw₀ fw' := by
  obtain ⟨inputs, hinputs⟩ := hunmanaged.rules isBuiltin_input
  obtain ⟨outputs, houtputs⟩ := hunmanaged.rules isBuiltin_output
  let fw₁ := (fw.assign chainName []).assign chainName [queueRule guard.queueNum]
  let fw₂ := fw₁.assign chainName [queueRule guard.queueNum, ownerRule]
  let fw₃ := fw₂.assign "INPUT" (jumpRule :: inputs)
  let fw₄ := fw₃.assign "OUTPUT" (jumpRule :: outputs)
  have hchain₀ : (fw.assign chainName []).lookup chainName = some [] := by
    rw [Table.lookup_assign, if_pos rfl]
  have hchain₁ : fw₁.lookup chainName = some [queueRule guard.queueNum] := by
    rw [Table.lookup_assign, if_pos rfl]
  have hchain₂ : fw₂.lookup chainName = some [queueRule guard.queueNum, ownerRule] := by
    rw [Table.lookup_assign, if_pos rfl]
  have hchain₃ : fw₃.lookup chainName = some [queueRule guard.queueNum, ownerRule] := by
    rw [Table.lookup_assign, if_neg isBuiltin_input.ne_chainName.symm, hchain₂]
  have hothers₂ : ∀ chain, chain ≠ chainName → fw₂.lookup chain = fw₀.lookup chain := by
    intro chain hne
    rw [Table.lookup_assign, if_neg hne, Table.lookup_assign, if_neg hne, Table.lookup_assign,
      if_neg hne, h]
  have hqueue : Firewall.exec (.append chainName (queueRule guard.queueNum))
      (fw.assign chainName []) = (0, fw₁) :=
    exec_append hchain₀ rfl
  have howner : Firewall.exec (.append chainName ownerRule) fw₁ = (0, fw₂) :=
    exec_append hchain₁ rfl
  have hinput : Firewall.exec (.insert "INPUT" jumpRule) fw₂ = (0, fw₃) :=
    exec_insert (by rw [hothers₂ _ isBuiltin_input.ne_chainName, hinputs])
      (hasTarget_jumpRule hchain₂)
  have houtput : Firewall.exec (.insert "OUTPUT" jumpRule) fw₃ = (0, fw₄) := by
    refine exec_insert ?_ (hasTarget_jumpRule hchain₃)
    rw [Table.lookup_assign, if_neg output_ne_input, hothers₂ _ isBuiltin_output.ne_chainName,
      houtputs]
  refine ⟨fw₄, ?_, ?_, ?_, ?_⟩
  · apply (completes_run hqueue).bind
    apply (completes_run howner).bind
    apply (completes_run hinput).bind
    apply (completes_run houtput).bind
    exact completes_pure _ fw₄
  · rw [Table.lookup_assign, if_neg isBuiltin_output.ne_chainName.symm, hchain₃]
  · rintro chain (rfl | rfl)
    · refine ⟨inputs, hinputs, hunmanaged.notMem hinputs, ?_⟩
      rw [Table.lookup_assign, if_neg output_ne_input.symm, Table.lookup_assign, if_pos rfl]
    · refine ⟨outputs, houtputs, hunmanaged.notMem houtputs, ?_⟩
      rw [Table.lookup_assign, if_pos rfl]
  · intro chain hbuiltin hne
    rw [Table.lookup_assign, if_neg fun heq => hbuiltin (.inr heq), Table.lookup_assign,
      if_neg fun heq => hbuiltin (.inl heq), hothers₂ chain hne]

/-- The next run recognises what is left of the chain. -/
def Recognised (fw : Firewall) : Prop :=
  ∀ rules, fw.lookup chainName = some rules → ownerRule ∈ rules

theorem removeOwnedChain_completes (hunmanaged : Unmanaged fw₀) (h : Managed fw₀ fw)
    (hrecognised : Recognised fw) :
    ∃ fw', Completes removeOwnedChain fw true fw' ∧
      ∀ chain, fw'.lookup chain = fw₀.lookup chain := by
  cases hchain : fw.lookup chainName with
  | none =>
    exact ⟨fw, (completes_run (exec_list_none hchain)).bind (completes_pure _ fw),
      h.clean hunmanaged hchain⟩
  | some rules =>
    have howner : Firewall.exec (.check chainName ownerRule) fw = (0, fw) := by
      rw [exec_check hchain, if_pos (hrecognised rules hchain)]
    obtain ⟨fw', hdismantle, hlookup⟩ := dismantle_completes hunmanaged h hchain
    refine ⟨fw', ?_, hlookup⟩
    exact (completes_run (exec_list hchain)).bind ((completes_run howner).bind hdismantle.completes)

/-- A chain without the marker is left alone. -/
theorem removeOwnedChain_refuses {rules : List FirewallRule}
    (hchain : fw.lookup chainName = some rules) (hnotMem : ownerRule ∉ rules) :
    Completes removeOwnedChain fw false fw := by
  have howner : Firewall.exec (.check chainName ownerRule) fw = (1, fw) := by
    rw [exec_check hchain, if_neg hnotMem]
  exact (completes_run (exec_list hchain)).bind ((completes_run howner).bind (completes_pure _ fw))

theorem install_completes (hunmanaged : Unmanaged fw₀) (h : Managed fw₀ fw)
    (hrecognised : Recognised fw) (queueNum : UInt16) :
    ∃ guard fw', Completes (install { queueNum }) fw (true, guard) fw' ∧
      Installed queueNum fw₀ fw' := by
  obtain ⟨fw₁, hremoved, hclean⟩ := removeOwnedChain_completes hunmanaged h hrecognised
  have hnew : Firewall.exec (.newChain chainName) fw₁ = (0, fw₁.assign chainName []) :=
    exec_newChain (by rw [hclean, hunmanaged.noChain])
  obtain ⟨fw₂, hregister, hinstalled⟩ :=
    register_completes hunmanaged hclean { queueNum, ownsChain := true }
  exact ⟨_, fw₂, hremoved.bind ((completes_run hnew).bind hregister), hinstalled⟩

theorem install_refuses {rules : List FirewallRule} (hchain : fw.lookup chainName = some rules)
    (hnotMem : ownerRule ∉ rules) (queueNum : UInt16) :
    Completes (install { queueNum }) fw (false, { queueNum }) fw :=
  (removeOwnedChain_refuses hchain hnotMem).bind (completes_pure _ fw)

/-- **The next run installs its rules, whatever commands of this one fail and wherever it is
killed, except when the chain is left without its owner marker.** -/
theorem recovers_iff (hunmanaged : Unmanaged fw₀) (queueNum nextQueueNum : UInt16)
    (outcomes : List Outcome) :
    (∃ guard fw', Completes (install { queueNum := nextQueueNum })
        (session queueNum outcomes fw₀).state (true, guard) fw' ∧
      Installed nextQueueNum fw₀ fw') ↔
      Recognised (session queueNum outcomes fw₀).state := by
  constructor
  · rintro ⟨guard, fw', hinstall, -⟩ rules hchain
    by_contra hnotMem
    have hsame := hinstall.unique (install_refuses hchain hnotMem nextQueueNum)
    exact absurd (congrArg Prod.fst hsame.1) (by simp)
  · intro hrecognised
    have hmanaged := keeps_session fw₀ queueNum outcomes fw₀ hunmanaged.managed
    exact install_completes hunmanaged hmanaged hrecognised nextQueueNum

end FirewallQueueGuard

end Recovery

/-! ## A firewall without rules -/

namespace FirewallQueueGuard

def bareFirewall : Firewall := (Table.assign "INPUT" [] ∅).assign "OUTPUT" []

theorem bareFirewall_unmanaged : Unmanaged bareFirewall where
  builtin := by
    rintro chain (rfl | rfl)
    · decide
    · decide
  noChain := by decide
  noJumps := by
    intro chain rules hlookup rule hrule
    have hempty : rules = [] := by
      simp only [bareFirewall, Table.lookup_assign, AList.lookup_empty] at hlookup
      grind
    rw [hempty] at hrule
    cases hrule

/-- Killed behind `-N`, behind the `-A` of the queue and behind `-F`. -/
theorem bareFirewall_refused : Unmanaged bareFirewall ∧ ∀ n ∈ [2, 3, 14],
    ¬ ∃ guard fw', Completes (install { queueNum := 0 })
        (session 0 (List.replicate n .succeeds) bareFirewall).state (true, guard) fw' ∧
      Installed 0 bareFirewall fw' := by
  refine ⟨bareFirewall_unmanaged, ?_⟩
  rintro n hn ⟨guard, fw', hinstall, -⟩
  have hleft : ∃ rules, (session 0 (List.replicate n .succeeds) bareFirewall).state.lookup
      chainName = some rules ∧ ownerRule ∉ rules := by
    simp only [List.mem_cons, List.not_mem_nil, or_false] at hn
    rcases hn with rfl | rfl | rfl
    · exact ⟨[], by decide, by decide⟩
    · exact ⟨[queueRule 0], by decide, by decide⟩
    · exact ⟨[], by decide, by decide⟩
  obtain ⟨rules, hchain, hnotMem⟩ := hleft
  have hsame := hinstall.unique (install_refuses hchain hnotMem 0)
  exact absurd (congrArg Prod.fst hsame.1) (by simp)

/-- Killed behind the `-I` on INPUT, the marker is there. -/
theorem bareFirewall_recovers :
    Recognised (session 0 (List.replicate 5 .succeeds) bareFirewall).state ∧
    ∃ guard fw', Completes (install { queueNum := 1 })
        (session 0 (List.replicate 5 .succeeds) bareFirewall).state (true, guard) fw' ∧
      Installed 1 bareFirewall fw' := by
  have hrecognised : Recognised (session 0 (List.replicate 5 .succeeds) bareFirewall).state := by
    intro rules hlookup
    have hrules : some rules = some [queueRule 0, ownerRule] := hlookup.symm.trans (by decide)
    cases hrules
    decide
  exact ⟨hrecognised, (recovers_iff bareFirewall_unmanaged 0 1 _).mpr hrecognised⟩

end FirewallQueueGuard

end InlineIps
