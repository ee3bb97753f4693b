import InlineIps.Capture.FirewallTransactions
import InlineIps.Library.Machine

/-!
# Ownership of the chain

The calls of one `FirewallQueueGuard`, in any order, with any commands failing and killed
anywhere. A chain without the owner marker that is there at the start is not the guard's: it is
never touched. A chain that was not there at an earlier moment is: `ownsChain` remembers it, and
`Retries` and `RetriesInstall` say which calls then start with its removal.
-/

namespace InlineIps

open Library Library.Interruptible

inductive GuardCall where
  | install
  | uninstall
  /-- The destructor. -/
  | destroy
  deriving DecidableEq

/-- A call with its result and the guard behind it. -/
def guardCall (guard : FirewallQueueGuard) :
    GuardCall → Iptables (Option Bool × Option FirewallQueueGuard)
  | .install => do
    let (installed, guard) ← guard.install
    pure (some installed, some guard)
  | .uninstall => do
    let (removed, guard) ← guard.uninstall
    pure (some removed, some guard)
  | .destroy => do
    guard.destroy
    pure (none, none)

/-- The guard, while its object exists, and the firewall. -/
structure GuardState where
  guard : Option FirewallQueueGuard
  firewall : Firewall

def fresh (queueNum : UInt16) (fw : Firewall) : GuardState :=
  { guard := some { queueNum }, firewall := fw }

def guardStep (s : GuardState) (e : GuardCall × List Outcome) : GuardState × Option Bool :=
  match s.guard with
  | none => (s, none)
  | some guard =>
    match guardCall guard e.1 e.2 s.firewall with
    | .killed fw => ({ guard := none, firewall := fw }, none)
    | .returned (result, guard) _ fw => ({ guard, firewall := fw }, result)

def Absent (fw : Firewall) : Prop := fw.lookup chainName = none

/-- A chain of the name without the marker. -/
def Foreign (fw : Firewall) : Prop :=
  ∃ rules, fw.lookup chainName = some rules ∧ ownerRule ∉ rules

/-! ## Single calls -/

section Calls

variable {s : GuardState} {e : GuardCall × List Outcome}

theorem built_guardCall (guard : FirewallQueueGuard) (call : GuardCall) :
    BuiltOf IsManaged (guardCall guard call) := by
  cases call with
  | install => exact .bind guard.built_install fun _ => .pure _
  | uninstall => exact .bind (guard.built_uninstall.mono IsRemoval.isManaged) fun _ => .pure _
  | destroy => exact .bind (guard.built_destroy.mono IsRemoval.isManaged) fun _ => .pure _

theorem guardCall_install_state (guard : FirewallQueueGuard) (outcomes : List Outcome)
    (fw : Firewall) :
    (guardCall guard .install outcomes fw).state = (guard.install outcomes fw).state :=
  state_bind_pure (fun _ => ⟨_, rfl⟩) outcomes fw

theorem guardCall_uninstall_state (guard : FirewallQueueGuard) (outcomes : List Outcome)
    (fw : Firewall) :
    (guardCall guard .uninstall outcomes fw).state = (guard.uninstall outcomes fw).state :=
  state_bind_pure (fun _ => ⟨_, rfl⟩) outcomes fw

theorem guardStep_killed {guard : FirewallQueueGuard} {fw : Firewall}
    (hguard : s.guard = some guard)
    (h : guardCall guard e.1 e.2 s.firewall = .killed fw) :
    guardStep s e = ({ guard := none, firewall := fw }, none) := by
  unfold guardStep
  rw [hguard]
  dsimp only
  rw [h]

theorem guardStep_run {guard : FirewallQueueGuard} {guard' : Option FirewallQueueGuard}
    {result : Option Bool} {rest : List Outcome} {fw : Firewall} (hguard : s.guard = some guard)
    (h : guardCall guard e.1 e.2 s.firewall = .returned (result, guard') rest fw) :
    guardStep s e = ({ guard := guard', firewall := fw }, result) := by
  unfold guardStep
  rw [hguard]
  dsimp only
  rw [h]

theorem guardStep_firewall {guard : FirewallQueueGuard} (h : s.guard = some guard) :
    (guardStep s e).1.firewall = (guardCall guard e.1 e.2 s.firewall).state := by
  cases hrun : guardCall guard e.1 e.2 s.firewall with
  | killed fw =>
    rw [guardStep_killed h hrun]
    rfl
  | returned result rest fw =>
    rw [guardStep_run h hrun]
    rfl

theorem guardStep_none (h : s.guard = none) : guardStep s e = (s, none) := by
  unfold guardStep
  rw [h]

/-- What holds of the firewall under all commands of the guard. -/
theorem guardStep_keeps {I : Firewall → Prop} (hI : ∀ fw fw', Changed fw fw' → I fw → I fw')
    (hs : I s.firewall) : I (guardStep s e).1.firewall := by
  cases hguard : s.guard with
  | none =>
    rw [guardStep_none hguard]
    exact hs
  | some guard =>
    rw [guardStep_firewall hguard]
    exact keeps_of_changed hI (built_guardCall guard e.1) e.2 s.firewall hs

/-- The call returned: the guard exists behind it. -/
inductive Returned (guard : FirewallQueueGuard) (fw : Firewall) :
    GuardCall → List Outcome → Bool → FirewallQueueGuard → Firewall → Prop
  | install {outcomes rest result guard' fw'}
      (h : guard.install outcomes fw = .returned (result, guard') rest fw') :
      Returned guard fw .install outcomes result guard' fw'
  | uninstall {outcomes rest result guard' fw'}
      (h : guard.uninstall outcomes fw = .returned (result, guard') rest fw') :
      Returned guard fw .uninstall outcomes result guard' fw'

theorem guardCall_returned {guard : FirewallQueueGuard} {guard' : Option FirewallQueueGuard}
    {call : GuardCall} {outcomes rest : List Outcome} {result : Option Bool} {fw fw' : Firewall}
    (h : guardCall guard call outcomes fw = .returned (result, guard') rest fw') :
    (guard' = none ∧ result = none) ∨
      ∃ g b, guard' = some g ∧ result = some b ∧ Returned guard fw call outcomes b g fw' := by
  cases call with
  | install =>
    obtain ⟨⟨b, g⟩, middle, fw₁, hcall, hreturned⟩ := returned_bind h
    cases hreturned
    exact .inr ⟨g, b, rfl, rfl, .install hcall⟩
  | uninstall =>
    obtain ⟨⟨b, g⟩, middle, fw₁, hcall, hreturned⟩ := returned_bind h
    cases hreturned
    exact .inr ⟨g, b, rfl, rfl, .uninstall hcall⟩
  | destroy =>
    obtain ⟨_, middle, fw₁, -, hreturned⟩ := returned_bind h
    cases hreturned
    exact .inl ⟨rfl, rfl⟩

/-- Behind a step the guard is gone, or the step was a call that returned. -/
theorem guardStep_cases (s : GuardState) (e : GuardCall × List Outcome) :
    ((guardStep s e).1.guard = none ∧ (guardStep s e).2 = none) ∨
      ∃ guard guard' result, s.guard = some guard ∧ (guardStep s e).1.guard = some guard' ∧
        (guardStep s e).2 = some result ∧
        Returned guard s.firewall e.1 e.2 result guard' (guardStep s e).1.firewall := by
  cases hguard : s.guard with
  | none =>
    rw [guardStep_none hguard]
    exact .inl ⟨hguard, rfl⟩
  | some guard =>
    cases hrun : guardCall guard e.1 e.2 s.firewall with
    | killed fw =>
      rw [guardStep_killed hguard hrun]
      exact .inl ⟨rfl, rfl⟩
    | returned result rest fw =>
      rw [guardStep_run hguard hrun]
      rcases guardCall_returned hrun with ⟨hgone, hnone⟩ | ⟨g, b, hg, hb, hreturned⟩
      · exact .inl ⟨hgone, hnone⟩
      · exact .inr ⟨guard, g, b, rfl, hg, hb, hreturned⟩

end Calls

/-! ## A chain of another user -/

section Foreign

variable {fw : Firewall} {outcomes : List Outcome}

theorem run_list_cases (chain : String) (outcomes : List Outcome) (fw : Firewall) :
    runIptables (.list chain) outcomes fw = .killed fw ∨
      ∃ status rest, runIptables (.list chain) outcomes fw = .returned status rest fw :=
  query_cases _ outcomes fw

theorem run_check_cases (chain : String) (rule : FirewallRule) (outcomes : List Outcome)
    (fw : Firewall) :
    runIptables (.check chain rule) outcomes fw = .killed fw ∨
      ∃ status rest, runIptables (.check chain rule) outcomes fw = .returned status rest fw :=
  query_cases _ outcomes fw

namespace FirewallQueueGuard

/-- The removal stops at the missing marker. -/
theorem removeOwnedChain_foreign (hforeign : Foreign fw) (outcomes : List Outcome) :
    removeOwnedChain outcomes fw = .killed fw ∨
      ∃ rest, removeOwnedChain outcomes fw = .returned false rest fw := by
  obtain ⟨rules, hrules, hnotMem⟩ := hforeign
  rcases run_list_cases chainName outcomes fw with hlist | ⟨chainStatus, middle, hlist⟩
  · exact .inl (bind_killed hlist _)
  · have hone : chainStatus ≠ 1 := by
      rintro rfl
      rw [(list_answered hlist).2] at hrules
      cases hrules
    by_cases hzero : chainStatus = 0
    · subst hzero
      rcases run_check_cases chainName ownerRule middle fw with hcheck | ⟨ownerStatus, rest, hcheck⟩
      · exact .inl ((bind_returned hlist _).trans (bind_killed hcheck _))
      · have howner : ownerStatus ≠ 0 := by
          rintro rfl
          obtain ⟨-, rules', hrules', hmem⟩ := check_found hcheck
          rw [hrules] at hrules'
          cases hrules'
          exact hnotMem hmem
        refine .inr ⟨rest, (bind_returned hlist _).trans ((bind_returned hcheck _).trans ?_)⟩
        rw [if_pos howner]
        rfl
    · refine .inr ⟨middle, (bind_returned hlist _).trans ?_⟩
      rw [if_neg hone, if_pos hzero]
      rfl

/-- The guard has nothing to remove. -/
def Idle (guard : FirewallQueueGuard) : Prop := guard.installed = false ∧ guard.ownsChain = false

theorem Idle.install {guard : FirewallQueueGuard} (h : guard.Idle) :
    guard.install = guard.create := by
  unfold FirewallQueueGuard.install
  rw [h.1, h.2]
  rfl

theorem Idle.uninstall {guard : FirewallQueueGuard} (h : guard.Idle) :
    guard.uninstall = pure (true, guard) := by
  unfold FirewallQueueGuard.uninstall
  rw [h.2]
  rfl

theorem Idle.destroy {guard : FirewallQueueGuard} (h : guard.Idle) : guard.destroy = pure () := by
  unfold FirewallQueueGuard.destroy
  rw [h.2]
  rfl

theorem Idle.install_foreign {guard : FirewallQueueGuard} (h : guard.Idle) (hforeign : Foreign fw)
    (outcomes : List Outcome) :
    guard.install outcomes fw = .killed fw ∨
      ∃ rest, guard.install outcomes fw = .returned (false, guard) rest fw := by
  rw [h.install]
  rcases removeOwnedChain_foreign hforeign outcomes with hremoved | ⟨rest, hremoved⟩
  · exact .inl (bind_killed hremoved _)
  · exact .inr ⟨rest, bind_returned hremoved _⟩

end FirewallQueueGuard

theorem guardStep_foreign {s : GuardState} (hforeign : Foreign s.firewall)
    (hidle : ∀ guard, s.guard = some guard → guard.Idle) (e : GuardCall × List Outcome) :
    (guardStep s e).1.firewall = s.firewall ∧
      (∀ guard, (guardStep s e).1.guard = some guard → guard.Idle) ∧
      (e.1 = .install → (guardStep s e).2 ≠ some true) := by
  cases hguard : s.guard with
  | none =>
    rw [guardStep_none hguard]
    exact ⟨rfl, hidle, fun _ => by simp⟩
  | some guard =>
    have hplain := hidle guard hguard
    obtain ⟨call, outcomes⟩ := e
    cases call with
    | install =>
      rcases hplain.install_foreign hforeign outcomes with hkilled | ⟨rest, hreturned⟩
      · rw [guardStep_killed hguard (bind_killed hkilled _)]
        exact ⟨rfl, fun _ h => (by cases h), fun _ => by simp⟩
      · rw [guardStep_run hguard (bind_returned hreturned _)]
        refine ⟨rfl, ?_, fun _ => by simp⟩
        rintro guard' ⟨⟩
        exact hplain
    | uninstall =>
      have hreturned : guard.uninstall outcomes s.firewall =
          .returned (true, guard) outcomes s.firewall := by
        rw [hplain.uninstall]
        rfl
      rw [guardStep_run hguard (bind_returned hreturned _)]
      refine ⟨rfl, ?_, fun h => by cases h⟩
      rintro guard' ⟨⟩
      exact hplain
    | destroy =>
      have hreturned : guard.destroy outcomes s.firewall = .returned () outcomes s.firewall := by
        rw [hplain.destroy]
        rfl
      rw [guardStep_run hguard (bind_returned hreturned _)]
      exact ⟨rfl, fun _ h => (by cases h), fun h => by cases h⟩

/-- A chain of another user is never touched. -/
theorem exec_foreign {s : GuardState} (hforeign : Foreign s.firewall)
    (hidle : ∀ guard, s.guard = some guard → guard.Idle)
    (events : List (GuardCall × List Outcome)) :
    (Machine.exec guardStep s events).firewall = s.firewall ∧
      ∀ guard, (Machine.exec guardStep s events).guard = some guard → guard.Idle := by
  refine Machine.exec_invariant (P := fun _ _ => True)
    (fun s' : GuardState => s'.firewall = s.firewall ∧
      ∀ guard, s'.guard = some guard → guard.Idle) ?_ ⟨rfl, hidle⟩ (Machine.along_true _ _)
  rintro s' e ⟨hsame, hidle'⟩ -
  obtain ⟨hstep, hstep', -⟩ := guardStep_foreign (hsame ▸ hforeign) hidle' e
  exact ⟨hstep.trans hsame, hstep'⟩

end Foreign

/-! ## The chain of the guard -/

section Own

variable {fw fw' : Firewall} {outcomes rest : List Outcome}

/-- No command of a removal creates the chain. -/
theorem Absent.removed (h : Absent fw) (hremoved : Removed fw fw') : Absent fw' := by
  unfold Absent at h ⊢
  cases hremoved with
  | same => exact h
  | own rules hpresent => exact absurd h hpresent
  | jump hchain hrules =>
    rw [Table.lookup_assign, if_neg hchain.ne_chainName.symm]
    exact h
  | chain hunused => rw [Table.lookup_erase', if_pos rfl]

theorem keeps_absent {A : Type} {p : Iptables A} (h : BuiltOf IsRemoval p) : Keeps Absent p :=
  keeps_of_removed (fun _ _ hremoved habsent => habsent.removed hremoved) h

theorem stays_absent {A : Type} {p : Iptables A} (h : BuiltOf IsRemoval p) : Stays Absent p :=
  stays_of_removed (fun _ _ hremoved habsent => habsent.removed hremoved) h

namespace FirewallQueueGuard

/-- The guard knows of the chain that is there. -/
def Knows (guard : FirewallQueueGuard) (fw : Firewall) : Prop :=
  Absent fw ∨ guard.ownsChain = true

theorem removeCurrentChain_returned {guard guard' : FirewallQueueGuard} {removed : Bool}
    (h : guard.removeCurrentChain outcomes fw = .returned (removed, guard') rest fw') :
    (removed = true ∧ Absent fw' ∧ guard' = { guard with ownsChain := false, installed := false }) ∨
      (removed = false ∧ guard' = guard) := by
  obtain ⟨cleaned, middle, fw₁, hremoved, hreturned⟩ := returned_bind h
  cases cleaned with
  | false =>
    cases hreturned
    exact .inr ⟨rfl, rfl⟩
  | true =>
    cases hreturned
    exact .inl ⟨rfl, removeChain_returned hremoved, rfl⟩

theorem removeCurrentChain_knows {guard guard' : FirewallQueueGuard} {removed : Bool}
    (howns : guard.ownsChain = true)
    (h : guard.removeCurrentChain outcomes fw = .returned (removed, guard') rest fw') :
    guard'.Knows fw' := by
  rcases removeCurrentChain_returned h with ⟨-, habsent, -⟩ | ⟨-, rfl⟩
  · exact .inl habsent
  · exact .inr howns

/-- Behind `-N` the guard owns the chain until a rollback has removed it. -/
theorem register_knows {guard guard' : FirewallQueueGuard} {result : Bool}
    (howns : guard.ownsChain = true)
    (h : guard.register outcomes fw = .returned (result, guard') rest fw') : guard'.Knows fw' := by
  rw [register_eq] at h
  obtain ⟨registered, middle, fw₁, -, h⟩ := returned_bind h
  cases registered with
  | true =>
    cases h
    exact .inr howns
  | false =>
    obtain ⟨⟨removed, guard₁⟩, middle', fw₂, hremoved, hreturned⟩ := returned_bind h
    cases hreturned
    exact removeCurrentChain_knows howns hremoved

/-- The guard knows of the chain behind `create` when it did before, or when the chain was absent
behind some of its commands. -/
theorem create_knows {guard guard' : FirewallQueueGuard} {result : Bool}
    (h : guard.create outcomes fw = .returned (result, guard') rest fw')
    (hstart : guard.Knows fw ∨ ∃ n, Absent (guard.create (outcomes.take n) fw).state) :
    guard'.Knows fw' := by
  have hbuilt : BuiltOf IsRemoval removeOwnedChain := built_removeChain true
  obtain ⟨cleaned, middle, fw₁, hremoved, hcreate⟩ := returned_bind h
  cases cleaned with
  | false =>
    cases hcreate
    rcases hstart with (habsent | howns) | ⟨n, habsent⟩
    · exact .inl ((keeps_absent hbuilt).returned habsent hremoved)
    · exact .inr howns
    · -- the removal never creates the chain, so it is still absent at its end
      have hprefix : Absent (removeOwnedChain (outcomes.take n) fw).state := by
        cases hearlier : removeOwnedChain (outcomes.take n) fw with
        | killed fw₂ =>
          have hkilled : guard.create (outcomes.take n) fw = .killed fw₂ := bind_killed hearlier _
          rw [hkilled] at habsent
          exact habsent
        | returned cleaned rest' fw₂ =>
          have hsame := (hbuilt.regular atomic_run).append hearlier (outcomes.drop n)
          rw [List.take_append_drop, hremoved] at hsame
          cases hsame
          have hreturned : guard.create (outcomes.take n) fw = .returned (false, guard) rest' _ :=
            bind_returned hearlier _
          rw [hreturned] at habsent
          exact habsent
      have hlater := stays_absent hbuilt (outcomes.take n) (outcomes.drop n) fw hprefix
      rw [List.take_append_drop, hremoved] at hlater
      exact .inl hlater
  | true =>
    have habsent : Absent fw₁ := removeChain_returned hremoved
    obtain ⟨newStatus, middle', fw₂, hnew, hregister⟩ := returned_bind hcreate
    split at hregister
    · rename_i hfailed
      cases hregister
      rw [run_failed hnew hfailed]
      exact .inl habsent
    · exact register_knows rfl hregister

theorem install_knows {guard guard' : FirewallQueueGuard} {result : Bool}
    (h : guard.install outcomes fw = .returned (result, guard') rest fw')
    (hstart : guard.Knows fw ∨ ∃ n, Absent (guard.install (outcomes.take n) fw).state) :
    guard'.Knows fw' := by
  unfold install at h hstart
  cases hinstalled : guard.installed with
  | true =>
    rw [if_pos hinstalled] at h hstart
    cases h
    rcases hstart with hknows | ⟨n, habsent⟩
    · exact hknows
    · exact .inl habsent
  | false =>
    have hnot : ¬ guard.installed = true := by simp [hinstalled]
    rw [if_neg hnot] at h hstart
    cases howns : guard.ownsChain with
    | true =>
      rw [if_pos howns] at h
      obtain ⟨⟨removed, guard₁⟩, middle, fw₁, hremoved, hcreate⟩ := returned_bind h
      have hknows := removeCurrentChain_knows howns hremoved
      cases removed with
      | false =>
        cases hcreate
        exact hknows
      | true => exact create_knows hcreate (.inl hknows)
    | false =>
      have hnot' : ¬ guard.ownsChain = true := by simp [howns]
      rw [if_neg hnot'] at h hstart
      exact create_knows h hstart

theorem uninstall_knows {guard guard' : FirewallQueueGuard} {result : Bool}
    (h : guard.uninstall outcomes fw = .returned (result, guard') rest fw')
    (hstart : guard.Knows fw ∨ ∃ n, Absent (guard.uninstall (outcomes.take n) fw).state) :
    guard'.Knows fw' := by
  unfold uninstall at h hstart
  cases howns : guard.ownsChain with
  | true =>
    rw [howns] at h
    exact removeCurrentChain_knows howns h
  | false =>
    rw [howns] at h hstart
    cases h
    rcases hstart with hknows | ⟨n, habsent⟩
    · exact hknows
    · exact .inl habsent

end FirewallQueueGuard

/-- The guard, as long as it exists, knows of the chain. -/
def Known (s : GuardState) : Prop := ∀ guard, s.guard = some guard → guard.Knows s.firewall

/-- A call that starts from such a state, or in which the chain is absent at some moment, ends
in one. -/
theorem guardStep_known {s : GuardState} {call : GuardCall}
    (hstart : Known s ∨ ∃ n, Absent (guardStep s (call, outcomes.take n)).1.firewall) :
    Known (guardStep s (call, outcomes)).1 := by
  intro guard' hguard'
  rcases guardStep_cases s (call, outcomes) with ⟨hnone, -⟩ | hcases
  · rw [hnone] at hguard'
    cases hguard'
  · obtain ⟨guard, g, result, hguard, hg, -, hreturned⟩ := hcases
    rw [hg] at hguard'
    cases hguard'
    have hbefore : guard.Knows s.firewall ∨
        ∃ n, Absent (guardCall guard call (outcomes.take n) s.firewall).state := by
      refine hstart.imp (fun hknown => hknown guard hguard) ?_
      rintro ⟨n, habsent⟩
      rw [guardStep_firewall hguard] at habsent
      exact ⟨n, habsent⟩
    dsimp only at hreturned
    generalize (guardStep s (call, outcomes)).1.firewall = fw' at hreturned ⊢
    cases hreturned with
    | install h =>
      simp only [guardCall_install_state] at hbefore
      exact FirewallQueueGuard.install_knows h hbefore
    | uninstall h =>
      simp only [guardCall_uninstall_state] at hbefore
      exact FirewallQueueGuard.uninstall_knows h hbefore

/-- At some moment of the run, before one of its commands or behind it, the chain is absent. -/
def WasAbsent (start : GuardState) (events : List (GuardCall × List Outcome)) : Prop :=
  ∃ before call outcomes after n, events = before ++ (call, outcomes) :: after ∧
    Absent (guardStep (Machine.exec guardStep start before) (call, outcomes.take n)).1.firewall

theorem WasAbsent.known {start : GuardState} {events : List (GuardCall × List Outcome)}
    (h : WasAbsent start events) : Known (Machine.exec guardStep start events) := by
  obtain ⟨before, call, outcomes, after, n, rfl, habsent⟩ := h
  have hcall : Known (guardStep (Machine.exec guardStep start before) (call, outcomes)).1 :=
    guardStep_known (.inr ⟨n, habsent⟩)
  rw [Machine.exec_append, Machine.exec_cons]
  refine Machine.exec_invariant (P := fun _ _ => True) Known ?_ hcall (Machine.along_true _ _)
  rintro s ⟨call', outcomes'⟩ hknown -
  exact guardStep_known (.inl hknown)

namespace FirewallQueueGuard

/-- `uninstall` and the destructor start with the removal of the chain. -/
structure Retries (guard : FirewallQueueGuard) : Prop where
  uninstall : guard.uninstall = guard.removeCurrentChain
  destroy : guard.destroy = do
    let _ ← guard.removeCurrentChain
    pure ()

theorem retries_of_ownsChain {guard : FirewallQueueGuard} (h : guard.ownsChain = true) :
    guard.Retries where
  uninstall := by
    unfold FirewallQueueGuard.uninstall
    rw [h]
    rfl
  destroy := if_pos h

/-- So does `install`. -/
def RetriesInstall (guard : FirewallQueueGuard) : Prop :=
  guard.install = do
    let (removed, guard) ← guard.removeCurrentChain
    if !removed then pure (false, guard) else guard.create

theorem retriesInstall_of_ownsChain {guard : FirewallQueueGuard} (howns : guard.ownsChain = true)
    (hinstalled : guard.installed = false) : guard.RetriesInstall := by
  unfold RetriesInstall FirewallQueueGuard.install
  rw [howns, hinstalled]
  rfl

/-- The flag comes first. -/
theorem not_retriesInstall {guard : FirewallQueueGuard} (h : guard.installed = true) :
    ¬ guard.RetriesInstall := by
  intro hretries
  have hreturned : guard.install [] (∅ : Firewall) = .returned (true, guard) [] ∅ := by
    unfold FirewallQueueGuard.install
    rw [h]
    rfl
  rw [hretries] at hreturned
  cases hreturned

/-- **An `uninstall` of an installed guard that fails is not retried by the next `install`.** -/
theorem uninstall_forgets {guard guard' : FirewallQueueGuard} {fw fw' : Firewall}
    {outcomes rest : List Outcome} (hinstalled : guard.installed = true)
    (howns : guard.ownsChain = true)
    (h : guard.uninstall outcomes fw = .returned (false, guard') rest fw') :
    guard'.install = pure (true, guard') := by
  rw [(retries_of_ownsChain howns).uninstall] at h
  rcases removeCurrentChain_returned h with ⟨hfalse, -, -⟩ | ⟨-, rfl⟩
  · cases hfalse
  · exact if_pos hinstalled

/-- **A chain that was absent is remembered: as long as the guard exists and the chain is there,
`ownsChain` is set.** -/
theorem ownsChain_of_wasAbsent {s : GuardState} {events : List (GuardCall × List Outcome)}
    (h : WasAbsent s events) {guard : FirewallQueueGuard}
    (hguard : (Machine.exec guardStep s events).guard = some guard)
    (hpresent : ¬ Absent (Machine.exec guardStep s events).firewall) : guard.ownsChain = true :=
  (h.known guard hguard).resolve_left hpresent

end FirewallQueueGuard

end Own

end InlineIps
