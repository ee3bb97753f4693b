import InlineIps.Capture.FirewallInterception

/-!
# Removals that failed

A removal that fails leaves the chain to the next call. `uninstall` and the destructor look at
`ownsChain`, which is right; `install` looks at `installed` first, and an `uninstall` that fails
leaves that set.
-/

namespace InlineIps

open Library Library.Interruptible

/-- A call has failed, and the chain has been there ever since. -/
def LeftOver (start : GuardState) (events : List (GuardCall × List Outcome)) : Prop :=
  ∃ before e after, events = before ++ e :: after ∧
    (guardStep (Machine.exec guardStep start before) e).2 = some false ∧
    ¬ WasAbsent (guardStep (Machine.exec guardStep start before) e).1 after

/-- No command of an `uninstall` of an installed guard fails: it takes nine. -/
def Unfailing (s : GuardState) (e : GuardCall × List Outcome) : Prop :=
  e.1 = .uninstall → (∃ guard, s.guard = some guard ∧ guard.installed = true) →
    ∀ o ∈ e.2.take 9, o = .succeeds

theorem Unfailing.careful (s : GuardState) (e : GuardCall × List Outcome) (h : Unfailing s e) :
    Careful s e := fun hcall hinstalled => .inr (h hcall hinstalled)

/-- The chain is there before each command of the call, and behind it. -/
def Throughout (s : GuardState) (e : GuardCall × List Outcome) : Prop :=
  ∀ n, ¬ Absent (guardStep s (e.1, e.2.take n)).1.firewall

theorem along_throughout {s : GuardState} {events : List (GuardCall × List Outcome)}
    (h : ¬ WasAbsent s events) : Machine.Along guardStep Throughout s events := by
  induction events generalizing s with
  | nil => trivial
  | cons e events ih =>
    refine ⟨fun n habsent => h ⟨[], e.1, e.2, events, n, rfl, habsent⟩, ih ?_⟩
    rintro ⟨before, call, outcomes, after, n, rfl, habsent⟩
    exact h ⟨e :: before, call, outcomes, after, n, rfl, habsent⟩

namespace FirewallQueueGuard

variable {queueNum : UInt16} {guard guard' : FirewallQueueGuard} {result : Bool}
  {fw fw' : Firewall} {outcomes rest : List Outcome}

/-! ## The flag behind a failed call -/

/-- The removal of an earlier chain ends without the chain: it is absent before the `-N`. -/
theorem create_absent
    (h : guard.create outcomes fw = .returned (true, guard') rest fw') :
    ∃ n, Absent (guard.create (outcomes.take n) fw).state := by
  obtain ⟨cleaned, middle, fw₁, hremoved, hcreate⟩ := returned_bind h
  cases cleaned with
  | false => cases hcreate
  | true =>
    have hregular : Regular removeOwnedChain := (built_removeChain true).regular atomic_run
    obtain ⟨used, rfl, hused⟩ := hregular outcomes fw true middle fw₁ hremoved
    refine ⟨used.length, ?_⟩
    have hfirst : removeOwnedChain used fw = .returned true [] fw₁ := by
      simpa using hused []
    have hkilled : guard.create used fw = .killed fw₁ := by
      refine (bind_returned hfirst _).trans ?_
      rfl
    rw [List.take_left, hkilled]
    exact removeChain_returned hremoved

theorem removeCurrentChain_resets (hinstalled : guard.installed = false)
    (h : guard.removeCurrentChain outcomes fw = .returned (result, guard') rest fw') :
    guard'.installed = false := by
  rcases removeCurrentChain_returned h with ⟨-, -, rfl⟩ | ⟨-, rfl⟩
  · rfl
  · exact hinstalled

/-- Without the flag, an `install` that never finds the chain absent does not set it. -/
theorem install_resets (hinstalled : guard.installed = false)
    (h : guard.install outcomes fw = .returned (result, guard') rest fw')
    (hresult : result = true → ∀ n, ¬ Absent (guard.install (outcomes.take n) fw).state) :
    guard'.installed = false := by
  unfold install at h hresult
  rw [if_neg (by simp [hinstalled])] at h hresult
  cases howns : guard.ownsChain with
  | false =>
    rw [if_neg (by simp [howns])] at h hresult
    cases result with
    | false => exact (create_failed hinstalled h).2
    | true =>
      obtain ⟨n, habsent⟩ := create_absent h
      exact absurd habsent (hresult rfl n)
  | true =>
    rw [if_pos howns] at h hresult
    obtain ⟨⟨removed, guard₁⟩, middle, fw₁, hremoved, hcreate⟩ := returned_bind h
    have hinstalled₁ := removeCurrentChain_resets hinstalled hremoved
    cases removed with
    | false =>
      cases hcreate
      exact hinstalled₁
    | true =>
      cases result with
      | false => exact (create_failed hinstalled₁ hcreate).2
      | true =>
        -- the removal that returned true has left the chain absent before the `create`
        have hregular : Regular guard.removeCurrentChain :=
          (built_removeCurrentChain guard).regular atomic_run
        obtain ⟨used, rfl, hused⟩ := hregular outcomes fw _ middle fw₁ hremoved
        refine absurd ?_ (hresult rfl used.length)
        have hfirst : guard.removeCurrentChain used fw = .returned (true, guard₁) [] fw₁ := by
          simpa using hused []
        rw [List.take_left, bind_returned hfirst]
        obtain ⟨-, habsent, -⟩ | ⟨hfalse, -⟩ := removeCurrentChain_returned hremoved
        · exact habsent
        · cases hfalse

theorem uninstall_resets (hinstalled : guard.installed = false)
    (h : guard.uninstall outcomes fw = .returned (result, guard') rest fw') :
    guard'.installed = false := by
  unfold uninstall at h
  cases howns : guard.ownsChain with
  | false =>
    rw [howns] at h
    cases h
    exact hinstalled
  | true =>
    rw [howns] at h
    exact removeCurrentChain_resets hinstalled h

end FirewallQueueGuard

/-! ## Runs -/

/-- The guard, as long as it exists, is not installed. -/
def NotInstalled (s : GuardState) : Prop := ∀ guard, s.guard = some guard → guard.installed = false

section Runs

variable {queueNum : UInt16} {s : GuardState} {e : GuardCall × List Outcome}

theorem guardStep_resets (h : NotInstalled s) (hthroughout : Throughout s e) :
    NotInstalled (guardStep s e).1 := by
  intro guard' hguard'
  rcases guardStep_cases s e with ⟨hnone, -⟩ | ⟨guard, g, result, hguard, hg, -, hreturned⟩
  · rw [hnone] at hguard'
    cases hguard'
  · rw [hg] at hguard'
    cases hguard'
    have hinstalled := h guard hguard
    obtain ⟨call, outcomes⟩ := e
    dsimp only at hreturned
    generalize (guardStep s (call, outcomes)).1.firewall = fw' at hreturned
    cases hreturned with
    | install hcall =>
      refine FirewallQueueGuard.install_resets hinstalled hcall fun _ n habsent => ?_
      rw [← guardCall_install_state] at habsent
      refine hthroughout n ?_
      rw [guardStep_firewall hguard]
      exact habsent
    | uninstall hcall => exact FirewallQueueGuard.uninstall_resets hinstalled hcall

/-- A call that fails leaves the flag cleared, unless it is an `uninstall` of an installed
guard. -/
theorem guardStep_failed (hsound : SoundState queueNum s) (hunfailing : Unfailing s e)
    (hfailed : (guardStep s e).2 = some false) : NotInstalled (guardStep s e).1 := by
  intro guard' hguard'
  rcases guardStep_cases s e with ⟨hnone, -⟩ | ⟨guard, g, result, hguard, hg, hresult, hreturned⟩
  · rw [hnone] at hguard'
    cases hguard'
  · rw [hg] at hguard'
    cases hguard'
    rw [hresult] at hfailed
    cases hfailed
    have hflag := hsound.guard guard hguard
    obtain ⟨call, outcomes⟩ := e
    dsimp only at hreturned
    generalize (guardStep s (call, outcomes)).1.firewall = fw' at hreturned
    cases hreturned with
    | install hcall =>
      cases hinstalled : guard.installed with
      | false => exact FirewallQueueGuard.install_resets hinstalled hcall fun hfalse => by cases hfalse
      | true =>
        unfold FirewallQueueGuard.install at hcall
        rw [if_pos hinstalled] at hcall
        cases hcall
    | uninstall hcall =>
      cases hinstalled : guard.installed with
      | false => exact FirewallQueueGuard.uninstall_resets hinstalled hcall
      | true =>
        obtain ⟨fw₀, hunmanaged, hregistered⟩ := hflag.registered hinstalled
        rw [(FirewallQueueGuard.retries_of_ownsChain (hflag.ownsChain hinstalled)).uninstall]
          at hcall
        have hsucceed := hunfailing rfl ⟨guard, hguard, hinstalled⟩
        rw [FirewallQueueGuard.removeCurrentChain_nine hunmanaged hregistered hsucceed hcall]

/-- As long as no `uninstall` of an installed guard fails, the flag is cleared where a removal
is left over. -/
theorem LeftOver.notInstalled {fw₀ : Firewall} {events : List (GuardCall × List Outcome)}
    (h : LeftOver (fresh queueNum fw₀) events) (hwell : WellFormed fw₀)
    (hunfailing : Machine.Along guardStep Unfailing (fresh queueNum fw₀) events) :
    NotInstalled (Machine.exec guardStep (fresh queueNum fw₀) events) := by
  obtain ⟨before, e, after, rfl, hfailed, hpresent⟩ := h
  obtain ⟨hbefore, hstep, -⟩ := (Machine.along_append _ _ _).mp hunfailing
  have hsound := exec_sound hwell (Machine.along_mono Unfailing.careful hbefore)
  rw [Machine.exec_append, Machine.exec_cons]
  exact Machine.exec_invariant NotInstalled (fun _ _ h ht => guardStep_resets h ht)
    (guardStep_failed hsound hstep hfailed) (along_throughout hpresent)

end Runs

namespace FirewallQueueGuard

/-- **A foreign chain is never touched, and a chain of the guard is never forgotten, as long as
no uninstallation of an installed guard fails.** -/
theorem ownership (queueNum : UInt16) (fw₀ : Firewall) (events : List (GuardCall × List Outcome)) :
    (Foreign fw₀ →
      (Machine.exec guardStep (fresh queueNum fw₀) events).firewall = fw₀ ∧
      ∀ taken ∈ Machine.trace guardStep (fresh queueNum fw₀) events,
        taken.event.1 = .install → taken.output ≠ some true) ∧
    (WasAbsent (fresh queueNum fw₀) events →
      ∀ guard, (Machine.exec guardStep (fresh queueNum fw₀) events).guard = some guard →
        ¬ Absent (Machine.exec guardStep (fresh queueNum fw₀) events).firewall →
        guard.ownsChain = true ∧ guard.Retries ∧
        (WellFormed fw₀ → Machine.Along guardStep Unfailing (fresh queueNum fw₀) events →
          LeftOver (fresh queueNum fw₀) events → guard.RetriesInstall)) := by
  have hidle : ∀ guard, (fresh queueNum fw₀).guard = some guard → guard.Idle := by
    rintro guard ⟨⟩
    exact ⟨rfl, rfl⟩
  constructor
  · intro hforeign
    refine ⟨(exec_foreign hforeign hidle events).1, fun taken htaken => ?_⟩
    obtain ⟨before, e, after, -, rfl⟩ := Machine.mem_trace_iff.mp htaken
    obtain ⟨hsame, hidle'⟩ := exec_foreign hforeign hidle before
    have hforeign' : Foreign (Machine.exec guardStep (fresh queueNum fw₀) before).firewall :=
      hsame ▸ hforeign
    exact (guardStep_foreign hforeign' hidle' e).2.2
  · intro habsent guard hguard hpresent
    have howns := ownsChain_of_wasAbsent habsent hguard hpresent
    refine ⟨howns, retries_of_ownsChain howns, fun hwell hunfailing hleft => ?_⟩
    exact retriesInstall_of_ownsChain howns (hleft.notInstalled hwell hunfailing guard hguard)

/-- The `-F` of the uninstallation fails: the chain is left over without its jumps, and
`install` returns true without a command. -/
theorem ownership_halfway : WellFormed bareFirewall ∧ ∃ events guard,
    WasAbsent (fresh 0 bareFirewall) events ∧
    (Machine.exec guardStep (fresh 0 bareFirewall) events).guard = some guard ∧
    ¬ Absent (Machine.exec guardStep (fresh 0 bareFirewall) events).firewall ∧
    LeftOver (fresh 0 bareFirewall) events ∧
    guard.install = pure (true, guard) ∧ ¬ guard.RetriesInstall := by
  refine ⟨bareFirewall_unmanaged.wellFormed, [(.install, List.replicate 6 .succeeds),
    (.uninstall, List.replicate 7 .succeeds ++ [.fails 4 (by decide)])],
    { queueNum := 0, installed := true, ownsChain := true }, ?_, rfl, ?_, ?_, rfl,
    not_retriesInstall rfl⟩
  · refine ⟨[], .install, _, _, 0, rfl, ?_⟩
    show AList.lookup _ _ = none
    decide
  · show ¬ AList.lookup _ _ = none
    decide
  · refine ⟨[_], _, [], rfl, rfl, ?_⟩
    rintro ⟨before, call, outcomes, after, n, hsplit, -⟩
    simp at hsplit

/-- A chain of another user under the name. -/
def foreignFirewall : Firewall := bareFirewall.assign chainName [queueRule 7]

/-- Two queries that succeed against the foreign chain. In the second run the `-A` of the queue
fails, and the rollback cannot list the chain. -/
theorem ownership_twice :
    (Machine.exec guardStep (fresh 0 foreignFirewall)
      [(.install, [.succeeds, .succeeds])]).firewall = foreignFirewall ∧
    ∀ guard, (Machine.exec guardStep (fresh 0 bareFirewall)
      [(.install, [.succeeds, .succeeds, .fails 4 (by decide), .fails 4 (by decide)])]).guard =
        some guard → guard.ownsChain = true ∧ guard.Retries ∧ guard.RetriesInstall := by
  constructor
  · exact ((ownership 0 foreignFirewall _).1 ⟨[queueRule 7], by decide, by decide⟩).1
  · intro guard hguard
    have hpresent : ¬ Absent (Machine.exec guardStep (fresh 0 bareFirewall) [(.install,
        [.succeeds, .succeeds, .fails 4 (by decide), .fails 4 (by decide)])]).firewall := by
      show ¬ AList.lookup _ _ = none
      decide
    obtain ⟨howns, hretries, hinstall⟩ := (ownership 0 bareFirewall _).2
      ⟨[], .install, _, [], 0, rfl, by show AList.lookup _ _ = none; decide⟩ guard hguard hpresent
    refine ⟨howns, hretries, hinstall bareFirewall_unmanaged.wellFormed ⟨?_, trivial⟩ ?_⟩
    · intro hcall
      cases hcall
    · refine ⟨[], _, [], rfl, rfl, ?_⟩
      rintro ⟨before, call, outcomes, after, n, hsplit, -⟩
      simp at hsplit

end FirewallQueueGuard

end InlineIps
