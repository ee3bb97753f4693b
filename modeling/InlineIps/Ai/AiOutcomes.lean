import InlineIps.Ai.AiDecisions

/-!
# The outcome of every accepted record

Every record that `consume` accepts has one fate at any time: it waits in the first queue,
the worker holds it, it is counted as a normal response, a protocol error or an anomaly, or
it is discarded.

* `Accounted`: the fates match the queue, the worker and the counters.
* `FateStep`: how the fate of a record may change.
* `one_outcome`: the fates along a run. The last four are final, and a record is discarded
  only when its connection was broken.
-/

namespace InlineIps.AsyncAiClient

open Library Library.Machine

variable {Text : Type} {c : AiClientParams Text} {s s' : AsyncAiClient Text}

inductive Fate where
  | queued
  | inFlight
  | normal
  | protocolError
  | anomaly
  | discarded
  deriving DecidableEq

def Fate.Final (fate : Fate) : Prop := fate ≠ .queued ∧ fate ≠ .inFlight

/-! ## Accepted records -/

/-- The record that an action accepts. -/
def accepted? (x : AiTaken Text) : Option (FlowRecord Float) :=
  match x.event, x.output with
  | .consume record, .consumed true => some record
  | _, _ => none

/-- The records accepted in a history, in order, with their positions. -/
def acceptedAt (h : List (AiTaken Text)) : List (Nat × FlowRecord Float) :=
  positionsOf accepted? h

/-! ## Fates -/

section Fates

variable {log : List (Nat × FlowRecord Float)} {fate : Nat → Fate} {f g : Fate}

/-- The accepted records of one fate. -/
def withFate (log : List (Nat × FlowRecord Float)) (fate : Nat → Fate) (f : Fate) :
    List (Nat × FlowRecord Float) :=
  log.filter fun x => fate x.1 = f

theorem mem_withFate {x : Nat × FlowRecord Float} :
    x ∈ withFate log fate f ↔ x ∈ log ∧ fate x.1 = f := by
  simp [withFate]

/-- Every record of fate `f` goes on to fate `g`. -/
def relabel (f g : Fate) (fate : Nat → Fate) (p : Nat) : Fate := if fate p = f then g else fate p

theorem withFate_relabel_of_ne {f' : Fate} (hf : f' ≠ f) (hg : f' ≠ g) :
    withFate log (relabel f g fate) f' = withFate log fate f' := by
  refine List.filter_congr fun x _ => ?_
  unfold relabel
  split
  · simp_all [Ne.symm]
  · rfl

theorem withFate_relabel_self (hne : f ≠ g) : withFate log (relabel f g fate) f = [] := by
  refine List.filter_eq_nil_iff.mpr fun x _ => ?_
  unfold relabel
  split <;> simp_all [Ne.symm]

theorem length_withFate_relabel (hne : f ≠ g) :
    (withFate log (relabel f g fate) g).length =
      (withFate log fate g).length + (withFate log fate f).length := by
  induction log with
  | nil => rfl
  | cons x log ih =>
    simp only [withFate, List.filter_cons] at ih ⊢
    by_cases hf : fate x.1 = f
    · simp_all [relabel]
      omega
    · by_cases hg : fate x.1 = g
      · simp_all [relabel]
        omega
      · simp_all [relabel]

section First

variable {first : Nat × FlowRecord Float} {rest : List (Nat × FlowRecord Float)}

/-- The first record of fate `f` alone goes on. -/
theorem withFate_update_self (hlog : (log.map Prod.fst).Nodup) (hne : f ≠ g)
    (hfirst : withFate log fate f = first :: rest) :
    withFate log (Function.update fate first.1 g) f = rest := by
  have hfilter : withFate log (Function.update fate first.1 g) f =
      (withFate log fate f).filter fun x => x.1 ≠ first.1 := by
    rw [withFate, withFate, List.filter_filter]
    refine List.filter_congr fun x _ => ?_
    by_cases hx : x.1 = first.1 <;> simp [hx, hne.symm]
  have hnodup : ((first :: rest).map Prod.fst).Nodup := by
    rw [← hfirst]
    exact hlog.sublist (List.filter_sublist.map _)
  rw [hfilter, hfirst, List.filter_cons_of_neg (by simp)]
  refine List.filter_eq_self.mpr fun x hx => ?_
  rw [List.map_cons, List.nodup_cons] at hnodup
  simp only [ne_eq, decide_eq_true_eq]
  exact fun hsame => hnodup.1 (hsame ▸ List.mem_map_of_mem hx)

theorem withFate_update_next (hlog : (log.map Prod.fst).Nodup)
    (hfirst : withFate log fate f = first :: rest) (hnone : withFate log fate g = []) :
    withFate log (Function.update fate first.1 g) g = [first] := by
  have hfate : fate first.1 = f :=
    (mem_withFate.mp (hfirst ▸ List.mem_cons_self : first ∈ withFate log fate f)).2
  have hfilter : withFate log (Function.update fate first.1 g) g =
      (withFate log fate f).filter fun x => x.1 = first.1 := by
    rw [withFate, withFate, List.filter_filter]
    refine List.filter_congr fun x hx => ?_
    by_cases hsame : x.1 = first.1
    · simp [hsame, hfate]
    · have hother : fate x.1 ≠ g := fun hg => by
        have hmem : x ∈ withFate log fate g := mem_withFate.mpr ⟨hx, hg⟩
        rw [hnone] at hmem
        cases hmem
      simp [hsame, hother]
  have hnodup : ((first :: rest).map Prod.fst).Nodup := by
    rw [← hfirst]
    exact hlog.sublist (List.filter_sublist.map _)
  rw [List.map_cons, List.nodup_cons] at hnodup
  rw [hfilter, hfirst, List.filter_cons_of_pos (by simp)]
  refine congrArg (first :: ·) (List.filter_eq_nil_iff.mpr fun x hx => ?_)
  simp only [decide_eq_true_eq]
  exact fun hsame => hnodup.1 (hsame ▸ List.mem_map_of_mem hx)

theorem withFate_update_of_ne {f' : Fate} {p : Nat} (hold : fate p ≠ f') (hnew : g ≠ f') :
    withFate log (Function.update fate p g) f' = withFate log fate f' := by
  refine List.filter_congr fun x _ => ?_
  by_cases hx : x.1 = p <;> simp [hx, hold, hnew]

end First

end Fates

/-! ## Steps -/

/-- The fates match the queue, the worker and the counters. -/
structure Accounted (s : AsyncAiClient Text) (log : List (Nat × FlowRecord Float))
    (fate : Nat → Fate) : Prop where
  submitted : log.length = s.stats.submitted
  queued : (withFate log fate .queued).map Prod.snd = s.pendingFlows
  inFlight : (withFate log fate .inFlight).map Prod.snd = s.worker.held
  normal : (withFate log fate .normal).length = s.stats.normalResponses
  protocolError : (withFate log fate .protocolError).length = s.stats.protocolErrors
  anomaly : (withFate log fate .anomaly).length = s.stats.anomalyResponses

/-- How the fate of a record may change in a step, which breaks the connection or not. -/
inductive FateStep (s s' : AsyncAiClient Text) (broken : Prop) : Fate → Fate → Prop
  | same (f) : FateStep s s' broken f f
  /-- The record is of the connection that still holds. -/
  | take (job) (hjob : s'.worker.job? = some job) (hcurrent : s'.isCurrent job = true) :
      FateStep s s' broken .queued .inFlight
  | count (f) (hf : f = .normal ∨ f = .protocolError) : FateStep s s' broken .inFlight f
  /-- The decision about the record is queued. -/
  | deliver (decision) (hheld : s.worker.held = [decision.record])
      (hqueued : s'.pendingDecisions = s.pendingDecisions ++ [decision]) :
      FateStep s s' broken .inFlight .anomaly
  | drop (job) (hjob : s.worker.job? = some job)
      (hstale : s.stopRequested = true ∨ s.isCurrent job = false) :
      FateStep s s' broken .inFlight .discarded
  | clear (f) (hf : ¬ f.Final) (hbroken : broken) : FateStep s s' broken f .discarded

theorem FateStep.of_final {broken : Prop} {f g : Fate} (h : FateStep s s' broken f g)
    (hf : f.Final) : g = f := by
  cases h with
  | same f => rfl
  | clear f hopen hbroken => exact absurd hf hopen
  | take job hjob hcurrent => exact absurd rfl hf.1
  | _ => exact absurd rfl hf.2

section Steps

variable {log : List (Nat × FlowRecord Float)} {fate : Nat → Fate}

/-- The records the worker holds go on to fate `g`, and the worker holds none. -/
theorem inFlight_relabel {g : Fate} (hg : Fate.inFlight ≠ g) :
    (withFate log (relabel .inFlight g fate) .inFlight).map Prod.snd = [] := by
  rw [withFate_relabel_self hg]
  rfl

theorem length_inFlight (h : Accounted s log fate) :
    (withFate log fate .inFlight).length = s.worker.held.length := by
  rw [← h.inFlight, List.length_map]

theorem Accounted.take (h : Accounted s log fate) (hlog : (log.map Prod.fst).Nodup)
    {record : FlowRecord Float} {rest : List (FlowRecord Float)} (hheld : s.worker.held = [])
    (hflows : s.pendingFlows = record :: rest) {w : AiWorker Text} (hw : w.held = [record]) :
    ∃ p, fate p = .queued ∧
      Accounted { s with pendingFlows := rest, worker := w } log
        (Function.update fate p .inFlight) := by
  have hqueued := h.queued
  rw [hflows, List.map_eq_cons_iff] at hqueued
  obtain ⟨first, others, hfirst, hrecord, hrest⟩ := hqueued
  have hnone : withFate log fate .inFlight = [] := List.map_eq_nil_iff.mp (h.inFlight.trans hheld)
  have hfate : fate first.1 = .queued :=
    (mem_withFate.mp (hfirst ▸ List.mem_cons_self : first ∈ withFate log fate .queued)).2
  refine ⟨first.1, hfate, ?_⟩
  constructor
  · exact h.submitted
  · rw [withFate_update_self hlog (by simp) hfirst]
    exact hrest
  · rw [withFate_update_next hlog hfirst hnone, hw, ← hrecord]
    rfl
  · rw [withFate_update_of_ne (by simp [hfate]) (by simp)]
    exact h.normal
  · rw [withFate_update_of_ne (by simp [hfate]) (by simp)]
    exact h.protocolError
  · rw [withFate_update_of_ne (by simp [hfate]) (by simp)]
    exact h.anomaly

/-- The worker lets go of its record, which is counted or discarded. -/
theorem Accounted.release (h : Accounted s log fate) {g : Fate} (hg : g.Final)
    {w : AiWorker Text} (hw : w.held = []) (stats : AiClientStatsSnapshot)
    (hsubmitted : stats.submitted = s.stats.submitted)
    (hnormal : stats.normalResponses =
      s.stats.normalResponses + if g = .normal then s.worker.held.length else 0)
    (herror : stats.protocolErrors =
      s.stats.protocolErrors + if g = .protocolError then s.worker.held.length else 0)
    (hanomaly : stats.anomalyResponses =
      s.stats.anomalyResponses + if g = .anomaly then s.worker.held.length else 0)
    (decisions : List (AiDecision Float)) :
    Accounted { s with worker := w, stats, pendingDecisions := decisions } log
      (relabel .inFlight g fate) := by
  have hlength := length_inFlight h
  have hcount (f : Fate) (hf : f.Final) : (withFate log (relabel .inFlight g fate) f).length =
      (withFate log fate f).length + if g = f then s.worker.held.length else 0 := by
    split
    · rename_i hgf
      subst hgf
      rw [length_withFate_relabel hg.2.symm, hlength]
    · rename_i hgf
      rw [withFate_relabel_of_ne hf.2 (Ne.symm hgf), Nat.add_zero]
  constructor
  · exact h.submitted.trans hsubmitted.symm
  · rw [withFate_relabel_of_ne (by simp) hg.1.symm]
    exact h.queued
  · rw [inFlight_relabel hg.2.symm]
    exact hw.symm
  · rw [hcount .normal (by simp [Fate.Final]), h.normal]
    exact hnormal.symm
  · rw [hcount .protocolError (by simp [Fate.Final]), h.protocolError]
    exact herror.symm
  · rw [hcount .anomaly (by simp [Fate.Final]), h.anomaly]
    exact hanomaly.symm

/-- The queued records are discarded. -/
theorem Accounted.clear (h : Accounted s log fate) (hflows : s'.pendingFlows = [])
    (hworker : s'.worker = s.worker) (hstats : s'.stats = s.stats) :
    Accounted s' log (relabel .queued .discarded fate) := by
  have hother (f : Fate) (hf : f ≠ .queued) (hf' : f ≠ .discarded) :
      withFate log (relabel .queued .discarded fate) f = withFate log fate f :=
    withFate_relabel_of_ne hf hf'
  constructor
  · rw [hstats]
    exact h.submitted
  · rw [withFate_relabel_self (by simp), hflows]
    rfl
  · rw [hother _ (by simp) (by simp), hworker]
    exact h.inFlight
  · rw [hother _ (by simp) (by simp), hstats]
    exact h.normal
  · rw [hother _ (by simp) (by simp), hstats]
    exact h.protocolError
  · rw [hother _ (by simp) (by simp), hstats]
    exact h.anomaly

theorem fateStep_relabel {broken : Prop} {f g : Fate} (h : FateStep s s' broken f g) (p : Nat) :
    FateStep s s' broken (fate p) (relabel f g fate p) := by
  unfold relabel
  split
  · rename_i hf
    rw [hf]
    exact h
  · exact .same _

/-- The records that are still open are discarded when the client goes offline. -/
theorem Accounted.fail (h : Accounted s log fate) {w : AiWorker Text} (hw : w.held = []) :
    Accounted { s.setOffline with worker := w } log
      (relabel .queued .discarded (relabel .inFlight .discarded fate)) :=
  (h.release (g := .discarded) (by simp [Fate.Final]) hw s.stats rfl (by simp) (by simp)
    (by simp) []).clear rfl rfl rfl

theorem Accounted.workerMove (h : Accounted s log fate) (hlog : (log.map Prod.fst).Nodup)
    (hwf : WellFormed c s) {output : AiOutput} (hmove : WorkerMove c s s' output) :
    ∃ fate', Accounted s' log fate' ∧
      ∀ p, FateStep s s' (output = .transportFailed) (fate p) (fate' p) := by
  cases hmove with
  | take record rest hworker honline hflows =>
    obtain ⟨p, hp, hnext⟩ := h.take hlog (by rw [hworker]; rfl) hflows
      (w := .exchanging ⟨record, s.endpoint, s.modelVersion, s.connectionGeneration⟩) rfl
    refine ⟨_, hnext, fun q => ?_⟩
    by_cases hq : q = p
    · subst hq
      rw [Function.update_self, hp]
      exact .take _ rfl (by simp [isCurrent, honline])
    · rw [Function.update_of_ne hq]
      exact .same _
  | keep w hjob hheld hhonest =>
    exact ⟨fate, { h with inFlight := h.inFlight.trans hheld.symm }, fun p => .same _⟩
  | drop job hjob hstale =>
    exact ⟨_, h.release (g := .discarded) (by simp [Fate.Final]) rfl s.stats rfl (by simp)
      (by simp) (by simp) s.pendingDecisions, fateStep_relabel (.drop job hjob hstale)⟩
  | countNormal job hworker hcurrent =>
    have hheld : s.worker.held = [job.inFlight] := by rw [hworker]; rfl
    exact ⟨_, h.release (g := .normal) (by simp [Fate.Final]) rfl
      { s.stats with normalResponses := s.stats.normalResponses + 1 } rfl (by simp [hheld])
      (by simp) (by simp) s.pendingDecisions, fateStep_relabel (.count _ (.inl rfl))⟩
  | reject job hworker hcurrent =>
    have hheld : s.worker.held = [job.inFlight] := by rw [hworker]; rfl
    exact ⟨fate, { h with inFlight := h.inFlight.trans hheld }, fun p => .same _⟩
  | countError job hworker =>
    have hheld : s.worker.held = [job.inFlight] := by rw [hworker]; rfl
    exact ⟨_, h.release (g := .protocolError) (by simp [Fate.Final]) rfl
      { s.stats with protocolErrors := s.stats.protocolErrors + 1 } rfl (by simp)
      (by simp [hheld]) (by simp) s.pendingDecisions, fateStep_relabel (.count _ (.inr rfl))⟩
  | idle w timeouts output hheld hheld' houtput =>
    exact ⟨fate, { h with inFlight := h.inFlight.trans (hheld.trans hheld'.symm) },
      fun p => .same _⟩
  | push job decision hworker hcurrent hroom =>
    have hheld : s.worker.held = [job.inFlight] := by rw [hworker]; rfl
    have hrecord : decision.record = job.inFlight := (hwf.honest job decision hworker).1
    exact ⟨_, h.release (g := .anomaly) (by simp [Fate.Final]) rfl
      { s.stats with anomalyResponses := s.stats.anomalyResponses + 1 } rfl (by simp) (by simp)
      (by simp [hheld]) (s.pendingDecisions ++ [decision]),
      fateStep_relabel (.deliver decision (hheld.trans (by rw [hrecord])) rfl)⟩
  | fail job w hjob hheld =>
    refine ⟨_, h.fail hheld, fun p => ?_⟩
    by_cases hflight : fate p = .inFlight
    · have hnext : relabel .queued .discarded (relabel .inFlight .discarded fate) p =
          .discarded := by simp [relabel, hflight]
      rw [hnext, hflight]
      exact .clear _ (by simp [Fate.Final]) rfl
    · have hnext : relabel .queued .discarded (relabel .inFlight .discarded fate) p =
          relabel .queued .discarded fate p := by simp [relabel, hflight]
      rw [hnext]
      exact fateStep_relabel (.clear _ (by simp [Fate.Final]) rfl) p

/-- A new record is queued. -/
theorem Accounted.accept (h : Accounted s log fate) {p : Nat} (hnew : ∀ x ∈ log, x.1 ≠ p)
    (record : FlowRecord Float) :
    Accounted { s with
      pendingFlows := s.pendingFlows ++ [record]
      stats := { s.stats with submitted := s.stats.submitted + 1 } } (log ++ [(p, record)])
      (Function.update fate p .queued) := by
  have hold (f : Fate) : withFate log (Function.update fate p .queued) f = withFate log fate f :=
    List.filter_congr fun x hx => by rw [Function.update_of_ne (hnew x hx)]
  have hother (f : Fate) (hf : f ≠ .queued) :
      withFate (log ++ [(p, record)]) (Function.update fate p .queued) f =
        withFate log fate f := by
    rw [withFate, List.filter_append, ← withFate, hold]
    simp [hf.symm]
  constructor
  · rw [List.length_append, h.submitted]
    rfl
  · rw [withFate, List.filter_append, ← withFate, hold]
    simp [h.queued]
  · rw [hother _ (by simp)]
    exact h.inFlight
  · rw [hother _ (by simp)]
    exact h.normal
  · rw [hother _ (by simp)]
    exact h.protocolError
  · rw [hother _ (by simp)]
    exact h.anomaly

end Steps

/-! ## The reasons -/

/-- The connection was broken after position `p`. -/
def BrokenSince (h : List (AiTaken Text)) (p : Nat) : Prop :=
  ∃ i x, p < i ∧ h[i]? = some x ∧ breaks x = true

theorem BrokenSince.snoc {h : List (AiTaken Text)} {p : Nat} (hbroken : BrokenSince h p)
    (x : AiTaken Text) : BrokenSince (h ++ [x]) p := by
  obtain ⟨i, y, hp, hy, hbreaks⟩ := hbroken
  have hlt : i < h.length := (List.getElem?_eq_some_iff.mp hy).1
  exact ⟨i, y, hp, by rw [List.getElem?_append_left hlt, hy], hbreaks⟩

theorem brokenSince_last {h : List (AiTaken Text)} {p : Nat} (hp : p < h.length)
    {x : AiTaken Text} (hx : breaks x = true) : BrokenSince (h ++ [x]) p :=
  ⟨h.length, x, hp, by simp, hx⟩

/-- A job behind an action that breaks nothing is current or was there before. -/
theorem step_job {action : AiAction Text} {job : AiJob}
    (hkeep : breaks ⟨s, action, (step c s action).2⟩ = false)
    (hjob : (step c s action).1.worker.job? = some job) :
    (step c s action).1.isCurrent job = true ∨
      s.worker.job? = some job ∧ (step c s action).1.isCurrent job = s.isCurrent job := by
  cases action with
  | start =>
    right
    simp only [step, start] at hjob ⊢
    split at hjob
    · exact ⟨hjob, by simp_all⟩
    · cases hjob
  | setOnline endpoint modelVersion => cases hkeep
  | setOffline => cases hkeep
  | stop => cases hkeep
  | consume record =>
    right
    rcases consume_cases c.queueCapacity s record with heq | heq | heq <;>
      simp only [step, heq] at hjob ⊢ <;> exact ⟨hjob, rfl⟩
  | drainDecisions => exact .inr ⟨hjob, rfl⟩
  | exchange outcome =>
    right
    simp only [step, exchange] at hjob ⊢
    split at hjob
    · rename_i job' hworker
      rw [outcome.next_job? job'] at hjob
      cases hjob
      simp [hworker, AiWorker.job?, isCurrent]
    · rename_i hno
      exact ⟨hjob, rfl⟩
  | worker =>
    have hmove := workerStep_move c s
    simp only [step] at hkeep hjob ⊢
    generalize (s.workerStep c).1 = s', (s.workerStep c).2 = output at *
    cases hmove with
    | take record rest hworker honline hflows =>
      cases hjob
      exact .inl (by simp [isCurrent, honline])
    | keep w hsame hheld hhonest => exact .inr ⟨hsame ▸ hjob, rfl⟩
    | idle w timeouts output hheld hheld' houtput =>
      rw [job?_of_held hheld'] at hjob
      cases hjob
    | fail job w hjob' hheld => cases hkeep
    | _ => cases hjob

/-! ## Runs -/

/-- What holds of a history and the fates of the records accepted in it. -/
structure Fated (c : AiClientParams Text) (s : AsyncAiClient Text) (h : List (AiTaken Text))
    (fate : Nat → Fate) : Prop where
  wellFormed : WellFormed c s
  notStarted : NotStarted s
  accounted : Accounted s (acceptedAt h) fate
  inFlight : ∀ x ∈ acceptedAt h, fate x.1 = .inFlight → ∀ job, s.worker.job? = some job →
    s.isCurrent job = true ∨ BrokenSince h x.1
  discarded : ∀ x ∈ acceptedAt h, fate x.1 = .discarded → BrokenSince h x.1

theorem initial_fated (c : AiClientParams Text) (fate : Nat → Fate) : Fated c initial [] fate where
  wellFormed := initial_wellFormed c
  notStarted _ _ := rfl
  accounted := ⟨rfl, rfl, rfl, rfl, rfl, rfl⟩
  inFlight := by simp [acceptedAt, positionsOf]
  discarded := by simp [acceptedAt, positionsOf]

theorem acceptedAt_snoc (h : List (AiTaken Text)) (x : AiTaken Text) :
    acceptedAt (h ++ [x]) = acceptedAt h ++ ((accepted? x).map (h.length, ·)).toList :=
  positionsOf_snoc accepted? h x

theorem acceptedAt_lt {h : List (AiTaken Text)} {x : Nat × FlowRecord Float}
    (hx : x ∈ acceptedAt h) : x.1 < h.length :=
  position_lt hx

/-- How the fates change in a step: as `FateStep` allows, and a new record is queued. -/
structure FatesStep (c : AiClientParams Text) (h : List (AiTaken Text)) (x : AiTaken Text)
    (fate fate' : Nat → Fate) : Prop where
  old : ∀ p < h.length,
    FateStep x.before (step c x.before x.event).1 (breaks x = true) (fate p) (fate' p)
  new : accepted? x ≠ none → fate' h.length = .queued

section Step

variable {h : List (AiTaken Text)} {fate : Nat → Fate} {action : AiAction Text}

/-- Some fates match the state behind an action. -/
def HasNext (c : AiClientParams Text) (s : AsyncAiClient Text) (h : List (AiTaken Text))
    (fate : Nat → Fate) (action : AiAction Text) : Prop :=
  ∃ fate', Accounted (step c s action).1
      (acceptedAt (h ++ [⟨s, action, (step c s action).2⟩])) fate' ∧
    FatesStep c h ⟨s, action, (step c s action).2⟩ fate fate'

theorem hasNext_stay (hno : accepted? ⟨s, action, (step c s action).2⟩ = none)
    (hnext : Accounted (step c s action).1 (acceptedAt h) fate) : HasNext c s h fate action := by
  refine ⟨fate, ?_, fun p _ => .same _, fun hsome => absurd hno hsome⟩
  rw [acceptedAt_snoc, hno]
  simpa using hnext

theorem Accounted.hasNext_clear (hacc : Accounted s (acceptedAt h) fate)
    (hno : accepted? ⟨s, action, (step c s action).2⟩ = none)
    (hbreaks : breaks ⟨s, action, (step c s action).2⟩ = true)
    (hflows : (step c s action).1.pendingFlows = [])
    (hworker : (step c s action).1.worker = s.worker)
    (hstats : (step c s action).1.stats = s.stats) : HasNext c s h fate action := by
  refine ⟨relabel .queued .discarded fate, ?_, ?_, fun hsome => absurd hno hsome⟩
  · rw [acceptedAt_snoc, hno]
    simpa using hacc.clear hflows hworker hstats
  · exact fun p _ => fateStep_relabel (.clear _ (by simp [Fate.Final]) hbreaks) p

/-- **The fates go on to match the state behind every action.** -/
theorem Fated.hasNext (hfated : Fated c s h fate) (action : AiAction Text) :
    HasNext c s h fate action := by
  have hacc := hfated.accounted
  cases action with
  | start =>
    refine hasNext_stay rfl ?_
    simp only [step, start]
    split
    · exact hacc
    · rename_i hno
      simp only [Bool.or_eq_true, not_or, Bool.not_eq_true] at hno
      have hheld : s.worker.held = [] := by
        rw [hfated.notStarted hno.1 hno.2]
        rfl
      exact { hacc with inFlight := hacc.inFlight.trans hheld }
  | setOnline endpoint modelVersion =>
    cases hstop : s.stopRequested with
    | true =>
      have hsame : s.setOnline endpoint modelVersion = s := by simp [setOnline, hstop]
      refine hasNext_stay rfl ?_
      rw [step, hsame]
      exact hacc
    | false =>
      refine hacc.hasNext_clear rfl rfl ?_ ?_ ?_ <;> simp [step, setOnline, hstop]
  | setOffline => exact hacc.hasNext_clear rfl rfl rfl rfl rfl
  | stop => exact hacc.hasNext_clear rfl rfl rfl rfl rfl
  | consume record =>
    rcases consume_cases c.queueCapacity s record with heq | heq | heq
    · refine ⟨Function.update fate h.length .queued, ?_, fun p hp => ?_, fun _ => ?_⟩
      · rw [acceptedAt_snoc]
        simp only [step, heq, accepted?, Option.map_some, Option.toList_some]
        exact hacc.accept (fun x hx => Nat.ne_of_lt (acceptedAt_lt hx)) record
      · rw [Function.update_of_ne (Nat.ne_of_lt hp)]
        exact .same _
      · exact Function.update_self _ _ _
    · refine hasNext_stay (by simp [step, heq, accepted?]) ?_
      simp only [step, heq]
      exact { hacc with }
    · refine hasNext_stay (by simp [step, heq, accepted?]) ?_
      simp only [step, heq]
      exact { hacc with }
  | drainDecisions => exact hasNext_stay rfl { hacc with }
  | exchange outcome =>
    refine hasNext_stay rfl ?_
    simp only [step, exchange]
    split
    · rename_i job hworker
      have hheld : (outcome.next job).held = s.worker.held := by
        rw [held_eq (outcome.next_job? job), hworker]
        rfl
      exact { hacc with inFlight := hacc.inFlight.trans hheld.symm }
    · exact hacc
  | worker =>
    obtain ⟨fate', hnext, hsteps⟩ :=
      hacc.workerMove (positionsOf_nodup _ _) hfated.wellFormed (workerStep_move c s)
    have hlog : acceptedAt (h ++ [⟨s, .worker, (s.workerStep c).2⟩]) = acceptedAt h := by
      simp [acceptedAt_snoc, accepted?]
    refine ⟨fate', hlog.symm ▸ hnext, fun p _ => ?_, fun hsome => ?_⟩
    · have hbreaks : breaks ⟨s, .worker, (s.workerStep c).2⟩ = true ↔
          (s.workerStep c).2 = .transportFailed := by
        cases houtput : (s.workerStep c).2 <;> simp [breaks]
      simpa only [step, hbreaks] using hsteps p
    · simp [accepted?] at hsome

theorem mem_acceptedAt_snoc {x : Nat × FlowRecord Float} {y : AiTaken Text}
    (hx : x ∈ acceptedAt (h ++ [y])) :
    x ∈ acceptedAt h ∨ x.1 = h.length ∧ accepted? y = some x.2 := by
  rw [acceptedAt_snoc, List.mem_append, Option.mem_toList, Option.map_eq_some_iff] at hx
  rcases hx with hold | ⟨record, hrecord, rfl⟩
  · exact .inl hold
  · exact .inr ⟨rfl, hrecord⟩

theorem Fated.step (hfated : Fated c s h fate) (action : AiAction Text) :
    ∃ fate', Fated c (step c s action).1 (h ++ [⟨s, action, (step c s action).2⟩]) fate' ∧
      FatesStep c h ⟨s, action, (step c s action).2⟩ fate fate' := by
  obtain ⟨fate', hacc, hsteps⟩ := hfated.hasNext action
  refine ⟨fate', ?_, hsteps⟩
  refine ⟨step_wellFormed hfated.wellFormed action, step_notStarted c hfated.notStarted action,
    hacc, fun x hx hflight job hjob => ?_, fun x hx hdiscarded => ?_⟩
  · rcases mem_acceptedAt_snoc hx with hold | ⟨hlast, hnew⟩
    · cases hbreaks : breaks ⟨s, action, (AsyncAiClient.step c s action).2⟩ with
      | true => exact .inr (brokenSince_last (acceptedAt_lt hold) hbreaks)
      | false =>
        have hfate := hsteps.old x.1 (acceptedAt_lt hold)
        rw [hflight] at hfate
        rcases step_job hbreaks hjob with hcurrent | ⟨hjob', hcurrent⟩
        · exact .inl hcurrent
        · -- the job was there before, so the record was in flight before
          generalize hprev : fate x.1 = f at hfate
          cases hfate with
          | same => 
            rw [hcurrent]
            exact (hfated.inFlight x hold hprev job hjob').imp_right (·.snoc _)
          | take job' hjob'' hnow =>
            rw [hjob''] at hjob
            cases hjob
            exact .inl hnow
          | count f hf => simp at hf
    · have hqueued := hsteps.new (by rw [hnew]; exact Option.some_ne_none _)
      rw [hlast] at hflight
      rw [hflight] at hqueued
      cases hqueued
  · rcases mem_acceptedAt_snoc hx with hold | ⟨hlast, hnew⟩
    · have hfate := hsteps.old x.1 (acceptedAt_lt hold)
      rw [hdiscarded] at hfate
      generalize hprev : fate x.1 = f at hfate
      cases hfate with
      | same => exact (hfated.discarded x hold hprev).snoc _
      | count f hf => simp at hf
      | drop job hjob hstale =>
        rcases hfated.inFlight x hold hprev job hjob with hcurrent | hbroken
        · simp only [isCurrent, Bool.and_eq_true] at hcurrent
          rcases hstale with hstop | hstale
          · rw [hfated.wellFormed.stopped hstop] at hcurrent
            cases hcurrent.1
          · simp [isCurrent, hcurrent.1, hcurrent.2] at hstale
        · exact hbroken.snoc _
      | clear f hf hbroken => exact brokenSince_last (acceptedAt_lt hold) hbroken
    · have hqueued := hsteps.new (by rw [hnew]; exact Option.some_ne_none _)
      rw [hlast] at hdiscarded
      rw [hdiscarded] at hqueued
      cases hqueued

end Step

/-- The fates of the accepted records along a run. -/
structure Outcomes (c : AiClientParams Text) (actions : List (AiAction Text))
    (fate : Nat → Nat → Fate) : Prop where
  /-- At any time each record has the fate that the queue, the worker and the counters show. -/
  accounted : ∀ n, Accounted (reached c (actions.take n))
    (acceptedAt (history c (actions.take n))) (fate n)
  queued : ∀ x ∈ acceptedAt (history c actions), fate (x.1 + 1) x.1 = .queued
  final : ∀ p n m, p < n → n ≤ m → m ≤ actions.length → (fate n p).Final → fate m p = fate n p
  /-- A record counted as an anomaly is the record of a decision that is queued. -/
  delivered : ∀ n < actions.length, ∀ x ∈ acceptedAt (history c (actions.take n)),
    fate n x.1 ≠ .anomaly → fate (n + 1) x.1 = .anomaly →
    ∃ decision : AiDecision Float, decision.record = x.2 ∧
      (reached c (actions.take (n + 1))).pendingDecisions =
        (reached c (actions.take n)).pendingDecisions ++ [decision]
  discarded : ∀ n, ∀ x ∈ acceptedAt (history c (actions.take n)), fate n x.1 = .discarded →
    ∃ i y, x.1 < i ∧ i < n ∧ (history c actions)[i]? = some y ∧ breaks y = true

/-- A final fate stays. -/
theorem final_of_steps {actions : List (AiAction Text)} {fate : Nat → Nat → Fate}
    (hsteps : ∀ n x, (history c actions)[n]? = some x →
      FatesStep c ((history c actions).take n) x (fate n) (fate (n + 1))) {p n m : Nat}
    (hp : p < n) (hnm : n ≤ m) (hm : m ≤ actions.length) (hfinal : (fate n p).Final) :
    fate m p = fate n p := by
  induction m, hnm using Nat.le_induction with
  | base => rfl
  | succ m hnm ih =>
    have hlength : (history c actions).length = actions.length := length_trace _ _
    have hlt : m < (history c actions).length := by omega
    have hsame := ih (by omega)
    have hstep := (hsteps m _ (List.getElem?_eq_getElem hlt)).old p (by
      rw [List.length_take]
      omega)
    rw [← hsame] at hfinal ⊢
    exact hstep.of_final hfinal

/-- The step at position `n` counts a record as an anomaly only when it queues a decision
about this record. -/
theorem delivered_of_step {fate fate' : Nat → Fate} {log : List (Nat × FlowRecord Float)}
    {broken : Prop} (hacc : Accounted s log fate) {x : Nat × FlowRecord Float} (hx : x ∈ log)
    (hstep : FateStep s s' broken (fate x.1) (fate' x.1)) (hold : fate x.1 ≠ .anomaly)
    (hnew : fate' x.1 = .anomaly) :
    ∃ decision : AiDecision Float, decision.record = x.2 ∧
      s'.pendingDecisions = s.pendingDecisions ++ [decision] := by
  rw [hnew] at hstep
  generalize hprev : fate x.1 = f at hstep hold
  cases hstep with
  | same => exact absurd rfl hold
  | count f hf => simp at hf
  | deliver decision hheld hqueued =>
    refine ⟨decision, ?_, hqueued⟩
    have hmem : x.2 ∈ s.worker.held := by
      rw [← hacc.inFlight]
      exact List.mem_map_of_mem (mem_withFate.mpr ⟨hx, hprev⟩)
    rw [hheld, List.mem_singleton] at hmem
    exact hmem.symm

/-- **Every run has the outcomes of its accepted records.** -/
theorem exists_outcomes (c : AiClientParams Text) (actions : List (AiAction Text)) :
    ∃ fate, Outcomes c actions fate := by
  obtain ⟨fate, -, hfated, hsteps⟩ := exists_ghost (Fated c) (FatesStep c)
    (fun _ _ action _ hfated => hfated.step action) actions (initial_fated c fun _ => .queued)
  simp only [List.nil_append] at hfated hsteps
  have htake (n : Nat) : history c (actions.take n) = (history c actions).take n :=
    trace_take _ _ _
  refine ⟨fate, fun n => (hfated n).accounted, fun x hx => ?_,
    fun p n m hp hnm hm hfinal => final_of_steps hsteps hp hnm hm hfinal,
    fun n hn x hx hold hnew => ?_, fun n x hx hdiscarded => ?_⟩
  · obtain ⟨y, hy, haccepted⟩ := mem_positionsOf.mp hx
    have hqueued := (hsteps x.1 y hy).new (by rw [haccepted]; exact Option.some_ne_none _)
    have hposition : ((history c actions).take x.1).length = x.1 :=
      List.length_take_of_le (Nat.le_of_lt (acceptedAt_lt hx))
    rwa [← history, hposition] at hqueued
  · have haction : actions[n]? = some actions[n] := List.getElem?_eq_getElem hn
    have hstep := hsteps n _ (by rw [trace_getElem?, haction]; rfl)
    rw [reached, reached, exec_take_succ haction]
    refine delivered_of_step (hfated n).accounted hx (hstep.old x.1 ?_) hold hnew
    have hlt := acceptedAt_lt hx
    rwa [htake] at hlt
  · obtain ⟨i, y, hp, hy, hbreaks⟩ := (hfated n).discarded x hx hdiscarded
    rw [trace_take, List.getElem?_take] at hy
    split at hy
    · exact ⟨i, y, hp, ‹_›, hy, hbreaks⟩
    · cases hy

/-- **Every accepted record has exactly one outcome.** Each call of `consume` counts once and
returns true exactly when the record is submitted; on any interleaving the submitted records
have fates, whose final ones stay, and a record is discarded only when its connection was
broken after it was accepted. -/
theorem one_outcome (c : AiClientParams Text) (actions : List (AiAction Text)) :
    (∀ (s : AsyncAiClient Text) (record : FlowRecord Float),
      let (s', accepted) := s.consume c.queueCapacity record
      (accepted = true ∧ s'.stats = { s.stats with submitted := s.stats.submitted + 1 }) ∨
        (accepted = false ∧
          (s'.stats = { s.stats with unavailableDropped := s.stats.unavailableDropped + 1 } ∨
            s'.stats = { s.stats with queueFullDropped := s.stats.queueFullDropped + 1 }))) ∧
    ∃ fate, Outcomes c actions fate := by
  refine ⟨fun s record => ?_, exists_outcomes c actions⟩
  rcases consume_cases c.queueCapacity s record with heq | heq | heq <;> rw [heq]
  · exact .inl ⟨rfl, rfl⟩
  · exact .inr ⟨rfl, .inl rfl⟩
  · exact .inr ⟨rfl, .inr rfl⟩

end InlineIps.AsyncAiClient
