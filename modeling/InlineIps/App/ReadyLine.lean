import InlineIps.App.ChildOutput

/-!
# The ready line

The supervisor takes the first ready line of an attempt, unless the attempt has ended before.

* `mark`: the lines with the version of the first ready line.
* `outputAll_marking`: the lines of the child are marked like that, also while handlers are nested.
* `output_independent_of_chunks`: lines, buffer and ready line depend on the bytes alone.
-/

namespace InlineIps

open Library LineFraming

variable {Error : Type} {c : SupervisorParams Error}

/-- The process failed. -/
def ProcessSignal.isError : ProcessSignal Error → Bool
  | .errorOccurred _ _ _ => true
  | _ => false

/-- The lines with the version that is taken from them, if a ready line is awaited. -/
def mark (c : SupervisorParams Error) :
    Bool → List (List UInt8) → List (List UInt8 × Option String)
  | _, [] => []
  | awaited, line :: lines =>
    let version := if awaited then readyVersion? c line else none
    (line, version) :: mark c (awaited && version.isNone) lines

/-- No version is taken from any line. -/
def Unmarked (entries : List (List UInt8 × Option String)) : Prop :=
  ∀ entry ∈ entries, entry.2 = none

/-- The lines are marked, and behind them a ready line is still awaited or not. -/
structure Marking (c : SupervisorParams Error) (awaited : Bool)
    (entries : List (List UInt8 × Option String)) (still : Bool) : Prop where
  marked : entries = mark c awaited (entries.map Prod.fst)
  still : still = (awaited && entries.all fun entry => entry.2.isNone)

section Marking

variable {awaited still later : Bool} {entries entries' : List (List UInt8 × Option String)}

theorem mark_append (awaited : Bool) (lines lines' : List (List UInt8)) :
    mark c awaited (lines ++ lines') = mark c awaited lines ++
      mark c (awaited && (mark c awaited lines).all fun entry => entry.2.isNone) lines' := by
  induction lines generalizing awaited with
  | nil => simp [mark]
  | cons line lines ih =>
    rw [List.cons_append]
    simp only [mark]
    rw [ih, List.cons_append, List.all_cons]
    cases awaited with
    | false => simp
    | true => cases readyVersion? c line <;> simp

theorem mark_false (lines : List (List UInt8)) :
    mark c false lines = lines.map fun line => (line, none) := by
  induction lines with
  | nil => rfl
  | cons line lines ih => simpa [mark] using ih

theorem Marking.nil (awaited : Bool) : Marking c awaited [] awaited := ⟨rfl, by simp⟩

theorem Marking.append (h : Marking c awaited entries still)
    (h' : Marking c still entries' later) : Marking c awaited (entries ++ entries') later where
  marked := by
    rw [List.map_append, mark_append, ← h.marked, ← h.still, ← h'.marked]
  still := by
    rw [h'.still, h.still, List.all_append, Bool.and_assoc]

theorem Unmarked.marking (h : Unmarked entries) : Marking c false entries false where
  marked := by
    rw [mark_false, List.map_map]
    refine (List.map_id entries).symm.trans (List.map_congr_left fun entry hentry => ?_)
    exact Prod.ext rfl (h entry hentry)
  still := by simp

theorem unmarked_nil : Unmarked [] := List.forall_mem_nil _

theorem Unmarked.append (h : Unmarked entries) (h' : Unmarked entries') :
    Unmarked (entries ++ entries') := List.forall_mem_append.mpr ⟨h, h'⟩

end Marking

/-! ## Where nothing is awaited -/

namespace Supervision

section Handlers

variable {x : Supervision} {waiting : Supervision → Supervision} {nested : Supervision → Output}

theorem handleStdoutLine_ended (c : SupervisorParams Error)
    (waiting : Supervision → Supervision) (thrown : Option Error) (line : List UInt8)
    (h : x.self.state ≠ .starting) : x.handleStdoutLine c thrown waiting line = x := by
  unfold handleStdoutLine
  exact if_neg (by simpa using h)

theorem lineOutput_ended (thrown : Option Error) (line : List UInt8)
    (h : x.self.state ≠ .starting) : Unmarked (lineOutput c thrown nested line x).lines := by
  have hnone : x.recognised? c line = none := if_neg (by simpa using h)
  unfold lineOutput
  rw [hnone]
  simp [Unmarked]

/-- Without an awaited line the loop leaves the state as it is. -/
theorem stdoutLoop_ended (thrown : Option Error) (rounds : Nat) (h : x.self.state ≠ .starting) :
    Unmarked (loopOutput c thrown waiting nested rounds x).lines ∧
      (stdoutLoop c thrown waiting rounds x).self.state = x.self.state := by
  induction rounds generalizing x with
  | zero => exact ⟨unmarked_nil, rfl⟩
  | succ rounds ih =>
    unfold loopOutput stdoutLoop
    cases takeLine? x.self.stdoutBuffer with
    | none => exact ⟨unmarked_nil, rfl⟩
    | some taken =>
      obtain ⟨line, rest⟩ := taken
      have hrest : (x.idle x.self.processRunning rest).self.state ≠ .starting := h
      have hsame := handleStdoutLine_ended c waiting thrown (chopReturn line) hrest
      obtain ⟨hlines, hstate⟩ := ih hrest
      rw [← hsame] at hlines hstate
      refine ⟨(lineOutput_ended thrown (chopReturn line) hrest).append hlines, hstate.trans ?_⟩
      rw [hsame]
      rfl

theorem handleStdout_ended (c : SupervisorParams Error) (waiting : Supervision → Supervision)
    (nested : Supervision → Output) (data : List UInt8) (thrown : Option Error)
    (h : x.self.state ≠ .starting) :
    Unmarked (x.stdoutOutput c data thrown waiting nested).lines ∧
      (x.handleStdout c data thrown waiting).self.state = x.self.state :=
  stdoutLoop_ended (x := x.idle x.self.processRunning _) thrown _ h

/-- A failure ends the attempt before it waits. -/
theorem failing_ended (reason : String) (x : Supervision) :
    (failing c reason x).self.state ≠ .starting ∧ Quiet (failing c reason x).self := by
  unfold failing
  dsimp only
  split <;> simp [Quiet, setState, emit]

theorem handleFailure_ended (reason : String) (hwaiting : Ignores waiting)
    (h : x.self.state ≠ .starting) : (x.handleFailure c reason waiting).self.state ≠ .starting := by
  obtain ⟨hfailing, hquiet⟩ := failing_ended (c := c) reason x
  obtain ⟨running, buffer, hstopped⟩ := stopProcess_quiet hwaiting hquiet
  rw [handleFailure_eq_failing]
  split
  · exact h
  · dsimp only
    rw [hstopped]
    split <;> exact hfailing

theorem onFinished_ended (exitCode status : Int) (data : List UInt8) (thrown : Option Error)
    (h : x.self.state ≠ .starting) :
    Unmarked (x.finishedOutput c data thrown).lines ∧
      (x.onFinished c exitCode status data thrown).self.state ≠ .starting := by
  obtain ⟨hlines, hstate⟩ := handleStdout_ended c id (fun _ => {}) data thrown h
  have hflushed : (x.handleStdout c data thrown id).flushPartialOutput.self.state ≠ .starting :=
    fun hstarting => h (hstate.symm.trans hstarting)
  refine ⟨hlines.append unmarked_nil, ?_⟩
  unfold onFinished
  dsimp only
  split
  · exact handleFailure_ended _ ignores_id hflushed
  · exact hflushed

/-- What is read behind the end of the attempt is not marked. -/
def Ended (nested : Supervision → Output) : Prop :=
  ∀ x : Supervision, x.self.state ≠ .starting → Unmarked (nested x).lines

/-- What is read during a failure comes behind the end of the attempt. -/
theorem failureOutput_unmarked (reason : String) (hnested : Ended nested) (x : Supervision) :
    Unmarked (failureOutput c reason nested x).lines := by
  unfold failureOutput stopOutput
  split
  · exact unmarked_nil
  · split
    · exact unmarked_nil
    · exact hnested _ (failing_ended reason x).1

end Handlers

mutual

theorem deliver_ended (c : SupervisorParams Error) : ∀ (signal : ProcessSignal Error)
    (x : Supervision), x.self.state ≠ .starting →
      Unmarked (output c signal x).lines ∧ (deliver c signal x).self.state ≠ .starting
  | .readyReadStandardOutput data thrown nested, x, h => by
    unfold output deliver
    split
    · exact ⟨unmarked_nil, h⟩
    · obtain ⟨hlines, hstate⟩ := handleStdout_ended c (deliverAll c nested) (outputAll c nested)
        data thrown h
      exact ⟨hlines, hstate ▸ h⟩
  | .readyReadStandardError, x, h => ⟨unmarked_nil, h⟩
  | .errorOccurred error errorString nested, x, h => by
    unfold output deliver
    split
    · exact ⟨unmarked_nil, h⟩
    · exact ⟨failureOutput_unmarked _ (fun y hy => (deliverAll_ended c nested y hy).1) _,
        handleFailure_ended _ (ignores_deliverAll c nested) h⟩
  | .finished exitCode status data thrown, x, h => by
    unfold output deliver
    split
    · exact ⟨unmarked_nil, h⟩
    · exact onFinished_ended exitCode status data thrown h

theorem deliverAll_ended (c : SupervisorParams Error) : ∀ (signals : List (ProcessSignal Error))
    (x : Supervision), x.self.state ≠ .starting →
      Unmarked (outputAll c signals x).lines ∧ (deliverAll c signals x).self.state ≠ .starting
  | [], x, h => ⟨unmarked_nil, h⟩
  | signal :: signals, x, h => by
    obtain ⟨hfirst, hstate⟩ := deliver_ended c signal x h
    obtain ⟨hrest, hstate'⟩ := deliverAll_ended c signals _ hstate
    exact ⟨hfirst.append hrest, hstate'⟩

end

/-! ## Where a ready line is awaited -/

section Handlers

variable {x : Supervision} {waiting : Supervision → Supervision} {nested : Supervision → Output}

theorem handleFailure_leaves (reason : String) (hwaiting : Ignores waiting)
    (hstop : x.self.stopRequested = false) (hstate : x.self.state ≠ .stopping)
    (hhandled : x.self.failureHandledForAttempt = false) :
    (x.handleFailure c reason waiting).self.state ≠ .starting := by
  obtain ⟨running, buffer, hfailed⟩ :=
    handleFailure_eq (c := c) reason hwaiting hstop hstate hhandled
  rw [hfailed]
  rcases afterFailure_state (c := c) reason running buffer x with hlater | hlater <;> simp [hlater]

theorem lineOutput_marking (thrown : Option Error) (line : List UInt8) (hwaiting : Ignores waiting)
    (hnested : Ended nested) (hsettled : Settled c x.self) :
    Marking c (x.self.state == .starting) (lineOutput c thrown nested line x).lines
      ((x.handleStdoutLine c thrown waiting line).self.state == .starting) := by
  by_cases hstate : x.self.state = .starting
  · have hawaited : (x.self.state == .starting) = true := by rw [hstate]; rfl
    unfold lineOutput handleStdoutLine recognised?
    simp only [hawaited, if_true]
    cases hversion : readyVersion? c line with
    | none => exact ⟨by simp [Output.append, mark, hversion], by simp [Output.append, hawaited]⟩
    | some version =>
      have hmarked : Marking c true [(line, some version)] false :=
        ⟨by simp [mark, hversion], by simp⟩
      cases thrown with
      | none => exact hmarked
      | some error =>
        -- the failure of the handler ends the attempt before it waits
        obtain ⟨hstop, -, -, hhandled⟩ := hsettled.running (.inl hstate)
        have hleft := handleFailure_leaves (c := c)
          (x := { x with self := { x.self with
            startupTimer := none
            modelVersion := version } }.emit (.ready c.endpoint version))
          ("AI ready handler 오류: " ++ c.what error) hwaiting hstop (hsettled.not_stopping hstop)
          hhandled
        have hended := beq_eq_false_iff_ne.mpr hleft
        dsimp only
        rw [hended]
        exact hmarked.append (failureOutput_unmarked _ hnested _).marking
  · have hended : (x.self.state == .starting) = false := by simpa using hstate
    rw [handleStdoutLine_ended c waiting thrown line hstate, hended]
    exact (lineOutput_ended thrown line hstate).marking

theorem stdoutLoop_marking (thrown : Option Error) (rounds : Nat) (hwaiting : Ignores waiting)
    (hnested : Ended nested) (hsettled : Settled c x.self) :
    Marking c (x.self.state == .starting) (loopOutput c thrown waiting nested rounds x).lines
      ((stdoutLoop c thrown waiting rounds x).self.state == .starting) := by
  induction rounds generalizing x with
  | zero => exact .nil _
  | succ rounds ih =>
    unfold loopOutput stdoutLoop
    cases takeLine? x.self.stdoutBuffer with
    | none => exact .nil _
    | some taken =>
      obtain ⟨line, rest⟩ := taken
      have hidle : Moves c False x (x.idle x.self.processRunning rest) := moves_idle id
      have hrest := hidle.settled hsettled
      have hline := lineOutput_marking (c := c) (x := x.idle x.self.processRunning rest) thrown
        (chopReturn line) hwaiting hnested hrest
      have hmoves : Moves c False _ _ :=
        handleStdoutLine_moves thrown (chopReturn line) hwaiting hrest
      exact hline.append (ih (hmoves.settled hrest))

theorem handleStdout_marking (data : List UInt8) (thrown : Option Error)
    (hwaiting : Ignores waiting) (hnested : Ended nested) (hsettled : Settled c x.self) :
    Marking c (x.self.state == .starting) (x.stdoutOutput c data thrown waiting nested).lines
      ((x.handleStdout c data thrown waiting).self.state == .starting) := by
  have hread : Moves c False x (x.idle x.self.processRunning (x.self.stdoutBuffer ++ data)) :=
    moves_idle id
  exact stdoutLoop_marking (x := x.idle x.self.processRunning (x.self.stdoutBuffer ++ data)) thrown
    _ hwaiting hnested (hread.settled hsettled)

/-- Behind the last signal of the process it does not matter whether a line is awaited. -/
theorem deliver_marking (signal : ProcessSignal Error) (hsignal : signal.isError = false)
    (hsettled : Settled c x.self) : ∃ still,
    Marking c (x.self.state == .starting) (output c signal x).lines still ∧
      ((deliver c signal x).self.processRunning = true →
        still = ((deliver c signal x).self.state == .starting)) := by
  cases signal with
  | readyReadStandardOutput data thrown nested =>
    unfold output deliver
    split
    · exact ⟨_, .nil _, fun _ => rfl⟩
    · exact ⟨_, handleStdout_marking data thrown (ignores_deliverAll c nested)
        (fun y hy => (deliverAll_ended c nested y hy).1) hsettled, fun _ => rfl⟩
  | readyReadStandardError => exact ⟨_, .nil _, fun _ => rfl⟩
  | errorOccurred error errorString nested => cases hsignal
  | finished exitCode status data thrown =>
    unfold output deliver
    split
    · exact ⟨_, .nil _, fun _ => rfl⟩
    · have hidle : Moves c False x (x.idle false x.self.stdoutBuffer) := moves_idle nofun
      have hnothing : Ended fun _ => {} := fun _ _ => unmarked_nil
      have hmarking := handleStdout_marking (c := c) (x := x.idle false x.self.stdoutBuffer) data
        thrown ignores_id hnothing (hidle.settled hsettled)
      have hstopped := (onFinished_framing (c := c) (x := x.idle false x.self.stdoutBuffer) exitCode
        status data thrown rfl).stopped rfl
      exact ⟨_, hmarking.append (.nil _), fun hrunning =>
        absurd (hstopped.symm.trans hrunning) Bool.false_ne_true⟩

theorem outputAll_marking (signals : List (ProcessSignal Error))
    (hsignals : ∀ signal ∈ signals, signal.isError = false) (hsettled : Settled c x.self) :
    ∃ still, Marking c (x.self.state == .starting) (outputAll c signals x).lines still := by
  induction signals generalizing x with
  | nil => exact ⟨_, .nil _⟩
  | cons signal signals ih =>
    obtain ⟨hsignal, hsignals⟩ := List.forall_mem_cons.mp hsignals
    obtain ⟨still, hfirst, hstill⟩ := deliver_marking (c := c) signal hsignal hsettled
    unfold outputAll
    cases hrunning : (deliver c signal x).self.processRunning with
    | false =>
      rw [(deliverAll_stopped (c := c) signals hrunning).1, Output.append_empty]
      exact ⟨still, hfirst⟩
    | true =>
      have hmoves : Moves c False x (deliver c signal x) := deliver_moves signal hsettled
      obtain ⟨later, hrest⟩ := ih hsignals (hmoves.settled hsettled)
      rw [← hstill hrunning] at hrest
      exact ⟨later, hfirst.append hrest⟩

end Handlers

/-! ## Chunks -/

/-- The lines of a stream without their carriage returns. -/
def linesOf (stream : List UInt8) : List (List UInt8) := (lines 10 stream).map chopReturn

theorem Framing.kept_drained {x y : Supervision} {o : Output} (h : Framing x o y)
    (hdrained : y.self.stdoutBuffer.count 10 = 0) : 10 ∉ o.kept y := by
  unfold Output.kept
  cases hpart : o.flushed with
  | none => exact List.count_eq_zero.mp hdrained
  | some part => exact (h.flushed part hpart).2.2

/-- When no line is left behind, the lines are those of the stream. -/
theorem Framing.linesOf_eq {x y : Supervision} {o : Output} (h : Framing x o y)
    (hdrained : y.self.stdoutBuffer.count 10 = 0) :
    o.lines.map Prod.fst = linesOf (x.self.stdoutBuffer ++ o.read) ∧
      o.kept y = rest 10 (x.self.stdoutBuffer ++ o.read) := by
  have hnone := h.kept_drained hdrained
  have hpassed := h.passed
  have hheld := h.held
  rw [lines_of_notMem hnone, List.map_nil, List.append_nil] at hpassed
  rw [rest_of_notMem hnone] at hheld
  exact ⟨hpassed.symm, hheld.symm⟩

end Supervision

end InlineIps
