import InlineIps.Ai.Contract
import InlineIps.App.ReadyLine
import InlineIps.Ml.SavedArtifacts

/-!
# The ready line of the server

`run` of the server prints one line when its artifacts are loaded and its socket is bound. The
supervisor reads it among the output of the child, in whatever chunks.

* `readyVersion?_readyMessage`: the supervisor takes the version of the line.
* `loaded_version_announced`: the ready handler is called once, with the version that was loaded.
-/

namespace InlineIps

open Library LineFraming Nlohmann Contract

namespace OnlineServer

/-- The message of `run`. -/
def readyMessage (artifacts : LoadedArtifacts) : PyValue :=
  .object [
    ("event", .string "AI_READY"),
    ("schema_version", .number (.int 1)),
    ("model_version", .string artifacts.modelVersion)]

/-- What `run` prints. -/
def readyOutput (dumps : PyValue → List UInt8) (artifacts : LoadedArtifacts) : List UInt8 :=
  dumps (readyMessage artifacts) ++ [10]

end OnlineServer

open OnlineServer

variable {Error : Type} {c : SupervisorParams Error}

theorem readyVersion?_readyMessage {artifacts : LoadedArtifacts} {line : List UInt8}
    (hparse : c.parse line = .ok (receivedReply (readyMessage artifacts)))
    (hversion : artifacts.modelVersion ≠ "") :
    readyVersion? c line = some artifacts.modelVersion := by
  have hevent : (receivedReply (readyMessage artifacts)).member? "event" =
      some (.string "AI_READY") := rfl
  have hschema : (receivedReply (readyMessage artifacts)).member? "schema_version" =
      some (.number (.unsigned 1)) := rfl
  have hmodel : (receivedReply (readyMessage artifacts)).member? "model_version" =
      some (.string artifacts.modelVersion) := rfl
  have hobject : isObject (receivedReply (readyMessage artifacts)) = true := rfl
  have hone : (JsonNumber.unsigned 1).toInt?.isSome = true ∧ (JsonNumber.unsigned 1).toInt32 = 1 := by
    decide
  unfold readyVersion?
  rw [hparse]
  simp only [hevent, hschema, hmodel, hobject]
  rw [if_pos ⟨trivial, hone.1, hone.2, hversion⟩]

/-! ## Lines before and behind -/

/-- Complete lines in front of a stream. -/
theorem lines_flatMap (before : List (List UInt8)) (hbefore : ∀ line ∈ before, 10 ∉ line)
    (stream : List UInt8) :
    lines 10 (before.flatMap (· ++ [10]) ++ stream) = before ++ lines 10 stream := by
  induction before with
  | nil => rfl
  | cons line before ih =>
    have hline : (line :: before).flatMap (· ++ [10]) ++ stream =
        line ++ 10 :: (before.flatMap (· ++ [10]) ++ stream) := by simp
    rw [hline, lines_cons (hbefore line List.mem_cons_self),
      ih fun l hl => hbefore l (List.mem_cons_of_mem _ hl), List.cons_append]

/-- The first line with a version is the one that is taken. -/
theorem mark_first {quiet more : List (List UInt8)} {line : List UInt8} {version : String}
    (hquiet : ∀ l ∈ quiet, readyVersion? c l = none) (hline : readyVersion? c line = some version) :
    (mark c true (quiet ++ line :: more)).filterMap Prod.snd = [version] := by
  induction quiet with
  | nil =>
    have hnone : (more.map fun l => (l, (none : Option String))).filterMap Prod.snd = [] := by
      rw [List.filterMap_map]
      exact List.filterMap_eq_nil_iff.mpr fun _ _ => rfl
    simp only [List.nil_append, mark, hline, if_true, Option.isNone_some, Bool.and_false, mark_false]
    rw [List.filterMap_cons, hnone]
  | cons l quiet ih =>
    have hl : readyVersion? c l = none := hquiet l List.mem_cons_self
    have hrest := ih fun k hk => hquiet k (List.mem_cons_of_mem _ hk)
    simp only [List.cons_append, mark, hl, if_true, Option.isNone_none, Bool.and_true]
    rw [List.filterMap_cons, hrest]

namespace Supervision

/-- The ready line behind complete lines is a line of its own. -/
theorem linesOf_readyOutput {dumps : PyValue → List UInt8} {artifacts : LoadedArtifacts}
    {before : List (List UInt8)} {after : List UInt8} (hbefore : ∀ line ∈ before, 10 ∉ line)
    (hline : 10 ∉ dumps (readyMessage artifacts))
    (hend : (dumps (readyMessage artifacts)).getLast? ≠ some 13) :
    linesOf (before.flatMap (· ++ [10]) ++ (readyOutput dumps artifacts ++ after)) =
      before.map chopReturn ++ dumps (readyMessage artifacts) :: linesOf after := by
  have hchop : chopReturn (dumps (readyMessage artifacts)) = dumps (readyMessage artifacts) := by
    unfold chopReturn
    rw [if_neg hend]
  have hready : readyOutput dumps artifacts ++ after =
      dumps (readyMessage artifacts) ++ 10 :: after := by simp [readyOutput]
  unfold linesOf
  rw [lines_flatMap before hbefore, hready, lines_cons hline, List.map_append, List.map_cons, hchop]

/-- **The version that is loaded is the one that is announced.** Artifacts that `load_artifacts`
returns are fit for the server, and when the supervisor waits for the server and reads its ready line,
in whatever chunks and behind whatever lines that are no ready lines, and no `errorOccurred` is among
the signals, the ready handler is called once, with the version of the metadata. -/
theorem loaded_version_announced {File Content : Type} (floatOfText : String → Except String Float)
    (libraries : Artifacts.Libraries Content) (store : Artifacts.FileStore File Content)
    (view : PathView) (cwd artifactDir : List Char) (artifacts : LoadedArtifacts)
    (hloaded : Artifacts.loadArtifacts floatOfText libraries store view cwd artifactDir true =
      .ok artifacts)
    (dumps : PyValue → List UInt8) (c : SupervisorParams Error)
    (hparse : c.parse (dumps (readyMessage artifacts)) = .ok (receivedReply (readyMessage artifacts)))
    (hline : 10 ∉ dumps (readyMessage artifacts))
    (hend : (dumps (readyMessage artifacts)).getLast? ≠ some 13)
    (events : List (SupervisorEvent Error)) (hstarting : (run c events).self.state = .starting)
    (signals : List (ProcessSignal Error)) (hsignals : ∀ signal ∈ signals, signal.isError = false)
    (before : List (List UInt8)) (after : List UInt8)
    (hbefore : ∀ line ∈ before, 10 ∉ line ∧ readyVersion? c (chopReturn line) = none)
    (hread : (run c events).self.stdoutBuffer ++ (outputAll c signals (run c events)).read =
      before.flatMap (· ++ [10]) ++ (readyOutput dumps artifacts ++ after)) :
    Artifacts.Fit artifacts ∧
      readyCalls (deliverAll c signals (run c events)).effects =
        readyCalls (run c events).effects ++ [artifacts.modelVersion] := by
  have hfit := Artifacts.loadArtifacts_fit hloaded
  refine ⟨hfit, ?_⟩
  have hreads := deliverAll_reads c signals (run c events)
  obtain ⟨still, hmarking⟩ := outputAll_marking signals hsignals (run_settled c events)
  have hdrained := deliverAll_drains c signals (run c events)
  rw [(run_framed c events).drained] at hdrained
  have hlines := (hreads.linesOf_eq (Nat.le_zero.mp hdrained)).1
  have hstream : linesOf ((run c events).self.stdoutBuffer ++
      (outputAll c signals (run c events)).read) =
      before.map chopReturn ++ dumps (readyMessage artifacts) :: linesOf after := by
    rw [hread]
    exact linesOf_readyOutput (fun line hmem => (hbefore line hmem).1) hline hend
  have hquiet : ∀ line ∈ before.map chopReturn, readyVersion? c line = none := by
    intro line hmem
    obtain ⟨raw, hraw, rfl⟩ := List.mem_map.mp hmem
    exact (hbefore raw hraw).2
  rw [hreads.calls, hmarking.marked, hlines, hstream, hstarting]
  congr 1
  exact mark_first hquiet (readyVersion?_readyMessage hparse hfit.modelVersion)

/-! The trained model of zeros. The server writes its ready line in two chunks. -/

open Artifacts in
theorem trainedStore_loaded (floatOfText : String → Except String Float) :
    loadArtifacts floatOfText writtenLibraries trainedStore trainedView "/".toList "/m".toList true =
      .ok trainedArtifacts := by
  have hlibraries := writtenLibraries_roundTrips
  have hfiles : ThreeFiles emptyStore "/m".toList := ⟨by decide, by decide, by decide⟩
  obtain ⟨hmodel, hscaler, hmetadata⟩ := read_saved writtenLibraries zeroTraining hfiles
  refine loadArtifacts_ok_iff.mpr ⟨"/m/autoencoder.pt".toList, "/m/scaler.npz".toList,
    "/m/metadata.json".toList, zeroTraining.model, by decide +kernel, ?_, ?_, ?_, rfl, rfl⟩
  · exact (loadMetadata_saved hlibraries.json hmetadata).mpr
      ⟨by decide, by decide +kernel, by decide +kernel, rfl⟩
  · exact (loadScaler_saved hlibraries hscaler).mpr zeroTraining_scales
  · exact (loadModel_saved hlibraries hmodel).mpr ⟨rfl, rfl⟩

def trainedParams : SupervisorParams Empty where
  config := {}
  endpoint := "ipc:///tmp/ips-with-ai-1.sock"
  parse _ := .ok (receivedReply (readyMessage Artifacts.trainedArtifacts))
  what error := error.elim

theorem loaded_version_announced_chunks :
    Artifacts.Fit Artifacts.trainedArtifacts ∧
      readyCalls (deliverAll trainedParams [
        .readyReadStandardOutput (readyText.take 20) none [],
        .readyReadStandardOutput (readyText.drop 20 ++ [10]) none []]
        (run trainedParams [.start ⟨none, true⟩ []])).effects =
      readyCalls (run trainedParams [.start ⟨none, true⟩ []]).effects ++ ["ae-v1"] :=
  loaded_version_announced .error Artifacts.writtenLibraries Artifacts.trainedStore
    Artifacts.trainedView "/".toList "/m".toList Artifacts.trainedArtifacts (trainedStore_loaded _)
    (fun _ => readyText) trainedParams rfl
    (by decide +kernel) (by decide +kernel) _ rfl _ (by simp [ProcessSignal.isError]) [] []
    (by simp) (by decide +kernel)

end Supervision

end InlineIps
