import InlineIps.Ai.FlowRecord
import InlineIps.App.AiProcessSupervisor
import InlineIps.Common.FiveTuple

/-!
# The tray icon

`TrayController` shows the state of the AI process as the colour and the tool tip of an icon, and
two kinds of messages. On a desktop without a tray it does nothing.
-/

namespace InlineIps

/-- A `QColor` by its components. -/
structure QColor where
  red : Nat
  green : Nat
  blue : Nat
  deriving DecidableEq

def stateColor : AiState → QColor
  | .online => ⟨46, 204, 113⟩
  | .disabled | .offline => ⟨241, 196, 15⟩
  | .starting | .restartWait | .stopping => ⟨128, 128, 128⟩

/-- A call of `showMessage`. -/
structure TrayMessage where
  title : String
  body : String
  deriving DecidableEq

/-- `shown` are the messages so far. -/
structure TrayController where
  available : Bool
  offlineShown : Bool := false
  icon : QColor := stateColor .starting
  toolTip : String := "IPS - AI 시작 전"
  shown : List TrayMessage := []
  deriving DecidableEq

/-- The title of a message about a block. -/
def aiBlockTitle : String := "AI 이상 Flow 탐지"

/-- The title of a message about the end of the AI process. -/
def aiOfflineTitle : String := "AI 오프라인"

/-- `number` is `QString::number` with six digits. -/
def aiBlockMessage (number : Float → String) (event : AiBlockEvent Float) : TrayMessage where
  title := aiBlockTitle
  body := ipToString event.sourceIp ++ "의 종료된 Flow를 이상으로 판정했습니다.\n이후 수신 패킷을 " ++
    toString event.ttlSeconds ++ "초 동안 차단합니다.\nscore=" ++ number event.score ++
    ", threshold=" ++ number event.threshold

namespace TrayController

def setAiState (tray : TrayController) (state : AiState) (detail : String) : TrayController :=
  if !tray.available then tray
  else
    { tray with
      offlineShown := if state = .online then false else tray.offlineShown
      icon := stateColor state
      toolTip := "IPS - " ++ detail }

def showAiBlock (number : Float → String) (tray : TrayController) (event : AiBlockEvent Float) :
    TrayController :=
  if !tray.available then tray
  else { tray with shown := tray.shown ++ [aiBlockMessage number event] }

def showAiOffline (tray : TrayController) (reason : String) : TrayController :=
  if !tray.available || tray.offlineShown then tray
  else { tray with offlineShown := true, shown := tray.shown ++ [⟨aiOfflineTitle, reason⟩] }

/-- The messages about blocks, in order. -/
def blocksShown (tray : TrayController) : List TrayMessage :=
  tray.shown.filter (·.title = aiBlockTitle)

/-- The messages about the end of the AI process, in order. -/
def offlinesShown (tray : TrayController) : List TrayMessage :=
  tray.shown.filter (·.title = aiOfflineTitle)

section Lemmas

variable (tray : TrayController) (state : AiState) (detail reason : String)
  (number : Float → String) (event : AiBlockEvent Float)

@[simp] theorem available_setAiState : (tray.setAiState state detail).available = tray.available := by
  unfold setAiState
  split <;> rfl

@[simp] theorem shown_setAiState : (tray.setAiState state detail).shown = tray.shown := by
  unfold setAiState
  split <;> rfl

@[simp] theorem available_showAiOffline : (tray.showAiOffline reason).available = tray.available := by
  unfold showAiOffline
  split <;> rfl

@[simp] theorem blocksShown_setAiState : (tray.setAiState state detail).blocksShown = tray.blocksShown := by
  unfold blocksShown
  rw [shown_setAiState]

@[simp] theorem offlinesShown_setAiState :
    (tray.setAiState state detail).offlinesShown = tray.offlinesShown := by
  unfold offlinesShown
  rw [shown_setAiState]

@[simp] theorem blocksShown_showAiOffline :
    (tray.showAiOffline reason).blocksShown = tray.blocksShown := by
  unfold showAiOffline
  split
  · rfl
  · simp [blocksShown, aiOfflineTitle, aiBlockTitle]

@[simp] theorem offlinesShown_showAiBlock :
    (tray.showAiBlock number event).offlinesShown = tray.offlinesShown := by
  unfold showAiBlock
  split
  · rfl
  · simp [offlinesShown, aiBlockMessage, aiOfflineTitle, aiBlockTitle]

end Lemmas

end TrayController

end InlineIps
