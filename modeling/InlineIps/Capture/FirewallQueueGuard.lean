import InlineIps.Library.Interruptible
import InlineIps.Library.Table

/-!
# The firewall rules

`FirewallQueueGuard` sends INPUT and OUTPUT to its own chain, which passes packets to the
queue. The firewall is a table of chains of rules, changed by single `iptables` commands.
-/

namespace InlineIps

open Library Library.Interruptible

inductive RuleTarget where
  | chain (name : String)
  | nfqueue (queueNum : UInt16) (queueBypass : Bool)
  | ret
  | other (spec : String)
  deriving DecidableEq

structure FirewallRule where
  matchSpec : String := ""
  comment : Option String := none
  target : RuleTarget
  deriving DecidableEq

abbrev Firewall := Table String (List FirewallRule)

/-- The `iptables` commands that the guard uses. -/
inductive IptablesCommand where
  /-- `-n -L chain`. -/
  | list (chain : String)
  /-- `-C chain rule`. -/
  | check (chain : String) (rule : FirewallRule)
  /-- `-D chain rule`. -/
  | delete (chain : String) (rule : FirewallRule)
  /-- `-A chain rule`. -/
  | append (chain : String) (rule : FirewallRule)
  /-- `-I chain 1 rule`. -/
  | insert (chain : String) (rule : FirewallRule)
  /-- `-N chain`. -/
  | newChain (chain : String)
  /-- `-F chain`. -/
  | flush (chain : String)
  /-- `-X chain`. -/
  | deleteChain (chain : String)

namespace Firewall

/-- The chain that a rule jumps to exists. -/
def hasTarget (fw : Firewall) (rule : FirewallRule) : Bool :=
  match rule.target with
  | .chain name => (fw.lookup name).isSome
  | _ => true

/-- A rule of some chain jumps to the chain. -/
def references (fw : Firewall) (chain : String) : Bool :=
  fw.entries.any fun entry => entry.2.any fun rule => rule.target = .chain chain

/-- A command on the rules of an existing chain. -/
def onChain (fw : Firewall) (chain : String) (f : List FirewallRule → Int × Firewall) :
    Int × Firewall :=
  match fw.lookup chain with
  | none => (1, fw)
  | some rules => f rules

/-- The exit status of a command and the firewall behind it. -/
def exec (command : IptablesCommand) (fw : Firewall) : Int × Firewall :=
  match command with
  | .list chain => fw.onChain chain fun _ => (0, fw)
  | .check chain rule => fw.onChain chain fun rules => (if rule ∈ rules then 0 else 1, fw)
  | .delete chain rule => fw.onChain chain fun rules =>
    if rule ∈ rules then (0, fw.assign chain (rules.erase rule)) else (1, fw)
  | .append chain rule => fw.onChain chain fun rules =>
    if fw.hasTarget rule then (0, fw.assign chain (rules ++ [rule])) else (2, fw)
  | .insert chain rule => fw.onChain chain fun rules =>
    if fw.hasTarget rule then (0, fw.assign chain (rule :: rules)) else (2, fw)
  | .newChain chain =>
    match fw.lookup chain with
    | none => (0, fw.assign chain [])
    | some _ => (1, fw)
  | .flush chain => fw.onChain chain fun _ => (0, fw.assign chain [])
  | .deleteChain chain => fw.onChain chain fun rules =>
    if rules = [] ∧ fw.references chain = false then (0, fw.erase chain) else (1, fw)

end Firewall

abbrev Iptables := Interruptible Firewall

/-- The exit status. A query that fails does not answer. -/
def runIptables : IptablesCommand → Iptables Int
  | .list chain => query fun fw => (Firewall.exec (.list chain) fw).1
  | .check chain rule => query fun fw => (Firewall.exec (.check chain rule) fw).1
  | command => Interruptible.command (Firewall.exec command)

def chainName : String := "IPS_WITH_AI"

def jumpRule : FirewallRule := { comment := some "ips-with-ai-managed", target := .chain chainName }

def ownerRule : FirewallRule := { comment := some "ips-with-ai-owned", target := .ret }

def queueRule (queueNum : UInt16) : FirewallRule := { target := .nfqueue queueNum true }

structure FirewallQueueGuard where
  queueNum : UInt16
  installed : Bool := false
  ownsChain : Bool := false

/-- A round of the loop of `remove_managed_jumps`. -/
def removeManagedJump (builtinChain : String) : Iptables (Option Bool) := do
  let checkStatus ← runIptables (.check builtinChain jumpRule)
  if checkStatus = 1 then pure (some true)
  else if checkStatus ≠ 0 then pure (some false)
  else do
    let deleteStatus ← runIptables (.delete builtinChain jumpRule)
    pure (if deleteStatus ≠ 0 then some false else none)

def removeManagedJumps (builtinChain : String) : Iptables Bool :=
  loop (removeManagedJump builtinChain)

namespace FirewallQueueGuard

/-- The part of `remove_chain` behind a failed `-X`. -/
def restoreOwnerMarker : Iptables Bool := do
  let remainingStatus ← runIptables (.list chainName)
  if remainingStatus = 1 then pure true
  else if remainingStatus ≠ 0 then pure false
  else do
    let _ ← runIptables (.append chainName ownerRule)
    pure false

/-- The part of `remove_chain` behind the checks. -/
def dismantle : Iptables Bool := do
  let inputRemoved ← removeManagedJumps "INPUT"
  if !inputRemoved then pure false
  else do
    let outputRemoved ← removeManagedJumps "OUTPUT"
    if !outputRemoved then pure false
    else do
      let flushStatus ← runIptables (.flush chainName)
      if flushStatus ≠ 0 then pure false
      else do
        let deleteStatus ← runIptables (.deleteChain chainName)
        if deleteStatus = 0 then pure true else restoreOwnerMarker

def removeChain (requireOwnerMarker : Bool) : Iptables Bool := do
  let chainStatus ← runIptables (.list chainName)
  if chainStatus = 1 then pure true
  else if chainStatus ≠ 0 then pure false
  else if requireOwnerMarker then do
    let ownerStatus ← runIptables (.check chainName ownerRule)
    if ownerStatus ≠ 0 then pure false else dismantle
  else dismantle

def removeOwnedChain : Iptables Bool := removeChain true

def removeCurrentChain (guard : FirewallQueueGuard) : Iptables (Bool × FirewallQueueGuard) := do
  let removed ← removeChain false
  pure (if removed then (true, { guard with ownsChain := false, installed := false })
    else (false, guard))

def rollback (guard : FirewallQueueGuard) : Iptables (Bool × FirewallQueueGuard) := do
  let (_, guard) ← guard.removeCurrentChain
  pure (false, guard)

/-- The part of `install` behind `-N`. -/
def register (guard : FirewallQueueGuard) : Iptables (Bool × FirewallQueueGuard) := do
  let queueStatus ← runIptables (.append chainName (queueRule guard.queueNum))
  if queueStatus ≠ 0 then guard.rollback
  else do
    let ownerStatus ← runIptables (.append chainName ownerRule)
    if ownerStatus ≠ 0 then guard.rollback
    else do
      let inputStatus ← runIptables (.insert "INPUT" jumpRule)
      if inputStatus ≠ 0 then guard.rollback
      else do
        let outputStatus ← runIptables (.insert "OUTPUT" jumpRule)
        if outputStatus ≠ 0 then guard.rollback
        else pure (true, { guard with installed := true })

/-- The part of `install` behind the removal of the guard's own chain. -/
def create (guard : FirewallQueueGuard) : Iptables (Bool × FirewallQueueGuard) := do
  let cleaned ← removeOwnedChain
  if !cleaned then pure (false, guard)
  else do
    let newStatus ← runIptables (.newChain chainName)
    if newStatus ≠ 0 then pure (false, guard)
    else register { guard with ownsChain := true }

def install (guard : FirewallQueueGuard) : Iptables (Bool × FirewallQueueGuard) :=
  if guard.installed then pure (true, guard)
  else if guard.ownsChain then do
    let (removed, guard) ← guard.removeCurrentChain
    if !removed then pure (false, guard) else guard.create
  else guard.create

def uninstall (guard : FirewallQueueGuard) : Iptables (Bool × FirewallQueueGuard) :=
  if !guard.ownsChain then pure (true, guard) else guard.removeCurrentChain

/-- The destructor. -/
def destroy (guard : FirewallQueueGuard) : Iptables Unit :=
  if guard.ownsChain then do
    let _ ← guard.removeCurrentChain
    pure ()
  else pure ()

/-- What the sensor does with its guard. -/
def session (queueNum : UInt16) : Iptables Unit := do
  let (installed, guard) ← install { queueNum }
  if !installed then guard.destroy
  else do
    let (_, guard) ← guard.uninstall
    guard.destroy

end FirewallQueueGuard

end InlineIps
