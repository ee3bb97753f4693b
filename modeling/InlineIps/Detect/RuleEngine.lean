import Mathlib.Data.Finset.Card
import InlineIps.Config.Config
import InlineIps.Flow.Flow

/-!
# The rules

A rule looks at the statistics of one source. The engine returns the first rule that
matches.
-/

namespace InlineIps

/-- The two rules and their thresholds. -/
inductive Rule
  | portScan (threshold : Nat)
  | synFlood (threshold : UInt32)
  deriving DecidableEq, Repr

namespace Rule

def name : Rule → String
  | portScan _ => "port_scan"
  | synFlood _ => "syn_flood"

def isMatch : Rule → SourceStats → Bool
  | portScan threshold, stats => threshold ≤ stats.recentDstPorts.card
  | synFlood threshold, stats => threshold ≤ stats.synCount

end Rule

namespace RuleEngine

/-- The rules in the order they are added. -/
def rules (config : Config) : List Rule :=
  [.portScan config.distinctPortThreshold, .synFlood config.synThreshold]

def check (rules : List Rule) (stats : SourceStats) : Option Rule :=
  rules.find? fun rule => rule.isMatch stats

/-- Some rule matches when one of the two thresholds is reached. -/
theorem check_rules_isSome (config : Config) (stats : SourceStats) :
    (check (rules config) stats).isSome = true ↔
      config.distinctPortThreshold ≤ stats.recentDstPorts.card ∨
        config.synThreshold ≤ stats.synCount := by
  simp [check, rules, Rule.isMatch]

end RuleEngine

end InlineIps
