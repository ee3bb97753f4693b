/-!
# The configuration

The fields of the configuration that the packet pipeline and the supervisor of the AI process
read, with their defaults.
-/

namespace InlineIps

structure Config where
  blockTtlSeconds : Int := 600
  windowSeconds : Int := 10
  distinctPortThreshold : Nat := 20
  synThreshold : UInt32 := 100
  deriving DecidableEq, Repr

/-- The range check of `parse_config` on these fields. The block time and the window are an
`int`, the port threshold is at most the number of ports. -/
structure Config.InRange (config : Config) : Prop where
  blockTtl : 1 ≤ config.blockTtlSeconds ∧ config.blockTtlSeconds ≤ 2147483647
  window : 1 ≤ config.windowSeconds ∧ config.windowSeconds ≤ 2147483647
  distinctPorts : 1 ≤ config.distinctPortThreshold ∧ config.distinctPortThreshold ≤ 65536
  syns : 1 ≤ config.synThreshold

structure AiConfig where
  enabled : Bool := true
  startupTimeoutMs : Nat := 10000
  maxRestarts : Nat := 3
  restartResetSeconds : Nat := 60
  deriving DecidableEq, Repr

end InlineIps
