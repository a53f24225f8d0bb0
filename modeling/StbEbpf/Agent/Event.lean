import StbEbpf.Lib.Decimal

/-!
The record `output.Event` that all collectors write. A Go string is any byte sequence; a `float64` is carried as its
bits.
-/

namespace StbEbpf.Agent
open CText

/-- A `time.Time`: the instant, and the offset of its zone in seconds east of UTC. -/
structure Time where
  seconds : Int
  nanos : Fin 1000000000
  zone : Int := 0
  deriving DecidableEq, Repr

/-- `time.Unix(seconds, 0)` in UTC. -/
def Time.unix (seconds : Int) : Time := { seconds, nanos := ⟨0, Nat.zero_lt_succ _⟩ }

structure Event where
  timestamp : Time
  probeId : Bytes := []
  category : Bytes := []
  eventType : Bytes := []
  srcIp : Bytes := []
  dstIp : Bytes := []
  srcPort : UInt16 := 0
  dstPort : UInt16 := 0
  protocol : Bytes := []
  bytes : UInt64 := 0
  packets : UInt64 := 0
  latencyMs : UInt64 := 0
  service : Bytes := []
  details : Bytes := []
  tags : Bytes := []
  tenantId : Bytes := []
  clusterId : Bytes := []
  deriving DecidableEq, Repr

end StbEbpf.Agent
