/-!
# Requests
-/

namespace CacheSim

/-- One request of a trace. -/
structure Request where
  /-- The time of the request in the trace.  Simulations have a clock of their own and do not use
  it. -/
  time : UInt64
  /-- The requested object. -/
  id : UInt64
  /-- The size of the object in bytes. -/
  size : UInt64
  deriving DecidableEq

end CacheSim
