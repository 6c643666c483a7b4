import CacheSim.Decimal.Positional
import CacheSim.Scorer

/-!
# The catalogue of policies

Nine eviction policies can be chosen by name.  Some of them take parameters, which are checked
when the scorer is made.
-/

namespace CacheSim

/-- The policies that can be chosen by name. -/
inductive Policy where
  | lru
  | mru
  | fifo
  | lfu
  | lfuLru
  | percentileLfu
  | ghostLru
  | largestFirst
  | ageGated
  deriving DecidableEq

namespace Policy

/-- Every policy, in the order of the catalogue. -/
def all : List Policy :=
  [lru, mru, fifo, lfu, lfuLru, percentileLfu, ghostLru, largestFirst, ageGated]

/-- The name of a policy. -/
def name : Policy → String
  | lru => "lru"
  | mru => "mru"
  | fifo => "fifo"
  | lfu => "lfu"
  | lfuLru => "lfu-lru"
  | percentileLfu => "percentile-lfu"
  | ghostLru => "ghost-lru"
  | largestFirst => "largest-first"
  | ageGated => "age-gated"

/-- A further name under which a policy is known. -/
def alias? : Policy → Option String
  | lru => some "recency"
  | fifo => some "insertion-order"
  | lfu => some "frequency"
  | _ => none

/-- Whether a text is a name of the policy. -/
def isNamed (p : Policy) (text : String) : Bool :=
  p.name == text || p.alias? == some text

/-- The policy of a name. -/
def ofName? (text : String) : Option Policy :=
  all.find? (·.isNamed text)

/-- The policy of a name in which capital ASCII letters may stand for small ones.  The names
themselves are written in small letters. -/
def ofNameAnyCase? (text : String) : Option Policy :=
  ofName? (text.map Char.toLower)

/-- What is said about a text that is no name of a policy. -/
def unknownName (text : String) : String :=
  "invalid variant: " ++ text

end Policy

/-- A policy together with the parameters of all policies that have any. -/
structure PolicySettings where
  /-- The policy. -/
  policy : Policy := .lru
  /-- The percentile of counts that parts cold from warm objects. -/
  countPercentile : Float := 0.5
  /-- The percentile of ages from which on objects are evicted first. -/
  agePercentile : Float := 0.9
  /-- The bytes of evictions after which an object no longer counts as returning. -/
  ghostWindow : Option UInt64 := none

/-- Why a simulation cannot be set up. -/
inductive SetupError where
  /-- The ghosts have no bytes to live in. -/
  | noGhostBudget
  /-- A policy parameter is not a fraction. -/
  | badParameter (name : String) (value : Float)

namespace SetupError

/-- The text of the error. -/
def message : SetupError → String
  | noGhostBudget => "Eviction history budget must be positive, got 0 bytes"
  | badParameter name value =>
    "Policy parameter " ++ name ++ " out of range: " ++ Decimal.positional value

end SetupError

namespace PolicySettings

/-- A parameter, if it is a fraction. -/
def checkFraction (name : String) (value : Float) : Except SetupError Float :=
  if isFraction value then .ok value else .error (.badParameter name value)

/-- The scorer of a policy.  Only the parameter that the policy uses is checked. -/
def scorer (s : PolicySettings) : Except SetupError Scorer :=
  match s.policy with
  | .lru => .ok .lru
  | .mru => .ok .mru
  | .fifo => .ok .fifo
  | .lfu => .ok .lfu
  | .lfuLru => .ok .lfuLru
  | .percentileLfu => Scorer.percentileLfu <$> checkFraction "percentile" s.countPercentile
  | .ghostLru => .ok (.ghostLru s.ghostWindow)
  | .largestFirst => .ok .largestFirst
  | .ageGated => Scorer.ageGated <$> checkFraction "age_percentile" s.agePercentile

end PolicySettings

end CacheSim
