/-
The settings of the scheduler.

* `Config`: the number of sessions, the number of failures that is tolerated, the delays
  between attempts, the size of blocks;
* `Config.backoff`: the delay after a failure, twice as long with each one, up to a limit.
-/
import DiceHost.Json.Record

namespace DiceHost.Scheduler

open Json

/-- The settings of the scheduler. -/
structure Config where
  /-- The most sessions at one time; zero is taken as one. -/
  maxConnections : Nat := 2
  /-- The failures after which a die is given up at the next one. -/
  maxRetries : UInt32 := 5
  /-- The delay after the first failure in milliseconds. -/
  backoffBase : UInt64 := 1000
  /-- The longest delay in milliseconds. -/
  maxBackoff : UInt64 := 30000
  /-- The most bytes of a block. -/
  chunkSize : Nat := 100
deriving DecidableEq, Repr

namespace Config

/-- The largest number of 64 bits. -/
def largest : Nat := UInt64.size - 1

/-- The delay after the failure of the given number in milliseconds. It is doubled at most
31 times, and a product beyond 64 bits counts as the largest number. -/
def backoff (c : Config) (attempt : UInt32) : Nat :=
  min (min (c.backoffBase.toNat * Nat.pow 2 (min (attempt.toNat - 1) 31)) largest) c.maxBackoff.toNat

/-- The number of sessions that may run at one time. -/
def slots (c : Config) : Nat :=
  max 1 c.maxConnections

/-- The settings as an object. -/
def toJson (c : Config) : Json :=
  .obj [("max_connections", .nat c.maxConnections), ("max_retries", .nat c.maxRetries.toNat),
    ("backoff_base_ms", .nat c.backoffBase.toNat), ("max_backoff_ms", .nat c.maxBackoff.toNat),
    ("chunk_size", .nat c.chunkSize)]

/-- The settings from an object; each has a default. -/
def record : Json.Record Config :=
  Config.mk <$> .defaulted "max_connections" Decoder.size 2
    <*> .defaulted "max_retries" Decoder.word32 5
    <*> .defaulted "backoff_base_ms" Decoder.word64 1000
    <*> .defaulted "max_backoff_ms" Decoder.word64 30000
    <*> .defaulted "chunk_size" Decoder.size 100

end Config

end DiceHost.Scheduler
