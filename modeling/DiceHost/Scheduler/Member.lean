/-
Registered dice.

* `Member`: a registered die with its pending jobs and the marks of its session;
* `Report`: what a session has achieved;
* `Member.confirm`, `Member.settle`: a member after a session, its record and its standing.
-/
import DiceHost.Scheduler.Config
import DiceHost.Scheduler.Event

namespace DiceHost.Scheduler

open Link

/-- The data set of a profile, to be written to a die. -/
structure Program where
  profile : Uuid
  bytes : List UInt8
  hash : UInt32
deriving DecidableEq, Repr

/-- A data set to be written, with the number of the request for it. -/
structure ProfileJob where
  program : Program
  seq : Nat
deriving DecidableEq, Repr

/-- A firmware update to be written, with the number of the request for it. -/
structure FirmwareJob where
  image : FirmwareImage
  seq : Nat
deriving DecidableEq, Repr

/-- A registered die. -/
structure Member where
  peripheral : Peripheral
  state : DieState := .idle
  /-- The failures in a row. -/
  attempts : UInt32 := 0
  profileJob : Option ProfileJob := none
  firmwareJob : Option FirmwareJob := none
  /-- Whether a session is running. -/
  inFlight : Bool := false
  /-- Whether the die is to be forgotten when its session ends. -/
  removed : Bool := false
  /-- The priority asked for while a session was running. -/
  requeueAfter : Option Priority := none
  /-- The number of the wait for an attempt; a timer of an earlier one has no effect. -/
  backoffEpoch : Nat := 0
  /-- Whether the session may write firmware. -/
  dfuReserved : Bool := false
deriving DecidableEq, Repr

namespace Member

/-- Whether something is to be written. -/
def hasJobs (m : Member) : Bool :=
  m.profileJob.isSome || m.firmwareJob.isSome

/-- Whether nothing but firmware is to be written. -/
def hasFirmwareOnly (m : Member) : Bool :=
  m.profileJob.isNone && m.firmwareJob.isSome

/-- What is shown of a member: its record, and where it stands, in one object. -/
def toJson (m : Member) : Json :=
  let attempts := ("attempts", Json.nat m.attempts.toNat)
  .obj (("peripheral", m.peripheral.toJson)
    :: (m.state.fields.filter (·.1 ≠ "attempts")
      ++ [attempts, ("pending_profile", .opt (·.program.profile.toJson) m.profileJob),
        ("pending_firmware", .bool m.firmwareJob.isSome)]))

end Member

/-! ### The end of a session -/

/-- What a session has achieved. -/
structure Report where
  /-- The data set that the die has confirmed. -/
  profile : Option (ProfileJob × Outcome) := none
  /-- The update of which the die has confirmed every image. -/
  firmware : Option FirmwareJob := none
  /-- The transfer that failed; there is none after it. -/
  error : Option (PayloadKind × TransferError) := none
deriving DecidableEq, Repr

/-- The events of what the die has confirmed. -/
def Report.events (r : Report) (p : PixelId) : List Event :=
  let profile := match r.profile with
    | none => []
    | some (job, .transferred) => [.profileProgrammed p job.program.profile job.program.hash]
    | some (job, .alreadyUpToDate) => [.profileUpToDate p job.program.profile job.program.hash]
  let firmware := match r.firmware with
    | none => []
    | some job => [.firmwareUpdated p job.image.timestamp]
  profile ++ firmware

/-- What the die has confirmed, on its record; a job that was asked for last is done. -/
def Member.confirm (m : Member) (r : Report) : Member :=
  let m := match r.profile with
    | none => m
    | some (job, _) =>
      { m with
        peripheral := { m.peripheral with
          profileHash := some job.program.hash
          profile := some job.program.profile }
        profileJob := m.profileJob.filter (·.seq ≠ job.seq) }
  match r.firmware with
  | none => m
  | some job =>
    { m with
      peripheral := { m.peripheral with firmware := some job.image.timestamp }
      firmwareJob := m.firmwareJob.filter (·.seq ≠ job.seq) }

/-- The member after the failure of its session, or its success; a transfer that broke off
asks for another session at high priority. -/
def Member.settle (m : Member) (c : Config) (p : PixelId)
    (error : Option (PayloadKind × TransferError)) :
    Member × List Event × Option Priority :=
  match error with
  | none => ({ m with attempts := 0 }, [], none)
  | some (kind, e) =>
    if e.isRetryable then
      let attempts := m.attempts + 1
      let told := Event.transferIncomplete p kind attempts e
      if c.maxRetries < attempts then
        ({ m with attempts, state := .failed attempts true },
          [told, .gaveUp p attempts (.transfer e)], none)
      else ({ m with attempts }, [told], some .high)
    else
      let m := match kind with
        | .dataSet => { m with profileJob := none }
        | .firmware | .bootloader => { m with firmwareJob := none }
      ({ m with attempts := 0 }, [.transferFailed p kind e], none)

end DiceHost.Scheduler
