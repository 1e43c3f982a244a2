/-
What the program does for its arguments.

* `Files`: how files are read; where they are read from is left open;
* `Outcome`: how the program ends, or that it is ready to listen;
* `run`: the outcome for some arguments.
-/
import DiceHost.CommandLine.Arguments
import DiceHost.Service.Respond

namespace DiceHost.CommandLine

open Service

/-- How files are read; a file may be missing. -/
structure Files (m : Type → Type) where
  text : String → m (Option String)
  bytes : String → m (Option (List UInt8))

/-! ### Outcomes -/

/-- Why the program fails. -/
inductive Failure where
  /-- The configuration file does not follow its grammar. -/
  | settings
  | start (e : StartError)
  | compile (e : DataSet.CompileError)
  | view (e : DataSet.ViewError)
  /-- The address is not one. -/
  | address
  /-- The number after the last colon of the address is wrong. -/
  | addressNumber

namespace Failure

/-- The failure in words. -/
def message : Failure → String
  | settings => "invalid configuration"
  | start e => e.message
  | compile e => e.message
  | view e => e.message
  | address => "invalid socket address"
  | addressNumber => "invalid port value"

/-- What lies behind the failure, in words. -/
def cause? : Failure → Option String
  | start e => e.cause?
  | _ => none

/-- The text that tells of the failure. -/
def text (e : Failure) : String :=
  let cause := e.cause?.elim "" fun c => "\n\nCaused by:\n    " ++ c
  "Error: " ++ e.message ++ cause ++ "\n"

end Failure

/-- How the program ends. -/
inductive Outcome where
  /-- The arguments end it. -/
  | stopped (s : Stop)
  /-- A document is printed, with or without a log before it. -/
  | printed (isQuiet : Bool) (document : Json)
  | failed (e : Failure)
  /-- The service is ready to listen at an address. -/
  | ready (s : Service)

/-! ### Work -/

/-- A compiled data set as it is printed. -/
def report (c : DataSet.Compiled) : Except Failure Json := do
  let records ← (DataSet.Contents.parse c.bytes).mapError .view
  return Json.widen (.obj (dataSetSummary c ++ [remoteActions c, ("records", records.toJson)]))

/-- The library of a file; an empty one without a file. -/
def library (text : Option String) : Except Failure Library :=
  text.elim (.ok {}) fun text => (Library.load text).mapError fun e => .start (.library e)

/-- A profile is compiled and printed. -/
def compileProfile (s : Settings) (file : Option String) (u : Uuid) : Except Failure Json := do
  let c ← (DataSet.compileProfile u (← library file) s.compiler).mapError .compile
  report c

/-- Why nothing can listen at an address. -/
def addressFailure? (address : String) : Option Failure :=
  match (address.splitOn ":").reverse with
  | number :: _ :: _ =>
    let ds := match number.toList with
      | '+' :: ds => ds
      | ds => ds
    if ds.isEmpty || !ds.all Char.isDigit || UInt16.size ≤ Json.Node.digitsValue ds then some .addressNumber
    else none
  | _ => some .address

/-- The service is started, and its address looked at. -/
def serve (s : Settings) (sources : Sources) : Except Failure Service := do
  let service ← (Service.start s sources).mapError .start
  match addressFailure? s.bind with
  | some e => throw e
  | none => return service

/-- The outcome for some arguments. -/
def run {m : Type → Type} [Monad m] (files : Files m) (args : List String) : m Outcome := do
  match Arguments.parse args with
  | .error s => return .stopped s
  | .ok a =>
    match Settings.load (← files.text a.config) with
    | none => return .failed .settings
    | some settings =>
      let s := { settings with bind := a.bind.getD settings.bind }
      let text ← files.text s.libraryPath
      match a.compile with
      | some u =>
        match compileProfile s text u with
        | .error e => return .failed e
        | .ok document => return .printed a.isQuiet document
      | none =>
        let image (path : Option String) : m (Option (List UInt8)) :=
          path.elim (pure none) files.bytes
        let pairings ← files.text s.pairingPath
        let firmware ← image (s.firmware.map (·.firmware))
        let bootloader ← image (s.firmware.bind (·.bootloader))
        match serve s ⟨text, pairings, firmware, bootloader⟩ with
        | .error e => return .failed e
        | .ok service => return .ready service

/-- The exit code of an outcome; nothing listens, so a service that is ready ends too. -/
def Outcome.code : Outcome → UInt32
  | stopped .usage => 2
  | stopped _ | printed .. => 0
  | failed _ | ready _ => 1

end DiceHost.CommandLine
