/-
The arguments of the command line.

* `Arguments`: what the arguments ask for;
* `Arguments.parse`: the reading of the arguments from left to right; the first one that
  is wrong, or that asks for help or the version, ends it.

An option has a long and perhaps a short name. Its value follows after an equals sign, as
the rest of a short option, or as the next argument, if that does not look like an option.
-/
import DiceHost.Uuid

namespace DiceHost.CommandLine

/-- What the arguments ask for. -/
structure Arguments where
  /-- The path of the configuration file. -/
  config : String := "pixelsd.toml"
  /-- The address to listen at, in place of the one of the settings. -/
  bind : Option String := none
  logLevel : String := "info"
  /-- The profile to be compiled, instead of listening. -/
  compile : Option Uuid := none

/-- Why the program ends after its arguments were read. -/
inductive Stop where
  /-- The arguments are wrong. -/
  | usage
  /-- Help is asked for. -/
  | help
  /-- The version is asked for. -/
  | version
deriving DecidableEq, Repr

/-- The options. -/
inductive Key where
  | config
  | bind
  | logLevel
  | compile
deriving DecidableEq, Repr

/-- One argument: an option perhaps with its value, or a reason to stop. -/
inductive Argument where
  | key (k : Key) (value : Option (List Char))
  | stop (s : Stop)

namespace Argument

/-- The option of a long name. -/
def longKey? : String → Option Key
  | "config" => some .config
  | "bind" => some .bind
  | "log-level" => some .logLevel
  | "compile" => some .compile
  | _ => none

/-- The option of a short name. -/
def shortKey? : Char → Option Key
  | 'c' => some .config
  | 'b' => some .bind
  | 'l' => some .logLevel
  | _ => none

/-- A long option, without the hyphens before it. -/
def ofLong (cs : List Char) : Argument :=
  let name := String.ofList (cs.takeWhile (· ≠ '='))
  let value := (cs.dropWhile (· ≠ '=')).tail?
  match longKey? name with
  | some k => key k value
  | none =>
    if value.isSome then stop .usage
    else if name = "help" then stop .help
    else if name = "version" then stop .version
    else stop .usage

/-- A short option and what follows it. -/
def ofShort (c : Char) (cs : List Char) : Argument :=
  match shortKey? c with
  | some k =>
    key k <| match cs with
      | [] => none
      | '=' :: value => some value
      | value => some value
  | none => if c = 'h' then stop .help else if c = 'V' then stop .version else stop .usage

/-- The meaning of an argument; one that is no option is wrong. -/
def ofText (arg : String) : Argument :=
  match arg.toList with
  | '-' :: '-' :: cs => ofLong cs
  | '-' :: c :: cs => ofShort c cs
  | _ => stop .usage

/-- Whether an argument may be the value of the option before it. -/
def isValue (arg : String) : Bool :=
  match arg.toList with
  | '-' :: _ :: _ => false
  | _ => true

end Argument

namespace Arguments

/-- The arguments with the value of an option; none if it cannot be its value. -/
def set (a : Arguments) (k : Key) (value : String) : Option Arguments :=
  match k with
  | .config => if value = "" then none else some { a with config := value }
  | .bind => some { a with bind := some value }
  | .logLevel => some { a with logLevel := value }
  | .compile => (Uuid.parse? value).map fun u => { a with compile := some u }

/-- The arguments after some others, where some options were given. None is given twice. -/
def parseFrom (a : Arguments) (given : List Key) : List String → Except Stop Arguments
  | [] => .ok a
  | arg :: rest =>
    if arg = "--" then if rest.isEmpty then .ok a else .error .usage
    else
      match Argument.ofText arg with
      | .stop s => .error s
      | .key k (some value) =>
        match if k ∈ given then none else a.set k (String.ofList value) with
        | some a => parseFrom a (k :: given) rest
        | none => .error .usage
      | .key k none =>
        match rest with
        | [] => .error .usage
        | value :: rest =>
          match if k ∈ given || !Argument.isValue value then none else a.set k value with
          | some a => parseFrom a (k :: given) rest
          | none => .error .usage

/-- What the arguments ask for. -/
def parse (args : List String) : Except Stop Arguments :=
  parseFrom {} [] args

/-- Whether nothing is logged beside warnings and errors. -/
def isQuiet (a : Arguments) : Bool :=
  let level := a.logLevel.map Char.toLower
  level = "warn" || level = "error"

end Arguments

end DiceHost.CommandLine
