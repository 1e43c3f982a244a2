/-
The program.

It starts the service of a configuration file, or compiles one profile and prints its
data set. It listens nowhere: once the service is ready, it ends.
-/
import DiceHost.CommandLine.Run

namespace DiceHost.CommandLine

/-- The text for help. -/
def help : String :=
  "\n".intercalate
    ["Usage: pixelsd [OPTIONS]", "", "Options:",
      "  -c, --config <FILE>      Configuration file [default: pixelsd.toml]",
      "  -b, --bind <ADDRESS>     Address to listen at",
      "  -l, --log-level <LEVEL>  trace, debug, info, warn or error [default: info]",
      "      --compile <UUID>     Compile one profile, print its data set and exit",
      "  -h, --help               Print help",
      "  -V, --version            Print version"]

/-- What is read from a file, unless the file is missing. -/
def ifThere {α : Type} (read : IO α) : IO (Option α) :=
  try some <$> read
  catch
    | .noFileOrDirectory .. => return none
    | e => throw e

/-- Files on disk. -/
def disk : Files IO where
  text path := ifThere (IO.FS.readFile path)
  bytes path := ifThere (ByteArray.toList <$> IO.FS.readBinFile path)

/-- What an outcome prints. -/
def Outcome.print : Outcome → IO Unit
  | .stopped .usage => IO.eprintln help
  | .stopped .help => IO.println help
  | .stopped .version => IO.println "pixelsd 0.1.0"
  | .printed _ document => IO.println (String.ofList document.pretty)
  | .failed e => IO.eprint e.text
  | .ready s => IO.eprintln ("Error: cannot listen at " ++ s.settings.bind)

end DiceHost.CommandLine

/-- Runs the program with its arguments. -/
def main (args : List String) : IO UInt32 := do
  let outcome ← DiceHost.CommandLine.run DiceHost.CommandLine.disk args
  outcome.print
  return outcome.code
