import GeoChain.CommandLine.Arguments
import GeoChain.CommandLine.Run

/-!
# The program

Reads arguments and environment, runs the action, prints what it leaves behind, and exits with one
for a failure and with two for wrong arguments. No network is attached: a backend that is asked for
is unreachable.
-/

namespace GeoChain

namespace CommandLine

def usageText : String :=
  "Usage: openeo-actinia [OPTIONS] <processes|compile>\n\n" ++
  "Compiles openEO process graphs into actinia process chains\n\n" ++
  "  processes                    Lists the descriptions of all available processes as JSON\n" ++
  "  compile [--submit] <PATH>    Compiles a process graph (a file, or - for stdin)\n\n" ++
  "Options:\n" ++
  "  --max-depth <NUMBER>         Maximum nesting depth of a process graph [default: 64]\n" ++
  "  --sequential-ids             Number steps instead of using random step ids\n" ++
  "  --discover                   Register the modules that the backend lists as processes\n" ++
  "  --actinia-url <URL>          Base URL of the actinia REST API\n" ++
  "  --actinia-user <NAME>        User name for HTTP basic authentication\n" ++
  "  --actinia-password <TEXT>    Password for HTTP basic authentication\n" ++
  "  --http-timeout <SECONDS>     HTTP request timeout in seconds [default: 30]\n" ++
  "  --http-user-agent <TEXT>     User-Agent header to send with requests\n" ++
  "  -h, --help                   Print help\n" ++
  "  -V, --version                Print version"

def decodeText (bytes : ByteArray) : Except String String :=
  match String.fromUTF8? bytes with
  | some text => .ok text
  | none => .error "stream did not contain valid UTF-8"

partial def readAll (stream : IO.FS.Stream) (read : ByteArray) : IO ByteArray := do
  let part ← stream.read 65536
  if part.isEmpty then return read
  readAll stream (read ++ part)

/-- The text of a graph, or why it cannot be read. -/
def readSource (source : GraphSource) : IO (Except String String) := do
  try
    match source with
    | .input => return decodeText (← readAll (← IO.getStdin) .empty)
    | .file path => return decodeText (← IO.FS.readBinFile path)
  catch error => return .error (toString error)

/-- The variables that stand for options, as they are now. -/
def readEnvironment : IO Given.Environment := do
  let names := ValueOption.all.map ValueOption.environmentName ++
    Switch.all.map Switch.environmentName
  let found ← names.mapM fun name => do return (name, ← IO.getEnv name)
  return fun name => (found.find? (fun entry => entry.1 = name)).bind (·.2)

def surroundings : IO (Surroundings IO) := do
  let seed ← IO.getRandomBytes 16
  let identifiers := Uuid.random seed.toList
  return {
    read := readSource
    send := fun _ => return .error .unreachable
    stepIds := fun index => identifiers (index + 1)
    reportId := identifiers 0 }

def finish (outcome : Outcome) : IO UInt32 := do
  IO.print outcome.output
  match outcome.failure with
  | some failure => IO.eprintln ("Error: " ++ failure.message)
  | none => pure ()
  return UInt32.ofNat outcome.exitCode

end CommandLine

end GeoChain

open GeoChain CommandLine in
def main (arguments : List String) : IO UInt32 := do
  match Options.read (← readEnvironment) arguments with
  | .ok options => finish (← run (← surroundings) options)
  | .error .help => do
    IO.println usageText
    return 0
  | .error .version => do
    IO.println versionText
    return 0
  | .error .usage => do
    IO.eprintln usageText
    return 2
