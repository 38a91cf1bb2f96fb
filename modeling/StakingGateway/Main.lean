import StakingGateway.Gateway

/-!
The command line: reads the settings and all of the standard input, and writes the replies.
-/

namespace StakingGateway.CommandLine

def settingNames : List String :=
  ["CHAIN_RPC_URLS", "PRIVATE_KEY", "PORT", "RECEIPT_TIMEOUT_SECS", "RECEIPT_POLL_INTERVAL_MS",
    "MCP_MODE"]

/-- The words of a file of definitions, any of which may name a variable. -/
def wordsOf (file : String) : List String :=
  (file.toList.splitOnP fun c => !(c.isAlphanum || c = '_' || c = '.')).map String.ofList

def readVariables (names : List String) : IO Settings.EnvFile.Variables := do
  let found ← names.mapM fun name => do
    return (← IO.getEnv name).map fun value => (name, value)
  return found.filterMap id

def readFile? (path : String) : IO (Option String) := do
  try
    return some (← IO.FS.readFile path)
  catch _ =>
    return none

/-- All bytes of a stream. -/
partial def readAll (stream : IO.FS.Stream) (begun : ByteArray) : IO ByteArray := do
  let chunk ← stream.read 65536
  if chunk.isEmpty then return begun else readAll stream (begun ++ chunk)

end StakingGateway.CommandLine

open StakingGateway StakingGateway.CommandLine in
def main (arguments : List String) : IO UInt32 := do
  let file ← readFile? ".env"
  let environment ← readVariables (settingNames ++ wordsOf (file.getD ""))
  let input ← readAll (← IO.getStdin) ByteArray.empty
  let stdout ← IO.getStdout
  for line in Gateway.outputLines arguments environment file input.toList do
    stdout.putStrLn line
  stdout.flush
  return 0
