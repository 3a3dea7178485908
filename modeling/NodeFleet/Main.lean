/-
  The command line: reads the environment and the nearest file of settings, and prints what the
  command leaves behind.
-/
import NodeFleet.Command

open NodeFleet

/-- The variables that the command knows. -/
def knownVariables : List String :=
  ["ETHEREUM_CHAIN", "ETHEREUM_RPC_NODES", "ETHEREUM_BROADCAST_NODES", "EXPLORER_API_KEY",
   "GAS_PRICE_FEED_URL", "LOG_LEVEL"]

/-- Everything in a file of settings that can be the name of a variable. -/
def mentionedVariables (file : String) : List String :=
  let isNameChar (c : Char) : Bool := c.isAlphanum || c == '_' || c == '.'
  ((file.map fun c => if isNameChar c then c else ' ').splitOn " ").filter (!·.isEmpty)

/-- The file of settings in this directory or the nearest one above it. -/
def findSettings : Nat → String → IO (Option String)
  | 0, _ => return none
  | n + 1, directory => do
    match ← (IO.FS.readFile (directory ++ ".env")).toBaseIO with
    | .ok file => return some file
    | .error _ => findSettings n (directory ++ "../")

def readVariable (name : String) : IO (Option (String × Bytes)) := do
  return (← IO.getEnv name).map fun value => (name, Utf8.encode value)

def main (args : List String) : IO UInt32 := do
  let settings ← findSettings 64 ""
  let names := (knownVariables ++ mentionedVariables (settings.getD "")).eraseDups
  let env ← names.filterMapM readVariable
  let outcome := Command.run args env settings
  IO.print outcome.output
  if let some line := outcome.errorLine then IO.eprintln line
  return UInt32.ofNat outcome.code
