/-
  The command: analyses one transaction and prints the analysis.

  * `Command.analyze`: reads the configuration, then the hash, then sets up the fleet; what
    fails first is reported.
  * `Command.run`: what is printed, and with what code the command ends.
-/
import NodeFleet.Analysis.Document
import NodeFleet.Analyzer
import NodeFleet.Remote
import NodeFleet.Text.Quoted

namespace NodeFleet

/-- Why the command does not get to analysing. -/
inductive CommandError where
  | config (e : ConfigError)
  | validation (e : ValidationError)
  | parse (e : ParseError)

namespace CommandError

/-- The error with its text in quotes. -/
def spelled : CommandError → String
  | .config e => "Config(" ++ Text.quoted e.message ++ ")"
  | .validation e => "Validation(" ++ Text.quoted e.message ++ ")"
  | .parse e => "Parse(" ++ Text.quoted e.message ++ ")"

end CommandError

/-- What a command leaves behind. -/
structure CommandOutcome where
  code : Nat
  output : String
  /-- The last line about an error. -/
  errorLine : Option String

namespace Command

/-- The analysis of the hash that is the first argument, by the fleet that the environment and a
    file of settings describe. -/
def analyze (args : List String) (env : Environment) (settings : Option String) :
    Except CommandError Analysis := do
  let config ← (Config.load settings env).mapError .config
  let hash ← match args with
    | [] => .error (.validation .usage)
    | text :: _ => (Hash.parse text).mapError (.parse ∘ .transactionHash)
  let client ← config.client?.mapError .config
  return ((client.analyze .empty hash).run .start).1

def run (args : List String) (env : Environment) (settings : Option String) : CommandOutcome :=
  match analyze args env settings with
  | .ok a => ⟨0, a.toJson.pretty ++ "\n", none⟩
  | .error e => ⟨1, "", some ("Error: " ++ e.spelled)⟩

end Command

end NodeFleet
