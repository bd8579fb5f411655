/-
  StakeRelay.Service.Arguments — what the relay service is started with.
-/

import StakeRelay.Operator.Options

namespace StakeRelay

open Operator

/-- What the service is started with. -/
structure ServiceArguments where
  /-- The file with the settings. -/
  settingsFile : String
  /-- How much is logged, in place of the setting. -/
  logLevel : Option String
  /-- The snapshot file, in place of the setting. -/
  snapshotFile : Option String
  /-- Whether the chains are simulated. -/
  simulated : Bool
  deriving Repr, DecidableEq

/-- What the arguments ask for. -/
inductive ServiceInquiry
  | start (args : ServiceArguments)
  | help
  | version
  /-- Nothing that can be understood. -/
  | mistaken
  deriving Repr, DecidableEq

namespace ServiceArguments

/-- The file with the settings, unless another is given. -/
def standardSettingsFile : String := "~/.stakewatch/config.toml"

/-- The options. -/
def forms : List OptionForm := [
  ⟨"config", none, .valued fun _ => true⟩,
  ⟨"verbosity", some 'v', .valued fun _ => true⟩,
  ⟨"file", none, .valued fun s => s ≠ ""⟩,
  ⟨"mock", none, .flag⟩,
  ⟨"help", some 'h', .help⟩,
  ⟨"version", some 'V', .version⟩]

/-- What the arguments ask for. -/
def ofArguments (args : List String) : ServiceInquiry :=
  match Options.read forms [] args with
  | .help => .help
  | .version => .version
  | .taken given [] =>
    .start {
      settingsFile := (Options.value? given "config").getD standardSettingsFile
      logLevel := Options.value? given "verbosity"
      snapshotFile := Options.value? given "file"
      simulated := Options.isGiven given "mock" }
  | _ => .mistaken

end ServiceArguments

end StakeRelay
