/-
  StakeRelay.Operator.Help — the help on the inspection tool and its views.
-/

namespace StakeRelay.Operator.Help

/-- The options that choose files. -/
def fileOptions : List String := [
  "      --cursor-file <CURSOR_FILE>      Cursor file written by the daemon",
  "      --snapshot-file <SNAPSHOT_FILE>  Snapshot file written by the daemon"]

/-- The option that asks for help. -/
def helpOption : String := "  -h, --help                           Print help"

/-- The help on the tool. -/
def tool : List String :=
  ["StakeWatch CLI: inspect the relay watcher's cursor and stake snapshot",
    "",
    "Usage: stakewatch-cli [OPTIONS] <COMMAND>",
    "",
    "Commands:",
    "  status    Show the cursor, snapshot size, and epoch position",
    "  snapshot  Show the last committed stake snapshot",
    "  help      Print this message or the help of the given subcommand(s)",
    "",
    "Options:"] ++ fileOptions ++
  [helpOption, "  -V, --version                        Print version"]

/-- The help on the status view. -/
def status : List String :=
  ["Show the cursor, snapshot size, and epoch position",
    "",
    "Usage: stakewatch-cli status [OPTIONS]",
    "",
    "Options:",
    "      --epoch-length <EPOCH_LENGTH>    Blocks per epoch, as configured for the daemon [default: 1000]",
    "      --json                           Print JSON instead of text"] ++ fileOptions ++
  [helpOption]

/-- The help on the snapshot view. -/
def snapshot : List String :=
  ["Show the last committed stake snapshot",
    "",
    "Usage: stakewatch-cli snapshot [OPTIONS]",
    "",
    "Options:",
    "      --json                           Print JSON instead of a table"] ++ fileOptions ++
  [helpOption]

/-- The help on help. -/
def help : List String :=
  ["Print this message or the help of the given subcommand(s)",
    "",
    "Usage: stakewatch-cli help [COMMAND]",
    "",
    "Commands:",
    "  status    Show the cursor, snapshot size, and epoch position",
    "  snapshot  Show the last committed stake snapshot",
    "  help      Print this message or the help of the given subcommand(s)"]

/-- The help on what a word names. -/
def onView : String → List String
  | "status" => status
  | "snapshot" => snapshot
  | _ => help

end StakeRelay.Operator.Help
