/-
  StakeRelay.Checkpoint.Places — where the files are unless other places are chosen.

  The data directory lies below the user's data home. That home counts only when it is
  an absolute path; otherwise it is the usual place below the home directory.
-/

import StakeRelay.Checkpoint.Durable

namespace StakeRelay

/-- What the user's environment gives. -/
structure UserPlaces where
  /-- The home directory. -/
  home : String
  /-- The data home, if it is set. -/
  dataHome : Option String
  deriving Repr, DecidableEq

namespace UserPlaces

/-- The directory of the program's data. -/
def dataDirectory (u : UserPlaces) : String :=
  let base :=
    match u.dataHome with
    | some path => if Path.isAbsolute path then path else Path.join u.home ".local/share"
    | none => Path.join u.home ".local/share"
  Path.join base "StakeWatch"

/-- The checkpoint in the directory of the program's data. -/
def checkpoint (u : UserPlaces) : DurableCheckpoint :=
  DurableCheckpoint.inDirectory u.dataDirectory

/-- The path that a text names, where `~/` at its start stands for the home directory. -/
def expand (u : UserPlaces) (text : String) : String :=
  match text.toList with
  | '~' :: '/' :: rest => Path.join u.home (String.ofList rest)
  | _ => text

end UserPlaces

end StakeRelay
