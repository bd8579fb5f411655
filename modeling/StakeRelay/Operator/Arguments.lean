/-
  StakeRelay.Operator.Arguments — what the operator asks the inspection tool for.

  The tool has two views of a checkpoint. The options that choose its files may stand
  before the view or behind it, and behind it they count more.
-/

import StakeRelay.Operator.Options
import StakeRelay.Text.Decimal

namespace StakeRelay.Operator

/-- A view of a checkpoint. -/
inductive View
  /-- The cursor, the size of the snapshot and the place in the epoch. -/
  | status (epochLength : UInt64) (json : Bool)
  /-- The records of the snapshot. -/
  | snapshot (json : Bool)
  deriving Repr, DecidableEq

/-- What the arguments ask for. -/
inductive Inquiry
  /-- A view, with the files where they are chosen. -/
  | view (cursorFile snapshotFile : Option String) (view : View)
  /-- The help on the tool or on a view. -/
  | help (view : Option String)
  | version
  /-- Nothing that can be understood. -/
  | mistaken
  deriving Repr, DecidableEq

namespace Inquiry

/-- The epoch length unless another is given. -/
def standardEpochLength : UInt64 := 1000

/-- A path is a text that is not empty. -/
def isPath (s : String) : Bool := s ≠ ""

/-- A height in decimal. -/
def isHeight (s : String) : Bool :=
  match Decimal.read s with
  | .ok _ => true
  | .error _ => false

/-- The height that a text spells. -/
def heightOr (otherwise : UInt64) (s : Option String) : UInt64 :=
  match s.map Decimal.read with
  | some (.ok n) => n
  | _ => otherwise

/-! ## §1. The options -/

/-- The options that choose files. -/
def fileForms : List OptionForm := [
  ⟨"cursor-file", none, .valued isPath⟩,
  ⟨"snapshot-file", none, .valued isPath⟩]

/-- The option that asks for help. -/
def helpForm : OptionForm := ⟨"help", some 'h', .help⟩

/-- The options before the view. -/
def toolForms : List OptionForm := fileForms ++ [helpForm, ⟨"version", some 'V', .version⟩]

/-- The options behind the status view. -/
def statusForms : List OptionForm :=
  fileForms ++ [⟨"epoch-length", none, .valued isHeight⟩, ⟨"json", none, .flag⟩, helpForm]

/-- The options behind the snapshot view. -/
def snapshotForms : List OptionForm := fileForms ++ [⟨"json", none, .flag⟩, helpForm]

/-! ## §2. Reading arguments -/

/-- A view with the options before and behind it. -/
def ofView (before : List Given) (name : String) (forms : List OptionForm)
    (view : List Given → View) (rest : List String) : Inquiry :=
  match Options.read forms [] rest with
  | .help => .help (some name)
  | .taken given [] =>
    let choice := fun option => (Options.value? given option).or (Options.value? before option)
    .view (choice "cursor-file") (choice "snapshot-file") (view given)
  | _ => .mistaken

/-- The help on what the words name. -/
def ofHelpWords : List String → Inquiry
  | [] => .help none
  | ["status"] => .help (some "status")
  | ["snapshot"] => .help (some "snapshot")
  | ["help"] => .help (some "help")
  | _ => .mistaken

/-- What the arguments ask for. -/
def ofArguments (args : List String) : Inquiry :=
  match Options.read toolForms [] args with
  | .help => .help none
  | .version => .version
  | .taken before ("status" :: rest) =>
    ofView before "status" statusForms (fun given =>
      .status (heightOr standardEpochLength (Options.value? given "epoch-length"))
        (Options.isGiven given "json")) rest
  | .taken before ("snapshot" :: rest) =>
    ofView before "snapshot" snapshotForms (fun given =>
      .snapshot (Options.isGiven given "json")) rest
  | .taken _ ("help" :: rest) => ofHelpWords rest
  | _ => .mistaken

end Inquiry

end StakeRelay.Operator
