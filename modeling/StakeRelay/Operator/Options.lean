/-
  StakeRelay.Operator.Options — options on a command line.

  An argument that starts with two dashes names an option by its long name; one that
  starts with a single dash names options by their letters, several of them if only the
  last one has a value. A value stands behind an equals sign, right behind the letter, or
  in the next argument, which then does not start with a dash unless it is nothing else.
  No option may stand twice. Two dashes alone end the options, and nothing may follow.

  Arguments are taken from left to right, and the first one that settles the outcome
  wins: a request for help or for the version, or a mistake.
-/

namespace StakeRelay.Operator

/-- What an option does. -/
inductive OptionKind
  /-- It has a value, which has to be accepted. -/
  | valued (accepts : String → Bool)
  | flag
  | help
  | version

/-- An option. -/
structure OptionForm where
  name : String
  letter : Option Char
  kind : OptionKind

/-- An option that is there, with its value if it has one. -/
structure Given where
  name : String
  value : Option String
  deriving Repr, DecidableEq

/-- What the options of a command line come to. -/
inductive Reading
  /-- All options are fine; the arguments from the first word on are left. -/
  | taken (given : List Given) (rest : List String)
  | help
  | version
  | mistaken
  deriving Repr, DecidableEq

/-- What one argument comes to. -/
inductive Progress
  | on (given : List Given)
  /-- The value of an option stands in the next argument. -/
  | pending (given : List Given) (form : OptionForm)
  | settled (reading : Reading)

namespace Options

/-- Takes an option that has no value. -/
def take (given : List Given) (form : OptionForm) : Progress :=
  match form.kind with
  | .valued _ => .pending given form
  | .help => .settled .help
  | .version => .settled .version
  | .flag =>
    if given.any (·.name = form.name) then .settled .mistaken
    else .on (given ++ [⟨form.name, none⟩])

/-- Takes an option with the value that is written for it. -/
def takeValue (given : List Given) (form : OptionForm) (value : String) : Progress :=
  match form.kind with
  | .valued accepts =>
    if given.any (·.name = form.name) || !accepts value then .settled .mistaken
    else .on (given ++ [⟨form.name, some value⟩])
  | _ => .settled .mistaken

/-- Takes an argument behind two dashes. -/
def takeLong (forms : List OptionForm) (given : List Given) (cs : List Char) : Progress :=
  let name := String.ofList (cs.takeWhile (· ≠ '='))
  match forms.find? (·.name = name) with
  | none => .settled .mistaken
  | some form =>
    match cs.dropWhile (· ≠ '=') with
    | _ :: value => takeValue given form (String.ofList value)
    | [] => take given form

/-- Takes the letters behind one dash. -/
def takeLetters (forms : List OptionForm) (given : List Given) : List Char → Progress
  | [] => .on given
  | c :: rest =>
    match forms.find? (·.letter = some c) with
    | none => .settled .mistaken
    | some form =>
      match form.kind, rest with
      | .valued _, '=' :: value => takeValue given form (String.ofList value)
      | .valued _, v :: value => takeValue given form (String.ofList (v :: value))
      | _, _ =>
        match take given form with
        | .on given => takeLetters forms given rest
        | progress => progress

/-- Whether an argument can be a value or a word. -/
def isWord (arg : String) : Bool := arg = "-" || arg.toList.head? ≠ some '-'

/-- Takes one argument that is no word. -/
def takeArgument (forms : List OptionForm) (given : List Given) (arg : String) : Progress :=
  match arg.toList with
  | '-' :: '-' :: cs => takeLong forms given cs
  | _ :: cs => takeLetters forms given cs
  | [] => .settled .mistaken

/-- Takes the options up to the first word. -/
def read (forms : List OptionForm) (given : List Given) : List String → Reading
  | [] => .taken given []
  | arg :: rest =>
    if arg = "--" then if rest = [] then .taken given [] else .mistaken
    else if isWord arg then .taken given (arg :: rest)
    else
      match takeArgument forms given arg with
      | .settled reading => reading
      | .on given => read forms given rest
      | .pending given form =>
        match rest with
        | [] => .mistaken
        | value :: rest =>
          if isWord value then
            match takeValue given form value with
            | .on given => read forms given rest
            | _ => .mistaken
          else .mistaken

/-- The value of an option that is there. -/
def value? (given : List Given) (name : String) : Option String :=
  (given.find? (·.name = name)).bind (·.value)

/-- Whether an option is there. -/
def isGiven (given : List Given) (name : String) : Bool := given.any (·.name = name)

end Options

end StakeRelay.Operator
