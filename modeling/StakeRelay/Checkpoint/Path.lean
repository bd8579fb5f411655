/-
  StakeRelay.Checkpoint.Path — paths as texts.

  The components of a path are the stretches between slashes. Empty stretches do not
  count, nor does a dot, unless a relative path starts with it. Joining keeps the texts
  of both sides as they are: only a missing slash is put between them, and an absolute
  right side replaces the left.
-/

namespace StakeRelay.Path

/-- Whether the path starts at the root. -/
def isAbsolute (path : String) : Bool := path.toList.head? = some '/'

/-- The path of `child` below `base`. -/
def join (base child : String) : String :=
  if isAbsolute child then child
  else if base.toList.getLast?.all (· = '/') then base ++ child
  else base ++ "/" ++ child

/-- A component and how many characters of the path end with it. -/
structure Component where
  name : List Char
  stop : Nat
  deriving Repr, DecidableEq

/-- The stretches between slashes, given the stretch before `rest`, reversed, and the
    number of characters before `rest`. -/
def stretches (stretch : List Char) (position : Nat) : List Char → List Component
  | [] => [⟨stretch.reverse, position⟩]
  | c :: rest =>
    if c = '/' then ⟨stretch.reverse, position⟩ :: stretches [] (position + 1) rest
    else stretches (c :: stretch) (position + 1) rest

/-- The components of a path. -/
def components (path : String) : List Component :=
  let cs := path.toList
  let all := stretches [] 0 cs
  let relative := !isAbsolute path
  all.filter fun c =>
    c.name ≠ [] && (c.name ≠ ['.'] || (relative && c.stop = 1))

/-- The path without its last component; nothing for the root and the empty path. -/
def parent? (path : String) : Option String :=
  match (components path).reverse with
  | [] => none
  | [_] => some (if isAbsolute path then "/" else "")
  | _ :: previous :: _ => some (String.ofList (path.toList.take previous.stop))

/-- The last component of a path, unless that is a dot or two dots. -/
def fileName? (path : String) : Option String :=
  match (components path).getLast? with
  | none => none
  | some c =>
    if c.name = ['.'] ∨ c.name = ['.', '.'] then none else some (String.ofList c.name)

/-- The path with another last component. -/
def withFileName (path name : String) : String :=
  match fileName? path, parent? path with
  | some _, some parent => join parent name
  | _, _ => join path name

/-- The sibling whose name has `suffix` behind it. -/
def withSuffix (path suffix : String) : String :=
  withFileName path ((fileName? path).getD "" ++ suffix)

/-- The names of the components, as a file system follows them. A slash at the end asks
    for a directory, like a dot behind it. -/
def steps (path : String) : List String :=
  let all := (stretches [] 0 path.toList).map fun c => String.ofList c.name
  let named := all.filter (· ≠ "")
  if path.toList.getLast? = some '/' then named ++ ["."] else named

end StakeRelay.Path
