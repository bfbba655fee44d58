/-!
# Paths as text

A path is a list of names between slashes. Empty names and single dots are no steps, save that a
relative path may begin with one dot. Joining keeps what is already there as it is written.
-/

set_option autoImplicit false

namespace CommandShell.Path

def isAbsolute (path : String) : Bool := path.startsWith "/"

/-- A path below another; an absolute one stands for itself. -/
def join (base path : String) : String :=
  if isAbsolute path || base.isEmpty then path
  else if base.endsWith "/" then base ++ path
  else base ++ "/" ++ path

def names (path : String) : List String :=
  (path.splitOn "/").filter fun name => name != ""

/-- The names that are steps: a dot is one only where a relative path begins. -/
def steps (path : String) : List String :=
  let steps := (names path).filter fun name => name != "."
  if isAbsolute path then steps
  else match path.splitOn "/" with
    | "." :: _ => "." :: steps
    | _ => steps

def ofSteps (absolute : Bool) (steps : List String) : String :=
  (if absolute then "/" else "") ++ "/".intercalate steps

def above (path : String) : List String :=
  let steps := steps path
  (List.range steps.length).reverse.map fun n => ofSteps (isAbsolute path) (steps.take n)

end CommandShell.Path
