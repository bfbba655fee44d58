import CommandShell.Text.Decimal

/-!
# Variables

Names with values, in the order in which the names were first set. The environment of a process is one
such table; the shell's own variables are another, which also holds the last status under the name `?`.
A status is kept as decimal text and read back from it, so any text may stand there.
-/

set_option autoImplicit false

namespace CommandShell

structure Variables where
  entries : List (String × String) := []
  deriving DecidableEq, Repr

namespace Variables

def put (name value : String) : List (String × String) → List (String × String)
  | [] => [(name, value)]
  | (n, v) :: rest => if n = name then (name, value) :: rest else (n, v) :: put name value rest

def get? (vars : Variables) (name : String) : Option String := vars.entries.lookup name

def set (vars : Variables) (name value : String) : Variables := ⟨put name value vars.entries⟩

def ofList (pairs : List (String × String)) : Variables :=
  pairs.foldl (fun vars (name, value) => vars.set name value) {}

def statusName : String := "?"

def isStatus (n : Int) : Bool := -2147483648 ≤ n && n ≤ 2147483647

/-- The status that a text denotes: an integer in the range. -/
def readStatus? (text : String) : Option Int := (Text.integer? text).filter isStatus

def status (vars : Variables) : Int := ((vars.get? statusName).bind readStatus?).getD 0

def setStatus (vars : Variables) (status : Int) : Variables := vars.set statusName (toString status)

theorem lookup_put_self (name value : String) (entries : List (String × String)) :
    (put name value entries).lookup name = some value := by
  induction entries with
  | nil => simp [put]
  | cons entry rest ih =>
    obtain ⟨n, v⟩ := entry
    by_cases h : n = name
    · simp [put, h]
    · have : (name == n) = false := by simpa using fun e => h e.symm
      simp [put, h, List.lookup_cons, this, ih]

theorem lookup_put_of_ne {name other : String} (value : String) (h : other ≠ name)
    (entries : List (String × String)) :
    (put name value entries).lookup other = entries.lookup other := by
  have hb : (other == name) = false := by simpa using h
  induction entries with
  | nil => simp [put, List.lookup_cons, hb]
  | cons entry rest ih =>
    obtain ⟨n, v⟩ := entry
    by_cases hn : n = name
    · simp [put, hn, List.lookup_cons, hb]
    · simp [put, hn, List.lookup_cons, ih]

@[simp] theorem get?_set_self (vars : Variables) (name value : String) :
    (vars.set name value).get? name = some value := lookup_put_self ..

theorem get?_set_of_ne (vars : Variables) {name other : String} (value : String)
    (h : other ≠ name) : (vars.set name value).get? other = vars.get? other :=
  lookup_put_of_ne value h _

end Variables

end CommandShell
