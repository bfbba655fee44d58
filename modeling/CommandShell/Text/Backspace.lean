import CommandShell.Text.Cluster

/-!
# Backspaces in entered text

A backspace takes away the cluster before it.
-/

set_option autoImplicit false

namespace CommandShell.Text

def backspace : Char := '\x08'

/-- The clusters that are left, newest first, when those kept so far are given newest first. -/
def applyToClusters (kept : List (List Char)) : List (List Char) → List (List Char)
  | [] => kept
  | cluster :: rest =>
    if cluster = [backspace] then applyToClusters (kept.drop 1) rest
    else applyToClusters (cluster :: kept) rest

def applyBackspaces (text : String) : String :=
  if text.toList.contains backspace then
    String.ofList (applyToClusters [] (clusters text.toList)).reverse.flatten
  else text

end CommandShell.Text
