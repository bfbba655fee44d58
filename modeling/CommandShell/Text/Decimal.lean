/-!
# Decimal numbers

A natural number is written with one or more ASCII digits, an integer with an optional sign before
them. Leading zeros are allowed, and nothing else may stand beside the digits.
-/

set_option autoImplicit false

namespace CommandShell.Text

def natural? (digits : List Char) : Option Nat :=
  if digits.isEmpty || !digits.all Char.isDigit then none
  else some (digits.foldl (fun n c => 10 * n + (c.toNat - '0'.toNat)) 0)

def integer? (text : String) : Option Int :=
  match text.toList with
  | '-' :: digits => (natural? digits).map fun n => -(n : Int)
  | '+' :: digits => (natural? digits).map fun n => (n : Int)
  | digits => (natural? digits).map fun n => (n : Int)

end CommandShell.Text
