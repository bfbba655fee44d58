/-!
# Blank characters

The characters that separate words are those with the Unicode property `White_Space`. The set is
larger than the one of `Char.isWhitespace`, which knows ASCII only.
-/

set_option autoImplicit false

namespace CommandShell.Text

/-- The characters with the property `White_Space`. -/
def isBlank (c : Char) : Bool :=
  let n := c.toNat
  (9 ≤ n && n ≤ 13) || n == 32 || n == 0x85 || n == 0xA0 || n == 0x1680 ||
    (0x2000 ≤ n && n ≤ 0x200A) || n == 0x2028 || n == 0x2029 || n == 0x202F || n == 0x205F ||
    n == 0x3000

def trim (s : String) : String :=
  String.ofList ((s.toList.dropWhile isBlank).reverse.dropWhile isBlank).reverse

def isBlankLine (s : String) : Bool :=
  s.toList.all isBlank

end CommandShell.Text
