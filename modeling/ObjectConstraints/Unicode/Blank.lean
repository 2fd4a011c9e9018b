/-!
# Blank characters

The characters with the white space property, and trimming by them.
-/

namespace ObjectConstraints.Unicode

/-- The white space property: the ASCII controls from tab to carriage return, space, next line,
no-break space, the spaces of the punctuation block and the ideographic space. -/
def isBlank (c : Char) : Bool :=
  let n := c.toNat
  (9 ≤ n && n ≤ 13) || n == 0x20 || n == 0x85 || n == 0xa0 || n == 0x1680 ||
    (0x2000 ≤ n && n ≤ 0x200a) || n == 0x2028 || n == 0x2029 || n == 0x202f || n == 0x205f ||
    n == 0x3000

theorem isBlank_of_isWhitespace {c : Char} (h : c.isWhitespace = true) : isBlank c = true := by
  simp only [Char.isWhitespace, Bool.or_eq_true, decide_eq_true_eq] at h
  rcases h with ((h | h) | h) | h <;> subst h <;> decide

def trimFront (cs : List Char) : List Char :=
  cs.dropWhile isBlank

def trimChars (cs : List Char) : List Char :=
  (trimFront (trimFront cs).reverse).reverse

def trim (s : String) : String :=
  String.ofList (trimChars s.toList)

end ObjectConstraints.Unicode
