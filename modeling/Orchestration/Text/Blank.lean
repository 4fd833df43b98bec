/-!
# Blank text

A character is blank when the Unicode property `White_Space` holds of it.  Identifiers are
checked for emptiness after blank characters at both ends have been dropped, and dates may carry
blanks between their parts.

Main definitions: `Blank.dropLeft`, `Blank.isBlankText`.
-/

namespace Orchestration
namespace Blank

/-- The characters with the Unicode property `White_Space`. -/
def isBlank (c : Char) : Bool :=
  let n := c.toNat
  (0x09 ≤ n && n ≤ 0x0D) || n == 0x20 || n == 0x85 || n == 0xA0 || n == 0x1680 ||
    (0x2000 ≤ n && n ≤ 0x200A) || n == 0x2028 || n == 0x2029 || n == 0x202F || n == 0x205F ||
    n == 0x3000

/-- Drops the blank characters in front of a text. -/
def dropLeft (cs : List Char) : List Char :=
  cs.dropWhile isBlank

/-- A text with nothing but blank characters. -/
def isBlankText (s : String) : Bool :=
  s.toList.all isBlank

/-- Text that starts with a visible character keeps that character. -/
theorem dropLeft_of_not_blank (c : Char) (cs : List Char) (h : isBlank c = false) :
    dropLeft (c :: cs) = c :: cs := by
  simp [dropLeft, h]

end Blank
end Orchestration
