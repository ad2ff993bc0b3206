/-!
# Blanks

White space as texts are trimmed and split by: the controls from tab to carriage return and from
the file separator to the unit separator, the space, and the separators of other scripts.
-/

namespace SearchClient.Text

/-- Whether a character is white space. -/
def isBlank (c : Char) : Bool :=
  let n := c.toNat
  (0x9 ≤ n && n ≤ 0xd) || (0x1c ≤ n && n ≤ 0x20) || n == 0x85 || n == 0xa0 || n == 0x1680 ||
    (0x2000 ≤ n && n ≤ 0x200a) || n == 0x2028 || n == 0x2029 || n == 0x202f || n == 0x205f ||
    n == 0x3000

/-- Drops leading blanks. -/
def trimStart (cs : List Char) : List Char := cs.dropWhile isBlank

/-- Drops the characters of a class at both ends. -/
def trimBy (inClass : Char → Bool) (cs : List Char) : List Char :=
  ((cs.dropWhile inClass).reverse.dropWhile inClass).reverse

/-- Drops blanks at both ends. -/
def trim (cs : List Char) : List Char := trimBy isBlank cs

/-- First run of characters that are not blank; empty when there is none. -/
def firstWord (cs : List Char) : List Char := (trimStart cs).takeWhile (!isBlank ·)

end SearchClient.Text
