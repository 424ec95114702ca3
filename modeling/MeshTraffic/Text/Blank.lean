/-!
# White space

The characters of the Unicode property `White_Space`, and text without those at its ends.
-/

namespace MeshTraffic.Text

/-- The characters of the property `White_Space`, as ranges of code points. -/
def blankRanges : List (Nat × Nat) :=
  [(0x9, 0xD), (0x20, 0x20), (0x85, 0x85), (0xA0, 0xA0), (0x1680, 0x1680), (0x2000, 0x200A),
    (0x2028, 0x2029), (0x202F, 0x202F), (0x205F, 0x205F), (0x3000, 0x3000)]

/-- Whether a character is white space. -/
def isBlank (c : Char) : Bool :=
  blankRanges.any fun (first, last) => first ≤ c.toNat && c.toNat ≤ last

/-- The text from its first character on that is no white space. -/
def trimFront (cs : List Char) : List Char := cs.dropWhile isBlank

/-- The text up to its last character that is no white space. -/
def trimBack (cs : List Char) : List Char := (trimFront cs.reverse).reverse

/-- The text without white space at its ends. -/
def trim (cs : List Char) : List Char := trimBack (trimFront cs)

end MeshTraffic.Text
