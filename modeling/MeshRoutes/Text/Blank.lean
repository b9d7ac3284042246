/-!
# Blanks

The characters with the Unicode property White_Space, and trimming by them.
-/

namespace MeshRoutes.Text

/-- The ranges of code points with the property White_Space, both ends included. -/
def blankRanges : List (Nat × Nat) :=
  [(0x09, 0x0D), (0x20, 0x20), (0x85, 0x85), (0xA0, 0xA0), (0x1680, 0x1680),
    (0x2000, 0x200A), (0x2028, 0x2029), (0x202F, 0x202F), (0x205F, 0x205F),
    (0x3000, 0x3000)]

def isBlank (c : Char) : Bool :=
  blankRanges.any fun (first, last) => first ≤ c.toNat && c.toNat ≤ last

/-- Drops the blanks in front. -/
def trimLeft (cs : List Char) : List Char := cs.dropWhile isBlank

/-- Drops the blanks behind. -/
def trimRight (cs : List Char) : List Char := (cs.reverse.dropWhile isBlank).reverse

/-- Drops the blanks at both ends. -/
def trim (cs : List Char) : List Char := trimRight (trimLeft cs)

/-- The property holds of 25 code points. -/
example : (blankRanges.map fun (first, last) => last + 1 - first).sum = 25 := rfl

/-- The ranges stand in ascending order and do not overlap. -/
example : blankRanges.Pairwise fun a b => a.2 < b.1 := by decide

end MeshRoutes.Text
