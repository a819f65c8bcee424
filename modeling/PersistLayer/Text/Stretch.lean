/-!
# Stretches of code points

The properties that the Unicode character database assigns to characters are
listed as stretches of code points.  A stretch has a stride, because upper-case
and lower-case letters alternate over long parts of the code space: with stride
two, one stretch covers what would otherwise be a hundred single entries.
-/

namespace PersistLayer.Text

/-- The code points `first`, `first + stride`, and so on up to `last`. -/
structure Stretch where
  first : Nat
  last : Nat
  stride : Nat
  deriving Repr, DecidableEq

/-- A code point is on a stretch when it is between its ends and a whole number
of strides from its beginning. -/
def Stretch.covers (stretch : Stretch) (code : Nat) : Bool :=
  stretch.first ≤ code && code ≤ stretch.last && (code - stretch.first) % stretch.stride == 0

/-- The characters whose code points are on one of the stretches. -/
def coveredBy (stretches : List Stretch) (c : Char) : Bool :=
  stretches.any fun stretch => stretch.covers c.toNat

/-- A stretch whose code points are moved, order and gaps kept, so that its first
one becomes `target`. -/
structure Shift extends Stretch where
  target : Nat
  deriving Repr, DecidableEq

/-- The image of a code point under a shift that covers it. -/
def Shift.image? (shift : Shift) (code : Nat) : Option Nat :=
  if shift.covers code then some (shift.target + (code - shift.first)) else none

end PersistLayer.Text
