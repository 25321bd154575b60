/-! Kinds of fixed-width whole numbers, told apart by width, sign and purpose. -/

namespace Unknowns

/-- A kind of fixed-width whole number; the size kinds are kinds of their own. -/
inductive IntKind
  | signed8
  | signed32
  | signed64
  | signed128
  | signedSize
  | unsigned8
  | unsigned32
  | unsigned64
  | unsignedSize
deriving DecidableEq

namespace IntKind

/-- The number of bits. -/
def width : IntKind → Nat
  | .signed8 | .unsigned8 => 8
  | .signed32 | .unsigned32 => 32
  | .signed64 | .unsigned64 | .signedSize | .unsignedSize => 64
  | .signed128 => 128

/-- Whether the highest bit counts negatively. -/
def isSigned : IntKind → Bool
  | .signed8 | .signed32 | .signed64 | .signed128 | .signedSize => true
  | .unsigned8 | .unsigned32 | .unsigned64 | .unsignedSize => false

/-- The name that a kind is shown by. -/
def name : IntKind → String
  | .signed8 => "i8"
  | .signed32 => "i32"
  | .signed64 => "i64"
  | .signed128 => "i128"
  | .signedSize => "isize"
  | .unsigned8 => "u8"
  | .unsigned32 => "u32"
  | .unsigned64 => "u64"
  | .unsignedSize => "usize"

/-- The whole number that a word stands for. -/
def toInt (kind : IntKind) (word : BitVec kind.width) : Int :=
  if kind.isSigned then word.toInt else word.toNat

/-- The word of a whole number, wrapped around into the width. -/
def ofInt (kind : IntKind) (number : Int) : BitVec kind.width :=
  BitVec.ofInt kind.width number

/-- The word that stands for exactly this number, if there is one. -/
def ofInt? (kind : IntKind) (number : Int) : Option (BitVec kind.width) :=
  if kind.toInt (kind.ofInt number) = number then some (kind.ofInt number) else none

/-- The word of another kind that agrees with the number in all the bits that it has. -/
def convert (source target : IntKind) (word : BitVec source.width) : BitVec target.width :=
  -- Numbers that do not fit wrap around, whichever kind they come from.
  target.ofInt (source.toInt word)

/-- The quotient of two words, cut off towards zero and wrapped around. -/
def quotient (kind : IntKind) (dividend divisor : BitVec kind.width) : BitVec kind.width :=
  -- The least number over minus one is the only quotient that wraps around.
  kind.ofInt ((kind.toInt dividend).tdiv (kind.toInt divisor))

end IntKind

end Unknowns
