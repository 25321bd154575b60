import Unknowns.Binary64.Arithmetic
import Unknowns.Binary64.Numeral
import Unknowns.Session.Catalogue
import Unknowns.ValueType.Basic

/-! The named transforms on values of each type. -/

namespace Unknowns

namespace ValueType

/-- A transform on a type that was found by its name. -/
abbrev Found (source : ValueType) : Type := FoundTransform source

/-- A transform that gives up on no value. -/
def total {source : ValueType} (target : ValueType) (name : String)
    (function : source.Content → target.Content) : Found source :=
  ⟨target, name, fun value => .ok (function value)⟩

/-- A transform that gives up, with one message, on the values without a result. -/
def guarded {source : ValueType} (target : ValueType) (name message : String)
    (function : source.Content → Option target.Content) : Found source :=
  ⟨target, name, fun value =>
    match function value with
    | some found => .ok found
    | none => .error ⟨message⟩⟩

/-- A length as a value. -/
def sizeWord (length : Nat) : BitVec 64 := BitVec.ofNat 64 length

/-- The transforms on whole numbers, which wrap around in their own kind. -/
def intTransform? (kind : IntKind) (argument : Argument ValueType) :
    String → Option (Found (.int kind))
  | "add" => do
    let operand : BitVec kind.width ← argument (.int kind)
    return total (.int kind) "add" (· + operand)
  | "mul" => do
    let operand : BitVec kind.width ← argument (.int kind)
    return total (.int kind) "mul" (· * operand)
  | "xor" => do
    let operand : BitVec kind.width ← argument (.int kind)
    return total (.int kind) "xor" (· ^^^ operand)
  | "neg" => some (total (.int kind) "neg" (- ·))
  | "div" => do
    let divisor : BitVec kind.width ← argument (.int kind)
    return guarded (.int kind) "div" "division by zero" fun dividend =>
      if divisor = 0 then none else some (kind.quotient dividend divisor)
  | "to_string" => some (total .text "to_string" fun word =>
    toString (kind.toInt word))
  | "to_i64" => some (total (.int .signed64) "to_i64" (kind.convert .signed64))
  | "to_i32" => some (total int32 "to_i32" (kind.convert .signed32))
  | "to_u8" => some (total (.int .unsigned8) "to_u8" (kind.convert .unsigned8))
  | "is_even" => some (total .bool "is_even" fun word => !word.getLsbD 0)
  | "some" => some (total (.option int32) "some" fun word =>
    some (kind.convert .signed32 word))
  | "vec" => some (total (.list int32) "vec" fun word =>
    [kind.convert .signed32 word])
  | "pair" => some (total (.pair int32 .text) "pair" fun word =>
    (kind.convert .signed32 word, toString (kind.toInt word)))
  | _ => none

/-- The transforms on truth values. -/
def boolTransform? : String → Option (Found .bool)
  | "not" => some (total .bool "not" fun truth => !truth)
  | "to_i32" => some (total int32 "to_i32" fun truth => if truth then 1 else 0)
  | _ => none

/-- The transforms on characters. -/
def charTransform? : String → Option (Found .char)
  | "code" => some (total (.int .unsigned32) "code" fun c => BitVec.ofNat 32 c.toNat)
  | "to_string" => some (total .text "to_string" fun c => c.toString)
  | _ => none

/-- The transforms on binary64 numbers. -/
def binary64Transform? (argument : Argument ValueType) :
    String → Option (Found .binary64)
  | "add" => do
    let operand : Binary64 ← argument .binary64
    return total .binary64 "add" fun number => number.add operand
  | "mul" => do
    let operand : Binary64 ← argument .binary64
    return total .binary64 "mul" fun number => number.mul operand
  | "is_nan" => some (total .bool "is_nan" Binary64.isNotANumber)
  | "eq" => do
    let operand : Binary64 ← argument .binary64
    return total .bool "eq" fun number => number.isEqualTo operand
  | _ => none

/-- The transforms on literal texts. -/
def literalTransform? : String → Option (Found .literal)
  | "len" => some (total size "len" fun text => sizeWord text.utf8ByteSize)
  | "to_string" => some (total .text "to_string" fun text => text)
  | _ => none

/-- The 32-bit number that a text writes: a sign of either kind or none, and digits alone. -/
def parsedInt32 (text : String) : Option (BitVec 32) :=
  let (negative, unsigned) := splitSign text.toList
  let (digits, rest) := splitDigits unsigned
  -- Blanks, points and a second sign are refused like any other character.
  if digits.isEmpty || !rest.isEmpty then none
  else IntKind.signed32.ofInt? (Binary64.signedCount negative (digitsValue digits))

/-- The transforms on texts. -/
def textTransform? (argument : Argument ValueType) : String → Option (Found .text)
  | "len" => some (total size "len" fun text => sizeWord text.utf8ByteSize)
  | "chars" => some (total size "chars" fun text => sizeWord text.length)
  | "concat" => do
    let ending : String ← argument .text
    return total .text "concat" fun text => text ++ ending
  | "reverse" => some (total .text "reverse" fun text =>
    String.ofList text.toList.reverse)
  | "ascii_upper" => some (total .text "ascii_upper" fun text =>
    String.ofList (text.toList.map Char.toUpper))
  | "parse_i32" => some (total (.option int32) "parse_i32" parsedInt32)
  | "bytes" => some (total (.list (.int .unsigned8)) "bytes" fun text =>
    text.toUTF8.toList.map (·.toBitVec))
  | "is_empty" => some (total .bool "is_empty" fun text => text.isEmpty)
  | "first_char" => some (guarded .char "first_char" "first of empty" fun text =>
    text.toList.head?)
  | _ => none

/-- The transforms on the only value of its type. -/
def unitTransform? : String → Option (Found .unit)
  | "zero" => some (total int32 "zero" fun _ => 0)
  | _ => none

/-- The transforms on lists of bytes. -/
def bytesTransform? : String → Option (Found (.list (.int .unsigned8)))
  | "len" => some (total size "len" fun bytes => sizeWord bytes.length)
  | "sum" => some (total (.int .unsigned64) "sum" fun bytes =>
    (bytes.map (IntKind.convert .unsigned8 .unsigned64)).foldl (· + ·) 0)
  | _ => none

/-- The transforms on lists of 32-bit numbers. -/
def intsTransform? (argument : Argument ValueType) :
    String → Option (Found (.list int32))
  | "len" => some (total size "len" fun numbers => sizeWord numbers.length)
  | "sum" => some (total (.int .signed64) "sum" fun numbers =>
    (numbers.map (IntKind.convert .signed32 .signed64)).foldl (· + ·) 0)
  | "first" => some (guarded int32 "first" "first of empty" fun numbers =>
    numbers.head?)
  | "push" => do
    let last : BitVec 32 ← argument int32
    return total (.list int32) "push" fun (numbers : List (BitVec 32)) => numbers ++ [last]
  | "reverse" => some (total (.list int32) "reverse" fun numbers => numbers.reverse)
  | _ => none

/-- The transforms on lists of texts. -/
def textsTransform? (argument : Argument ValueType) :
    String → Option (Found (.list .text))
  | "len" => some (total size "len" fun texts => sizeWord texts.length)
  | "join" => do
    let separator : String ← argument .text
    return total .text "join" fun texts => separator.intercalate texts
  | _ => none

/-- The transforms on lists of lists of 32-bit numbers. -/
def intListsTransform? : String → Option (Found (.list (.list int32)))
  | "len" => some (total size "len" fun lists => sizeWord lists.length)
  | "flatten" => some (total (.list int32) "flatten" fun lists => lists.flatten)
  | _ => none

/-- The transforms on optional 32-bit numbers. -/
def optionTransform? (argument : Argument ValueType) :
    String → Option (Found (.option int32))
  | "is_some" => some (total .bool "is_some" fun number => number.isSome)
  | "inc" => some (total (.option int32) "inc" fun number => number.map (· + 1))
  | "unwrap" => some (guarded int32 "unwrap" "unwrap of none" fun number => number)
  | "unwrap_or" => do
    let otherwise : BitVec 32 ← argument int32
    return total int32 "unwrap_or" fun number => number.getD otherwise
  | _ => none

/-- The transforms on optional numbers that are optional once more. -/
def nestedOptionTransform? : String → Option (Found (.option (.option int32)))
  | "is_some" => some (total .bool "is_some" fun number => number.isSome)
  | "flatten" => some (total (.option int32) "flatten" fun number => number.join)
  | _ => none

/-- The transforms on pairs of a number and a text. -/
def pairTransform? : String → Option (Found (.pair int32 .text))
  | "fst" => some (total int32 "fst" fun both => both.1)
  | "snd" => some (total .text "snd" fun both => both.2)
  | _ => none

/-- The transforms on numbers that may be an error text instead. -/
def resultTransform? : String → Option (Found (.result int32 .text))
  | "ok" => some (total (.option int32) "ok" fun outcome => outcome.toOption)
  | "is_ok" => some (total .bool "is_ok" fun outcome => outcome.toBool)
  | _ => none

/-- The transforms on boxed numbers. -/
def boxedTransform? : String → Option (Found (.boxed int32))
  | "unbox" => some (total int32 "unbox" fun number => number)
  | _ => none

/-- The transforms on handles. -/
def handleTransform? (argument : Argument ValueType) : String → Option (Found .handle)
  | "same_as" => do
    let other : Handle ← argument .handle
    return total .bool "same_as" fun handle => sameIdentity handle other
  | _ => none

/-- The transforms on variables of 32-bit numbers. -/
def variableTransform? : String → Option (Found (.variableOf int32))
  | "erase" => some (total .handle "erase" fun v => v.erase)
  | _ => none

/-- The transform of a name that one type has beside the identity. -/
def ownTransform? (name : String) (argument : Argument ValueType) :
    (source : ValueType) → Option (Found source)
  | .int kind => intTransform? kind argument name
  | .bool => boolTransform? name
  | .char => charTransform? name
  | .binary64 => binary64Transform? argument name
  | .literal => literalTransform? name
  | .text => textTransform? argument name
  | .unit => unitTransform? name
  | .list (.int .unsigned8) => bytesTransform? name
  | .list (.int .signed32) => intsTransform? argument name
  | .list .text => textsTransform? argument name
  | .list (.list (.int .signed32)) => intListsTransform? name
  | .option (.int .signed32) => optionTransform? argument name
  | .option (.option (.int .signed32)) => nestedOptionTransform? name
  | .pair (.int .signed32) .text => pairTransform? name
  | .result (.int .signed32) .text => resultTransform? name
  | .boxed (.int .signed32) => boxedTransform? name
  | .handle => handleTransform? argument name
  | .variableOf (.int .signed32) => variableTransform? name
  | _ => none

/-- The transform of a name on a type, with its argument read where it takes one. -/
def transform? (name : String) (argument : Argument ValueType) (source : ValueType) :
    Option (Found source) :=
  -- Every type has the identity, also those without transforms of their own.
  if name = "id" then some (total source "id" fun value => value)
  else ownTransform? name argument source

/-- All named transforms. -/
def catalogue : Catalogue ValueType := ⟨hasValues, transform?⟩

end ValueType

end Unknowns
