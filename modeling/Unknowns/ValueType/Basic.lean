import Unknowns.Binary64.Basic
import Unknowns.ValueType.IntKind
import Unknowns.Variable

/-! The types of values that sessions work with, built up from basic ones. -/

namespace Unknowns

/-- The code of a value type; types that hold the same content may still differ. -/
inductive ValueType
  | int (kind : IntKind)
  | bool
  | char
  | binary64
  | literal
  | text
  | unit
  | list (item : ValueType)
  | option (item : ValueType)
  | pair (first second : ValueType)
  | result (value error : ValueType)
  | boxed (item : ValueType)
  | handle
  | variableOf (type : ValueType)
  | shared (item : ValueType)
  | cell (item : ValueType)
  | array (item : ValueType) (length : Nat)
deriving DecidableEq

namespace ValueType

/-- The content of values of a type. -/
@[reducible] def Content : ValueType → Type
  | .int kind => BitVec kind.width
  | .bool => Bool
  | .char => Char
  | .binary64 => Binary64
  | .literal => String
  | .text => String
  | .unit => Unit
  | .list item => List item.Content
  | .option item => Option item.Content
  | .pair first second => first.Content × second.Content
  | .result value error => Except error.Content value.Content
  | .boxed item => item.Content
  | .handle => Handle
  | .variableOf type => Variable type
  | .shared item => item.Content
  | .cell item => item.Content
  | .array item length => Vector item.Content length

/-- The name that a type is shown by. -/
def name : ValueType → String
  | .int kind => kind.name
  | .bool => "bool"
  | .char => "char"
  | .binary64 => "f64"
  | .literal => "&str"
  | .text => "alloc::string::String"
  | .unit => "()"
  | .list item => "alloc::vec::Vec<" ++ item.name ++ ">"
  | .option item => "core::option::Option<" ++ item.name ++ ">"
  | .pair first second => "(" ++ first.name ++ ", " ++ second.name ++ ")"
  | .result value error => "core::result::Result<" ++ value.name ++ ", " ++ error.name ++ ">"
  | .boxed item => "alloc::boxed::Box<" ++ item.name ++ ">"
  | .handle => "logician::variable::erased::AnyVariable"
  | .variableOf type => "logician::variable::Variable<" ++ type.name ++ ">"
  | .shared item => "alloc::rc::Rc<" ++ item.name ++ ">"
  | .cell item => "core::cell::Cell<" ++ item.name ++ ">"
  | .array item length => "[" ++ item.name ++ "; " ++ toString length ++ "]"

instance : Universe ValueType := ⟨Content, name⟩

/-- Whether values of the type may be bound and read; of the others there are only variables. -/
def hasValues : ValueType → Bool
  | .shared _ | .cell _ | .array _ _ => false
  | _ => true

/-- The type of 32-bit signed numbers. -/
abbrev int32 : ValueType := .int .signed32

/-- The type of sizes and lengths. -/
abbrev size : ValueType := .int .unsignedSize

end ValueType

end Unknowns
