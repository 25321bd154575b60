import Unknowns.Handle

/-! Trace events: what a listener is told about minting, deriving, binding and unbinding. -/

namespace Unknowns

/-- One event; types are told by their names. -/
inductive Event
  | minted (handle : Handle) (type : String)
  | derived (handle : Handle) (source target : String)
  | bound (handle : Handle) (type : String)
  | unbound (handle : Handle)
deriving DecidableEq

/-- The content of an event's field. -/
inductive EventField
  | index (handle : Handle)
  | text (value : String)
deriving DecidableEq

namespace Event

/-- The level that every event is sent at. -/
def level : String := "TRACE"

/-- The part of the library that an event is about. -/
def target : Event → String
  | .minted _ _ => "logician::variable"
  | .derived _ _ _ => "logician::property"
  | .bound _ _ => "logician::bindings"
  | .unbound _ => "logician::bindings"

/-- What happened. -/
def message : Event → String
  | .minted _ _ => "minted variable"
  | .derived _ _ _ => "derived property"
  | .bound _ _ => "bound variable"
  | .unbound _ => "unbound variable"

/-- The named fields of an event, in order. -/
def fields : Event → List (String × EventField)
  | .minted handle type => [("index", .index handle), ("value_type", .text type)]
  | .derived handle source target =>
    [("variable", .index handle), ("source_type", .text source),
      ("value_type", .text target)]
  | .bound handle type => [("variable", .index handle), ("value_type", .text type)]
  | .unbound handle => [("variable", .index handle)]

end Event

end Unknowns
