import Unknowns.Binary64.Basic

/-! JSON documents as values. -/

namespace Unknowns

/-- A JSON document; members of an object stay in the order they were written in. -/
inductive Document
  | null
  | boolean (value : Bool)
  | number (value : Binary64)
  | text (value : String)
  | list (items : List Document)
  | object (members : List (String × Document))

namespace Document

/-- The member of an object under a key, the last one written when there are several. -/
def member? (key : String) : Document → Option Document
  -- A later member of the same key replaces the earlier one.
  | .object members => members.reverse.lookup key
  | _ => none

/-- What a chain of keys leads to, one object inside the other. -/
def at? : List String → Document → Option Document
  | [], document => some document
  | key :: rest, document => (document.member? key).bind (at? rest)

/-- The number that a document is, if it is one. -/
def number? : Document → Option Binary64
  | .number value => some value
  | _ => none

end Document

end Unknowns
