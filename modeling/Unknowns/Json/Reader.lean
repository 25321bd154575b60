import Unknowns.Json.Token

/-! Reading JSON documents from tokens, with the lists and objects under way on a stack. -/

namespace Unknowns

namespace Json

/-- A list or object under way; what it holds so far is kept latest first. -/
inductive Frame
  | list (items : List Document)
  | object (members : List (String × Document))
  -- An object whose latest key still waits for its value.
  | member (members : List (String × Document)) (key : String)

/-- What may come next. -/
inductive Turn
  | value
  | valueOrEnd
  | key
  | keyOrEnd
  | colon
  | commaOrEnd
deriving DecidableEq

/-- A document under way or complete. -/
inductive Progress
  | under (frames : List Frame) (turn : Turn)
  | complete (document : Document)

/-- The greatest number of lists and objects that may enclose one another. -/
def deepestNesting : Nat := 127

/-- A complete value goes into the innermost frame, or is the document itself. -/
def placeValue? (value : Document) : List Frame → Option Progress
  | [] => some (.complete value)
  | .list items :: outer => some (.under (.list (value :: items) :: outer) .commaOrEnd)
  | .member members key :: outer =>
    some (.under (.object ((key, value) :: members) :: outer) .commaOrEnd)
  -- An object takes a value only behind a key.
  | .object _ :: _ => none

/-- A list or object begins inside the frames under way, if the nesting allows one more. -/
def enter? (frames : List Frame) (frame : Frame) (turn : Turn) : Option Progress :=
  if frames.length < deepestNesting then some (.under (frame :: frames) turn) else none

/-- A value's first token is taken where a value may come. -/
def startValue? (frames : List Frame) : Token → Option Progress
  | .word value => placeValue? value frames
  | .text value => placeValue? (.text value) frames
  | .openList => enter? frames (.list []) .valueOrEnd
  | .openObject => enter? frames (.object []) .keyOrEnd
  | _ => none

/-- A key is taken where one may come. -/
def startMember? : List Frame → Token → Option Progress
  | .object members :: outer, .text key => some (.under (.member members key :: outer) .colon)
  | _, _ => none

/-- The innermost list or object ends at its own closing mark. -/
def endFrame? : List Frame → Token → Option Progress
  | .list items :: outer, .closeList => placeValue? (.list items.reverse) outer
  | .object members :: outer, .closeObject => placeValue? (.object members.reverse) outer
  | _, _ => none

/-- A comma asks for one more item or member. -/
def continueFrame? : List Frame → Option Progress
  | .list items :: outer => some (.under (.list items :: outer) .value)
  | .object members :: outer => some (.under (.object members :: outer) .key)
  | _ => none

/-- A document under way takes one more token. -/
def takeToken? : Progress → Token → Option Progress
  -- Nothing may follow a complete document.
  | .complete _, _ => none
  | .under frames .value, token => startValue? frames token
  -- Only a list without items and an object without members may end before their first value.
  | .under frames .valueOrEnd, .closeList => endFrame? frames .closeList
  | .under frames .valueOrEnd, token => startValue? frames token
  | .under frames .key, token => startMember? frames token
  | .under frames .keyOrEnd, .closeObject => endFrame? frames .closeObject
  | .under frames .keyOrEnd, token => startMember? frames token
  | .under frames .colon, .colon => some (.under frames .value)
  | .under _ .colon, _ => none
  | .under frames .commaOrEnd, .comma => continueFrame? frames
  | .under frames .commaOrEnd, token => endFrame? frames token

end Json

/-- The document that a whole text writes, none when it is malformed. -/
def Document.read? (text : String) : Option Document := do
  let tokens ← Json.tokens? text
  match ← tokens.foldlM Json.takeToken? (.under [] .value) with
  | .complete document => return document
  | .under _ _ => none

end Unknowns
