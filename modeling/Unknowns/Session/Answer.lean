import Unknowns.Bindings.Request
import Unknowns.Handle.Labels
import Unknowns.Handle.Schedule

/-! What a session answers to its commands. -/

namespace Unknowns

/-- The agreement of a variable with itself and with its erasure. -/
structure Inspection where
  isItself : Bool
  isItsErasure : Bool
  hashesLikeErasure : Bool
deriving DecidableEq

/-- The inspection of a variable. -/
def Inspection.of {τ : Type} {type : τ} (v : Variable type) : Inspection :=
  { isItself := sameIdentity v v
    isItsErasure := sameIdentity v v.erase
    hashesLikeErasure := identityHash v == identityHash v.erase }

/-- Two variables compared in every combination of typed and erased. -/
structure Comparison where
  typedTyped : Bool
  typedTypedReversed : Bool
  typedErased : Bool
  erasedTyped : Bool
  erasedErased : Bool
  sameHash : Bool
  erasedOrder : Ordering
  typedOrder : Ordering
  typedPartialOrder : Option Ordering
deriving DecidableEq

/-- The comparison of two variables; for the typed orders the right one is viewed like the left. -/
def Comparison.of {τ : Type} {left right : τ} (v : Variable left) (w : Variable right) :
    Comparison :=
  { typedTyped := sameIdentity v w
    typedTypedReversed := sameIdentity w v
    typedErased := sameIdentity v w.erase
    erasedTyped := sameIdentity v.erase w
    erasedErased := sameIdentity v.erase w.erase
    sameHash := identityHash v == identityHash w
    erasedOrder := mintingOrder v.erase w.erase
    typedOrder := mintingOrder v (w.erase.typed left)
    typedPartialOrder := mintingOrder? v (w.erase.typed left) }

/-- Handles as a set, in descending order with repetitions, and counted without them. -/
structure SortedHandles where
  set : List Handle
  descending : List Handle
  distinct : Nat
deriving DecidableEq

/-- The collections of a list of handles. -/
def SortedHandles.of (handles : List Handle) : SortedHandles :=
  { set := ascending handles
    descending := Unknowns.descending handles
    distinct := (distinctHandles handles).length }

/-- What a map of labels holds: its size, the wanted labels, and all of them by handle. -/
structure LabelReport where
  size : Nat
  wanted : List (Option String)
  inOrder : List String
deriving DecidableEq

/-- The report on labels of handles. -/
def LabelReport.of (entries : List (Handle × String)) (wanted : List Handle) : LabelReport :=
  let labels := Labels.ofEntries entries
  { size := labels.length
    wanted := wanted.map labels.get?
    inOrder := labels.map (·.2) }

/-- The outcome of an evaluation together with its target type. -/
structure SomeOutcome (τ : Type) [Universe τ] where
  target : τ
  outcome : Outcome target

/-- The answer to a command that was carried out. -/
inductive Answer (τ : Type) [Universe τ]
  | handle (handle : Handle)
  | handles (handles : List Handle)
  | minted (summary : MintingSummary)
  | view (named : SomeVariable τ)
  | inspection (named : SomeVariable τ) (inspection : Inspection)
  | comparison (comparison : Comparison)
  | sorted (collections : SortedHandles)
  | labels (report : LabelReport)
  | type (type : τ)
  | property (description : PropertyDescription)
  | value (value : Value τ)
  -- Nothing when the value that was given is not of the source type.
  | applied (value : Option (Value τ))
  | outcomes (outcomes : List (SomeOutcome τ))
  | created (size : Nat) (isEmpty : Bool)
  | size (size : Nat)
  | truth (truth : Bool)
  | store (description : StoreDescription)
  | fault (fault : Fault)

/-- How a step ends: carried out, at a fault, in a panic, or refused before it began. -/
inductive Reply (τ : Type) [Universe τ]
  | done (answer : Answer τ)
  | fault (fault : Fault)
  | panic (panic : Panic)
  | refused

/-- The fault that a step ended at. -/
def Reply.fault? {τ : Type} [Universe τ] : Reply τ → Option Fault
  | .fault cause => some cause
  | _ => none

/-- Everything that a step shows: its end, the transforms it called, and the events it sent. -/
structure Response (τ : Type) [Universe τ] where
  reply : Reply τ
  calls : List (Call τ) := []
  events : List Event := []

end Unknowns
