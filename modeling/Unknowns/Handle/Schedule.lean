import Unknowns.Ascending
import Unknowns.Handle

/-! Minting on several threads, as one schedule of indivisible steps. -/

namespace Unknowns

/-- One step of a schedule: the thread that minted, and the handle it got. -/
structure Minting where
  thread : Nat
  handle : Handle
deriving DecidableEq

/-- The mintings of a schedule, which lists for every step the thread that takes it. -/
def mintScheduled : List Nat → Supply → List Minting × Supply
  | [], supply => ([], supply)
  | thread :: later, supply =>
    -- All threads share one supply, so a step sees every minting before it.
    let (handle, rest) := supply.mint
    let (mintings, last) := mintScheduled later rest
    (⟨thread, handle⟩ :: mintings, last)

/-- The schedule in which the threads take turns. -/
def inTurns (threads each : Nat) : List Nat :=
  (List.range each).flatMap fun _ => List.range threads

/-- The handles that one thread got, in the order it got them. -/
def handlesOf (thread : Nat) (mintings : List Minting) : List Handle :=
  (mintings.filter (·.thread == thread)).map (·.handle)

/-- Whether each handle is greater than the one before. -/
def isIncreasing : List Handle → Bool
  | first :: second :: rest => decide (first < second) && isIncreasing (second :: rest)
  | _ => true

/-- What all threads together observe of the handles that they got. -/
structure MintingSummary where
  distinct : Nat
  increasing : Bool
  least : Option Handle
  greatest : Option Handle
deriving DecidableEq

/-- The summary of the mintings of a number of threads. -/
def MintingSummary.of (threads : Nat) (mintings : List Minting) : MintingSummary :=
  let handles := ascending (mintings.map (·.handle))
  { distinct := handles.length
    increasing := (List.range threads).all fun thread => isIncreasing (handlesOf thread mintings)
    least := handles.head?
    greatest := handles.getLast? }

end Unknowns
