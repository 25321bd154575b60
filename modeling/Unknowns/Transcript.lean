/-! Transcripts: what a list of calls returns, one after the other, and the state that it leaves. -/

namespace Unknowns

variable {State Other Request Result : Type}

/-- The results of a list of calls in order, and the state after the last of them. -/
def transcript (serve : State → Request → Result × State) :
    State → List Request → List Result × State
  | state, [] => ([], state)
  | state, request :: rest =>
    let (result, next) := serve state request
    let (results, last) := transcript serve next rest
    (result :: results, last)

/-- Calls that are made one after another leave what the later ones leave behind the earlier. -/
theorem transcript_append (serve : State → Request → Result × State) (state : State)
    (first later : List Request) :
    transcript serve state (first ++ later) =
      ((transcript serve state first).1 ++
          (transcript serve (transcript serve state first).2 later).1,
        (transcript serve (transcript serve state first).2 later).2) := by
  -- Each call of the first list moves the state that the rest starts from.
  induction first generalizing state with
  | nil => rfl
  | cons request rest ih =>
    simp only [List.cons_append, transcript]
    rw [ih]

/-- States that answer every call alike and stay related have equal transcripts. -/
theorem transcript_simulates {serve : State → Request → Result × State}
    {otherServe : Other → Request → Result × Other} {Related : State → Other → Prop}
    (alike : ∀ state other request, Related state other →
      (serve state request).1 = (otherServe other request).1 ∧
        Related (serve state request).2 (otherServe other request).2)
    (requests : List Request) {state : State} {other : Other} (related : Related state other) :
    (transcript serve state requests).1 = (transcript otherServe other requests).1 ∧
      Related (transcript serve state requests).2 (transcript otherServe other requests).2 := by
  -- The relation is the invariant that carries the induction over the calls.
  induction requests generalizing state other with
  | nil => exact ⟨rfl, related⟩
  | cons request rest ih =>
    obtain ⟨same, next⟩ := alike state other request related
    obtain ⟨results, last⟩ := ih next
    refine ⟨?_, last⟩
    simp only [transcript]
    rw [same, results]

end Unknowns
