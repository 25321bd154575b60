import Unknowns.Overhead.CommandLine

/-! Arguments that ask for benchmarks are the name of the command and its switches. -/

namespace Unknowns

/-- A switch as it is written among arguments. -/
def Switch.argument (switch : Switch) : String := "--" ++ switch.name

/-- A switch is known by how it is written. -/
theorem Switch.argument_inj {left right : Switch} :
    left.argument = right.argument ↔ left = right := by
  cases left <;> cases right <;> decide

namespace ArgumentForm

/-- An argument that reads as a long option without a value is its name behind two dashes. -/
theorem eq_of_long {argument name : String} (form : of argument = .long name none) :
    argument = "--" ++ name := by
  unfold of at form
  -- Of the four forms, only the one with two dashes in front of a text is that of a long option.
  split at form
  · cases form
  · rename_i text _ written
    simp only [splitValue] at form
    split at form
    · -- Without an equals sign the name goes on to the end.
      rename_i ended
      have whole : text.takeWhile (· != '=') = text := by
        have parts := List.takeWhile_append_dropWhile (p := (· != '=')) (l := text)
        rwa [ended, List.append_nil] at parts
      rw [whole] at form
      cases form
      rw [← String.toList_inj, written]
      simp
    · -- With one, the option would have a value.
      cases form
  · cases form
  · cases form

/-- Only two dashes read as such. -/
theorem eq_of_dashes {argument : String} (form : of argument = .dashes) : argument = "--" := by
  unfold of at form
  split at form
  · rename_i written
    exact String.toList_inj.mp written
  · cases form
  · cases form
  · cases form

end ArgumentForm

/-- No option that is left to the help asks for benchmarks. -/
theorem helpOption_ne_bench {topic : HelpTopic} {form : ArgumentForm}
    {otherwise : Except UsageFault Request} {switches : List Switch} (option : form ≠ .plain)
    (noEnd : form ≠ .dashes) : helpOption topic form otherwise ≠ .ok (.bench switches) := by
  -- What is left is an option, which is the one for help or unknown.
  cases form with
  | plain => exact absurd rfl option
  | dashes => exact absurd rfl noEnd
  | long name value => unfold helpOption; split <;> simp_all
  | short first => unfold helpOption; split <;> simp_all

/-- Arguments that are read as switches are the switches as they are written, up to two dashes. -/
theorem readBench_eq_bench {given switches : List Switch} {arguments : List String}
    (read : readBench given arguments = .ok (.bench switches)) :
    ∃ own trailing, switches = given ++ own ∧ arguments = own.map Switch.argument ++ trailing ∧
      (trailing = [] ∨ trailing = ["--"]) := by
  -- Each switch joins those that were given, before the arguments behind it are read.
  induction arguments generalizing given with
  | nil =>
    cases read
    exact ⟨[], [], by simp⟩
  | cons argument rest ih =>
    cases form : ArgumentForm.of argument with
    | plain =>
      -- Anything else than an option is refused.
      simp only [readBench, form] at read
      cases read
    | dashes =>
      -- Behind two dashes nothing may follow.
      simp only [readBench, form] at read
      cases rest with
      | nil =>
        cases read
        exact ⟨[], ["--"], by simp [ArgumentForm.eq_of_dashes form]⟩
      | cons next _ => cases read
    | short first =>
      simp only [readBench, form] at read
      exact absurd read (helpOption_ne_bench (by simp) (by simp))
    | long name value =>
      simp only [readBench, form] at read
      split at read
      · rename_i switch named
        -- A switch that was given before is refused, and any other one joins those.
        split at read
        · cases read
        · obtain ⟨own, trailing, rfl, rfl, ended⟩ := ih read
          have written : argument = switch.argument := by
            have known : switch.name = name := by
              simpa using List.find?_some named
            rw [ArgumentForm.eq_of_long form, Switch.argument, known]
          exact ⟨switch :: own, trailing, by simp, by simp [written], ended⟩
      · cases read
      · exact absurd read (helpOption_ne_bench (by simp) (by simp))

namespace Request

variable {arguments : List String} {switches : List Switch}

/-- Benchmarks are asked for by the name of the command, its switches, and at most two dashes. -/
theorem read_eq_bench (asked : read arguments = .ok (.bench switches)) :
    ∃ trailing, arguments = "bench" :: switches.map Switch.argument ++ trailing ∧
      (trailing = [] ∨ trailing = ["--"]) := by
  unfold read at asked
  -- Without a command, behind another command, or behind an option, there are no benchmarks.
  split at asked
  · cases asked
  · obtain ⟨own, trailing, rfl, rfl, ended⟩ := readBench_eq_bench asked
    exact ⟨trailing, rfl, ended⟩
  · unfold readHelp at asked
    split at asked <;> cases asked
  · rename_i argument rest _ _
    cases form : ArgumentForm.of argument with
    | plain =>
      simp only [form] at asked
      cases asked
    | dashes =>
      simp only [form] at asked
      unfold readTrailing at asked
      split at asked
      · cases asked
      · split at asked <;> cases asked
    | short first =>
      simp only [form] at asked
      exact absurd asked (helpOption_ne_bench (by simp) (by simp))
    | long name value =>
      simp only [form] at asked
      exact absurd asked (helpOption_ne_bench (by simp) (by simp))

/-- A switch is on exactly when it is among the arguments. -/
theorem mem_of_read (asked : read arguments = .ok (.bench switches)) (switch : Switch) :
    switch ∈ switches ↔ switch.argument ∈ arguments := by
  obtain ⟨trailing, rfl, ended⟩ := read_eq_bench asked
  have known : switch.argument ∈ switches.map Switch.argument ↔ switch ∈ switches := by
    simp [Switch.argument_inj]
  -- Neither the name of the command nor two dashes alone are a switch.
  have notName : switch.argument ≠ "bench" := by cases switch <;> decide
  have notDashes : switch.argument ≠ "--" := by cases switch <;> decide
  rcases ended with rfl | rfl <;> simp [known, notName, notDashes]

end Request

end Unknowns
