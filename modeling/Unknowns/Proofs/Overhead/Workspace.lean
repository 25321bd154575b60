import Unknowns.Overhead.Workspace
import Unknowns.Proofs.FileTree.Writing

/-! The trees of workspaces are well listed, as file systems are. -/

namespace Unknowns

namespace Workspace

/-- The tree of an outcome is that of a success. -/
private theorem eq_ok_of_toOption {result : Except PathFault FileTree} {tree : FileTree}
    (known : result.toOption = some tree) : result = .ok tree := by
  cases result with
  | error reason => cases known
  | ok made => exact congrArg Except.ok (Option.some.inj known)

/-- A line leaves a tree well listed. -/
theorem wellListed_of_takeLine? {workspace after : Workspace} {line : String}
    (listed : workspace.tree.WellListed) (taken : workspace.takeLine? line = some after) :
    after.tree.WellListed := by
  unfold takeLine? at taken
  split at taken
  · -- A status changes what the tool does, and not the tree.
    rename_i code _
    cases read : code.toNat? with
    | none => rw [read] at taken; cases taken
    | some status => rw [read] at taken; cases taken; exact listed
  · simp only [Option.bind_eq_bind, Option.pure_def, Option.bind_eq_some_iff,
      Option.some.injEq] at taken
    obtain ⟨tree, added, rfl⟩ := taken
    exact listed.addDirectory (eq_ok_of_toOption added)
  · simp only [Option.bind_eq_bind, Option.pure_def, Option.bind_eq_some_iff,
      Option.some.injEq] at taken
    obtain ⟨bytes, _, tree, added, rfl⟩ := taken
    exact listed.addFile (eq_ok_of_toOption added)
  · cases taken

/-- The tree that lines write is well listed, so that the laws of reports hold of it. -/
theorem wellListed_of_read? {workspace : Workspace} {lines : List String}
    (read : Workspace.read? lines = some workspace) : workspace.tree.WellListed := by
  have general : ∀ start : Workspace, start.tree.WellListed →
      lines.foldlM takeLine? start = some workspace → workspace.tree.WellListed := by
    clear read
    induction lines with
    | nil =>
      intro start listed read
      cases read
      exact listed
    | cons line rest ih =>
      intro start listed read
      rw [List.foldlM_cons, Option.bind_eq_bind, Option.bind_eq_some_iff] at read
      obtain ⟨next, taken, read⟩ := read
      exact ih next (wellListed_of_takeLine? listed taken) read
  exact general empty (by simp [empty, FileTree.empty]) read

end Workspace

end Unknowns
