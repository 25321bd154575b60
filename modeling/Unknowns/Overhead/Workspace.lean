import Unknowns.Overhead.CommandLine

/-! Workspaces written line by line, so that the command can be run on them. -/

namespace Unknowns

/-- What the command finds around it: the build tool, and the files. -/
structure Workspace where
  tool : BuildTool
  tree : FileTree

namespace Workspace

/-- A workspace without files, in which the build tool is missing. -/
def empty : Workspace := ⟨.missing, .empty⟩

/-- The build tool that ends its next start with this status. -/
def addStatus (tool : BuildTool) (status : UInt8) : BuildTool :=
  match tool with
  | .missing => .scripted [status]
  | .scripted statuses => .scripted (statuses ++ [status])

/-- A line adds a status, a directory, or a file with its bytes in front of its path. -/
def takeLine? (workspace : Workspace) (line : String) : Option Workspace :=
  match line.splitOn " " with
  | ["status", code] => do
    return { workspace with tool := addStatus workspace.tool (UInt8.ofNat (← code.toNat?)) }
  | "directory" :: words => do
    let place := " ".intercalate words
    return { workspace with tree := ← (workspace.tree.addDirectory place).toOption }
  | "file" :: bytes :: words => do
    let content := ByteArray.mk (← hexBytes? bytes.toList).toArray
    let place := " ".intercalate words
    return { workspace with tree := ← (workspace.tree.addFile place content).toOption }
  | _ => none

/-- The workspace that lines write, none when one of them cannot be taken. -/
def read? (lines : List String) : Option Workspace :=
  lines.foldlM takeLine? empty

end Workspace

end Unknowns
