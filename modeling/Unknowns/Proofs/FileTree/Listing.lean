import Unknowns.FileTree
import Unknowns.Proofs.Elements

/-! What lies where in a file tree does not depend on the order in which directories are listed. -/

namespace Unknowns

namespace FileTree

/-- What lies at a place, without what a directory has in it. -/
inductive Kind
  | file (content : ByteArray)
  | directory

/-- What a tree is at its root. -/
def kind : FileTree → Kind
  | .file content => .file content
  | .directory _ => .directory

/-- What lies at a path: a file with its bytes, a directory, or nothing. -/
def kind? (tree : FileTree) (path : Path) : Option Kind :=
  (tree.find? path).map kind

/-- A tree in which no directory lists a name twice. -/
inductive WellListed : FileTree → Prop
  | file (content : ByteArray) : WellListed (.file content)
  | directory {entries : List (String × FileTree)} (distinct : (entries.map Prod.fst).Nodup)
      (below : ∀ entry ∈ entries, WellListed entry.2) : WellListed (.directory entries)

/-- Two trees are the same but for the order in which directories list their entries. -/
inductive Relisted : FileTree → FileTree → Prop
  | same (tree : FileTree) : Relisted tree tree
  | reordered {entries others : List (String × FileTree)} (order : entries.Perm others) :
      Relisted (.directory entries) (.directory others)
  | inside {tree other : FileTree} (name : String) (before after : List (String × FileTree))
      (listed : Relisted tree other) :
      Relisted (.directory (before ++ (name, tree) :: after))
        (.directory (before ++ (name, other) :: after))
  | trans {tree other last : FileTree} (first : Relisted tree other)
      (second : Relisted other last) : Relisted tree last

variable {tree other : FileTree} {entries others : List (String × FileTree)}

@[simp]
theorem wellListed_file (content : ByteArray) : (file content).WellListed :=
  .file content

@[simp]
theorem wellListed_directory :
    (directory entries).WellListed ↔
      (entries.map Prod.fst).Nodup ∧ ∀ entry ∈ entries, entry.2.WellListed := by
  constructor
  · intro listed
    cases listed with
    | directory distinct below => exact ⟨distinct, below⟩
  · rintro ⟨distinct, below⟩
    exact .directory distinct below

@[simp]
theorem find?_nil (tree : FileTree) : tree.find? [] = some tree := by
  cases tree <;> rfl

@[simp]
theorem find?_file (content : ByteArray) (name : String) (rest : Path) :
    (file content).find? (name :: rest) = none := rfl

@[simp]
theorem find?_directory (entries : List (String × FileTree)) (name : String) (rest : Path) :
    (directory entries).find? (name :: rest) = (entries.lookup name).bind (·.find? rest) := rfl

/-- A longer path is followed from where the shorter one leads. -/
theorem find?_append (tree : FileTree) (path rest : Path) :
    tree.find? (path ++ rest) = (tree.find? path).bind (·.find? rest) := by
  -- The shorter path is followed name by name; a file on it ends both ways.
  induction path generalizing tree with
  | nil => simp
  | cons name path ih =>
    cases tree with
    | file content => rfl
    | directory entries =>
      rw [List.cons_append, find?_directory, find?_directory, Option.bind_assoc]
      exact congrArg _ (funext ih)

@[simp]
theorem kind?_nil (tree : FileTree) : tree.kind? [] = some tree.kind := by
  simp [kind?]

@[simp]
theorem kind?_file (content : ByteArray) (name : String) (rest : Path) :
    (file content).kind? (name :: rest) = none := rfl

@[simp]
theorem kind?_directory (entries : List (String × FileTree)) (name : String) (rest : Path) :
    (directory entries).kind? (name :: rest) = (entries.lookup name).bind (·.kind? rest) := by
  simp only [kind?, find?_directory, Option.map_bind]
  rfl

/-- What lies below a place lies in the tree that is found there. -/
theorem kind?_append (tree : FileTree) (path rest : Path) :
    tree.kind? (path ++ rest) = (tree.find? path).bind (·.kind? rest) := by
  simp only [kind?, find?_append, Option.map_bind]
  rfl

/-- The bytes at a path are those of the file that lies there. -/
theorem content?_eq_some_iff {path : Path} {content : ByteArray} :
    tree.content? path = some content ↔ tree.kind? path = some (.file content) := by
  unfold content? kind?
  rcases tree.find? path with _ | _ | _ <;> simp [kind]

/-- A directory lies at a path exactly when one is found there. -/
theorem kind?_eq_directory_iff {path : Path} :
    tree.kind? path = some .directory ↔ ∃ entries, tree.find? path = some (.directory entries) := by
  unfold kind?
  rcases tree.find? path with _ | _ | _ <;> simp [kind]

/-- A file lies at a path exactly when it is found there. -/
theorem kind?_eq_file_iff {path : Path} {content : ByteArray} :
    tree.kind? path = some (.file content) ↔ tree.find? path = some (.file content) := by
  unfold kind?
  rcases tree.find? path with _ | _ | _ <;> simp [kind]

/-- Nothing lies at a path exactly when nothing is found there. -/
theorem kind?_eq_none_iff {path : Path} : tree.kind? path = none ↔ tree.find? path = none := by
  simp [kind?]

/-- Trees with the same at a path have the same bytes there. -/
theorem content?_congr {path : Path} (same : tree.kind? path = other.kind? path) :
    tree.content? path = other.content? path := by
  ext1 content
  rw [content?_eq_some_iff, content?_eq_some_iff, same]

/-- Each tree that is found in a well listed one is well listed. -/
theorem WellListed.find? (listed : tree.WellListed) {path : Path}
    (found : tree.find? path = some other) : other.WellListed := by
  induction path generalizing tree with
  | nil =>
    rw [find?_nil, Option.some.injEq] at found
    exact found ▸ listed
  | cons name rest ih =>
    cases listed with
    | file content => cases found
    | directory distinct below =>
      rw [find?_directory, Option.bind_eq_some_iff] at found
      obtain ⟨tree, named, found⟩ := found
      -- What the name leads to is an entry, so it is well listed itself.
      obtain ⟨before, after, rfl, _⟩ := List.lookup_eq_some_iff.mp named
      exact ih (below (name, tree) (by simp)) found

namespace Relisted

/-- A tree that is listed in another order goes on listing no name twice. -/
theorem wellListed (relisted : tree.Relisted other) (listed : tree.WellListed) :
    other.WellListed := by
  induction relisted with
  | same => exact listed
  | trans _ _ first second => exact second (first listed)
  | reordered order =>
    rw [wellListed_directory] at listed ⊢
    exact ⟨(order.map Prod.fst).nodup_iff.mp listed.1,
      fun entry member => listed.2 entry (order.mem_iff.mpr member)⟩
  | inside name before after _ ih =>
    simp only [wellListed_directory, List.map_append, List.map_cons, List.mem_append,
      List.mem_cons] at listed ⊢
    refine ⟨listed.1, ?_⟩
    rintro entry (earlier | rfl | later)
    · exact listed.2 entry (.inl earlier)
    · exact ih (listed.2 _ (.inr (.inl rfl)))
    · exact listed.2 entry (.inr (.inr later))

/-- The same lies at every place, in whichever order directories are listed. -/
theorem kind? (relisted : tree.Relisted other) (listed : tree.WellListed) (path : Path) :
    tree.kind? path = other.kind? path := by
  induction relisted generalizing path with
  | same => rfl
  | trans first _ ihFirst ihSecond =>
    exact (ihFirst listed path).trans (ihSecond (first.wellListed listed) path)
  | @reordered entries others order =>
    cases path with
    | nil => simp [kind]
    | cons name rest =>
      -- Among distinct names a name leads to its entry, wherever that is in the list.
      have after := (reordered order).wellListed listed
      rw [wellListed_directory] at listed after
      have named : entries.lookup name = others.lookup name := by
        ext1 tree
        rw [lookup_eq_some_iff_mem listed.1, lookup_eq_some_iff_mem after.1, order.mem_iff]
      rw [kind?_directory, kind?_directory, named]
  | inside name before after _ ih =>
    cases path with
    | nil => simp [kind]
    | cons first rest =>
      have below := ih ((wellListed_directory.mp listed).2 (name, _) (by simp)) rest
      simp only [kind?_directory, List.lookup_append, List.lookup_cons]
      -- Only the changed entry is looked into.
      cases before.lookup first with
      | some earlier => rfl
      | none =>
        rw [Option.none_or, Option.none_or]
        cases first == name with
        | true => exact below
        | false => rfl

end Relisted

/-- The files below a directory are those below its entries. -/
theorem entryFilesFrom_eq_flatMap (path : Path) (entries : List (String × FileTree)) :
    entryFilesFrom path entries =
      entries.flatMap fun entry => entry.2.filesFrom (path ++ [entry.1]) := by
  induction entries with
  | nil => rfl
  | cons entry rest ih => rw [entryFilesFrom, List.flatMap_cons, ih]

/-- The walk through a tree meets each of its files, and nothing else. -/
theorem mem_filesFrom (listed : tree.WellListed) {path place : Path} {content : ByteArray} :
    (place, content) ∈ tree.filesFrom path ↔
      ∃ rest, place = path ++ rest ∧ tree.content? rest = some content := by
  -- The walk goes down the tree, and so does a path that leads to a file.
  induction listed generalizing path with
  | file held =>
    simp only [filesFrom, List.mem_singleton, Prod.mk.injEq, content?_eq_some_iff]
    constructor
    · rintro ⟨rfl, rfl⟩
      exact ⟨[], by simp [kind]⟩
    · rintro ⟨rest, rfl, found⟩
      cases rest with
      | nil => simpa [kind, eq_comm] using found
      | cons name rest => cases found
  | @directory entries distinct below ih =>
    simp only [filesFrom, entryFilesFrom_eq_flatMap, List.mem_flatMap, content?_eq_some_iff]
    constructor
    · rintro ⟨⟨name, tree⟩, member, walked⟩
      obtain ⟨rest, rfl, found⟩ := (ih _ member).mp walked
      have named := (lookup_eq_some_iff_mem distinct).mpr member
      refine ⟨name :: rest, by simp, ?_⟩
      rwa [kind?_directory, named, Option.bind_some, ← content?_eq_some_iff]
    · rintro ⟨rest, rfl, found⟩
      cases rest with
      | nil => simp [kind] at found
      | cons name rest =>
        rw [kind?_directory, Option.bind_eq_some_iff] at found
        obtain ⟨tree, named, found⟩ := found
        have member := (lookup_eq_some_iff_mem distinct).mp named
        exact ⟨(name, tree), member,
          (ih _ member).mpr ⟨rest, by simp, content?_eq_some_iff.mpr found⟩⟩

end FileTree

end Unknowns
