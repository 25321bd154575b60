import Unknowns.Proofs.FileTree.Listing

/-! What making directories and writing files changes in a tree, and where it fails. -/

namespace Unknowns

namespace FileTree

variable {tree other after : FileTree} {entries : List (String × FileTree)} {name : String}
  {path rest : Path} {content : ByteArray} {reason : PathFault}

/-- A look-up stops at the first entry of the name. -/
theorem lookup_cons_eq_ite (first : String) (tree : FileTree) (entries : List (String × FileTree))
    (sought : String) :
    List.lookup sought ((first, tree) :: entries) =
      if sought = first then some tree else entries.lookup sought := by
  rw [List.lookup_cons]
  by_cases same : sought = first
  · rw [if_pos same, beq_iff_eq.mpr same]
  · rw [if_neg same, beq_eq_false_iff_ne.mpr same]

/-- Setting an entry changes what its name leads to, and nothing else. -/
theorem lookup_setEntry (name : String) (tree : FileTree) (entries : List (String × FileTree))
    (sought : String) :
    (setEntry name tree entries).lookup sought =
      if sought = name then some tree else entries.lookup sought := by
  induction entries with
  | nil => rw [setEntry, lookup_cons_eq_ite]
  | cons entry rest ih =>
    obtain ⟨first, old⟩ := entry
    rw [setEntry]
    by_cases replaced : first = name
    · subst replaced
      rw [if_pos rfl, lookup_cons_eq_ite, lookup_cons_eq_ite]
      split <;> rfl
    · rw [if_neg replaced, lookup_cons_eq_ite, lookup_cons_eq_ite, ih]
      by_cases same : sought = first
      · rw [if_pos same, if_pos same, if_neg (same ▸ replaced)]
      · rw [if_neg same, if_neg same]

/-- An entry that is set to what it is stays what it is. -/
theorem setEntry_of_lookup (named : entries.lookup name = some tree) :
    setEntry name tree entries = entries := by
  induction entries with
  | nil => cases named
  | cons entry rest ih =>
    obtain ⟨first, old⟩ := entry
    rw [lookup_cons_eq_ite] at named
    rw [setEntry]
    by_cases same : first = name
    · rw [if_pos same.symm, Option.some.injEq] at named
      rw [if_pos same, same, named]
    · rw [if_neg (Ne.symm same)] at named
      rw [if_neg same, ih named]

/-- Of two settings of one entry, the later one counts. -/
theorem setEntry_setEntry (name : String) (tree other : FileTree)
    (entries : List (String × FileTree)) :
    setEntry name other (setEntry name tree entries) = setEntry name other entries := by
  induction entries with
  | nil => simp [setEntry]
  | cons entry rest ih =>
    obtain ⟨first, old⟩ := entry
    by_cases same : first = name
    · simp [setEntry, same]
    · simp [setEntry, same, ih]

/-- A name that is not listed comes last when it is set; any other stays where it is. -/
theorem map_fst_setEntry (name : String) (tree : FileTree) (entries : List (String × FileTree)) :
    (setEntry name tree entries).map Prod.fst =
      if name ∈ entries.map Prod.fst then entries.map Prod.fst
      else entries.map Prod.fst ++ [name] := by
  induction entries with
  | nil => rfl
  | cons entry rest ih =>
    obtain ⟨first, old⟩ := entry
    rw [setEntry]
    by_cases same : first = name
    · simp [same]
    · rw [if_neg same, List.map_cons, ih]
      by_cases listed : name ∈ rest.map Prod.fst <;> simp [listed, Ne.symm same]

/-- A well listed directory stays so when an entry is set to a well listed tree. -/
theorem WellListed.setEntry (listed : (FileTree.directory entries).WellListed)
    (own : tree.WellListed) :
    (FileTree.directory (FileTree.setEntry name tree entries)).WellListed := by
  rw [wellListed_directory] at listed ⊢
  obtain ⟨distinct, below⟩ := listed
  constructor
  · rw [map_fst_setEntry]
    split
    · exact distinct
    · rename_i absent
      refine List.nodup_append.mpr ⟨distinct, by simp, ?_⟩
      intro first member last new same
      exact absent (List.mem_singleton.mp new ▸ same ▸ member)
  · -- Each entry is the one that was set, or one from before.
    clear distinct
    induction entries with
    | nil => simpa [FileTree.setEntry] using own
    | cons entry rest ih =>
      obtain ⟨first, old⟩ := entry
      obtain ⟨head, later⟩ := List.forall_mem_cons.mp below
      rw [FileTree.setEntry]
      split
      · exact List.forall_mem_cons.mpr ⟨own, later⟩
      · exact List.forall_mem_cons.mpr ⟨head, ih later⟩

/-- What lies under a name is well listed, and so is what stands in for it. -/
theorem WellListed.lookup_getD (listed : (FileTree.directory entries).WellListed)
    (fallback : other.WellListed) : ((entries.lookup name).getD other).WellListed := by
  cases named : entries.lookup name with
  | none => exact fallback
  | some tree =>
    have found : (FileTree.directory entries).find? [name] = some tree := by simp [named]
    exact listed.find? found

/-- A directory on the way is made first, if it is missing, and what lies below it next. -/
theorem makeDirectory_cons (entries : List (String × FileTree)) (name : String) (rest : Path) :
    (directory entries).makeDirectory (name :: rest) =
      (((entries.lookup name).getD empty).makeDirectory rest).map fun below =>
        directory (setEntry name below entries) := by
  rw [makeDirectory]
  cases ((entries.lookup name).getD empty).makeDirectory rest <;> rfl

/-- A directory is made below an entry, and what comes of it is set in its place. -/
theorem makeDirectory_cons_eq_ok_iff :
    (directory entries).makeDirectory (name :: rest) = .ok after ↔
      ∃ below, ((entries.lookup name).getD empty).makeDirectory rest = .ok below ∧
        directory (setEntry name below entries) = after := by
  rw [makeDirectory_cons]
  cases ((entries.lookup name).getD empty).makeDirectory rest <;> simp [Except.map]

/-- What a file is written over, where there is no entry yet. -/
def unwritten (rest : Path) : FileTree :=
  if rest = [] then file .empty else empty

/-- A write changes one entry, whether its name is the last one or not. -/
theorem writeFile_cons (content : ByteArray) (entries : List (String × FileTree)) (name : String)
    (rest : Path) :
    (directory entries).writeFile content (name :: rest) =
      (((entries.lookup name).getD (unwritten rest)).writeFile content rest).map
        fun below => directory (setEntry name below entries) := by
  cases rest with
  | nil =>
    -- What a new file held before does not matter.
    rw [writeFile, unwritten, if_pos rfl]
    rcases entries.lookup name with _ | _ | _ <;> rfl
  | cons next rest =>
    rw [unwritten, if_neg (List.cons_ne_nil next rest), writeFile]
    · cases ((entries.lookup name).getD empty).writeFile content (next :: rest) <;> rfl
    · exact List.cons_ne_nil next rest

/-- A file is written below an entry, and what comes of it is set in its place. -/
theorem writeFile_cons_eq_ok_iff :
    (directory entries).writeFile content (name :: rest) = .ok after ↔
      ∃ below, ((entries.lookup name).getD (unwritten rest)).writeFile content rest = .ok below ∧
        directory (setEntry name below entries) = after := by
  rw [writeFile_cons]
  cases ((entries.lookup name).getD (unwritten rest)).writeFile content rest <;> simp [Except.map]

/-- Nothing new lies below an entry that was missing. -/
private theorem kind?_getD {missing : FileTree} {path : Path} (found : Option FileTree)
    (nothing : missing.kind? path = none) :
    (found.getD missing).kind? path = found.bind (·.kind? path) := by
  cases found with
  | none => exact nothing
  | some tree => rfl

private theorem kind?_unwritten (rest : Path) (name : String) (later : Path) :
    (unwritten rest).kind? (name :: later) = none := by
  unfold unwritten
  split <;> rfl

/-- A directory that is made brings those on the way to it, and changes nothing else. -/
theorem kind?_makeDirectory (made : tree.makeDirectory path = .ok after) (place : Path) :
    after.kind? place = if place <+: path then some .directory else tree.kind? place := by
  -- Each name on the path changes one entry of one directory.
  induction path generalizing tree after place with
  | nil =>
    cases tree with
    | file content => cases made
    | directory entries =>
      rw [makeDirectory, Except.ok.injEq] at made
      subst made
      cases place with
      | nil => simp [kind]
      | cons first later => simp
  | cons name rest ih =>
    cases tree with
    | file content => cases made
    | directory entries =>
      obtain ⟨below, inner, rfl⟩ := makeDirectory_cons_eq_ok_iff.mp made
      cases place with
      | nil => simp [kind]
      | cons first later =>
        simp only [kind?_directory, lookup_setEntry, List.cons_prefix_cons]
        by_cases same : first = name
        · -- Below the changed entry the induction says what lies there.
          subst same
          simp only [if_true, Option.bind_some, true_and]
          rw [ih inner later]
          split
          · rfl
          · rename_i beyond
            cases later with
            | nil => exact absurd List.nil_prefix beyond
            | cons next later => exact kind?_getD _ rfl
        · simp [same]

/-- A file that is written brings the directories on the way to it, and changes nothing else. -/
theorem kind?_writeFile (written : tree.writeFile content path = .ok after) (place : Path) :
    after.kind? place =
      if place = path then some (.file content)
      else if place <+: path then some .directory
      else tree.kind? place := by
  induction path generalizing tree after place with
  | nil =>
    cases tree with
    | directory entries => cases written
    | file old =>
      rw [writeFile, Except.ok.injEq] at written
      subst written
      cases place with
      | nil => simp [kind]
      | cons first later => simp
  | cons name rest ih =>
    cases tree with
    | file old => cases written
    | directory entries =>
      obtain ⟨below, inner, rfl⟩ := writeFile_cons_eq_ok_iff.mp written
      cases place with
      | nil => simp [kind]
      | cons first later =>
        simp only [kind?_directory, lookup_setEntry, List.cons_prefix_cons, List.cons.injEq]
        by_cases same : first = name
        · -- Below the changed entry the induction says what lies there.
          subst same
          simp only [if_true, Option.bind_some, true_and]
          rw [ih inner later]
          split
          · rfl
          · split
            · rfl
            · rename_i beyond
              cases later with
              | nil => exact absurd List.nil_prefix beyond
              | cons next later => exact kind?_getD _ (kind?_unwritten rest next later)
        · simp [same]

/-- Where there is a directory, making it changes nothing. -/
theorem makeDirectory_of_directory (lies : tree.kind? path = some .directory) :
    tree.makeDirectory path = .ok tree := by
  induction path generalizing tree with
  | nil =>
    cases tree with
    | file content => simp [kind] at lies
    | directory entries => rfl
  | cons name rest ih =>
    cases tree with
    | file content => cases lies
    | directory entries =>
      rw [kind?_directory, Option.bind_eq_some_iff] at lies
      obtain ⟨below, named, lies⟩ := lies
      rw [makeDirectory_cons, named, Option.getD_some, ih lies, Except.map,
        setEntry_of_lookup named]

/-- Where there is a file with these bytes, writing them changes nothing. -/
theorem writeFile_of_file (lies : tree.kind? path = some (.file content)) :
    tree.writeFile content path = .ok tree := by
  induction path generalizing tree with
  | nil =>
    cases tree with
    | directory entries => simp [kind] at lies
    | file old =>
      rw [kind?_nil, kind, Option.some.injEq, Kind.file.injEq] at lies
      rw [writeFile, lies]
  | cons name rest ih =>
    cases tree with
    | file old => cases lies
    | directory entries =>
      rw [kind?_directory, Option.bind_eq_some_iff] at lies
      obtain ⟨below, named, lies⟩ := lies
      rw [writeFile_cons, named, Option.getD_some, ih lies, Except.map, setEntry_of_lookup named]

/-- A change below an entry fails where the change itself does. -/
private theorem map_fails_iff {result : Except PathFault FileTree}
    {wrap : FileTree → FileTree} :
    (∃ reason, result.map wrap = .error reason) ↔ ∃ reason, result = .error reason := by
  cases result <;> simp [Except.map]

/-- What lies on the way along a path lies at its beginning, or on the way from its first name. -/
private theorem exists_prefix_cons {lies : Path → Prop} :
    (∃ place, place <+: name :: rest ∧ lies place) ↔
      lies [] ∨ ∃ later, later <+: rest ∧ lies (name :: later) := by
  constructor
  · rintro ⟨place, before, here⟩
    rcases List.prefix_cons_iff.mp before with rfl | ⟨later, rfl, shorter⟩
    · exact .inl here
    · exact .inr ⟨later, shorter, here⟩
  · rintro (here | ⟨later, shorter, here⟩)
    · exact ⟨[], List.nil_prefix, here⟩
    · exact ⟨name :: later, List.cons_prefix_cons.mpr ⟨rfl, shorter⟩, here⟩

/-- A directory cannot be made exactly where a file is in the way. -/
theorem makeDirectory_fails_iff :
    (∃ reason, tree.makeDirectory path = .error reason) ↔
      ∃ place, place <+: path ∧ ∃ content, tree.kind? place = some (.file content) := by
  -- A file in the way is the tree itself, or it is in the way of the rest of the path.
  induction path generalizing tree with
  | nil => cases tree <;> simp [makeDirectory, kind]
  | cons name rest ih =>
    rw [exists_prefix_cons]
    cases tree with
    | file content => simp [makeDirectory, kind]
    | directory entries =>
      rw [makeDirectory_cons, map_fails_iff, ih]
      simp only [kind?_nil, kind, kind?_directory]
      cases entries.lookup name with
      | some below => simp
      | none =>
        -- No file lies in a directory that was missing.
        have nowhere : ∀ place content, empty.kind? place ≠ some (.file content) := by
          rintro (_ | _) content <;> simp [empty, kind]
        simp [nowhere]

/-- A file cannot be written exactly over a directory, and where another file is in the way. -/
theorem writeFile_fails_iff :
    (∃ reason, tree.writeFile content path = .error reason) ↔
      tree.kind? path = some .directory ∨
        ∃ place, place <+: path ∧ place ≠ path ∧ ∃ held, tree.kind? place = some (.file held) := by
  induction path generalizing tree with
  | nil => cases tree <;> simp [writeFile, kind]
  | cons name rest ih =>
    rw [exists_prefix_cons]
    cases tree with
    | file content => simp [writeFile, kind]
    | directory entries =>
      rw [writeFile_cons, map_fails_iff, ih]
      simp only [kind?_nil, kind, kind?_directory]
      cases entries.lookup name with
      | some below => simp
      | none =>
        -- Where the last name is new nothing is in the way, and neither is it below a new name.
        have free : (unwritten rest).kind? rest ≠ some .directory := by
          cases rest <;> simp [unwritten, empty, kind]
        have nowhere : ∀ place, place <+: rest → place ≠ rest →
            ∀ held, (unwritten rest).kind? place ≠ some (.file held) := by
          rintro (_ | _) _ shorter held
          · simp [unwritten, shorter.symm, empty, kind]
          · simp [kind?_unwritten]
        simpa [free] using nowhere

/-- What is added to a file that was written might have been written with it. -/
theorem writeFile_appendFile (written : tree.writeFile content path = .ok after)
    (added : ByteArray) :
    tree.writeFile (content ++ added) path = .ok (after.appendFile added path) := by
  induction path generalizing tree after with
  | nil =>
    cases tree with
    | directory entries => cases written
    | file old => cases written; rfl
  | cons name rest ih =>
    cases tree with
    | file old => cases written
    | directory entries =>
      obtain ⟨below, inner, rfl⟩ := writeFile_cons_eq_ok_iff.mp written
      have found : (setEntry name below entries).lookup name = some below := by
        rw [lookup_setEntry, if_pos rfl]
      -- The entry is set once with all that is written, or twice, of which the second time counts.
      refine writeFile_cons_eq_ok_iff.mpr ⟨_, ih inner, ?_⟩
      rw [appendFile, found]
      simp only [setEntry_setEntry]

/-- Making a directory lists no name twice. -/
theorem WellListed.makeDirectory (listed : tree.WellListed)
    (made : tree.makeDirectory path = .ok after) : after.WellListed := by
  induction path generalizing tree after with
  | nil =>
    cases tree with
    | file content => cases made
    | directory entries => cases made; exact listed
  | cons name rest ih =>
    cases tree with
    | file content => cases made
    | directory entries =>
      obtain ⟨below, inner, rfl⟩ := makeDirectory_cons_eq_ok_iff.mp made
      have fresh : empty.WellListed := by simp [empty]
      exact listed.setEntry (ih (listed.lookup_getD fresh) inner)

/-- Writing a file lists no name twice. -/
theorem WellListed.writeFile (listed : tree.WellListed)
    (written : tree.writeFile content path = .ok after) : after.WellListed := by
  induction path generalizing tree after with
  | nil =>
    cases tree with
    | file content => cases written; simp
    | directory entries => cases written
  | cons name rest ih =>
    cases tree with
    | file content => cases written
    | directory entries =>
      obtain ⟨below, inner, rfl⟩ := writeFile_cons_eq_ok_iff.mp written
      have fresh : (unwritten rest).WellListed := by
        unfold unwritten
        split <;> simp [empty]
      exact listed.setEntry (ih (listed.lookup_getD fresh) inner)

/-- Following names lists no name twice. -/
theorem WellListed.reach {names : List String} {path place : Path} (listed : tree.WellListed)
    (reached : FileTree.reach path names tree = .ok (place, after)) : after.WellListed := by
  induction names generalizing path tree with
  | nil =>
    cases reached
    exact listed
  | cons name rest ih =>
    rw [FileTree.reach] at reached
    split at reached
    · -- Leading back up, a directory may have been made.
      cases made : tree.makeDirectory path with
      | error reason => rw [made] at reached; cases reached
      | ok between =>
        rw [made] at reached
        exact ih (listed.makeDirectory made) reached
    · exact ih listed reached

/-- Adding a directory lists no name twice. -/
theorem WellListed.addDirectory {place : String} (listed : tree.WellListed)
    (added : tree.addDirectory place = .ok after) : after.WellListed := by
  rw [FileTree.addDirectory] at added
  cases led : FileTree.reach [] (Path.steps place) tree with
  | error reason => rw [led] at added; cases added
  | ok reached =>
    rw [led] at added
    exact (listed.reach led).makeDirectory added

/-- Adding a file lists no name twice. -/
theorem WellListed.addFile {place : String} {content : ByteArray} (listed : tree.WellListed)
    (added : tree.addFile place content = .ok after) : after.WellListed := by
  rw [FileTree.addFile] at added
  cases led : FileTree.reach [] (Path.steps place) tree with
  | error reason => rw [led] at added; cases added
  | ok reached =>
    rw [led] at added
    exact (listed.reach led).writeFile added

end FileTree

end Unknowns
