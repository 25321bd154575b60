import Unknowns.Handle.Labels
import Unknowns.Handle.Schedule
import Unknowns.Variable

/-! Handles counted from a later start: every order, choice and grouping of them stays the same. -/

namespace Unknowns

/-- The handle a number of places later. -/
def Handle.shift (offset : Nat) (handle : Handle) : Handle :=
  ⟨handle.index + offset, Nat.add_pos_left handle.positive offset⟩

/-- The supply a number of places later. -/
def Supply.shift (offset : Nat) (supply : Supply) : Supply :=
  ⟨supply.next + offset, Nat.add_pos_left supply.positive offset⟩

/-- The next handle of a later supply is as much later. -/
theorem Supply.mint_shift (offset : Nat) (supply : Supply) :
    (supply.shift offset).mint =
      (supply.mint.1.shift offset, supply.mint.2.shift offset) := by
  have next : supply.next + offset + 1 = supply.next + 1 + offset := Nat.add_right_comm _ _ _
  simp only [mint, shift, Handle.shift, next]

namespace Handle

variable (offset : Nat) {left right : Handle}

/-- Handles keep their order. -/
@[simp] theorem shift_lt_shift : left.shift offset < right.shift offset ↔ left < right :=
  Nat.add_lt_add_iff_right

/-- Different handles stay different. -/
@[simp] theorem shift_inj : left.shift offset = right.shift offset ↔ left = right := by
  constructor
  · intro same
    have index : left.index + offset = right.index + offset := congrArg Handle.index same
    exact eq_of_index (Nat.add_right_cancel index)
  · exact congrArg (shift offset)

/-- And equal ones equal. -/
theorem beq_shift (left right : Handle) :
    (left.shift offset == right.shift offset) = (left == right) := by
  rw [Bool.eq_iff_iff, beq_iff_eq, beq_iff_eq, shift_inj]

/-- Comparisons come out as they did. -/
theorem order_shift (left right : Handle) :
    (left.shift offset).order (right.shift offset) = left.order right := by
  simp only [order, shift, Nat.compare_eq_ite_lt, Nat.add_lt_add_iff_right]

/-- Hashes of handles collide as they did. -/
theorem hash_shift (left right : Handle) :
    (hash (left.shift offset) == hash (right.shift offset)) = (hash left == hash right) := by
  -- The hash is the index as a machine word, to which the offset is added as a word.
  have word (handle : Handle) : hash (handle.shift offset) = hash handle + UInt64.ofNat offset :=
    UInt64.ofNat_add handle.index offset
  rw [word, word, Bool.eq_iff_iff, beq_iff_eq, beq_iff_eq, UInt64.add_left_inj]

end Handle

section

variable (offset : Nat)

private theorem insertAscending_shift (handle : Handle) (handles : List Handle) :
    insertAscending (handle.shift offset) (handles.map (·.shift offset)) =
      (insertAscending handle handles).map (·.shift offset) := by
  -- The place is found by asking which of two handles is below the other.
  induction handles with
  | nil => rfl
  | cons head rest ih =>
    simp only [List.map_cons, insertAscending, Handle.shift_lt_shift, ih]
    split
    · rfl
    · split <;> rfl

/-- Later handles are sorted alike. -/
theorem ascending_shift (handles : List Handle) :
    ascending (handles.map (·.shift offset)) = (ascending handles).map (·.shift offset) := by
  induction handles with
  | nil => rfl
  | cons head rest ih =>
    have sorted : List.foldr insertAscending [] (rest.map (·.shift offset)) =
        (List.foldr insertAscending [] rest).map (·.shift offset) := ih
    rw [ascending, List.map_cons, List.foldr_cons, sorted, insertAscending_shift]
    rfl

private theorem insertDescending_shift (handle : Handle) (handles : List Handle) :
    insertDescending (handle.shift offset) (handles.map (·.shift offset)) =
      (insertDescending handle handles).map (·.shift offset) := by
  induction handles with
  | nil => rfl
  | cons head rest ih =>
    simp only [List.map_cons, insertDescending, Handle.shift_lt_shift, ih]
    split <;> rfl

/-- Also with their repetitions, the latest first. -/
theorem descending_shift (handles : List Handle) :
    descending (handles.map (·.shift offset)) = (descending handles).map (·.shift offset) := by
  induction handles with
  | nil => rfl
  | cons head rest ih =>
    have sorted : List.foldr insertDescending [] (rest.map (·.shift offset)) =
        (List.foldr insertDescending [] rest).map (·.shift offset) := ih
    rw [descending, List.map_cons, List.foldr_cons, sorted, insertDescending_shift]
    rfl

theorem mem_map_shift {handle : Handle} {handles : List Handle} :
    handle.shift offset ∈ handles.map (·.shift offset) ↔ handle ∈ handles := by
  rw [List.mem_map]
  constructor
  · rintro ⟨other, member, same⟩
    exact (Handle.shift_inj offset).mp same ▸ member
  · exact fun member => ⟨handle, member, rfl⟩

/-- Repetitions are repetitions of later handles. -/
theorem distinctHandles_shift (handles : List Handle) :
    distinctHandles (handles.map (·.shift offset)) =
      (distinctHandles handles).map (·.shift offset) := by
  -- A later handle occurs again exactly where the handle does.
  induction handles with
  | nil => rfl
  | cons head rest ih =>
    simp only [List.map_cons, distinctHandles, ih, mem_map_shift]
    split <;> rfl

/-- What is kept under a handle is found, changed as it may be, under the later handle. -/
theorem lookup_shift {α β : Type} (change : α → β) (handle : Handle)
    (entries : List (Handle × α)) :
    (entries.map fun entry => (entry.1.shift offset, change entry.2)).lookup
        (handle.shift offset) = (entries.lookup handle).map change := by
  -- The first entry that matches does so on both sides.
  induction entries with
  | nil => rfl
  | cons entry rest ih =>
    obtain ⟨key, kept⟩ := entry
    rw [List.map_cons, List.lookup_cons, List.lookup_cons, Handle.beq_shift]
    cases handle == key
    · exact ih
    · rfl

namespace Labels

variable {α : Type}

/-- The same labels of later handles. -/
def shift (labels : Labels α) : Labels α :=
  labels.map fun entry => (entry.1.shift offset, entry.2)

/-- A label is put in the same place. -/
theorem put_shift (handle : Handle) (label : α) (labels : Labels α) :
    put (handle.shift offset) label (labels.shift offset) =
      (put handle label labels).shift offset := by
  -- Both comparisons with the first key come out as they did.
  induction labels with
  | nil => rfl
  | cons entry rest ih =>
    obtain ⟨key, old⟩ := entry
    have front : shift offset ((key, old) :: rest) =
        (key.shift offset, old) :: shift offset rest := rfl
    rw [front, put, put]
    simp only [Handle.shift_lt_shift, ih]
    split
    · rfl
    · split <;> rfl

/-- Entries leave the same labels. -/
theorem ofEntries_shift (entries : List (Handle × α)) :
    ofEntries (entries.map fun entry => (entry.1.shift offset, entry.2)) =
      (ofEntries entries).shift offset := by
  -- The labels so far are shifted as well.
  have general : ∀ labels : Labels α,
      (entries.map fun entry => (entry.1.shift offset, entry.2)).foldl
          (fun labels entry => put entry.1 entry.2 labels) (labels.shift offset) =
        (entries.foldl (fun labels entry => put entry.1 entry.2 labels) labels).shift offset := by
    induction entries with
    | nil => exact fun _ => rfl
    | cons entry rest ih =>
      intro labels
      rw [List.map_cons, List.foldl_cons, List.foldl_cons, put_shift, ih]
  exact general []

/-- A later handle is found with the label that it had. -/
theorem get?_shift (handle : Handle) (labels : Labels α) :
    (labels.shift offset).get? (handle.shift offset) = labels.get? handle :=
  (lookup_shift offset (fun label => label) handle labels).trans Option.map_id'

end Labels

/-- The same minting from a later supply. -/
def Minting.shift (minting : Minting) : Minting :=
  ⟨minting.thread, minting.handle.shift offset⟩

/-- A schedule of threads mints alike. -/
theorem mintScheduled_shift (schedule : List Nat) (supply : Supply) :
    mintScheduled schedule (supply.shift offset) =
      ((mintScheduled schedule supply).1.map (·.shift offset),
        (mintScheduled schedule supply).2.shift offset) := by
  -- Each step leaves a supply that is later by as much for the next one.
  induction schedule generalizing supply with
  | nil => rfl
  | cons thread later ih =>
    simp only [mintScheduled, Supply.mint_shift, ih]
    rfl

/-- The same summary of later handles. -/
def MintingSummary.shift (summary : MintingSummary) : MintingSummary :=
  { summary with
    least := summary.least.map (·.shift offset)
    greatest := summary.greatest.map (·.shift offset) }

private theorem isIncreasing_shift (handles : List Handle) :
    isIncreasing (handles.map (·.shift offset)) = isIncreasing handles := by
  -- Neighbours are compared, so a list of two or more is taken apart twice.
  induction handles with
  | nil => rfl
  | cons first rest ih =>
    cases rest with
    | nil => rfl
    | cons second later =>
      simp only [List.map_cons, isIncreasing, Handle.shift_lt_shift] at ih ⊢
      rw [ih]

/-- Later mintings are summed up alike. -/
theorem MintingSummary.of_shift (threads : Nat) (mintings : List Minting) :
    of threads (mintings.map (·.shift offset)) = (of threads mintings).shift offset := by
  have handles : (mintings.map (·.shift offset)).map (·.handle) =
      (mintings.map (·.handle)).map (·.shift offset) := by
    rw [List.map_map, List.map_map]
    rfl
  have own : ∀ thread, handlesOf thread (mintings.map (·.shift offset)) =
      (handlesOf thread mintings).map (·.shift offset) := by
    intro thread
    simp only [handlesOf, List.filter_map, List.map_map]
    rfl
  simp only [of, shift, handles, ascending_shift, own, isIncreasing_shift, List.length_map,
    List.head?_map, List.getLast?_map]

end

end Unknowns
