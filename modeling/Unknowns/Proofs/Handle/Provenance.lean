import Unknowns.Handle.Holdings
import Unknowns.Proofs.Handle.Supply
import Unknowns.Session.Answer
import Unknowns.ValueType.Basic

/-! Identity is provenance: handles are equal exactly when they descend from one minting. -/

namespace Unknowns

namespace Supply

/-- The handle is what a minting made, of so many mintings of a supply. -/
def Made (first : Supply) (mintings minting : Nat) (handle : Handle) : Prop :=
  (first.mintMany mintings).1[minting]? = some handle

variable {first : Supply} {mintings minting : Nat} {handle : Handle}

/-- Each minting makes the handle whose index is as far behind the first one. -/
theorem made_iff :
    first.Made mintings minting handle ↔
      minting < mintings ∧ handle.index = first.next + minting := by
  have indices := congrArg (·[minting]?) (first.mintMany_index mintings)
  simp only [List.getElem?_map] at indices
  unfold Made
  by_cases within : minting < mintings
  · -- The minting has an index, and a handle is known by its index.
    rw [List.getElem?_range' within, Option.map_eq_some_iff] at indices
    obtain ⟨own, made, index⟩ := indices
    rw [made, Option.some.injEq]
    constructor
    · rintro rfl
      exact ⟨within, by omega⟩
    · rintro ⟨_, same⟩
      exact Handle.eq_of_index (by omega)
  · have beyond : (first.mintMany mintings).1[minting]? = none := by
      rw [List.getElem?_eq_none_iff, first.mintMany_length]
      omega
    simp [beyond, within]

/-- What a minting made stays made when more are minted. -/
theorem Made.mono {more : Nat} (made : first.Made mintings minting handle)
    (later : mintings ≤ more) : first.Made more minting handle := by
  rw [made_iff] at made ⊢
  exact ⟨by omega, made.2⟩

/-- Two mintings made the same handle exactly when they are the same minting. -/
theorem Made.same_iff {other : Nat} {another : Handle} (made : first.Made mintings minting handle)
    (madeToo : first.Made mintings other another) : handle = another ↔ minting = other := by
  rw [made_iff] at made madeToo
  constructor
  · rintro rfl
    omega
  · rintro rfl
    exact Handle.eq_of_index (by omega)

/-- Handles are ordered as the mintings that made them are. -/
theorem Made.order {other : Nat} {another : Handle} (made : first.Made mintings minting handle)
    (madeToo : first.Made mintings other another) :
    handle.order another = compare minting other := by
  rw [made_iff] at made madeToo
  simp only [Handle.order, made.2, madeToo.2, Nat.compare_eq_ite_lt, Nat.add_lt_add_iff_left]

end Supply

/-- A variable is itself and its erasure, and feeds a hash as its erasure does. -/
theorem Inspection.of_eq {τ : Type} {type : τ} (v : Variable type) :
    Inspection.of v = ⟨true, true, true⟩ := by
  have erased : Identified.handle v.erase = Identified.handle v := rfl
  simp only [Inspection.of, sameIdentity, identityHash, erased, beq_self_eq_true]

/-- A conversion makes another form of the same handle. -/
theorem Conversion.apply?_handle {τ : Type} {conversion : Conversion τ} {held made : Held τ}
    (applied : conversion.apply? held = some made) :
    Identified.handle made = Identified.handle held := by
  -- Each conversion is for handles of one form, but for the copy.
  cases conversion <;> cases held <;> cases applied <;> rfl

/-- What is told of two held handles, however they are viewed, is told of their mintings. -/
structure Traced.ComparedByMinting {τ : Type} (left right : Traced (Held τ)) : Prop where
  same : sameIdentity left.thing right.thing = true ↔ left.minting = right.minting
  hashes : sameIdentity left.thing right.thing = true →
    identityHash left.thing = identityHash right.thing
  order : mintingOrder left.thing right.thing = compare left.minting right.minting
  partialOrder : mintingOrder? left.thing right.thing =
    some (compare left.minting right.minting)
  equal : mintingOrder left.thing right.thing = .eq ↔ sameIdentity left.thing right.thing = true
  -- Every comparison of the two handles that names their forms, each of them at any type.
  views : ∀ leftType rightType : τ,
    Comparison.of ((Identified.handle left.thing).typed leftType)
        ((Identified.handle right.thing).typed rightType) =
      { typedTyped := decide (left.minting = right.minting)
        typedTypedReversed := decide (left.minting = right.minting)
        typedErased := decide (left.minting = right.minting)
        erasedTyped := decide (left.minting = right.minting)
        erasedErased := decide (left.minting = right.minting)
        sameHash := identityHash left.thing == identityHash right.thing
        erasedOrder := compare left.minting right.minting
        typedOrder := compare left.minting right.minting
        typedPartialOrder := some (compare left.minting right.minting) }

/-- Handles that two mintings of one supply made are told apart as these are. -/
theorem Traced.ComparedByMinting.of_made {τ : Type} {first : Supply} {mintings : Nat}
    {left right : Traced (Held τ)}
    (made : first.Made mintings left.minting (Identified.handle left.thing))
    (madeToo : first.Made mintings right.minting (Identified.handle right.thing)) :
    left.ComparedByMinting right := by
  -- Equality, hash and order look at the handles only, which are known by their mintings.
  have same : Identified.handle left.thing = Identified.handle right.thing ↔
      left.minting = right.minting := made.same_iff madeToo
  have order := made.order madeToo
  have told : sameIdentity left.thing right.thing = true ↔ left.minting = right.minting := by
    rw [sameIdentity, beq_iff_eq]
    exact same
  refine ⟨told, ?_, order, congrArg some order, ?_, ?_⟩
  · intro equal
    rw [identityHash, identityHash, same.mpr (told.mp equal)]
  · rw [told, mintingOrder, order]
    exact Nat.compare_eq_eq
  · intro leftType rightType
    have forward : (Identified.handle left.thing == Identified.handle right.thing) =
        decide (left.minting = right.minting) := by
      rw [Bool.eq_iff_iff, beq_iff_eq, decide_eq_true_iff]
      exact same
    have backward : (Identified.handle right.thing == Identified.handle left.thing) =
        decide (left.minting = right.minting) := BEq.comm.trans forward
    unfold Comparison.of sameIdentity mintingOrder? mintingOrder
    simp only [Comparison.mk.injEq]
    exact ⟨forward, backward, forward, forward, forward, rfl, order, order, congrArg some order⟩

variable {τ : Type} [Universe τ]

namespace Holdings

/-- Everything that is held carries the handle that its own minting made. -/
structure Sound (first : Supply) (holdings : Holdings τ) : Prop where
  next : holdings.supply.next = first.next + holdings.mintings
  handles : ∀ held ∈ holdings.handles,
    first.Made holdings.mintings held.minting (Identified.handle held.thing)
  properties : ∀ property ∈ holdings.properties,
    first.Made holdings.mintings property.minting property.thing.property.handle
  keys : ∀ store ∈ holdings.stores, ∀ key ∈ store.keys,
    first.Made holdings.mintings key.minting key.thing

namespace Sound

variable {first : Supply} {holdings : Holdings τ}

/-- A program that holds nothing has made nothing of any minting. -/
theorem start (first : Supply) : (Holdings.start first : Holdings τ).Sound first where
  next := rfl
  handles _ member := absurd member List.not_mem_nil
  properties _ member := absurd member List.not_mem_nil
  keys _ member := absurd member List.not_mem_nil

/-- A further handle is the one that the further minting makes. -/
theorem mint (sound : holdings.Sound first) (type : τ) : (holdings.mint type).Sound first where
  next := by
    simp only [Holdings.mint, Supply.mint, sound.next]
    omega
  handles held member := by
    -- Earlier handles stay with their mintings, and the last one has the next.
    simp only [Holdings.mint, List.mem_append, List.mem_singleton] at member
    rcases member with earlier | rfl
    · exact (sound.handles held earlier).mono (Nat.le_succ _)
    · exact Supply.made_iff.mpr ⟨Nat.lt_succ_self _, sound.next⟩
  properties property member := (sound.properties property member).mono (Nat.le_succ _)
  keys store member key listed := (sound.keys store member key listed).mono (Nat.le_succ _)

/-- So are several of them, one after another. -/
theorem mintSeveral (sound : holdings.Sound first) (types : List τ) :
    (types.foldl Holdings.mint holdings).Sound first := by
  -- Each minting starts from what the ones before it left.
  induction types generalizing holdings with
  | nil => exact sound
  | cons type rest ih => exact ih (sound.mint type)

/-- Handles that are made of what is held may be held as well. -/
theorem addHandles (sound : holdings.Sound first) {handles : List (Traced (Held τ))}
    (made : ∀ held ∈ handles,
      first.Made holdings.mintings held.minting (Identified.handle held.thing)) :
    (holdings.addHandles handles).Sound first where
  next := sound.next
  handles held member := (List.mem_append.mp member).elim (sound.handles held) (made held)
  properties := sound.properties
  keys := sound.keys

/-- So may a property. -/
theorem addProperty (sound : holdings.Sound first) {property : Traced (SomeProperty τ)}
    (made : first.Made holdings.mintings property.minting property.thing.property.handle) :
    (holdings.addProperty property).Sound first where
  next := sound.next
  handles := sound.handles
  properties other member := by
    rcases List.mem_append.mp member with earlier | last
    · exact sound.properties other earlier
    · rw [List.mem_singleton.mp last]
      exact made
  keys := sound.keys

/-- So may a store. -/
theorem addStore (sound : holdings.Sound first) {store : TracedStore τ}
    (made : ∀ key ∈ store.keys, first.Made holdings.mintings key.minting key.thing) :
    (holdings.addStore store).Sound first where
  next := sound.next
  handles := sound.handles
  properties := sound.properties
  keys other member := by
    rcases List.mem_append.mp member with earlier | last
    · exact sound.keys other earlier
    · rw [List.mem_singleton.mp last]
      exact made

/-- A store may be held in another state whose variables are made of what is held. -/
theorem setStore (sound : holdings.Sound first) {store : TracedStore τ} (place : Nat)
    (made : ∀ key ∈ store.keys, first.Made holdings.mintings key.minting key.thing) :
    (holdings.setStore place store).Sound first where
  next := sound.next
  handles := sound.handles
  properties := sound.properties
  keys other member := by
    rcases List.mem_or_eq_of_mem_set member with earlier | rfl
    · exact sound.keys other earlier
    · exact made

/-- A handle that is held at a type carries what its minting made. -/
theorem made_of_viewed? (sound : holdings.Sound first) {source : Nat} {named : Traced (SomeVariable τ)}
    (found : holdings.viewed? source = some named) :
    first.Made holdings.mintings named.minting named.thing.view.erase := by
  obtain ⟨held, place, rest⟩ := Option.bind_eq_some_iff.mp found
  obtain ⟨view, typed, made⟩ := Option.bind_eq_some_iff.mp rest
  cases made
  have own := sound.handles held (List.mem_of_getElem? place)
  -- An erased handle is none that is held at a type.
  rcases held with ⟨form, minting⟩
  cases form <;> cases typed
  exact own

end Sound

end Holdings

namespace TracedStore

variable {first : Supply} {mintings : Nat} {traced : TracedStore τ}

/-- A binding lists no handle but that of its variable besides those that were listed. -/
theorem mem_keys_bind {variable_ : Traced (SomeVariable τ)}
    {content : Carrier variable_.thing.type} {key : Traced Handle}
    (member : key ∈ (traced.bind variable_ content).keys) :
    key = variable_.remade variable_.thing.view.erase ∨ key ∈ traced.keys := by
  -- A binding that fails lists what was listed.
  unfold bind at member
  split at member
  · exact .inr member
  · exact List.mem_cons.mp member

end TracedStore

namespace Holdings

variable [DecidableEq τ] {first : Supply} {holdings next : Holdings τ}

/-- Whatever a step makes of things that are held carries the handle that its minting made. -/
theorem make?_sound (sound : holdings.Sound first) {making : Making τ}
    (made : holdings.make? making = some next) : next.Sound first := by
  -- Only mintings use the supply; all other steps pass on the handle of what they start from.
  cases making with
  | mint type =>
    cases made
    exact sound.mint type
  | mintSeveral types =>
    cases made
    exact sound.mintSeveral types
  | convert conversion source =>
    obtain ⟨held, place, rest⟩ := Option.bind_eq_some_iff.mp made
    obtain ⟨converted, applied, last⟩ := Option.bind_eq_some_iff.mp rest
    cases last
    refine sound.addHandles fun other member => ?_
    rw [List.mem_singleton.mp member, Traced.remade, Conversion.apply?_handle applied]
    exact sound.handles held (List.mem_of_getElem? place)
  | property source =>
    obtain ⟨named, found, last⟩ := Option.bind_eq_some_iff.mp made
    cases last
    exact sound.addProperty (sound.made_of_viewed? found)
  | map source transform =>
    obtain ⟨named, found, rest⟩ := Option.bind_eq_some_iff.mp made
    obtain ⟨mapped, _, last⟩ := Option.bind_eq_some_iff.mp rest
    cases last
    exact sound.addProperty (sound.made_of_viewed? found)
  | mapProperty source transform =>
    obtain ⟨property, place, rest⟩ := Option.bind_eq_some_iff.mp made
    obtain ⟨mapped, _, last⟩ := Option.bind_eq_some_iff.mp rest
    cases last
    exact sound.addProperty (sound.properties property (List.mem_of_getElem? place))
  | copyProperty source =>
    obtain ⟨property, place, last⟩ := Option.bind_eq_some_iff.mp made
    cases last
    exact sound.addProperty (sound.properties property (List.mem_of_getElem? place))
  | variableOf source =>
    obtain ⟨property, place, last⟩ := Option.bind_eq_some_iff.mp made
    cases last
    refine sound.addHandles fun other member => ?_
    rw [List.mem_singleton.mp member]
    exact sound.properties property (List.mem_of_getElem? place)
  | create capacity =>
    cases made
    exact sound.addStore fun key member => absurd member List.not_mem_nil
  | copyStore source =>
    obtain ⟨bindings, place, last⟩ := Option.bind_eq_some_iff.mp made
    cases last
    exact sound.addStore (sound.keys bindings (List.mem_of_getElem? place))
  | bind store source value =>
    obtain ⟨bindings, place, rest⟩ := Option.bind_eq_some_iff.mp made
    obtain ⟨named, found, given⟩ := Option.bind_eq_some_iff.mp rest
    obtain ⟨content, _, last⟩ := Option.bind_eq_some_iff.mp given
    cases last
    refine sound.setStore store fun key member => ?_
    rcases TracedStore.mem_keys_bind member with rfl | earlier
    · exact sound.made_of_viewed? found
    · exact sound.keys bindings (List.mem_of_getElem? place) key earlier
  | unbind store source =>
    obtain ⟨bindings, place, rest⟩ := Option.bind_eq_some_iff.mp made
    obtain ⟨held, _, last⟩ := Option.bind_eq_some_iff.mp rest
    cases last
    refine sound.setStore store fun key member => ?_
    exact sound.keys bindings (List.mem_of_getElem? place) key (List.mem_filter.mp member).1
  | variablesOf store =>
    obtain ⟨bindings, place, last⟩ := Option.bind_eq_some_iff.mp made
    cases last
    refine sound.addHandles fun other member => ?_
    obtain ⟨key, listed, rfl⟩ := List.mem_map.mp member
    exact sound.keys bindings (List.mem_of_getElem? place) key listed

/-- A step keeps everything that is held with its own minting. -/
theorem make_sound (sound : holdings.Sound first) (making : Making τ) :
    (holdings.make making).Sound first := by
  unfold make
  cases made : holdings.make? making with
  | none => exact sound
  | some next => exact make?_sound sound made

/-- So does a run. -/
theorem run_sound (sound : holdings.Sound first) (makings : List (Making τ)) :
    (holdings.run makings).Sound first := by
  -- A step that calls for what is not held keeps everything anyway.
  induction makings generalizing holdings with
  | nil => exact sound
  | cons making rest ih => exact ih (make_sound sound making)

/-- All handles that are held, each with the one minting that it descends from. -/
structure Provenance (first : Supply) (holdings : Holdings τ) : Prop where
  -- Of all mintings so far, only its own one made the handle.
  descends : ∀ held ∈ holdings.handles, ∀ minting,
    (first.mintMany holdings.mintings).1[minting]? = some (Identified.handle held.thing) ↔
      minting = held.minting
  compared : ∀ left ∈ holdings.handles, ∀ right ∈ holdings.handles,
    left.ComparedByMinting right
  -- At every type a handle is the same as its erasure, and feeds a hash alike.
  inspected : ∀ held ∈ holdings.handles, ∀ type : τ,
    Inspection.of ((Identified.handle held.thing).typed type) = ⟨true, true, true⟩
  equivalence : Equivalence fun left right : Held τ => sameIdentity left right = true

/--
After any run of a program, the handles that it holds are equal as their mintings are.

Handles are held at any type or erased, and are converted, derived from, bound and listed in any
order, in any number of stores.
-/
theorem run_provenance (first : Supply) (makings : List (Making τ)) :
    ((start first).run makings).Provenance first := by
  -- Each step keeps all handles with their mintings, from which all comparisons follow.
  have sound := run_sound (Sound.start first : (start first : Holdings τ).Sound first) makings
  refine ⟨?_, ?_, fun held _ type => Inspection.of_eq _, ?_⟩
  · intro held member minting
    have own := sound.handles held member
    constructor
    · intro made
      exact (Supply.Made.same_iff made own).mp rfl
    · rintro rfl
      exact own
  · intro left member right memberToo
    exact .of_made (sound.handles left member) (sound.handles right memberToo)
  · simp only [sameIdentity, beq_iff_eq]
    exact ⟨fun _ => rfl, Eq.symm, Eq.trans⟩

/-- A program whose handles come back to it: through other views, a property, and a store. -/
def roundTrip : List (Making ValueType) :=
  [.mint .int32, .mintSeveral [.bool, .text], .convert .erase 0, .convert (.view .text) 3,
    .property 4, .variableOf 0, .convert .fromReference 2, .create none,
    .bind 0 1 fun
      | .bool => some true
      | _ => none,
    .variablesOf 0]

/-- Handles that came back by whatever way are those that set out. -/
theorem run_provenance_roundTrip :
    ((start .fresh).run roundTrip).handles.map
        (fun held => ((Identified.handle held.thing).index, held.minting)) =
      [(1, 0), (2, 1), (3, 2), (1, 0), (1, 0), (1, 0), (3, 2), (2, 1)] ∧
    ∀ left ∈ ((start .fresh).run roundTrip).handles,
      ∀ right ∈ ((start .fresh).run roundTrip).handles,
        sameIdentity left.thing right.thing = true ↔ left.minting = right.minting := by
  have provenance := run_provenance .fresh roundTrip
  refine ⟨rfl, fun left member right memberToo => ?_⟩
  exact (provenance.compared left member right memberToo).same

end Holdings

end Unknowns
