import FlareStudio.Shared.Text

set_option autoImplicit false

-- An object as the list of its own properties in the order in which JavaScript enumerates them:
-- array indices by number, then the other keys as they were added.

namespace FlareStudio.Property

variable {α β : Type}

def arrayIndex? (key : Text) : Option ℕ :=
  if key = decimal (ofDecimal key) ∧ ofDecimal key < 2 ^ 32 - 1 then some (ofDecimal key) else none

-- A new index goes before any later index and any key that is not one.
def indexBefore : Option ℕ → Option ℕ → Bool
  | some index, some other => index < other
  | some _, none => true
  | none, _ => false

def goesBefore (key other : Text) : Bool := indexBefore (arrayIndex? key) (arrayIndex? other)

def setProperty (key : Text) (value : α) : List (Text × α) → List (Text × α)
  | [] => [(key, value)]
  | (other, current) :: rest =>
    if other = key then (key, value) :: rest
    else if goesBefore key other then (key, value) :: (other, current) :: rest
    else (other, current) :: setProperty key value rest

def fromEntries (entries : List (Text × α)) : List (Text × α) :=
  entries.foldl (fun members entry => setProperty entry.1 entry.2 members) []

def keys (members : List (Text × α)) : List Text := members.map Prod.fst

/-- The keys are distinct, and none goes before one that is earlier. -/
structure Ordered (members : List (Text × α)) : Prop where
  nodup : (keys members).Nodup
  order : members.Pairwise fun earlier later => goesBefore later.1 earlier.1 = false

theorem mem_setProperty {key : Text} {value : α} {member : Text × α} {members : List (Text × α)}
    (inside : member ∈ setProperty key value members) :
    member = (key, value) ∨ member ∈ members := by
  induction members with
  | nil => exact .inl (List.mem_singleton.mp inside)
  | cons first rest ih =>
    unfold setProperty at inside
    split_ifs at inside <;> grind

theorem fromEntries_subset (entries : List (Text × α)) : fromEntries entries ⊆ entries := by
  have fold (members : List (Text × α)) :
      entries.foldl (fun members entry => setProperty entry.1 entry.2 members) members ⊆
        entries ++ members := by
    induction entries generalizing members with
    | nil => exact List.Subset.refl _
    | cons entry rest ih =>
      intro member inside
      rcases List.mem_append.mp (ih _ inside) with later | placed
      · exact List.mem_cons_of_mem _ (List.mem_append_left _ later)
      · rcases mem_setProperty placed with rfl | earlier
        · exact List.mem_cons_self
        · exact List.mem_cons_of_mem _ (List.mem_append_right _ earlier)
  have subset := fold []
  rwa [List.append_nil] at subset

theorem setProperty_perm {key : Text} {members : List (Text × α)} (fresh : key ∉ keys members)
    (value : α) : (setProperty key value members).Perm ((key, value) :: members) := by
  induction members with
  | nil => exact .refl _
  | cons member rest ih =>
    obtain ⟨other, current⟩ := member
    have apart : other ≠ key := fun same => fresh (same ▸ List.mem_cons_self)
    have later := ih fun member => fresh (List.mem_cons_of_mem _ member)
    unfold setProperty
    rw [if_neg apart]
    split_ifs
    · exact .refl _
    · exact (later.cons _).trans (.swap _ _ _)

theorem keys_perm {members others : List (Text × α)} (perm : members.Perm others) :
    (keys members).Perm (keys others) := perm.map _

theorem indexBefore_trans {key other later : Option ℕ} (before : indexBefore key other = true)
    (after : indexBefore later other = false) : indexBefore later key = false := by
  rcases key with _ | index
  · cases before
  · cases other <;> cases later <;> grind [indexBefore]

theorem goesBefore_irrefl (key : Text) : goesBefore key key = false := by
  unfold goesBefore
  cases arrayIndex? key <;> simp [indexBefore]

theorem setProperty_ordered {key : Text} {members : List (Text × α)} (ordered : Ordered members)
    (fresh : key ∉ keys members) (value : α) : Ordered (setProperty key value members) := by
  have perm := setProperty_perm fresh value
  refine ⟨(keys_perm perm).nodup_iff.mpr (List.nodup_cons.mpr ⟨fresh, ordered.nodup⟩), ?_⟩
  replace ordered := ordered.order
  clear perm
  induction members with
  | nil => exact List.pairwise_singleton _ _
  | cons member rest ih =>
    obtain ⟨other, current⟩ := member
    have apart : other ≠ key := fun same => fresh (same ▸ List.mem_cons_self)
    have unseen : key ∉ keys rest := fun member => fresh (List.mem_cons_of_mem _ member)
    obtain ⟨first, others⟩ := List.pairwise_cons.mp ordered
    unfold setProperty
    rw [if_neg apart]
    split_ifs with before
    · refine List.pairwise_cons.mpr ⟨fun later member => ?_, ordered⟩
      rcases List.mem_cons.mp member with rfl | member
      · exact indexBefore_trans before (goesBefore_irrefl _)
      · exact indexBefore_trans before (first later member)
    · refine List.pairwise_cons.mpr ⟨fun later member => ?_, ih unseen others⟩
      rcases List.mem_cons.mp ((setProperty_perm unseen value).subset member) with rfl | member
      · exact Bool.eq_false_iff.mpr before
      · exact first later member

-- Entries with new keys only add up, and the order is kept.
theorem fold_setProperty {entries members : List (Text × α)} (ordered : Ordered members)
    (distinct : (keys (entries ++ members)).Nodup) :
    let result := entries.foldl (fun members entry => setProperty entry.1 entry.2 members) members
    result.Perm (entries ++ members) ∧ Ordered result := by
  induction entries generalizing members with
  | nil => exact ⟨.refl _, ordered⟩
  | cons entry rest ih =>
    obtain ⟨key, value⟩ := entry
    have fresh : key ∉ keys members := by
      intro member
      have inside : key ∈ keys (rest ++ members) := by
        rw [keys, List.map_append]
        exact List.mem_append_right _ member
      exact (List.nodup_cons.mp distinct).1 inside
    have moved : (rest ++ setProperty key value members).Perm ((key, value) :: (rest ++ members)) :=
      ((setProperty_perm fresh value).append_left rest).trans List.perm_middle
    obtain ⟨perm, kept⟩ := ih (setProperty_ordered ordered fresh value)
      ((keys_perm moved).nodup_iff.mpr distinct)
    exact ⟨perm.trans moved, kept⟩

theorem ordered_nil : Ordered ([] : List (Text × α)) := ⟨List.nodup_nil, .nil⟩

theorem fromEntries_perm {entries : List (Text × α)} (distinct : (keys entries).Nodup) :
    (fromEntries entries).Perm entries := by
  have perm := (fold_setProperty ordered_nil (by rwa [List.append_nil])).1
  rwa [List.append_nil] at perm

theorem fromEntries_ordered {entries : List (Text × α)} (distinct : (keys entries).Nodup) :
    Ordered (fromEntries entries) :=
  (fold_setProperty ordered_nil (by rwa [List.append_nil])).2

theorem setProperty_last {key : Text} {members : List (Text × α)} (fresh : key ∉ keys members)
    (last : ∀ member ∈ members, goesBefore key member.1 = false) (value : α) :
    setProperty key value members = members ++ [(key, value)] := by
  induction members with
  | nil => rfl
  | cons member rest ih =>
    obtain ⟨other, current⟩ := member
    have apart : other ≠ key := fun same => fresh (same ▸ List.mem_cons_self)
    have stays := last (other, current) List.mem_cons_self
    have later := ih (fun member => fresh (List.mem_cons_of_mem _ member))
      fun member inside => last member (List.mem_cons_of_mem _ inside)
    rw [setProperty, if_neg apart, if_neg (by rw [stays]; exact Bool.false_ne_true), later]
    rfl

theorem fold_of_ordered {entries members : List (Text × α)}
    (ordered : Ordered (members ++ entries)) :
    entries.foldl (fun members entry => setProperty entry.1 entry.2 members) members =
      members ++ entries := by
  induction entries generalizing members with
  | nil => exact (List.append_nil _).symm
  | cons entry rest ih =>
    obtain ⟨key, value⟩ := entry
    have nodup := ordered.nodup
    have order := ordered.order
    rw [keys, List.map_append, List.map_cons, List.nodup_append] at nodup
    have fresh : key ∉ keys members := fun member =>
      nodup.2.2 key member key List.mem_cons_self rfl
    have last : ∀ member ∈ members, goesBefore key member.1 = false := fun member inside =>
      (List.pairwise_append.mp order).2.2 member inside (key, value) List.mem_cons_self
    rw [List.foldl_cons, setProperty_last fresh last, ih (by simpa using ordered)]
    simp

theorem fromEntries_of_ordered {members : List (Text × α)} (ordered : Ordered members) :
    fromEntries members = members :=
  @fold_of_ordered α members [] ordered

def mapValues (change : α → β) (members : List (Text × α)) : List (Text × β) :=
  members.map fun member => (member.1, change member.2)

@[simp]
theorem keys_mapValues (change : α → β) (members : List (Text × α)) :
    keys (mapValues change members) = keys members := by
  simp [keys, mapValues, Function.comp_def]

theorem mapValues_mapValues {γ : Type} (change : α → β) (again : β → γ)
    (members : List (Text × α)) :
    mapValues again (mapValues change members) = mapValues (again ∘ change) members := by
  simp [mapValues, Function.comp_def]

theorem mem_mapValues {change : α → β} {members : List (Text × α)} {key : Text} {value : β} :
    (key, value) ∈ mapValues change members ↔
      ∃ before, (key, before) ∈ members ∧ change before = value := by
  simp [mapValues]

theorem mapValues_congr {change change' : α → β} {members : List (Text × α)}
    (same : ∀ member ∈ members, change member.2 = change' member.2) :
    mapValues change members = mapValues change' members :=
  List.map_congr_left fun member inside => by rw [same member inside]

theorem Ordered.mapValues {members : List (Text × α)} (ordered : Ordered members)
    (change : α → β) : Ordered (mapValues change members) := by
  refine ⟨by rw [keys_mapValues]; exact ordered.nodup, ?_⟩
  exact List.pairwise_map.mpr ordered.order

theorem setProperty_mapValues (change : α → β) (key : Text) (value : α)
    (members : List (Text × α)) :
    setProperty key (change value) (mapValues change members) =
      mapValues change (setProperty key value members) := by
  induction members with
  | nil => rfl
  | cons member rest ih =>
    obtain ⟨other, current⟩ := member
    simp only [mapValues] at ih
    simp only [mapValues, List.map_cons, setProperty, ih]
    split_ifs <;> rfl

theorem fromEntries_mapValues (change : α → β) (entries : List (Text × α)) :
    fromEntries (mapValues change entries) = mapValues change (fromEntries entries) := by
  have fold (members : List (Text × α)) :
      (mapValues change entries).foldl (fun members entry => setProperty entry.1 entry.2 members)
          (mapValues change members) =
        mapValues change (entries.foldl
          (fun members entry => setProperty entry.1 entry.2 members) members) := by
    induction entries generalizing members with
    | nil => rfl
    | cons entry rest ih =>
      rw [List.foldl_cons, ← ih, ← setProperty_mapValues]
      rfl
  exact fold []

section Sorting

variable (le : Text → Text → Prop) [DecidableRel le]

-- An object made of entries that were sorted first.
def arrange (entries : List (Text × α)) : List (Text × α) :=
  fromEntries (entries.insertionSort fun a b => le a.1 b.1)

section

variable {entries : List (Text × α)}

theorem nodup_sorted (distinct : (keys entries).Nodup) :
    (keys (entries.insertionSort fun a b => le a.1 b.1)).Nodup :=
  (keys_perm (List.perm_insertionSort _ _)).nodup_iff.mpr distinct

theorem arrange_subset (entries : List (Text × α)) : arrange le entries ⊆ entries :=
  fun _ inside => (List.perm_insertionSort _ _).subset (fromEntries_subset _ inside)

theorem arrange_perm (distinct : (keys entries).Nodup) : (arrange le entries).Perm entries :=
  (fromEntries_perm (nodup_sorted le distinct)).trans (List.perm_insertionSort _ _)

theorem arrange_ordered (distinct : (keys entries).Nodup) : Ordered (arrange le entries) :=
  fromEntries_ordered (nodup_sorted le distinct)

end

variable {le}

theorem arrange_mapValues (change : α → β) (entries : List (Text × α)) :
    arrange le (mapValues change entries) = mapValues change (arrange le entries) := by
  have sorted : (mapValues change entries).insertionSort (fun a b => le a.1 b.1) =
      mapValues change (entries.insertionSort fun a b => le a.1 b.1) :=
    (List.map_insertionSort _ _ (fun entry => (entry.1, change entry.2)) entries
      fun _ _ _ _ => Iff.rfl).symm
  rw [arrange, sorted, fromEntries_mapValues]
  rfl

variable {entries others : List (Text × α)}

theorem eq_of_key {first second : Text × α} (distinct : (keys entries).Nodup)
    (one : first ∈ entries) (two : second ∈ entries) (same : first.1 = second.1) :
    first = second :=
  List.inj_on_of_nodup_map distinct one two same

variable [Std.Total le] [IsTrans Text le] [Std.Antisymm le]

theorem arrange_eq_of_perm (distinct : (keys entries).Nodup) (perm : entries.Perm others) :
    arrange le entries = arrange le others := by
  have total : Std.Total fun a b : Text × α => le a.1 b.1 := ⟨fun a b => total_of le a.1 b.1⟩
  have trans : IsTrans (Text × α) fun a b => le a.1 b.1 := ⟨fun _ _ _ => trans_of le⟩
  have sorted : entries.insertionSort (fun a b => le a.1 b.1) =
      others.insertionSort fun a b => le a.1 b.1 := by
    refine List.Perm.eq_of_pairwise ?_ (List.pairwise_insertionSort _ entries)
      (List.pairwise_insertionSort _ others) ?_
    · intro a b inA inB ab ba
      rw [List.mem_insertionSort] at inA inB
      exact eq_of_key distinct inA (perm.symm.subset inB) (antisymm_of le ab ba)
    · exact ((List.perm_insertionSort _ _).trans perm).trans (List.perm_insertionSort _ _).symm
  rw [arrange, sorted, arrange]

theorem arrange_arrange (distinct : (keys entries).Nodup) :
    arrange le (arrange le entries) = arrange le entries := by
  have perm := arrange_perm le distinct
  exact arrange_eq_of_perm ((keys_perm perm).nodup_iff.mpr distinct) perm

theorem arrange_eq_iff (distinct : (keys entries).Nodup) (distinct' : (keys others).Nodup) :
    arrange le entries = arrange le others ↔ entries.length = others.length ∧ entries ⊆ others := by
  constructor
  · intro same
    have perm : entries.Perm others := by
      have first := (arrange_perm le distinct).symm
      rw [same] at first
      exact first.trans (arrange_perm le distinct')
    exact ⟨perm.length_eq, perm.subset⟩
  · intro ⟨length, subset⟩
    have perm := (List.subperm_of_subset (List.Nodup.of_map _ distinct) subset).perm_of_length_le
      length.ge
    exact arrange_eq_of_perm distinct perm

end Sorting

end FlareStudio.Property
