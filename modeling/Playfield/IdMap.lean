/-!
Finite maps from ids to values, listed in the order of their ids.

A map is its list of entries, strictly increasing in the id, so two maps with the same look-ups are
the same map (`ext_get?`) and a walk over the entries always visits them in one order. Ids compare
code point by code point. `get?_insert`, `get?_erase` and `get?_mapValues` say what each operation
does to the look-ups.
-/

namespace Playfield

/-- A finite map from ids. -/
structure IdMap (α : Type) where
  entries : List (String × α)
  sorted : entries.Pairwise (fun a b => a.1 < b.1)

namespace IdMap

variable {α β : Type}

/-- Maps with the same entries are the same map. -/
theorem ext {m n : IdMap α} (h : m.entries = n.entries) : m = n := by
  cases m; cases n; cases h; rfl

instance [DecidableEq α] : DecidableEq (IdMap α) := fun m n =>
  if h : m.entries = n.entries then .isTrue (ext h) else .isFalse fun e => h (e ▸ rfl)

def empty : IdMap α := ⟨[], .nil⟩

instance : EmptyCollection (IdMap α) := ⟨empty⟩

instance : Inhabited (IdMap α) := ⟨empty⟩

def get? (m : IdMap α) (id : String) : Option α :=
  m.entries.lookup id

def contains (m : IdMap α) (id : String) : Bool :=
  (m.get? id).isSome

def isEmpty (m : IdMap α) : Bool :=
  m.entries.isEmpty

def size (m : IdMap α) : Nat :=
  m.entries.length

def keys (m : IdMap α) : List String :=
  m.entries.map (·.1)

def values (m : IdMap α) : List α :=
  m.entries.map (·.2)

/-- Put an entry into its place, over an entry with the same id. -/
def insertEntry (id : String) (value : α) : List (String × α) → List (String × α)
  | [] => [(id, value)]
  | entry :: rest =>
    if id < entry.1 then (id, value) :: entry :: rest
    else if id = entry.1 then (id, value) :: rest
    else entry :: insertEntry id value rest

/-- An insertion brings in the new entry and no other. -/
theorem mem_insertEntry {id : String} {value : α} {entry : String × α} :
    {entries : List (String × α)} → entry ∈ insertEntry id value entries →
      entry = (id, value) ∨ entry ∈ entries
  | [], h => by simpa [insertEntry] using h
  | first :: rest, h => by
    unfold insertEntry at h
    split at h
    · simpa using h
    · split at h
      · rcases List.mem_cons.mp h with h | h
        · exact .inl h
        · exact .inr (List.mem_cons_of_mem _ h)
      · rcases List.mem_cons.mp h with h | h
        · exact .inr (h ▸ List.mem_cons_self)
        · rcases mem_insertEntry h with h | h
          · exact .inl h
          · exact .inr (List.mem_cons_of_mem _ h)

/-- An insertion keeps the entries in the order of their ids. -/
theorem insertEntry_sorted (id : String) (value : α) :
    {entries : List (String × α)} → entries.Pairwise (fun a b => a.1 < b.1) →
      (insertEntry id value entries).Pairwise (fun a b => a.1 < b.1)
  | [], _ => by simp [insertEntry]
  | first :: rest, h => by
    have ⟨below, tail⟩ := List.pairwise_cons.mp h
    unfold insertEntry
    split
    · rename_i less
      refine List.pairwise_cons.mpr ⟨fun entry member => ?_, h⟩
      rcases List.mem_cons.mp member with e | e
      · exact e ▸ less
      · exact String.lt_trans less (below entry e)
    · rename_i notLess
      split
      · rename_i same
        exact List.pairwise_cons.mpr ⟨fun entry member => same ▸ below entry member, tail⟩
      · rename_i different
        refine List.pairwise_cons.mpr ⟨fun entry member => ?_, insertEntry_sorted id value tail⟩
        rcases mem_insertEntry member with e | e
        · exact e ▸ Std.lt_of_le_of_ne (Std.not_lt.mp notLess) (Ne.symm different)
        · exact below entry e

/-- Set the value of an id. -/
def insert (m : IdMap α) (id : String) (value : α) : IdMap α :=
  ⟨insertEntry id value m.entries, insertEntry_sorted id value m.sorted⟩

/-- Keep the entries that pass a test. -/
def filter (m : IdMap α) (keep : String → α → Bool) : IdMap α :=
  ⟨m.entries.filter fun entry => keep entry.1 entry.2, m.sorted.filter _⟩

/-- Remove an id. -/
def erase (m : IdMap α) (id : String) : IdMap α :=
  m.filter fun other _ => other != id

/-- Change every value. -/
def mapValues (m : IdMap α) (f : String → α → β) : IdMap β :=
  ⟨m.entries.map fun entry => (entry.1, f entry.1 entry.2), List.pairwise_map.mpr m.sorted⟩

/-- Change the value of an id that has one. -/
def update (m : IdMap α) (id : String) (f : α → α) : IdMap α :=
  m.mapValues fun other value => if other = id then f value else value

/-- Enter the pairs of a list one after the other; of two pairs with one id the later stays. -/
def ofList (pairs : List (String × α)) : IdMap α :=
  pairs.foldl (fun m pair => m.insert pair.1 pair.2) empty

/-! ### Look-ups -/

@[simp]
theorem get?_empty (id : String) : (empty : IdMap α).get? id = none := rfl

/-- A list without an entry for the id has no value for it. -/
theorem lookup_eq_none {id : String} :
    {entries : List (String × α)} → (∀ entry ∈ entries, entry.1 ≠ id) → entries.lookup id = none
  | [], _ => rfl
  | (first, value) :: rest, h => by
    have different : id ≠ first := fun e => h (first, value) List.mem_cons_self e.symm
    rw [List.lookup_cons, beq_false_of_ne different]
    exact lookup_eq_none fun entry member => h entry (List.mem_cons_of_mem _ member)

theorem lookup_cons_of_ne {id key : String} (h : id ≠ key) (value : α)
    (rest : List (String × α)) : ((key, value) :: rest).lookup id = rest.lookup id := by
  rw [List.lookup_cons, beq_false_of_ne h]

theorem lookup_insertEntry (id other : String) (value : α) :
    (entries : List (String × α)) →
      (insertEntry id value entries).lookup other =
        if other = id then some value else entries.lookup other
  | [] => by
    by_cases h : other = id
    · simp [insertEntry, h]
    · simp [insertEntry, h, lookup_cons_of_ne h]
  | (first, old) :: rest => by
    unfold insertEntry
    split
    · by_cases h : other = id
      · simp [h]
      · simp [h, lookup_cons_of_ne h]
    · split
      · rename_i same
        obtain rfl : id = first := same
        by_cases h : other = id
        · simp [h]
        · simp [h, lookup_cons_of_ne h]
      · rename_i different
        by_cases h : other = first
        · subst h
          simp [Ne.symm different]
        · rw [lookup_cons_of_ne h, lookup_cons_of_ne h, lookup_insertEntry id other value rest]

/-- After an insertion the id has the new value and every other id the value it had. -/
theorem get?_insert (m : IdMap α) (id other : String) (value : α) :
    (m.insert id value).get? other = if other = id then some value else m.get? other :=
  lookup_insertEntry id other value m.entries

/-- A map has a value for an id iff the pair of the two is one of its entries. -/
theorem get?_eq_some_iff (m : IdMap α) (id : String) (value : α) :
    m.get? id = some value ↔ (id, value) ∈ m.entries := by
  obtain ⟨entries, sorted⟩ := m
  simp only [get?]
  induction entries with
  | nil => simp
  | cons first rest ih =>
    obtain ⟨key, held⟩ := first
    have ⟨below, tail⟩ := List.pairwise_cons.mp sorted
    by_cases h : id = key
    · subst h
      constructor
      · intro found
        simp only [List.lookup_cons_self, Option.some.injEq] at found
        exact found ▸ List.mem_cons_self
      · intro member
        rcases List.mem_cons.mp member with e | e
        · simp only [Prod.mk.injEq] at e
          simp [e.2]
        · exact absurd (below _ e) (String.lt_irrefl _)
    · rw [List.lookup_cons, beq_false_of_ne h, ih tail]
      constructor
      · exact List.mem_cons_of_mem _
      · intro member
        rcases List.mem_cons.mp member with e | e
        · exact absurd (congrArg Prod.fst e) h
        · exact e

/-- Changing every value changes the one that a look-up finds. -/
theorem get?_mapValues (m : IdMap α) (f : String → α → β) (id : String) :
    (m.mapValues f).get? id = (m.get? id).map (f id) := by
  obtain ⟨entries, sorted⟩ := m
  simp only [get?, mapValues]
  clear sorted
  induction entries with
  | nil => rfl
  | cons first rest ih =>
    obtain ⟨key, held⟩ := first
    by_cases h : id = key
    · subst h; simp
    · rw [List.map_cons, List.lookup_cons, List.lookup_cons, beq_false_of_ne h]
      exact ih

/-- An update changes the value of its id and leaves the others. -/
theorem get?_update (m : IdMap α) (id other : String) (f : α → α) :
    (m.update id f).get? other = if other = id then (m.get? other).map f else m.get? other := by
  rw [update, get?_mapValues]
  split
  · rfl
  · cases m.get? other <;> rfl

/-- A filtered map has a value for an id iff the map has it and it is kept. -/
theorem get?_filter (m : IdMap α) (keep : String → α → Bool) (id : String) :
    (m.filter keep).get? id = (m.get? id).filter (keep id) := by
  apply Option.ext
  intro value
  rw [get?_eq_some_iff, Option.filter_eq_some_iff, get?_eq_some_iff]
  simp [filter, List.mem_filter]

/-- After a removal the id has no value and every other id the value it had. -/
theorem get?_erase (m : IdMap α) (id other : String) :
    (m.erase id).get? other = if other = id then none else m.get? other := by
  rw [erase, get?_filter]
  by_cases h : other = id
  · cases found : m.get? other <;> simp [h]
  · cases found : m.get? other <;> simp [h]

/-- The keys are the ids with a value. -/
theorem mem_keys {m : IdMap α} {id : String} : id ∈ m.keys ↔ (m.get? id).isSome := by
  rw [Option.isSome_iff_exists, keys, List.mem_map]
  constructor
  · rintro ⟨entry, member, rfl⟩
    exact ⟨entry.2, (get?_eq_some_iff m entry.1 entry.2).mpr member⟩
  · rintro ⟨value, found⟩
    exact ⟨(id, value), (get?_eq_some_iff m id value).mp found, rfl⟩

/-- Inserting pairs for other ids leaves the value of an id. -/
theorem get?_foldl_insert {pairs : List (String × α)} {id : String}
    (absent : ∀ pair ∈ pairs, pair.1 ≠ id) (m : IdMap α) :
    (pairs.foldl (fun m pair => m.insert pair.1 pair.2) m).get? id = m.get? id := by
  induction pairs generalizing m with
  | nil => rfl
  | cons pair pairs ih =>
    rw [List.foldl_cons, ih fun other member => absent other (List.mem_cons_of_mem pair member),
      get?_insert, if_neg fun same => absent pair List.mem_cons_self same.symm]

theorem get?_ofList_eq_none {pairs : List (String × α)} {id : String}
    (absent : ∀ pair ∈ pairs, pair.1 ≠ id) : (ofList pairs).get? id = none :=
  get?_foldl_insert absent empty

/-- Where no id occurs twice, every pair of the list is an entry. -/
theorem get?_ofList_of_mem {pairs : List (String × α)} {id : String} {value : α}
    (distinct : (pairs.map (·.1)).Nodup) (member : (id, value) ∈ pairs) :
    (ofList pairs).get? id = some value := by
  obtain ⟨before, after, rfl⟩ := List.append_of_mem member
  have later : ∀ pair ∈ after, pair.1 ≠ id := by
    rw [List.map_append, List.map_cons, List.nodup_append] at distinct
    intro pair member same
    exact (List.nodup_cons.mp distinct.2.1).1 (List.mem_map.mpr ⟨pair, member, same⟩)
  rw [ofList, List.foldl_append, List.foldl_cons, get?_foldl_insert later, get?_insert, if_pos rfl]

/-- After inserting pairs an id has a value iff it had one before or one of the pairs is for it. -/
theorem isSome_get?_foldl_insert {pairs : List (String × α)} {id : String} (m : IdMap α) :
    ((pairs.foldl (fun m pair => m.insert pair.1 pair.2) m).get? id).isSome ↔
      (m.get? id).isSome ∨ ∃ pair ∈ pairs, pair.1 = id := by
  induction pairs generalizing m with
  | nil => simp
  | cons pair pairs ih =>
    rw [List.foldl_cons, ih, get?_insert]
    by_cases same : id = pair.1
    · simp [same]
    · simp [same, Ne.symm same]

/-- Every id of a list has an entry, and no other id. -/
theorem isSome_get?_ofList {pairs : List (String × α)} {id : String} :
    ((ofList pairs).get? id).isSome ↔ ∃ pair ∈ pairs, pair.1 = id := by
  rw [ofList, isSome_get?_foldl_insert]
  simp

/-- Two maps with the same look-ups are equal. -/
theorem ext_get? {m n : IdMap α} (h : ∀ id, m.get? id = n.get? id) : m = n := by
  have member (entry : String × α) : entry ∈ m.entries ↔ entry ∈ n.entries := by
    rw [← get?_eq_some_iff m entry.1 entry.2, ← get?_eq_some_iff n entry.1 entry.2, h]
  have distinct {k : IdMap α} : k.entries.Nodup := by
    refine k.sorted.imp ?_
    rintro a _ less rfl
    exact String.lt_irrefl _ less
  refine ext (List.Perm.eq_of_pairwise ?_ m.sorted n.sorted
    ((List.perm_ext_iff_of_nodup distinct distinct).mpr member))
  intro a b _ _ ab ba
  exact absurd (String.lt_trans ab ba) (String.lt_irrefl _)

/-! ### Changing every value -/

/-- Changing every value after an insertion is inserting the changed value into the changed map. -/
theorem mapValues_insert (m : IdMap α) (f : String → α → β) (id : String) (value : α) :
    (m.insert id value).mapValues f = (m.mapValues f).insert id (f id value) := by
  refine ext_get? fun other => ?_
  rw [get?_mapValues, get?_insert, get?_insert, get?_mapValues]
  split
  · rename_i same
    rw [same]
    rfl
  · rfl

/-- Changing every value of a map that is made of pairs is making it of the changed pairs. -/
theorem mapValues_ofList (pairs : List (String × α)) (f : String → α → β) :
    (ofList pairs).mapValues f = ofList (pairs.map fun pair => (pair.1, f pair.1 pair.2)) := by
  have folded (m : IdMap α) :
      (pairs.foldl (fun m pair => m.insert pair.1 pair.2) m).mapValues f =
        (pairs.map fun pair => (pair.1, f pair.1 pair.2)).foldl
          (fun m pair => m.insert pair.1 pair.2) (m.mapValues f) := by
    induction pairs generalizing m with
    | nil => rfl
    | cons pair pairs ih =>
      rw [List.foldl_cons, ih, mapValues_insert]
      rfl
  exact folded empty

/-! ### Properties of all values -/

/-- Every value of a map has a property. -/
def All (P : α → Prop) (m : IdMap α) : Prop :=
  ∀ id value, m.get? id = some value → P value

namespace All

variable {P : α → Prop} {m : IdMap α}

/-- An empty map has no value without the property. -/
theorem empty : All P .empty := by
  intro id value found
  rw [get?_empty] at found
  cases found

/-- The value of an id, or one that stands in for it, has the property if the latter has it. -/
theorem getD (all : All P m) (id : String) {value : α} (holds : P value) :
    P ((m.get? id).getD value) := by
  cases found : m.get? id with
  | none => exact holds
  | some value' => exact all id value' found

/-- Inserting a value with the property keeps it for all. -/
theorem insert (all : All P m) (id : String) {value : α} (holds : P value) :
    All P (m.insert id value) := by
  intro other value' found
  rw [get?_insert] at found
  split at found
  · cases found
    exact holds
  · exact all other value' found

/-- A removal keeps the property for all. -/
theorem erase (all : All P m) (id : String) : All P (m.erase id) := by
  intro other value found
  rw [get?_erase] at found
  split at found
  · cases found
  · exact all other value found

/-- A change that keeps the property of each value keeps it for all. -/
theorem mapValues (all : All P m) {f : String → α → α}
    (kept : ∀ id value, P value → P (f id value)) : All P (m.mapValues f) := by
  intro id value found
  rw [get?_mapValues] at found
  obtain ⟨before, was, rfl⟩ := Option.map_eq_some_iff.mp found
  exact kept id before (all id before was)

/-- A map that is made of pairs has the property if each of them has. -/
theorem ofList {pairs : List (String × α)} (holds : ∀ pair ∈ pairs, P pair.2) :
    All P (ofList pairs) := by
  have folded (m : IdMap α) (all : All P m) :
      All P (pairs.foldl (fun m pair => m.insert pair.1 pair.2) m) := by
    induction pairs generalizing m with
    | nil => exact all
    | cons pair pairs ih =>
      exact ih (fun other member => holds other (List.mem_cons_of_mem pair member)) _
        (all.insert pair.1 (holds pair List.mem_cons_self))
  exact folded .empty .empty

end All

end IdMap

end Playfield
