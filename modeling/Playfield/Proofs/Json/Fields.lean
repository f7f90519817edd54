import Mathlib.Data.List.Nodup
import Playfield.Json.Record
import Playfield.Proofs.Json.Compact

/-!
The fields of a structure, read back from what is written of them.

What a structure writes is laid out in slots: the names of all its fields in order, each with the
value that is written there, if any. A field that is left out and one that was never there look the
same in the object, so a reader has to find its way by the names alone: they must be distinct.
-/

namespace Playfield.Json

/-! ### Slots -/

/-- The fields that a structure writes, with the values of those that it does not leave out. -/
abbrev Slots := List (String × Option Json)

namespace Slots

def names (slots : Slots) : List String :=
  slots.map Prod.fst

/-- The pairs of the fields that are not left out. -/
def written (slots : Slots) : List (String × Json) :=
  slots.filterMap fun slot => slot.2.map fun value => (slot.1, value)

/-- Every value in the slots can be written in full. -/
def Writable (room : Nat) (slots : Slots) : Prop :=
  ∀ slot ∈ slots, ∀ value ∈ slot.2, Json.Writable room value

@[simp] theorem written_nil : written [] = [] := rfl

@[simp] theorem written_some (name : String) (value : Json) (slots : Slots) :
    written ((name, some value) :: slots) = (name, value) :: written slots := rfl

@[simp] theorem written_none (name : String) (slots : Slots) :
    written ((name, none) :: slots) = written slots := rfl

@[simp] theorem written_map (name : String) (value : Option α) (encode : α → Json)
    (slots : Slots) :
    written ((name, value.map encode) :: slots) = pair? name value encode ++ written slots := by
  cases value <;> rfl

@[simp] theorem written_append (slots others : Slots) :
    written (slots ++ others) = written slots ++ written others :=
  List.filterMap_append

/-- The names that are written are some of those of the slots, in order. -/
theorem names_written_sublist (slots : Slots) :
    ((written slots).map Prod.fst).Sublist slots.names := by
  induction slots with
  | nil => exact List.Sublist.slnil
  | cons slot slots ih =>
    obtain ⟨name, _ | value⟩ := slot
    · exact ih.cons name
    · exact ih.cons_cons name

theorem lookup_eq_none {slots : Slots} {name : String} (other : name ∉ slots.names) :
    slots.lookup name = none := by
  simp only [List.lookup_eq_none_iff, bne_iff_ne]
  rintro slot mem rfl
  exact other (List.mem_map_of_mem mem)

/-- Where names differ a slot is found by its name. -/
theorem lookup_of_mem {slots : Slots} {slot : String × Option Json} (distinct : slots.names.Nodup)
    (mem : slot ∈ slots) : slots.lookup slot.1 = some slot.2 := by
  induction slots with
  | nil => contradiction
  | cons first rest ih =>
    obtain ⟨name, value⟩ := first
    obtain ⟨new, distinct⟩ := List.nodup_cons.mp distinct
    obtain rfl | later := List.mem_cons.mp mem
    · simp
    · have other : slot.1 ≠ name := fun same =>
        new (List.mem_map.mpr ⟨slot, later, same⟩)
      simp [List.lookup_cons, beq_eq_false_iff_ne.mpr other, ih distinct later]

/-- A written slot is found by its name, and one without a value is not. -/
theorem lookup_written {slots : Slots} (distinct : slots.names.Nodup) (name : String) :
    (written slots).lookup name = (slots.lookup name).join := by
  induction slots with
  | nil => rfl
  | cons slot slots ih =>
    obtain ⟨other, value⟩ := slot
    obtain ⟨new, rest⟩ := List.nodup_cons.mp distinct
    by_cases same : name = other
    · subst same
      cases value with
      | some value => simp
      | none => simp [ih rest, lookup_eq_none new]
    · cases value <;> simp [List.lookup_cons, beq_eq_false_iff_ne.mpr same, ih rest]

theorem forall_written {slots : Slots} {P : String × Json → Prop}
    (each : ∀ slot ∈ slots, ∀ value ∈ slot.2, P (slot.1, value)) :
    ∀ pair ∈ written slots, P pair := by
  simp only [written, List.mem_filterMap, Option.map_eq_some_iff]
  rintro _ ⟨slot, mem, value, is, rfl⟩
  exact each slot mem value is

end Slots

/-! ### Reading slots -/

/-- Pairs that hold a structure, perhaps beside other fields of the same object. -/
structure Holds (slots : Slots) (pairs : List (String × Json)) : Prop where
  distinct : slots.names.Nodup
  once : (pairs.map Prod.fst).Nodup
  lookup : ∀ {name value}, slots.lookup name = some value → pairs.lookup name = value

/-- What is written of slots with names that differ holds these slots. -/
theorem Slots.holds_written {slots : Slots} (distinct : slots.names.Nodup) :
    Holds slots slots.written where
  distinct := distinct
  once := (names_written_sublist slots).nodup distinct
  lookup found := by rw [lookup_written distinct, found, Option.join_some]

/-- A value is read back from what is written of it. -/
def Returns (encode : α → Json) (decode : Json → Decoded α) (value : α) : Prop :=
  decode (encode value) = .ok value

/-- One step of a reader that goes well. -/
theorem bind_ok {x : Decoded α} {f : α → Decoded β} {a : α} {b : β} (first : x = .ok a)
    (rest : f a = .ok b) : (x >>= f) = .ok b := by
  rw [first]
  exact rest

namespace Holds

variable {slots first last : Slots} {pairs : List (String × Json)} {name : String}
  {encode : α → Json} {decode : Json → Decoded α}

/-- A structure that begins another is held with it. -/
theorem front (h : Holds (first ++ last) pairs) : Holds first pairs where
  distinct := (List.map_append ▸ h.distinct : (first.names ++ last.names).Nodup).of_append_left
  once := h.once
  lookup found := h.lookup (by simp [List.lookup_append, found])

/-- A structure that ends another is held with it. None of its names can come before it. -/
theorem rest (h : Holds (first ++ last) pairs) : Holds last pairs where
  distinct := (List.map_append ▸ h.distinct : (first.names ++ last.names).Nodup).of_append_right
  once := h.once
  lookup {name value} found := by
    have distinct : (first.names ++ last.names).Nodup := List.map_append ▸ h.distinct
    have mem : name ∈ last.names := by
      by_contra other
      simp [Slots.lookup_eq_none other] at found
    have new : name ∉ first.names := fun also =>
      (List.nodup_append.mp distinct).2.2 name also name mem rfl
    exact h.lookup (by simp [List.lookup_append, Slots.lookup_eq_none new, found])

/-- What holds the slots of a record is accepted as one. -/
theorem objectRecord (h : Holds slots pairs) (fields : List String) :
    objectRecord fields pairs = .ok ⟨pairs⟩ := by
  have once : repeatedField? fields pairs = none := by
    simp only [repeatedField?, List.find?_eq_none, decide_eq_true_eq, Nat.not_lt]
    intro field _
    have count := List.nodup_iff_count_le_one.mp h.once field
    rwa [List.count, List.countP_map, List.countP_eq_length_filter] at count
  rw [Json.objectRecord, once]

theorem record (h : Holds slots pairs) (fields : List String) :
    record fields (.object pairs) = .ok ⟨pairs⟩ :=
  h.objectRecord fields

theorem get? (h : Holds slots pairs) {value : Option Json}
    (found : slots.lookup name = some value) :
    Record.get? ⟨pairs⟩ name = value :=
  h.lookup found

/-- A required field that is held is read back. -/
theorem required (h : Holds slots pairs) {a : α} (back : Returns encode decode a)
    (found : slots.lookup name = some (some (encode a))) :
    Record.required ⟨pairs⟩ name decode = .ok a := by
  rw [Record.required, h.get? found]
  exact back

/-- A field with a default that is held is read back. -/
theorem withDefault (h : Holds slots pairs) {a default : α} (back : Returns encode decode a)
    (found : slots.lookup name = some (some (encode a))) :
    Record.withDefault ⟨pairs⟩ name default decode = .ok a := by
  rw [Record.withDefault, h.get? found]
  exact back

/-- A field that is left out is told from one with a value, since no value is read from null. -/
theorem optional (h : Holds slots pairs) {value : Option α}
    (back : ∀ a ∈ value, Returns encode decode a)
    (found : slots.lookup name = some (value.map encode))
    (refuses : (decode .null).toOption = none) :
    Record.optional ⟨pairs⟩ name decode = .ok value := by
  rw [Record.optional, h.get? found]
  cases value with
  | none => rfl
  | some a =>
    have back : decode (encode a) = .ok a := back a rfl
    rw [Option.map_some]
    -- Had the value been written as null, it could not have been read back.
    generalize encode a = found at back
    cases found with
    | null => simp [back, Except.toOption] at refuses
    | _ => exact congrArg (Except.map some) back

/-- A field that may be absent is read back, also if it is. -/
theorem present (h : Holds slots pairs) {value : Option α}
    (back : ∀ a ∈ value, Returns encode decode a)
    (found : slots.lookup name = some (value.map encode)) :
    Record.present ⟨pairs⟩ name decode = .ok value := by
  rw [Record.present, h.get? found]
  cases value with
  | none => rfl
  | some a => exact congrArg (Except.map some) (back a rfl)

end Holds

/-! ### Plain values -/

section Plain

variable {encode : α → Json} {decode : Json → Decoded α}

theorem ofReal_of_isFinite {x : Float32} (finite : x.isFinite) : ofReal x = .real x :=
  if_pos finite

/-- A finite number is read back. -/
theorem returns_real {x : Float32} (finite : x.isFinite) : Returns ofReal decodeReal x := by
  rw [Returns, ofReal_of_isFinite finite]
  rfl

theorem returns_text (content : String) : Returns .text decodeText content :=
  rfl

theorem returns_tag (words : List String) (word : String) : Returns .text (tagWord words) word :=
  rfl

theorem returns_bool (value : Bool) : Returns .bool decodeBool value :=
  rfl

theorem returns_word64 {n : Nat} (fits : n < UInt64.size) : Returns ofNat decodeWord64 n :=
  if_pos fits

/-- A list is read back if its items are. -/
theorem returns_list {items : List α} (each : ∀ a ∈ items, Returns encode decode a) :
    Returns (fun items => .list (items.map encode)) (decodeList decode) items := by
  have decoded : decodeEach decode (items.map encode) = .ok items := by
    induction items with
    | nil => rfl
    | cons first rest ih =>
      exact bind_ok (each first (by simp)) (bind_ok (ih fun a mem => each a (by simp [mem])) rfl)
  exact decoded

/-- What stands for a number that there is no numeral for can be written all the same. -/
theorem writable_real {x : Float32} {room : Nat} (back : ReadsBack x) :
    Writable room (ofReal x) := by
  unfold ofReal
  split
  · exact .real back
  · exact .null

theorem writable_list {items : List α} {room : Nat}
    (each : ∀ a ∈ items, Writable room (encode a)) :
    Writable (room + 1) (.list (items.map encode)) :=
  .list (by simpa using each)

/-- A property of the parts of an optional value is one of its value, if it has one. -/
theorem forall_mem_optional {value : Option α} {parts : α → List β} {P : β → Prop} :
    (∀ x ∈ value.toList.flatMap parts, P x) ↔ ∀ a ∈ value, ∀ x ∈ parts a, P x := by
  cases value <;> simp

theorem Holds.optional_real {slots : Slots} {pairs : List (String × Json)} {name : String}
    (h : Holds slots pairs) {value : Option Float32} (finite : ∀ x ∈ value.toList, x.isFinite)
    (found : slots.lookup name = some (value.map ofReal)) :
    Record.optional ⟨pairs⟩ name decodeReal = .ok value :=
  h.optional (fun x is => returns_real (finite x (Option.mem_toList.mpr is))) found rfl

theorem Holds.optional_text {slots : Slots} {pairs : List (String × Json)} {name : String}
    (h : Holds slots pairs) {value : Option String}
    (found : slots.lookup name = some (value.map .text)) :
    Record.optional ⟨pairs⟩ name decodeText = .ok value :=
  h.optional (fun a _ => returns_text a) found rfl

theorem writable_optional_real {value : Option Float32} {room : Nat}
    (back : ∀ x ∈ value.toList, ReadsBack x) : ∀ x ∈ value, Writable room (ofReal x) :=
  fun x is => writable_real (back x (Option.mem_toList.mpr is))

end Plain

/-! ### Writing slots -/

namespace Slots.Writable

variable {slots others : Slots} {room : Nat} {name : String}

theorem nil : Writable room [] := by
  simp [Writable]

theorem cons {value : Option Json} (first : ∀ v ∈ value, Json.Writable room v)
    (rest : slots.Writable room) : Writable room ((name, value) :: slots) :=
  List.forall_mem_cons.mpr ⟨first, rest⟩

theorem some {value : Json} (first : Json.Writable room value) (rest : slots.Writable room) :
    Writable room ((name, .some value) :: slots) :=
  cons (by simpa using first) rest

theorem map {value : Option α} {encode : α → Json}
    (first : ∀ a ∈ value, Json.Writable room (encode a)) (rest : slots.Writable room) :
    Writable room ((name, value.map encode) :: slots) :=
  cons (by simpa using first) rest

theorem append (first : slots.Writable room) (last : others.Writable room) :
    Writable room (slots ++ others) :=
  List.forall_mem_append.mpr ⟨first, last⟩

/-- A record of slots that can be written can be written. -/
theorem object (writable : slots.Writable room) :
    Json.Writable (room + 1) (.object slots.written) :=
  .object (forall_written writable)

end Slots.Writable

end Playfield.Json
