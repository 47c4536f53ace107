import Mathlib.Logic.Function.Basic
import Thundermod.Words.Filling

/-!
# Records with fields

The fields of a record lie apart, and each holds a word of its own size.  Storing to
one field replaces its word and no other one, so a sequence of stores leaves in every
field the word that was stored there last.
-/

namespace Words

variable {α Field : Type*}

/-! ## Windows -/

/-- The word of the given length at an offset. -/
def window (buffer : List α) (offset length : Nat) : List α :=
  (buffer.drop offset).take length

theorem getElem?_window {buffer : List α} {offset length index : Nat} (inside : index < length) :
    (window buffer offset length)[index]? = buffer[offset + index]? := by
  rw [window, List.getElem?_take_of_lt inside, List.getElem?_drop]

theorem window_overwrite_self {buffer word : List α} {offset : Nat}
    (room : offset + word.length ≤ buffer.length) :
    window (overwrite buffer offset word) offset word.length = word :=
  occursAt_overwrite_self room

/-- A window only depends on the entries that it shows. -/
theorem window_congr {first second : List α} {offset length : Nat}
    (same : ∀ index < length, first[offset + index]? = second[offset + index]?) :
    window first offset length = window second offset length := by
  apply List.ext_getElem?
  intro index
  by_cases inside : index < length
  · rw [getElem?_window inside, getElem?_window inside, same index inside]
  · rw [window, window, List.getElem?_take, List.getElem?_take, if_neg inside, if_neg inside]

theorem window_overwrite_of_apart {buffer word : List α} {offset target length : Nat}
    (room : target + word.length ≤ buffer.length)
    (apart : offset + length ≤ target ∨ target + word.length ≤ offset) :
    window (overwrite buffer target word) offset length = window buffer offset length := by
  apply window_congr
  intro index inside
  exact getElem?_overwrite_outside room (by omega)

/-! ## Layouts -/

/-- Where the fields of a record lie, and how long they are. -/
structure Layout (Field : Type*) where
  offset : Field → Nat
  size : Field → Nat
  apart : ∀ first second, first ≠ second →
    offset first + size first ≤ offset second ∨ offset second + size second ≤ offset first

namespace Layout

variable (layout : Layout Field)

/-- The word that a record holds in a field. -/
def read (record : List α) (field : Field) : List α :=
  window record (layout.offset field) (layout.size field)

/-- The store of a word to a field. -/
def store (word : Field × List α) : Nat × List α :=
  (layout.offset word.1, word.2)

/-- Every word has the size of its field. -/
def Sized (words : List (Field × List α)) : Prop :=
  ∀ word ∈ words, word.2.length = layout.size word.1

variable {layout} [DecidableEq Field]

theorem read_overwrite {record word : List α} {field : Field}
    (sized : word.length = layout.size field)
    (room : layout.offset field + word.length ≤ record.length) :
    layout.read (overwrite record (layout.offset field) word) =
      Function.update (layout.read record) field word := by
  funext other
  by_cases same : other = field
  · subst same
    rw [Function.update_self, read, ← sized]
    exact window_overwrite_self room
  · rw [Function.update_of_ne same, read, read]
    apply window_overwrite_of_apart room
    rw [sized]
    exact layout.apart other field same

/-- Stores to fields update the words one after the other. -/
theorem read_storeAll {words : List (Field × List α)} {record filled : List α}
    (sized : layout.Sized words)
    (stored : storeAll 0 (words.map layout.store) record = some filled) :
    layout.read filled =
      words.foldl (fun view word => Function.update view word.1 word.2) (layout.read record) := by
  induction words generalizing record with
  | nil =>
      obtain rfl := Option.some.inj stored
      rfl
  | cons word rest ih =>
      by_cases room : layout.offset word.1 + word.2.length ≤ record.length
      · rw [List.map_cons, storeAll, Nat.zero_add, store, storeAt_of_room room] at stored
        rw [List.foldl_cons, ← read_overwrite (sized word List.mem_cons_self) room]
        exact ih (fun other member => sized other (List.mem_cons_of_mem _ member)) stored
      · rw [List.map_cons, storeAll, Nat.zero_add, store, storeAt, if_neg room] at stored
        cases stored

end Layout

end Words
