import Thundermod.Words.Occurrence

/-!
# Filling records in place

Words are stored into a record that is part of a larger buffer, and a cursor moves
from record to record.  A store outside the buffer fails.  What is stored through the
cursor is what the same stores make of the record by itself.
-/

namespace Words

variable {α : Type*}

/-- Store a word if the buffer has room for it. -/
def storeAt (buffer : List α) (offset : Nat) (word : List α) : Option (List α) :=
  if offset + word.length ≤ buffer.length then some (overwrite buffer offset word) else none

/-- Store words one after the other, each at its offset behind `base`. -/
def storeAll (base : Nat) (stores : List (Nat × List α)) (buffer : List α) : Option (List α) :=
  match stores with
  | [] => some buffer
  | store :: rest => (storeAt buffer (base + store.1) store.2).bind (storeAll base rest)

/-- Fill records of one size, the first one at the cursor; the cursor ends behind the last. -/
def fillRecords (size cursor : Nat) (records : List (List (Nat × List α))) (buffer : List α) :
    Option (List α × Nat) :=
  match records with
  | [] => some (buffer, cursor)
  | stores :: rest =>
      (storeAll cursor stores buffer).bind (fillRecords size (cursor + size) rest)

/-- Every store stays inside a record of the given size. -/
def StoresFit (size : Nat) (stores : List (Nat × List α)) : Prop :=
  ∀ store ∈ stores, store.1 + store.2.length ≤ size

instance (size : Nat) (stores : List (Nat × List α)) : Decidable (StoresFit size stores) :=
  inferInstanceAs (Decidable (∀ store ∈ stores, _))

theorem StoresFit.tail {size : Nat} {store : Nat × List α} {stores : List (Nat × List α)}
    (fits : StoresFit size (store :: stores)) : StoresFit size stores :=
  fun other member => fits other (List.mem_cons_of_mem _ member)

/-! ## One record -/

section Record

variable {stores : List (Nat × List α)} {record buffer filled : List α}

theorem storeAt_of_room {word : List α} {offset : Nat}
    (room : offset + word.length ≤ buffer.length) :
    storeAt buffer offset word = some (overwrite buffer offset word) :=
  if_pos room

/-- Overwriting inside a record that is part of a buffer overwrites the record. -/
theorem overwrite_append {word : List α} {offset : Nat}
    (room : offset + word.length ≤ record.length) (front rest : List α) :
    overwrite (front ++ record ++ rest) (front.length + offset) word =
      front ++ overwrite record offset word ++ rest := by
  have before : (front ++ record ++ rest).take (front.length + offset) =
      front ++ record.take offset := by
    rw [List.append_assoc, List.take_length_add_append,
      List.take_append_of_le_length (by omega)]
  have behind : (front ++ record ++ rest).drop (front.length + offset + word.length) =
      record.drop (offset + word.length) ++ rest := by
    rw [List.append_assoc, Nat.add_assoc, List.drop_length_add_append,
      List.drop_append_of_le_length room]
  rw [overwrite, before, behind]
  simp only [overwrite, List.append_assoc]

/-- Storing never changes the length of a buffer. -/
theorem length_of_storeAll {base : Nat} (stored : storeAll base stores buffer = some filled) :
    filled.length = buffer.length := by
  induction stores generalizing buffer with
  | nil => rw [← Option.some.inj stored]
  | cons store rest ih =>
      by_cases room : base + store.1 + store.2.length ≤ buffer.length
      · rw [storeAll, storeAt_of_room room] at stored
        exact (ih stored).trans (length_overwrite room)
      · rw [storeAll, storeAt, if_neg room] at stored
        cases stored

/-- Stores that fit into a record succeed on it. -/
theorem storeAll_of_fits (fits : StoresFit record.length stores) :
    ∃ filled, storeAll 0 stores record = some filled := by
  induction stores generalizing record with
  | nil => exact ⟨record, rfl⟩
  | cons store rest ih =>
      have room : store.1 + store.2.length ≤ record.length := fits store List.mem_cons_self
      rw [storeAll, Nat.zero_add, storeAt_of_room room]
      exact ih (by rw [length_overwrite room]; exact fits.tail)

/-- Stores through a cursor fill the record at the cursor, and nothing else. -/
theorem storeAll_append (fits : StoresFit record.length stores)
    (stored : storeAll 0 stores record = some filled) (front rest : List α) :
    storeAll front.length stores (front ++ record ++ rest) = some (front ++ filled ++ rest) := by
  induction stores generalizing record with
  | nil =>
      obtain rfl := Option.some.inj stored
      rfl
  | cons store others ih =>
      have room : store.1 + store.2.length ≤ record.length := fits store List.mem_cons_self
      have roomInside : front.length + store.1 + store.2.length ≤
          (front ++ record ++ rest).length := by
        simp only [List.length_append]
        omega
      rw [storeAll, Nat.zero_add, storeAt_of_room room] at stored
      rw [storeAll, storeAt_of_room roomInside, overwrite_append room]
      exact ih (by rw [length_overwrite room]; exact fits.tail) stored

/-- What lies in front of every store is left alone. -/
theorem storeAll_take {bound : Nat} (fits : StoresFit record.length stores)
    (behind : ∀ store ∈ stores, bound ≤ store.1) (stored : storeAll 0 stores record = some filled) :
    filled.take bound = record.take bound := by
  induction stores generalizing record with
  | nil =>
      obtain rfl := Option.some.inj stored
      rfl
  | cons store others ih =>
      have room : store.1 + store.2.length ≤ record.length := fits store List.mem_cons_self
      have later : bound ≤ store.1 := behind store List.mem_cons_self
      rw [storeAll, Nat.zero_add, storeAt_of_room room] at stored
      rw [ih (by rw [length_overwrite room]; exact fits.tail)
        (fun other member => behind other (List.mem_cons_of_mem _ member)) stored, overwrite,
        List.append_assoc, List.take_append_of_le_length (by rw [List.length_take]; omega),
        List.take_take, Nat.min_eq_left later]

end Record

/-! ## A sequence of records -/

theorem length_of_fillRecords {size cursor : Nat} {fields : List (List (Nat × List α))}
    {buffer : List α} {filled : List α × Nat}
    (runs : fillRecords size cursor fields buffer = some filled) :
    filled.1.length = buffer.length := by
  induction fields generalizing cursor buffer with
  | nil => rw [← Option.some.inj runs]
  | cons stores others ih =>
      obtain ⟨first, stored, rest⟩ := Option.bind_eq_some_iff.mp runs
      exact (ih rest).trans (length_of_storeAll stored)

/--
Filling blank records through a moving cursor leaves the filled records one behind the
other, with the cursor behind them.
-/
theorem fillRecords_blank {fields : List (List (Nat × List α))} {blank : List α}
    (fits : ∀ stores ∈ fields, StoresFit blank.length stores) (front rest : List α) :
    ∃ records, List.Forall₂ (fun stores record => storeAll 0 stores blank = some record)
        fields records ∧
      fillRecords blank.length front.length fields
          (front ++ (List.replicate fields.length blank).flatten ++ rest) =
        some (front ++ records.flatten ++ rest,
          front.length + records.flatten.length) := by
  induction fields generalizing front with
  | nil => exact ⟨[], .nil, rfl⟩
  | cons stores others ih =>
      have fitsFirst : StoresFit blank.length stores := fits stores List.mem_cons_self
      obtain ⟨record, stored⟩ := storeAll_of_fits fitsFirst
      have length := length_of_storeAll stored
      obtain ⟨records, filled, runs⟩ := ih
        (fun other member => fits other (List.mem_cons_of_mem _ member)) (front ++ record)
      refine ⟨record :: records, .cons stored filled, ?_⟩
      have first := storeAll_append fitsFirst stored front
        ((List.replicate others.length blank).flatten ++ rest)
      simp only [List.append_assoc, List.length_append, length] at first runs
      simp only [fillRecords, List.length_cons, List.replicate_succ, List.flatten_cons,
        List.append_assoc, List.length_append, length, first, Option.bind_some, runs]
      simp only [Nat.add_assoc]

end Words
