import Mathlib.Data.List.Basic

/-!
# Sequences of tagged records

A buffer that holds records of one size, each starting with a tag, up to the first
item that does not start with it.  A walk over such a buffer finds the records that
were put into it and stops at that item.
-/

namespace Words

variable {α : Type*}

/-- A record of the given size that starts with the tag. -/
structure IsRecord (size : Nat) (tag : α) (record : List α) : Prop where
  length : record.length = size
  tagged : record.head? = some tag

variable [DecidableEq α]

/-- Cut records off the front of a buffer as long as the next item is the tag. -/
def splitRecords (size : Nat) (tag : α) (buffer : List α) : List (List α) × List α :=
  match buffer with
  | [] => ([], [])
  | first :: rest =>
      if first = tag then
        let others := splitRecords size tag (rest.drop (size - 1))
        ((first :: rest.take (size - 1)) :: others.1, others.2)
      else ([], first :: rest)
  termination_by buffer.length

variable {size : Nat} {tag : α} {record tail : List α} {records : List (List α)}

theorem splitRecords_of_not_tagged (stops : tail.head? ≠ some tag) :
    splitRecords size tag tail = ([], tail) := by
  cases tail with
  | nil => rw [splitRecords]
  | cons first rest =>
      have other : first ≠ tag := fun same => stops (congrArg some same)
      rw [splitRecords, if_neg other]

/-- A record in front of a buffer is the first one that is cut off. -/
theorem splitRecords_append (isRecord : IsRecord size tag record) (buffer : List α) :
    splitRecords size tag (record ++ buffer) =
      (record :: (splitRecords size tag buffer).1, (splitRecords size tag buffer).2) := by
  obtain ⟨length, tagged⟩ := isRecord
  cases record with
  | nil => cases tagged
  | cons first rest =>
      obtain rfl : first = tag := Option.some.inj tagged
      have shorter : rest.length = size - 1 := by
        rw [← length]
        rfl
      rw [List.cons_append, splitRecords, if_pos rfl, List.drop_left' shorter,
        List.take_left' shorter]

/-- The walk finds the records of a sequence, and stops where it ends. -/
theorem splitRecords_flatten (all : ∀ record ∈ records, IsRecord size tag record)
    (stops : tail.head? ≠ some tag) :
    splitRecords size tag (records.flatten ++ tail) = (records, tail) := by
  induction records with
  | nil => exact splitRecords_of_not_tagged stops
  | cons record rest ih =>
      rw [List.flatten_cons, List.append_assoc, splitRecords_append (all record List.mem_cons_self),
        ih fun other member => all other (List.mem_cons_of_mem _ member)]

end Words
