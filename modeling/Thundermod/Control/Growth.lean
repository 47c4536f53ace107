import Thundermod.Control.Run

/-!
# Lists that only grow

A list to which fresh items are added at the end and whose items advance in place.  An
item never leaves such a list and never moves, and one that cannot advance any more is
there to stay.
-/

namespace Control

variable {Item : Type*}

/-- A fresh item joins at the end, or one item advances. -/
inductive GrowthStep (Fresh : List Item → Item → Prop) (Advance : Item → Item → Prop) :
    List Item → List Item → Prop
  | join {items : List Item} {item : Item} (fresh : Fresh items item) :
      GrowthStep Fresh Advance items (items ++ [item])
  | advance {front back : List Item} {item next : Item} (advances : Advance item next) :
      GrowthStep Fresh Advance (front ++ item :: back) (front ++ next :: back)

/-- Every item is still at its place, or has been replaced there by a later one. -/
def Grown (Later : Item → Item → Prop) (before after : List Item) : Prop :=
  ∀ (place : Nat) (item : Item), before[place]? = some item →
    ∃ next, after[place]? = some next ∧ Later item next

section Growth

variable {Fresh : List Item → Item → Prop} {Advance Later : Item → Item → Prop}
  {before between after : List Item}

theorem Grown.refl (same : ∀ item, Later item item) (items : List Item) :
    Grown Later items items :=
  fun _ item here => ⟨item, here, same item⟩

theorem Grown.trans (compose : ∀ first second third, Later first second → Later second third →
      Later first third) (first : Grown Later before between) (second : Grown Later between after) :
    Grown Later before after := by
  intro place item here
  obtain ⟨middle, there, later⟩ := first place item here
  obtain ⟨next, last, later'⟩ := second place middle there
  exact ⟨next, last, compose item middle next later later'⟩

/-- Every item has a successor. -/
theorem Grown.mem {item : Item} (grown : Grown Later before after) (member : item ∈ before) :
    ∃ next ∈ after, Later item next := by
  obtain ⟨place, here⟩ := List.mem_iff_getElem?.mp member
  obtain ⟨next, there, later⟩ := grown place item here
  exact ⟨next, List.mem_iff_getElem?.mpr ⟨place, there⟩, later⟩

theorem GrowthStep.grown (same : ∀ item, Later item item)
    (advance : ∀ item next, Advance item next → Later item next)
    (step : GrowthStep Fresh Advance before after) : Grown Later before after := by
  intro place item here
  cases step with
  | join _ =>
      obtain ⟨inside, _⟩ := List.getElem?_eq_some_iff.mp here
      exact ⟨item, by rwa [List.getElem?_append_left inside], same item⟩
  | @advance front back _ next advances =>
      by_cases moved : place = front.length
      · subst moved
        rw [List.getElem?_append_right (Nat.le_refl _), Nat.sub_self] at here
        cases here
        exact ⟨next, by simp, advance item next advances⟩
      · refine ⟨item, ?_, same item⟩
        rw [← here]
        by_cases inside : place < front.length
        · rw [List.getElem?_append_left inside, List.getElem?_append_left inside]
        · obtain ⟨offset, shift⟩ : ∃ offset, place - front.length = offset + 1 :=
            ⟨place - front.length - 1, by omega⟩
          rw [List.getElem?_append_right (by omega), List.getElem?_append_right (by omega), shift,
            List.getElem?_cons_succ, List.getElem?_cons_succ]

/-- Along a run of such steps, the list has grown. -/
theorem Reachable.grown (same : ∀ item, Later item item)
    (advance : ∀ item next, Advance item next → Later item next)
    (compose : ∀ first second third, Later first second → Later second third →
      Later first third)
    (reached : Reachable (GrowthStep Fresh Advance) before after) : Grown Later before after := by
  refine reached.invariant (Grown Later before) (Grown.refl same before) ?_
  exact fun _ _ grown step => grown.trans compose (step.grown same advance)

end Growth

end Control
