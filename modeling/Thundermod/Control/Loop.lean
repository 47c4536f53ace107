import Mathlib.Data.List.Basic

/-!
# Loops that can be left early

A loop over the items of a list whose body can go on to the next item, leave the
enclosing function with a result, or run into a fault.  The rules below carry an
invariant that is indexed by the items still to come.
-/

namespace Control

variable {Item State Result Fault : Type*}

/-- How one pass through a loop body, or a whole loop, ends. -/
inductive Outcome (Fault State Result : Type*)
  | fault (fault : Fault)
  | next (state : State)
  | leave (result : Result)

/-- Partial correctness: what holds when the loop goes on, and when it is left. -/
def Outcome.Ensures (onNext : State → Prop) (onLeave : Result → Prop) :
    Outcome Fault State Result → Prop
  | .fault _ => True
  | .next state => onNext state
  | .leave result => onLeave result

theorem Outcome.Ensures.imp {onNext onNext' : State → Prop} {onLeave onLeave' : Result → Prop}
    {outcome : Outcome Fault State Result} (ensures : outcome.Ensures onNext onLeave)
    (next : ∀ state, onNext state → onNext' state)
    (leave : ∀ result, onLeave result → onLeave' result) : outcome.Ensures onNext' onLeave' := by
  cases outcome with
  | fault _ => trivial
  | next state => exact next state ensures
  | leave result => exact leave result ensures

theorem Outcome.Ensures.and {onNext onNext' : State → Prop} {onLeave onLeave' : Result → Prop}
    {outcome : Outcome Fault State Result} (ensures : outcome.Ensures onNext onLeave)
    (ensures' : outcome.Ensures onNext' onLeave') :
    outcome.Ensures (fun state => onNext state ∧ onNext' state)
      (fun result => onLeave result ∧ onLeave' result) := by
  cases outcome with
  | fault _ => trivial
  | next state => exact ⟨ensures, ensures'⟩
  | leave result => exact ⟨ensures, ensures'⟩

/-- What holds however an outcome ends, faults included. -/
def Outcome.Ends (onFault : Fault → Prop) (onNext : State → Prop) (onLeave : Result → Prop) :
    Outcome Fault State Result → Prop
  | .fault reason => onFault reason
  | .next state => onNext state
  | .leave result => onLeave result

theorem Outcome.Ends.imp {onFault onFault' : Fault → Prop} {onNext onNext' : State → Prop}
    {onLeave onLeave' : Result → Prop} {outcome : Outcome Fault State Result}
    (ends : outcome.Ends onFault onNext onLeave)
    (fault : ∀ reason, onFault reason → onFault' reason)
    (next : ∀ state, onNext state → onNext' state)
    (leave : ∀ result, onLeave result → onLeave' result) :
    outcome.Ends onFault' onNext' onLeave' := by
  cases outcome with
  | fault reason => exact fault reason ends
  | next state => exact next state ends
  | leave result => exact leave result ends

theorem Outcome.Ends.ensures {onFault : Fault → Prop} {onNext : State → Prop}
    {onLeave : Result → Prop} {outcome : Outcome Fault State Result}
    (ends : outcome.Ends onFault onNext onLeave) : outcome.Ensures onNext onLeave := by
  cases outcome with
  | fault _ => trivial
  | next _ => exact ends
  | leave _ => exact ends

theorem Outcome.Ensures.ends {onNext : State → Prop} {onLeave : Result → Prop}
    {outcome : Outcome Fault State Result} (ensures : outcome.Ensures onNext onLeave) :
    outcome.Ends (fun _ => True) onNext onLeave := by
  cases outcome with
  | fault _ => trivial
  | next _ => exact ensures
  | leave _ => exact ensures

/-- Run `body` for each item in turn until it leaves the loop or faults. -/
def forEach (body : Item → State → Outcome Fault State Result) :
    List Item → State → Outcome Fault State Result
  | [], state => .next state
  | item :: rest, state =>
      match body item state with
      | .fault fault => .fault fault
      | .next state => forEach body rest state
      | .leave result => .leave result

/-- Forget a part of what an outcome carries. -/
def Outcome.map {State' Result' : Type*} (erase : State → State') (erase' : Result → Result') :
    Outcome Fault State Result → Outcome Fault State' Result'
  | .fault reason => .fault reason
  | .next state => .next (erase state)
  | .leave result => .leave (erase' result)

/-- A loop whose passes may forget a part of the state may do so altogether. -/
theorem forEach_map {State' Result' : Type*} {erase : State → State'} {erase' : Result → Result'}
    {body : Item → State → Outcome Fault State Result}
    {body' : Item → State' → Outcome Fault State' Result'}
    (pass : ∀ item state, (body item state).map erase erase' = body' item (erase state)) :
    ∀ items state, (forEach body items state).map erase erase' =
      forEach body' items (erase state) := by
  intro items
  induction items with
  | nil => exact fun _ => rfl
  | cons item rest ih =>
      intro state
      have here := pass item state
      rw [forEach, forEach]
      cases step : body item state with
      | fault _ =>
          rw [step] at here
          rw [← here]
          rfl
      | next state' =>
          rw [step] at here
          rw [← here]
          exact ih state'
      | leave _ =>
          rw [step] at here
          rw [← here]
          rfl

variable {body : Item → State → Outcome Fault State Result}

theorem forEach_cons_next {item : Item} {rest : List Item} {state state' : State}
    (pass : body item state = .next state') :
    forEach body (item :: rest) state = forEach body rest state' := by
  rw [forEach, pass]

/-- The loop rule: the invariant of the remaining items survives every pass. -/
theorem forEach_ends (invariant : List Item → State → Prop) {onFault : Fault → Prop}
    {onLeave : Result → Prop}
    (pass : ∀ item rest state, invariant (item :: rest) state →
      (body item state).Ends onFault (invariant rest) onLeave) :
    ∀ items state, invariant items state →
      (forEach body items state).Ends onFault (invariant []) onLeave := by
  intro items
  induction items with
  | nil => exact fun state holds => holds
  | cons item rest ih =>
      intro state holds
      have ends := pass item rest state holds
      rw [forEach]
      cases step : body item state with
      | next state' =>
          rw [step] at ends
          exact ih state' ends
      | fault _ =>
          rw [step] at ends
          exact ends
      | leave result =>
          rw [step] at ends
          exact ends

/-- The loop rule where nothing is said about faults. -/
theorem forEach_ensures (invariant : List Item → State → Prop) (onLeave : Result → Prop)
    (pass : ∀ item rest state, invariant (item :: rest) state →
      (body item state).Ensures (invariant rest) onLeave) (items : List Item) (state : State)
    (holds : invariant items state) :
    (forEach body items state).Ensures (invariant []) onLeave := by
  have ends := forEach_ends invariant
    (fun item rest state holds => (pass item rest state holds).ends) items state holds
  exact ends.ensures

/-! ## The passes that a loop comes to -/

/-- The loop over the items comes to one of them in some state. -/
inductive Reaches (body : Item → State → Outcome Fault State Result) :
    List Item → State → Item → State → Prop
  | here {item : Item} {rest : List Item} {state : State} :
      Reaches body (item :: rest) state item state
  | later {first item : Item} {rest : List Item} {state state' reached : State}
      (pass : body first state = .next state') (reaches : Reaches body rest state' item reached) :
      Reaches body (first :: rest) state item reached

theorem Reaches.mem {items : List Item} {state reached : State} {item : Item}
    (reaches : Reaches body items state item reached) : item ∈ items := by
  induction reaches with
  | here => exact List.mem_cons_self
  | later _ _ ih => exact List.mem_cons_of_mem _ ih

/-- What every pass that goes on preserves holds wherever the loop comes to. -/
theorem Reaches.invariant {items : List Item} {state reached : State} {item : Item}
    (reaches : Reaches body items state item reached) (invariant : State → Prop)
    (start : invariant state)
    (pass : ∀ item before after, invariant before → body item before = .next after →
      invariant after) : invariant reached := by
  induction reaches with
  | here => exact start
  | later step _ ih => exact ih (pass _ _ _ start step)

/-- A pass that leaves the loop ends it. -/
theorem forEach_of_reaches_leave {items : List Item} {state reached : State} {item : Item}
    {result : Result} (reaches : Reaches body items state item reached)
    (left : body item reached = .leave result) : forEach body items state = .leave result := by
  induction reaches with
  | here => rw [forEach, left]
  | later step _ ih => rw [forEach_cons_next step, ih left]

/-- The loop rule for the passes that the loop does come to. -/
theorem forEach_ensures_of_reaches (invariant : List Item → State → Prop)
    (onLeave : Result → Prop) :
    ∀ items state, invariant items state →
      (∀ item rest reached, Reaches body items state item reached →
        invariant (item :: rest) reached →
          (body item reached).Ensures (invariant rest) onLeave) →
      (forEach body items state).Ensures (invariant []) onLeave := by
  intro items
  induction items with
  | nil => exact fun state holds _ => holds
  | cons item rest ih =>
      intro state holds pass
      have kept := pass item rest state .here holds
      rw [forEach]
      cases step : body item state with
      | fault _ => trivial
      | next state' =>
          rw [step] at kept
          exact ih state' kept fun other rest reached reaches =>
            pass other rest reached (.later step reaches)
      | leave result =>
          rw [step] at kept
          exact kept

/--
Two runs of a loop that start in similar states end alike as soon as one pass no
longer depends on the difference: passes before it keep the states similar.
-/
theorem forEach_congr_of_merge (similar : State → State → Prop) (merges : Item → Prop)
    (merge : ∀ item first second, similar first second → merges item →
      body item first = body item second)
    (skip : ∀ item first second, similar first second → ¬ merges item →
      ∃ first' second', body item first = .next first' ∧ body item second = .next second' ∧
        similar first' second') :
    ∀ items first second, similar first second → (∃ item ∈ items, merges item) →
      forEach body items first = forEach body items second := by
  intro items
  induction items with
  | nil =>
      rintro first second _ ⟨item, member, _⟩
      cases member
  | cons item rest ih =>
      intro first second alike some
      by_cases here : merges item
      · rw [forEach, merge item first second alike here, ← forEach]
      · obtain ⟨first', second', pass, pass', alike⟩ := skip item first second alike here
        rw [forEach_cons_next pass, forEach_cons_next pass']
        apply ih first' second' alike
        obtain ⟨other, member, merged⟩ := some
        rcases List.mem_cons.mp member with rfl | later
        · exact absurd merged here
        · exact ⟨other, later, merged⟩

/-! ## Search loops -/

/-- A search leaves with the first item that `found` accepts; `visit` is its effect on the state. -/
def search (found : Item → Bool) (visit : Item → State → State) :
    List Item → State → State × Option Item
  | [], state => (state, none)
  | item :: rest, state =>
      if found item then (visit item state, some item)
      else search found visit rest (visit item state)

theorem search_result (found : Item → Bool) (visit : Item → State → State) (items : List Item)
    (state : State) : (search found visit items state).2 = items.find? found := by
  induction items generalizing state with
  | nil => rfl
  | cons item rest ih =>
      by_cases hit : found item = true
      · rw [search, if_pos hit, List.find?_cons_of_pos hit]
      · rw [search, if_neg hit, List.find?_cons_of_neg hit, ih]

/-- A search with only one candidate on the list finds it. -/
theorem search_unique (found : Item → Bool) (visit : Item → State → State) {items : List Item}
    {item : Item} (state : State) (member : item ∈ items) (hit : found item = true)
    (unique : ∀ other ∈ items, found other = true → other = item) :
    (search found visit items state).2 = some item := by
  rw [search_result]
  cases result : items.find? found with
  | none => exact absurd hit (List.find?_eq_none.mp result item member)
  | some other =>
      rw [unique other (List.mem_of_find?_eq_some result) (List.find?_some result)]

/-- What no visit changes the whole search leaves unchanged. -/
theorem search_frame {View : Type*} (view : State → View) {visit : Item → State → State}
    (visit_view : ∀ item state, view (visit item state) = view state) (found : Item → Bool)
    (items : List Item) (state : State) :
    view (search found visit items state).1 = view state := by
  induction items generalizing state with
  | nil => rfl
  | cons item rest ih =>
      by_cases hit : found item = true
      · rw [search, if_pos hit]
        exact visit_view item state
      · rw [search, if_neg hit, ih, visit_view]

/-- A search runs alike in states that every visit keeps related by `change`. -/
theorem search_commutes {visit : Item → State → State} (change : State → State)
    (commutes : ∀ item state, visit item (change state) = change (visit item state))
    (found : Item → Bool) (items : List Item) (state : State) :
    search found visit items (change state) =
      (change (search found visit items state).1, (search found visit items state).2) := by
  induction items generalizing state with
  | nil => rfl
  | cons item rest ih =>
      by_cases hit : found item = true
      · simp only [search, if_pos hit, commutes]
      · simp only [search, if_neg hit, commutes, ih]

end Control
