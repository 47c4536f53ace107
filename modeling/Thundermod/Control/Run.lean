import Mathlib.Data.List.Forall2
import Mathlib.Logic.Relation

/-!
# Runs of a transition system

An invariant of every step is an invariant of every run.  A system that answers
requests simulates another one over whole sequences of requests as soon as it
does so for one request.
-/

namespace Control

/-! ## Reachable states -/

section Reachability

variable {State : Type*} {Step : State → State → Prop} {initial state : State}

/-- The states that a run from `initial` can reach. -/
def Reachable (Step : State → State → Prop) (initial state : State) : Prop :=
  Relation.ReflTransGen Step initial state

theorem Reachable.start (Step : State → State → Prop) (initial : State) :
    Reachable Step initial initial :=
  Relation.ReflTransGen.refl

theorem Reachable.step {next : State} (reached : Reachable Step initial state)
    (last : Step state next) : Reachable Step initial next :=
  Relation.ReflTransGen.tail reached last

/-- What holds at the start and survives every step holds in every reachable state. -/
theorem Reachable.invariant (reached : Reachable Step initial state) (invariant : State → Prop)
    (start : invariant initial)
    (preserved : ∀ before after, invariant before → Step before after → invariant after) :
    invariant state := by
  induction reached with
  | refl => exact start
  | tail _ last ih => exact preserved _ _ ih last

theorem Reachable.prepend {next : State} (first : Step initial next)
    (reached : Reachable Step next state) : Reachable Step initial state :=
  Relation.ReflTransGen.head first reached

theorem Reachable.single {next : State} (only : Step state next) : Reachable Step state next :=
  Relation.ReflTransGen.single only

theorem Reachable.trans {middle : State} (first : Reachable Step initial middle)
    (others : Reachable Step middle state) : Reachable Step initial state :=
  Relation.ReflTransGen.trans first others

/-- The steps of a run may be steps of a coarser system. -/
theorem Reachable.mono {Step' : State → State → Prop} (reached : Reachable Step initial state)
    (coarser : ∀ before after, Step before after → Step' before after) :
    Reachable Step' initial state :=
  Relation.ReflTransGen.mono coarser _ _ reached

/-- A run stops where it starts, or it takes a first step. -/
theorem Reachable.cases_start (reached : Reachable Step initial state) :
    initial = state ∨ ∃ next, Step initial next ∧ Reachable Step next state :=
  Relation.ReflTransGen.cases_head reached

end Reachability

/-! ## Systems that answer requests -/

section Requests

variable {State Request Answer Fault : Type*}

/-- Serve a sequence of requests; a fault ends the run. -/
def serve (handle : State → Request → Except Fault (State × Answer)) :
    State → List Request → Except Fault (State × List Answer)
  | state, [] => .ok (state, [])
  | state, request :: requests =>
      match handle state request with
      | .error fault => .error fault
      | .ok (state, answer) =>
          match serve handle state requests with
          | .error fault => .error fault
          | .ok (state, answers) => .ok (state, answer :: answers)

/-- Serve a sequence of requests with a system that cannot fault. -/
def respond (handle : State → Request → State × Answer) :
    State → List Request → State × List Answer
  | state, [] => (state, [])
  | state, request :: requests =>
      let first := handle state request
      let others := respond handle first.1 requests
      (others.1, first.2 :: others.2)

theorem respond_concat (handle : State → Request → State × Answer) (state : State)
    (requests : List Request) (request : Request) :
    respond handle state (requests ++ [request]) =
      ((handle (respond handle state requests).1 request).1,
        (respond handle state requests).2 ++
          [(handle (respond handle state requests).1 request).2]) := by
  induction requests generalizing state with
  | nil => rfl
  | cons first rest ih => simp only [List.cons_append, respond, ih]

theorem serve_cons_ok {handle : State → Request → Except Fault (State × Answer)}
    {state middle after : State} {request : Request} {requests : List Request} {answer : Answer}
    {answers : List Answer} (first : handle state request = .ok (middle, answer))
    (others : serve handle middle requests = .ok (after, answers)) :
    serve handle state (request :: requests) = .ok (after, answer :: answers) := by
  rw [serve, first]
  simp only [others]

/--
The rule for a sequence of requests that are all answered: the invariant survives
every request, and every answer is related to its request.
-/
theorem serve_completes {handle : State → Request → Except Fault (State × Answer)}
    (invariant : State → Prop) (answers : Request → Answer → Prop)
    (one : ∀ state request, invariant state → ∃ after answer,
      handle state request = .ok (after, answer) ∧ invariant after ∧ answers request answer) :
    ∀ requests state, invariant state → ∃ after given,
      serve handle state requests = .ok (after, given) ∧ invariant after ∧
        List.Forall₂ answers requests given := by
  intro requests
  induction requests with
  | nil => exact fun state holds => ⟨state, [], rfl, holds, .nil⟩
  | cons request rest ih =>
      intro state holds
      obtain ⟨middle, answer, first, holds, answered⟩ := one state request holds
      obtain ⟨after, given, others, holds, all⟩ := ih middle holds
      exact ⟨after, answer :: given, serve_cons_ok first others, holds, .cons answered all⟩

/-- All answers are good exactly if all requests deserve it. -/
theorem forall_answers_iff {deserves : Request → Prop} {good : Answer → Prop}
    {requests : List Request} {given : List Answer}
    (answered :
      List.Forall₂ (fun request answer => good answer ↔ deserves request) requests given) :
    (∀ answer ∈ given, good answer) ↔ ∀ request ∈ requests, deserves request := by
  induction answered with
  | nil => simp
  | cons first _ ih => rw [List.forall_mem_cons, List.forall_mem_cons, first, ih]

/-- Every request that is answered along the run is answered well. -/
def ServesWell (handle : State → Request → Except Fault (State × Answer))
    (good : State → Request → State → Answer → Prop) : State → List Request → Prop
  | _, [] => True
  | state, request :: requests => ∀ after answer, handle state request = .ok (after, answer) →
      good state request after answer ∧ ServesWell handle good after requests

/-- Two properties of answers agree on runs if they agree on answers that keep an invariant. -/
theorem servesWell_iff {handle : State → Request → Except Fault (State × Answer)}
    {good good' : State → Request → State → Answer → Prop} (invariant : State → Prop)
    (one : ∀ state request after answer, invariant state →
      handle state request = .ok (after, answer) →
        (good state request after answer ↔ good' state request after answer))
    (kept : ∀ state request after answer, good state request after answer → invariant after) :
    ∀ requests state, invariant state →
      (ServesWell handle good state requests ↔ ServesWell handle good' state requests) := by
  intro requests
  induction requests with
  | nil => exact fun _ _ => Iff.rfl
  | cons request rest ih =>
      intro state holds
      constructor
      · intro serves after answer first
        obtain ⟨well, others⟩ := serves after answer first
        exact ⟨(one state request after answer holds first).mp well,
          (ih after (kept _ _ _ _ well)).mp others⟩
      · intro serves after answer first
        obtain ⟨well', others⟩ := serves after answer first
        have well := (one state request after answer holds first).mpr well'
        exact ⟨well, (ih after (kept _ _ _ _ well)).mpr others⟩

variable {State' Request' : Type*} {handle : State → Request → Except Fault (State × Answer)}
  {handle' : State' → Request' → State' × Answer}

/--
If related states answer related requests alike and stay related, they answer
related sequences of requests alike.
-/
theorem serve_simulates (related : State → State' → Prop) (matching : Request → Request' → Prop)
    (one : ∀ state state' request request', related state state' → matching request request' →
      ∃ after, handle state request = .ok (after, (handle' state' request').2) ∧
        related after (handle' state' request').1) :
    ∀ {requests requests'}, List.Forall₂ matching requests requests' →
      ∀ state state', related state state' →
        ∃ after, serve handle state requests = .ok (after, (respond handle' state' requests').2) ∧
          related after (respond handle' state' requests').1 := by
  intro requests requests' paired
  induction paired with
  | nil => exact fun state state' alike => ⟨state, rfl, alike⟩
  | @cons request request' rest rest' matched _ ih =>
      intro state state' alike
      obtain ⟨middle, first, alike⟩ := one state state' request request' alike matched
      obtain ⟨after, others, alike⟩ := ih middle _ alike
      exact ⟨after, serve_cons_ok first others, alike⟩

end Requests

end Control
