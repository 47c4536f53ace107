import Thundermod.Shim.Teardown

/-!
# Statuses that are never assigned

`OpenBaseProtocols` and `CleanupDriver` assign their local `Status` only inside
their loops.  A loop whose passes are all skipped, or that has none, returns what
the local happened to hold.
-/

namespace Thundermod.Shim

open Control

/-- The result does not depend on the argument. -/
def Determined {Input Output : Type*} (f : Input → Output) : Prop :=
  ∀ first second, f first = f second

/-- A function that hands its indeterminate argument back is not determined. -/
theorem not_determined_of_returned {f : EfiStatus → Except Fault Returned} {m : Machine}
    (returned : ∀ indeterminate ≠ efiSuccess, f indeterminate = .ok ⟨indeterminate, m⟩) :
    ¬ Determined f := by
  intro determined
  have same := determined 1 2
  rw [returned 1 (by decide), returned 2 (by decide)] at same
  cases same

/-! ## Opening -/

section Opening

variable {platform : Platform} {m : Machine}

/-- A loop over mappings that are all open only reads them. -/
theorem forEach_openMapping_of_open (platform : Platform) {entries : List Addr}
    (opened : ∀ entry ∈ entries, (m.mapping entry).isOpen = true) :
    ∃ m', ∀ indeterminate,
      forEach (openMapping platform) entries ⟨indeterminate, m⟩ = .next ⟨indeterminate, m'⟩ := by
  induction entries generalizing m with
  | nil => exact ⟨m, fun _ => rfl⟩
  | cons entry rest ih =>
      have here := opened entry List.mem_cons_self
      have pass (indeterminate : EfiStatus) : openMapping platform entry ⟨indeterminate, m⟩ =
          .next ⟨indeterminate, m.touch entry⟩ := by
        simp only [openMapping, Machine.toRegistry_touch, here, if_true]
      simp only [forEach_cons_next (pass _)]
      apply ih
      intro other member
      rw [Machine.toRegistry_touch]
      exact opened other (List.mem_cons_of_mem _ member)

/-- The pass over an unopened mapping assigns the status before anything reads it. -/
theorem forEach_openMapping_of_unopened {entries : List Addr}
    (unopened : ∃ entry ∈ entries, (m.mapping entry).isOpen = false)
    (first second : EfiStatus) :
    forEach (openMapping platform) entries ⟨first, m⟩ =
      forEach (openMapping platform) entries ⟨second, m⟩ := by
  refine forEach_congr_of_merge
    (fun one other : Returned =>
      one.machine = other.machine ∧ one.machine.mapping = m.mapping)
    (fun entry => (m.mapping entry).isOpen = false) ?_ ?_ entries ⟨first, m⟩ ⟨second, m⟩
    ⟨rfl, rfl⟩ unopened
  · rintro entry ⟨_, machine⟩ ⟨_, _⟩ ⟨rfl, same⟩ unopened
    have skips : ¬ ((machine.touch entry).mapping entry).isOpen = true := by
      rw [Machine.toRegistry_touch, same, unopened]
      exact Bool.false_ne_true
    simp only [openMapping, if_neg skips]
  · rintro entry ⟨one, machine⟩ ⟨other, _⟩ ⟨rfl, same⟩ opened
    have skips : ((machine.touch entry).mapping entry).isOpen = true := by
      rw [Machine.toRegistry_touch, same]
      exact eq_true_of_ne_false opened
    refine ⟨⟨one, machine.touch entry⟩, ⟨other, machine.touch entry⟩, ?_, ?_, rfl, ?_⟩
    · simp only [openMapping, if_pos skips]
    · simp only [openMapping, if_pos skips]
    · rw [Machine.toRegistry_touch, same]

/-- Some mapping is still to be opened. -/
def Unopened (m : Machine) : Prop :=
  ∃ entry ∈ m.rootBridgeIoProtocolList, (m.mapping entry).isOpen = false

theorem openBaseProtocols_of_not_unopened (platform : Platform) (opened : ¬ Unopened m) :
    ∃ m', ∀ indeterminate, openBaseProtocols platform indeterminate m = .ok ⟨indeterminate, m'⟩ := by
  have all : ∀ entry ∈ m.rootBridgeIoProtocolList, (m.mapping entry).isOpen = true := by
    intro entry listed
    exact eq_true_of_ne_false fun unopened => opened ⟨entry, listed, unopened⟩
  obtain ⟨m', loop⟩ := forEach_openMapping_of_open platform all
  exact ⟨m', fun indeterminate => by simp only [openBaseProtocols, loop indeterminate]⟩

theorem openBaseProtocols_of_unopened (platform : Platform) (unopened : Unopened m) :
    Determined fun indeterminate => openBaseProtocols platform indeterminate m := by
  intro first second
  simp only [openBaseProtocols, forEach_openMapping_of_unopened unopened first second]

end Opening

/-! ## Cleaning up -/

section Cleaning

variable (platform : Platform) (this : DriverBinding) (controller : EfiHandle) {m : Machine}

theorem cleanupDriver_of_empty_list (empty : m.rootBridgeIoProtocolList = []) :
    ∃ m', ∀ indeterminate, cleanupDriver platform indeterminate this controller m =
      .ok ⟨indeterminate, m'⟩ :=
  ⟨{ m with rootBridgeIoProtocolList := [] }, fun indeterminate => by
    simp only [cleanupDriver, empty, forEach]⟩

/-- The first pass assigns the status before anything reads it. -/
theorem cleanupDriver_of_listed (listed : m.rootBridgeIoProtocolList ≠ []) :
    Determined fun indeterminate => cleanupDriver platform indeterminate this controller m := by
  obtain ⟨entry, rest, list⟩ := List.exists_cons_of_ne_nil listed
  intro first second
  have pass : cleanupMapping platform this controller entry ⟨first, m⟩ =
      cleanupMapping platform this controller entry ⟨second, m⟩ := rfl
  simp only [cleanupDriver, list, forEach, pass]

end Cleaning

/-! ## Start and Stop -/

section Calls

variable {platform : Platform} {this : DriverBinding} {controller : EfiHandle}
  {remainingDevicePath : Pointer} {numberOfChildren : Nat} {childHandleBuffer : List EfiHandle}
  {m : Machine}

theorem unopened_findDriverBindingProtocol (platform : Platform) :
    Unopened (findDriverBindingProtocol platform m).2 ↔ Unopened m := by
  simp only [Unopened, toRegistry_findDriverBindingProtocol]

theorem start_determined (unopened : Unopened m) :
    Determined fun indeterminate => pciBusDriverBindingStart platform indeterminate this controller
      remainingDevicePath m := by
  intro first second
  have opened := openBaseProtocols_of_unopened platform
    ((unopened_findDriverBindingProtocol platform).mpr unopened) first second
  simp only [pciBusDriverBindingStart, opened]

/-- With nothing to open, `Start` returns the indeterminate status if it is an error. -/
theorem start_not_determined (opened : ¬ Unopened m) :
    ¬ Determined fun indeterminate => pciBusDriverBindingStart platform indeterminate this
      controller remainingDevicePath m := by
  obtain ⟨m', run⟩ := openBaseProtocols_of_not_unopened platform
    (mt (unopened_findDriverBindingProtocol platform).mp opened)
  refine not_determined_of_returned (m := m') ?_
  intro indeterminate failed
  simp only [pciBusDriverBindingStart, run indeterminate, if_neg failed]

/-- `Stop` gets as far as the cleanup. -/
def Stopped (platform : Platform) (controller : EfiHandle) (numberOfChildren : Nat)
    (childHandleBuffer : List EfiHandle) (m : Machine) : Prop :=
  ∃ binding, m.gDriverBindingSubstituteProtocol = some binding ∧
    platform.stopStatus m binding binding controller numberOfChildren childHandleBuffer = efiSuccess

theorem stop_determined
    (listed : Stopped platform controller numberOfChildren childHandleBuffer m →
      m.rootBridgeIoProtocolList ≠ []) :
    Determined fun indeterminate => pciBusDriverBindingStop platform indeterminate this controller
      numberOfChildren childHandleBuffer m := by
  intro first second
  by_cases stopped : Stopped platform controller numberOfChildren childHandleBuffer m
  · obtain ⟨binding, cached, success⟩ := stopped
    have nonempty := listed ⟨binding, cached, success⟩
    simp only [stop_of_stopped cached success]
    exact cleanupDriver_of_listed platform this controller (by simpa using nonempty) first second
  · cases cached : m.gDriverBindingSubstituteProtocol with
    | none => simp only [pciBusDriverBindingStop, findDriverBindingProtocol, cached]
    | some binding =>
        have failed : ¬ platform.stopStatus m binding binding controller numberOfChildren
            childHandleBuffer = efiSuccess := fun success => stopped ⟨binding, cached, success⟩
        simp only [pciBusDriverBindingStop, findDriverBindingProtocol_of_cached cached,
          if_neg failed]

theorem stop_not_determined
    (stopped : Stopped platform controller numberOfChildren childHandleBuffer m)
    (empty : m.rootBridgeIoProtocolList = []) :
    ¬ Determined fun indeterminate => pciBusDriverBindingStop platform indeterminate this controller
      numberOfChildren childHandleBuffer m := by
  obtain ⟨binding, cached, success⟩ := stopped
  have emptied : (m.record (.stopped controller efiSuccess)).rootBridgeIoProtocolList = [] := empty
  obtain ⟨m', run⟩ := cleanupDriver_of_empty_list platform this controller emptied
  refine not_determined_of_returned (m := m') ?_
  intro indeterminate _
  rw [stop_of_stopped cached success, run]

/--
The four results are independent of the unassigned status exactly if the loop
behind them assigns it: there is a mapping left to open, there is a mapping to
clean up, or `Stop` does not reach its loop.
-/
theorem statuses_determined_iff (platform : Platform) (this : DriverBinding)
    (controller : EfiHandle) (remainingDevicePath : Pointer) (numberOfChildren : Nat)
    (childHandleBuffer : List EfiHandle) (m : Machine) :
    (Determined (fun indeterminate => openBaseProtocols platform indeterminate m) ↔ Unopened m) ∧
    (Determined (fun indeterminate => cleanupDriver platform indeterminate this controller m) ↔
      m.rootBridgeIoProtocolList ≠ []) ∧
    (Determined (fun indeterminate => pciBusDriverBindingStart platform indeterminate this
      controller remainingDevicePath m) ↔ Unopened m) ∧
    (Determined (fun indeterminate => pciBusDriverBindingStop platform indeterminate this
      controller numberOfChildren childHandleBuffer m) ↔
      (Stopped platform controller numberOfChildren childHandleBuffer m →
        m.rootBridgeIoProtocolList ≠ [])) := by
  refine ⟨⟨?_, openBaseProtocols_of_unopened platform⟩,
    ⟨?_, cleanupDriver_of_listed platform this controller⟩,
    ⟨?_, start_determined⟩, ⟨?_, stop_determined⟩⟩
  · intro determined
    by_contra opened
    obtain ⟨m', run⟩ := openBaseProtocols_of_not_unopened platform opened
    exact not_determined_of_returned (fun indeterminate _ => run indeterminate) determined
  · intro determined empty
    obtain ⟨m', run⟩ := cleanupDriver_of_empty_list platform this controller empty
    exact not_determined_of_returned (fun indeterminate _ => run indeterminate) determined
  · intro determined
    by_contra opened
    exact start_not_determined opened determined
  · intro determined stopped empty
    exact stop_not_determined stopped empty determined

/-- A `Start` repeated on the started controller: whether it is started again is left to chance. -/
theorem restart_not_determined :
    ¬ ∀ platform this controller remainingDevicePath m, Determined fun indeterminate =>
      pciBusDriverBindingStart platform indeterminate this controller remainingDevicePath m := by
  intro determined
  refine start_not_determined ?_ (determined cooperative shimBinding 5 0 startedMachine)
  rintro ⟨entry, listed, unopened⟩
  obtain rfl : entry = 1 := List.mem_singleton.mp listed
  cases unopened

end Calls

end Thundermod.Shim
