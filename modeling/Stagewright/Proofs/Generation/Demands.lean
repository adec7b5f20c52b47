import Stagewright.Generation
import Stagewright.Proofs.Connection.Parts

/-!
What the generators look at. Every part of a stage looks at the parameters of that stage, and which
ones these are is decided by a few of them.
-/

namespace Stagewright.Generation

open Code Lifecycle Connection

/-- What the steps of a stage look at one after the other. -/
def routeKeys (view : View) : List String :=
  ((request view).mode.route.flatMap (request view).parts).flatMap Part.keys

/-- What the generator of a kind looks at, in this order. -/
def generationKeys (kind : StageKind) (view : View) : List String :=
  match kind with
  | .connection => StrategyKind.keys view ++ Mode.keys view ++ routeKeys view
  | .commit => (effectParts view ⟨view.cid⟩ .commit).flatMap Part.keys
  | .rollback => (effectParts view ⟨view.cid⟩ .rollback).flatMap Part.keys
  | .close => (effectParts view ⟨view.cid⟩ .close).flatMap Part.keys

/-- What a stage looks at because it uses a connection that it has been handed. -/
def reuseKeys (view : View) : List String :=
  if view.flag "use_existing_connection" then Operation.reuse.demands view else []

theorem keys_acquisition (view : View) : (request view).acquisition.flatMap Part.keys =
    if Mode.select view = .shared then
      "shared_connection_name" :: (request view).strategy.classKeys
    else ["user"] := by
  unfold Request.acquisition
  have mode : (request view).mode = Mode.select view := rfl
  rw [mode]
  split
  · simp [Operation.keys_parts, Operation.demands]
  · simp [Operation.keys_parts, Operation.demands]

/-- What each step looks at. -/
theorem keys_parts (view : View) (state : State) :
    ((request view).parts state).flatMap Part.keys =
      match state with
      | .init | .done => []
      | .driverLoaded => (request view).strategy.classKeys
      | .urlBuilt => ["url", "user", "password"]
      | .connected =>
        (if Mode.select view = .shared then
            "shared_connection_name" :: (request view).strategy.classKeys
          else ["user"]) ++ "use_existing_connection" :: reuseKeys view
      | .autoCommitSet => "auto_commit" :: (request view).strategy.autocommitKeys
      | .registered => if Mode.select view = .served then ["datasource_alias"] else [] := by
  have same : (request view).view = view := rfl
  have mode : (request view).mode = Mode.select view := rfl
  cases state with
  | init | done => rfl
  | driverLoaded =>
    simp [Request.parts, Operation.keys_parts, Operation.demands]
  | urlBuilt => rfl
  | connected =>
    rw [Request.parts, List.flatMap_append, keys_acquisition, reuseKeys, same]
    cases view.flag "use_existing_connection" <;> simp [Operation.keys_parts]
  | autoCommitSet =>
    simp only [Request.parts]
    split
    · simp
    · simp [Operation.keys_parts, Operation.demands]
  | registered =>
    rw [Request.parts, mode]
    split <;> simp

theorem routeKeys_eq (view : View) : routeKeys view =
    match Mode.select view with
    | .direct =>
      (request view).strategy.classKeys ++
        ["url", "user", "password", "user", "use_existing_connection"] ++ reuseKeys view ++
        "auto_commit" :: (request view).strategy.autocommitKeys
    | .shared =>
      ["url", "user", "password", "shared_connection_name"] ++ (request view).strategy.classKeys ++
        "use_existing_connection" :: reuseKeys view ++
        "auto_commit" :: (request view).strategy.autocommitKeys
    | .served =>
      "datasource_alias" :: "auto_commit" :: (request view).strategy.autocommitKeys := by
  have steps : routeKeys view = (Mode.select view).route.flatMap fun state =>
      ((request view).parts state).flatMap Part.keys := by
    rw [routeKeys, List.flatMap_assoc]
    rfl
  rw [steps]
  cases selected : Mode.select view <;> simp [Mode.route, keys_parts, selected]

theorem keys_effectParts (view : View) (names : Names) (e : Effect) :
    (effectParts view names e).flatMap Part.keys =
      "connection" :: Operation.reuse.demands view ++
        (if e = .commit then ["data_action"] else []) ++ (Operation.effect e).keys view ++
        if e = .close then []
        else "close" :: if view.flag "close" then labelKeys view else [] := by
  unfold effectParts
  cases flag : view.flag "close" <;> cases e <;>
    simp [Operation.keys_parts, Operation.demands]

/-- What is too much in the first of these. -/
def excess? (kind : StageKind) (view : View) : Option Excess :=
  view.excess? (generationKeys kind view)

/-- A connection is planned by its driver, its mode, and what the steps look at. -/
theorem excess?_connection (view : View) : excess? .connection view =
    ((view.excess? (StrategyKind.keys view)).or (view.excess? (Mode.keys view))).or
      (view.excess? (routeKeys view)) := by
  rw [excess?, generationKeys, View.excess?_append, View.excess?_append]

section Parts

variable (view : View)

theorem view_of_mem_parts (state : State) :
    ∀ part ∈ (request view).parts state, part.view = view := by
  have note (o : Operation) := o.view_of_mem_parts view ⟨view.cid⟩
  have strategy : (request view).strategy.view = view := rfl
  have same : (request view).view = view := rfl
  have names : (request view).names = ⟨view.cid⟩ := rfl
  cases state with
  | init | urlBuilt | done => simp [Request.parts, same, strategy, Credentials.part]
  | driverLoaded => exact List.forall_mem_cons.mpr ⟨strategy, note _⟩
  | connected =>
    refine List.forall_mem_append.mpr ⟨?_, List.forall_mem_cons.mpr ⟨same, ?_⟩⟩
    · unfold Request.acquisition
      split
      · exact List.forall_mem_append.mpr ⟨note _, by simp [strategy]⟩
      · exact note _
    · split
      · exact note _
      · simp
  | autoCommitSet =>
    refine List.forall_mem_cons.mpr ⟨same, List.forall_mem_cons.mpr ⟨strategy, ?_⟩⟩
    split
    · simp
    · exact List.forall_mem_cons.mpr ⟨same, view_deeper_parts 1 (note _)⟩
  | registered =>
    refine List.forall_mem_append.mpr ⟨?_, by simp [same]⟩
    split <;> simp [same]

theorem view_of_mem_effectParts (names : Names) (e : Effect) :
    ∀ part ∈ effectParts view names e, part.view = view := by
  have operation (o : Operation) := o.view_of_mem_parts view names
  refine List.forall_mem_cons.mpr ⟨rfl, List.forall_mem_append.mpr ⟨operation _,
    List.forall_mem_cons.mpr ⟨rfl, view_deeper_parts 1 (List.forall_mem_cons.mpr ⟨rfl,
      List.forall_mem_append.mpr ⟨operation _, ?_⟩⟩)⟩⟩⟩
  split
  · simp
  · refine List.forall_mem_cons.mpr ⟨rfl, ?_⟩
    split
    · exact operation _
    · simp

theorem excess?_request : (request view).excess? = view.excess? (routeKeys view) := by
  refine excessOf?_eq fun part member => ?_
  obtain ⟨state, -, among⟩ := List.mem_flatMap.mp member
  exact view_of_mem_parts view state part among

end Parts

end Stagewright.Generation
