import Mathlib.Data.List.Infix

/-!
# Recorded runs of executable step functions

A system is a partial step function on states: `none` means that the action is
not enabled.  A run keeps every transition it made, so that a statement can
speak about the order of events as well as about the states they lead to.
-/

namespace FrequencyRelay.Runs

variable {State Action : Type*}

structure Transition (State Action : Type*) where
  source : State
  action : Action
  target : State

abbrev Trace (State Action : Type*) := List (Transition State Action)

/-- `Path step start trace finish`: the transitions of `trace`, made one after
another from `start`, end in `finish`. -/
inductive Path (step : State → Action → Option State) (start : State) :
    Trace State Action → State → Prop
  | nil : Path step start [] start
  | snoc {trace : Trace State Action} {source target : State} {action : Action} :
      Path step start trace source → step source action = some target →
        Path step start (trace ++ [⟨source, action, target⟩]) target

/-- The states an interleaving can lead to. -/
def Reachable (step : State → Action → Option State) (start finish : State) :
    Prop :=
  ∃ trace, Path step start trace finish

/-- The states a run passes through, its first one included. -/
def visited (start : State) (trace : Trace State Action) : List State :=
  start :: trace.map Transition.target

variable {step : State → Action → Option State} {start finish : State}
variable {trace : Trace State Action}

@[simp]
theorem path_nil_iff : Path step start [] finish ↔ finish = start := by
  constructor
  · intro hpath
    generalize hrun : ([] : Trace State Action) = run at hpath
    cases hpath with
    | nil => rfl
    | snoc => simp at hrun
  · rintro rfl
    exact .nil

theorem path_snoc_iff {last : Transition State Action} :
    Path step start (trace ++ [last]) finish ↔
      Path step start trace last.source ∧
        step last.source last.action = some last.target ∧
          finish = last.target := by
  constructor
  · intro hpath
    generalize hrun : trace ++ [last] = run at hpath
    cases hpath with
    | nil => simp at hrun
    | snoc hearlier hstep =>
        obtain ⟨rfl, hlast⟩ := List.append_inj' hrun rfl
        obtain rfl := List.singleton_inj.mp hlast
        exact ⟨hearlier, hstep, rfl⟩
  · rintro ⟨hearlier, hstep, rfl⟩
    exact hearlier.snoc hstep

theorem path_append_iff {left right : Trace State Action} :
    Path step start (left ++ right) finish ↔
      ∃ middle, Path step start left middle ∧
        Path step middle right finish := by
  induction right using List.reverseRecOn generalizing finish with
  | nil =>
      simp only [List.append_nil, path_nil_iff]
      exact ⟨fun hpath => ⟨finish, hpath, rfl⟩,
        fun ⟨_, hleft, hfinish⟩ => hfinish ▸ hleft⟩
  | append_singleton right last ih =>
      rw [← List.append_assoc, path_snoc_iff, ih]
      constructor
      · rintro ⟨⟨middle, hleft, hright⟩, hstep, hfinish⟩
        exact ⟨middle, hleft, path_snoc_iff.mpr ⟨hright, hstep, hfinish⟩⟩
      · rintro ⟨middle, hleft, hright⟩
        obtain ⟨hearlier, hstep, hfinish⟩ := path_snoc_iff.mp hright
        exact ⟨⟨middle, hleft, hearlier⟩, hstep, hfinish⟩

theorem Path.cons {next : State} {action : Action}
    (hstep : step start action = some next)
    (hpath : Path step next trace finish) :
    Path step start (⟨start, action, next⟩ :: trace) finish :=
  path_append_iff.mpr ⟨next, Path.nil.snoc hstep, hpath⟩

theorem path_append_cons_iff {left right : Trace State Action}
    {middle : Transition State Action} :
    Path step start (left ++ middle :: right) finish ↔
      Path step start left middle.source ∧
        step middle.source middle.action = some middle.target ∧
          Path step middle.target right finish := by
  rw [List.append_cons, path_append_iff]
  constructor
  · rintro ⟨state, hleft, hright⟩
    obtain ⟨hearlier, hstep, rfl⟩ := path_snoc_iff.mp hleft
    exact ⟨hearlier, hstep, hright⟩
  · rintro ⟨hleft, hstep, hright⟩
    exact ⟨middle.target, path_snoc_iff.mpr ⟨hleft, hstep, rfl⟩, hright⟩

/-- A property that every transition of one run preserves holds at its end. -/
theorem Path.preserves {Inv : State → Prop}
    (hpath : Path step start trace finish) (hstart : Inv start)
    (hkeep : ∀ transition ∈ trace,
      step transition.source transition.action = some transition.target →
        Inv transition.source → Inv transition.target) :
    Inv finish := by
  induction hpath with
  | nil => exact hstart
  | snoc hearlier hstep ih =>
      refine hkeep ⟨_, _, _⟩ (List.mem_append_right _ (List.mem_singleton_self _))
        hstep (ih fun transition hmem => ?_)
      exact hkeep transition (List.mem_append_left _ hmem)

/-- The invariant rule: what holds initially and is kept by every step holds
after every run. -/
theorem Path.invariant {Inv : State → Prop}
    (hpath : Path step start trace finish) (hstart : Inv start)
    (hkeep : ∀ source action target, step source action = some target →
      Inv source → Inv target) :
    Inv finish :=
  hpath.preserves hstart fun transition _ => hkeep _ transition.action _

theorem Reachable.invariant {Inv : State → Prop}
    (hreach : Reachable step start finish) (hstart : Inv start)
    (hkeep : ∀ source action target, step source action = some target →
      Inv source → Inv target) :
    Inv finish := by
  obtain ⟨trace, hpath⟩ := hreach
  exact hpath.invariant hstart hkeep

theorem Path.source_of_mem (hpath : Path step start trace finish)
    {transition : Transition State Action} (hmem : transition ∈ trace) :
    Reachable step start transition.source ∧
      step transition.source transition.action = some transition.target := by
  obtain ⟨left, right, rfl⟩ := List.append_of_mem hmem
  obtain ⟨hleft, hstep, -⟩ := path_append_cons_iff.mp hpath
  exact ⟨⟨left, hleft⟩, hstep⟩

/-- Every state a run passes through ends one of its prefixes. -/
theorem Path.prefix_of_visited (hpath : Path step start trace finish)
    {passed : State} (hpassed : passed ∈ visited start trace) :
    ∃ left right, trace = left ++ right ∧ Path step start left passed := by
  rcases List.mem_cons.mp hpassed with rfl | hmem
  · exact ⟨[], trace, rfl, .nil⟩
  · obtain ⟨transition, htransition, rfl⟩ := List.mem_map.mp hmem
    obtain ⟨left, right, rfl⟩ := List.append_of_mem htransition
    obtain ⟨hleft, hstep, -⟩ := path_append_cons_iff.mp hpath
    exact ⟨left ++ [transition], right, by simp,
      path_snoc_iff.mpr ⟨hleft, hstep, rfl⟩⟩

theorem Path.finish_mem_visited (hpath : Path step start trace finish) :
    finish ∈ visited start trace := by
  cases hpath with
  | nil => exact List.mem_cons_self
  | snoc => simp [visited]

/-- A run passes through the source of each of its transitions. -/
theorem Path.source_mem_visited {before after : Trace State Action}
    {event : Transition State Action}
    (hpath : Path step start (before ++ event :: after) finish) :
    event.source ∈ visited start (before ++ event :: after) := by
  obtain ⟨hbefore, -, -⟩ := path_append_cons_iff.mp hpath
  have hmem := hbefore.finish_mem_visited
  rw [visited, List.map_append]
  exact List.mem_append_left _ hmem

/-! ## Simulation -/

section Simulation

variable {Abstract Event : Type*} {abstractStep : Abstract → Event → Option Abstract}

/-- A step that an observer does not notice, or that is one step of what it sees. -/
def Simulates (abstractStep : Abstract → Event → Option Abstract)
    (view : State → Abstract) (event : Option Event) (source target : State) : Prop :=
  match event with
  | none => view target = view source
  | some event => abstractStep (view source) event = some (view target)

/-- What an observer sees of a trace. -/
def observed (view : State → Abstract) (event : State → Action → Option Event)
    (trace : Trace State Action) : Trace Abstract Event :=
  trace.filterMap fun transition =>
    (event transition.source transition.action).map fun seen =>
      ⟨view transition.source, seen, view transition.target⟩

/-- A run of a system that simulates the abstract steps in the states with an invariant. -/
theorem Path.observed_of_invariant (Inv : State → Prop) (view : State → Abstract)
    (event : State → Action → Option Event) (hpath : Path step start trace finish)
    (hstart : Inv start)
    (hkeep : ∀ source action target, step source action = some target →
      Inv source → Inv target)
    (hsimulates : ∀ source action target, step source action = some target →
      Inv source → Simulates abstractStep view (event source action) source target) :
    Path abstractStep (view start) (Runs.observed view event trace) (view finish) := by
  induction hpath with
  | nil => exact .nil
  | @snoc trace source target action hearlier hstep ih =>
      have hlast := hsimulates source action target hstep (hearlier.invariant hstart hkeep)
      rw [Runs.observed, List.filterMap_append]
      cases hevent : event source action with
      | none =>
          rw [hevent] at hlast
          simp only [List.filterMap_cons, hevent, Option.map_none, List.filterMap_nil,
            List.append_nil]
          rw [hlast]
          exact ih
      | some seen =>
          rw [hevent] at hlast
          simp only [List.filterMap_cons, hevent, Option.map_some, List.filterMap_nil]
          exact ih.snoc hlast

theorem Path.observed (view : State → Abstract) (event : State → Action → Option Event)
    (hpath : Path step start trace finish)
    (hsimulates : ∀ source action target, step source action = some target →
      Simulates abstractStep view (event source action) source target) :
    Path abstractStep (view start) (observed view event trace) (view finish) :=
  hpath.observed_of_invariant (fun _ => True) view event trivial (fun _ _ _ _ _ => trivial)
    fun source action target hstep _ => hsimulates source action target hstep

end Simulation

/-! ## Views -/

section Views

variable {Seen : Type*} {seenStep : Seen → Action → Option Seen} {view : State → Seen}

/-- A transition as an observer sees it who notices every action. -/
def Transition.seen (view : State → Seen) (transition : Transition State Action) :
    Transition Seen Action :=
  ⟨view transition.source, transition.action, view transition.target⟩

/-- If the view of a state decides how it looks after a step, the runs that are seen are
the views of the runs. -/
theorem path_seen_iff
    (hview : ∀ state action, seenStep (view state) action = (step state action).map view)
    {seenTrace : Trace Seen Action} {seenFinish : Seen} :
    Path seenStep (view start) seenTrace seenFinish ↔
      ∃ trace finish, Path step start trace finish ∧
        seenTrace = trace.map (Transition.seen view) ∧ seenFinish = view finish := by
  constructor
  · intro hseen
    induction hseen with
    | nil => exact ⟨[], start, .nil, rfl, rfl⟩
    | @snoc seenTrace source target action hearlier hstep ih =>
        obtain ⟨trace, state, hpath, rfl, rfl⟩ := ih
        rw [hview, Option.map_eq_some_iff] at hstep
        obtain ⟨next, hnext, rfl⟩ := hstep
        refine ⟨trace ++ [⟨state, action, next⟩], next, hpath.snoc hnext, ?_, rfl⟩
        rw [List.map_append]
        rfl
  · rintro ⟨trace, finish, hpath, rfl, rfl⟩
    induction hpath with
    | nil => exact .nil
    | @snoc trace source target action hearlier hstep ih =>
        rw [List.map_append]
        apply ih.snoc
        rw [hview, hstep]
        rfl

end Views

/-! ## Events with their past -/

/-- Every event of a trace satisfies `Holds` together with the events before it. -/
def AtEach (Holds : Trace State Action → Transition State Action → Prop)
    (trace : Trace State Action) : Prop :=
  ∀ before event after, trace = before ++ event :: after → Holds before event

variable {Holds : Trace State Action → Transition State Action → Prop}

theorem AtEach.of_append {left right : Trace State Action}
    (heach : AtEach Holds (left ++ right)) : AtEach Holds left := by
  rintro before event after rfl
  exact heach before event (after ++ right) (by simp)

/-- A trace split around one of its events. -/
theorem split_at_event (index : Fin trace.length) :
    trace = trace.take index ++ trace.get index :: trace.drop (index + 1) := by
  rw [List.get_eq_getElem, ← List.drop_eq_getElem_cons index.isLt,
    List.take_append_drop]

theorem atEach_iff_get :
    AtEach Holds trace ↔ ∀ index : Fin trace.length,
      Holds (trace.take index) (trace.get index) := by
  constructor
  · intro heach index
    exact heach _ _ _ (split_at_event index)
  · rintro hindices before event after rfl
    simpa using hindices ⟨before.length, by simp⟩

instance [∀ before event, Decidable (Holds before event)] :
    Decidable (AtEach Holds trace) :=
  decidable_of_iff _ atEach_iff_get.symm

/-! ## Schedules -/

/-- Execute a fixed schedule and record its transitions. -/
def follow (step : State → Action → Option State) (start : State) :
    List Action → Option (Trace State Action × State)
  | [] => some ([], start)
  | action :: actions =>
      (step start action).bind fun next =>
        (follow step next actions).map fun rest =>
          (⟨start, action, next⟩ :: rest.1, rest.2)

theorem path_of_follow {actions : List Action}
    {result : Trace State Action × State}
    (hfollow : follow step start actions = some result) :
    Path step start result.1 result.2 := by
  induction actions generalizing start result with
  | nil =>
      obtain rfl := Option.some.inj hfollow
      exact .nil
  | cons action actions ih =>
      rw [follow, Option.bind_eq_some_iff] at hfollow
      obtain ⟨next, hstep, hrest⟩ := hfollow
      obtain ⟨rest, htail, rfl⟩ := Option.map_eq_some_iff.mp hrest
      exact (ih htail).cons hstep

/-- A schedule of enabled actions is a run. -/
theorem path_of_schedule {actions : List Action}
    (henabled : (follow step start actions).isSome) :
    Path step start ((follow step start actions).get henabled).1
      ((follow step start actions).get henabled).2 :=
  path_of_follow (Option.some_get henabled).symm

end FrequencyRelay.Runs
