/-
Deterministic labelled machines that emit events.

A label names one atomic step together with everything the environment chooses
in it, so a run is determined by its labels. Runs are restricted by a condition
on single steps, because the results about runs speak of runs all of whose
steps meet some condition.
-/

import Mathlib.Algebra.GroupWithZero.Nat
import Mathlib.Data.List.Basic

set_option autoImplicit false

/-- A step is refused (`none`) where the label is not enabled. -/
structure Machine (State Label Event : Type) where
  initial : State
  step : State → Label → Option (State × List Event)

namespace Machine

variable {State Label Event : Type}

/-- `Run m ok s events s'` leads from `s` to `s'` by steps that satisfy `ok`,
a condition on the state before, the label and the state after. -/
inductive Run (m : Machine State Label Event) (ok : State → Label → State → Prop)
    (first : State) : List Event → State → Prop
  | refl : Run m ok first [] first
  | tail {events emitted : List Event} {middle last : State} {label : Label} :
      Run m ok first events middle → ok middle label last →
      m.step middle label = some (last, emitted) →
      Run m ok first (events ++ emitted) last

/-- Reachability from the initial state by steps that satisfy `ok`. -/
def Reaches (m : Machine State Label Event) (ok : State → Label → State → Prop)
    (events : List Event) (state : State) : Prop :=
  Run m ok m.initial events state

/-- No restriction on the steps of a run. -/
def anyStep : State → Label → State → Prop := fun _ _ _ => True

/-- A restriction on the labels alone. -/
def onLabels (allowed : Label → Prop) : State → Label → State → Prop :=
  fun _ label _ => allowed label

variable {m : Machine State Label Event} {ok ok' : State → Label → State → Prop}
  {first middle last : State} {events later : List Event}

/-- What holds at the start and survives every admissible step holds at the
end of every run. -/
theorem Run.invariant (run : Run m ok first events last) (holds : List Event → State → Prop)
    (start : holds [] first)
    (next : ∀ {events emitted : List Event} {state state' : State} {label : Label},
      holds events state → ok state label state' →
        m.step state label = some (state', emitted) → holds (events ++ emitted) state') :
    holds events last := by
  induction run with
  | refl => exact start
  | tail _ admissible stepped ih => exact next ih admissible stepped

/-- One more step, with its label written out. -/
theorem Run.snoc {emitted : List Event} (run : Run m ok first events middle) (label : Label)
    (admissible : ok middle label last) (stepped : m.step middle label = some (last, emitted)) :
    Run m ok first (events ++ emitted) last :=
  .tail run admissible stepped

theorem Run.mono (run : Run m ok first events last)
    (weaker : ∀ state label state', ok state label state' → ok' state label state') :
    Run m ok' first events last := by
  induction run with
  | refl => exact .refl
  | tail _ admissible stepped ih => exact .tail ih (weaker _ _ _ admissible) stepped

/-- What holds in every state of the runs may be assumed at every step. -/
theorem Run.along (run : Run m ok first events last) (fact : State → Prop)
    (always : ∀ {events : List Event} {state : State}, Run m ok first events state → fact state) :
    Run m (fun state label state' => ok state label state' ∧ fact state) first events last := by
  induction run with
  | refl => exact .refl
  | tail earlier admissible stepped ih => exact .tail ih ⟨admissible, always earlier⟩ stepped

theorem Run.trans (before : Run m ok first events middle) (after : Run m ok middle later last) :
    Run m ok first (events ++ later) last := by
  induction after with
  | refl =>
      rw [List.append_nil]
      exact before
  | tail _ admissible stepped ih =>
      rw [← List.append_assoc]
      exact .tail ih admissible stepped

theorem Run.anyStep (run : Run m ok first events last) :
    Run m Machine.anyStep first events last :=
  run.mono (fun _ _ _ _ => trivial)

/-- A relation that is reflexive, transitive and respected by every step
relates the ends of a run. -/
theorem Run.relates (run : Run m ok first events last) (related : State → State → Prop)
    (refl : ∀ state, related state state)
    (trans : ∀ {a b c : State}, related a b → related b c → related a c)
    (next : ∀ {state state' : State} {label : Label} {emitted : List Event},
      ok state label state' → m.step state label = some (state', emitted) →
        related state state') :
    related first last := by
  induction run with
  | refl => exact refl _
  | tail _ admissible stepped ih => exact trans ih (next admissible stepped)

/-- A machine whose steps are steps of another, or cannot be seen there, runs the other. -/
theorem Run.refines {State' Label' Event' : Type} {m' : Machine State' Label' Event'}
    (run : Run m ok first events last) (view : State → State') (shown : Event → Option Event')
    (next : ∀ {state state' : State} {label : Label} {emitted : List Event},
      ok state label state' → m.step state label = some (state', emitted) →
        view state' = view state ∧ emitted.filterMap shown = [] ∨
          ∃ label', m'.step (view state) label' = some (view state', emitted.filterMap shown)) :
    Run m' Machine.anyStep (view first) (events.filterMap shown) (view last) := by
  induction run with
  | refl => exact .refl
  | tail _ admissible stepped ih =>
      rw [List.filterMap_append]
      rcases next admissible stepped with ⟨same, silent⟩ | ⟨label', moved⟩
      · rw [same, silent, List.append_nil]
        exact ih
      · exact ih.snoc label' trivial moved

/-- Where every event stays true in later states, and a new event agrees with all that are
true before it, the events of a run agree with each other. -/
theorem Run.coherent (run : Run m ok first events last) (holds : Event → State → Prop)
    (agree : Event → Event → Prop)
    (next : ∀ {state state' : State} {label : Label} {emitted : List Event},
      ok state label state' → m.step state label = some (state', emitted) →
        (∀ old, holds old state → holds old state' ∧ ∀ new ∈ emitted, agree old new) ∧
          emitted.Pairwise agree ∧ ∀ new ∈ emitted, holds new state') :
    events.Pairwise agree ∧ ∀ event ∈ events, holds event last := by
  refine run.invariant
    (fun events state => events.Pairwise agree ∧ ∀ event ∈ events, holds event state) ?_ ?_
  · exact ⟨List.Pairwise.nil, fun _ member => by cases member⟩
  · rintro events emitted state state' label ⟨agreed, known⟩ admissible stepped
    obtain ⟨lasts, together, fresh⟩ := next admissible stepped
    constructor
    · rw [List.pairwise_append]
      exact ⟨agreed, together, fun old member => (lasts old (known old member)).2⟩
    · intro event member
      rcases List.mem_append.mp member with old | new
      · exact (lasts event (known event old)).1
      · exact fresh event new

/-- The machine with a log beside its state: each step adds what `note` reads off
the state before it and its label. -/
def logged {Entry : Type} (m : Machine State Label Event) (note : State → Label → List Entry) :
    Machine (State × List Entry) Label Event :=
  { initial := (m.initial, [])
    step := fun s label => (m.step s.1 label).map
      (fun next => ((next.1, s.2 ++ note s.1 label), next.2)) }

section Logged

variable {Entry : Type} {note : State → Label → List Entry}

theorem logged_step {s s' : State × List Entry} {label : Label} {emitted : List Event} :
    (m.logged note).step s label = some (s', emitted) ↔
      m.step s.1 label = some (s'.1, emitted) ∧ s'.2 = s.2 ++ note s.1 label := by
  unfold logged
  rw [Option.map_eq_some_iff]
  constructor
  · rintro ⟨⟨next, shown⟩, stepped, same⟩
    obtain ⟨rfl, rfl⟩ := Prod.mk.inj same
    exact ⟨stepped, rfl⟩
  · rintro ⟨stepped, entries⟩
    refine ⟨(s'.1, emitted), stepped, ?_⟩
    rw [← entries]

/-- Every run of the machine can be logged. -/
theorem Run.to_logged (run : Run m ok first events last) (log : List Entry) :
    ∃ log', Run (m.logged note) (fun s label s' => ok s.1 label s'.1) (first, log) events
      (last, log') := by
  induction run with
  | refl => exact ⟨log, .refl⟩
  | tail _ admissible stepped ih =>
      obtain ⟨log', earlier⟩ := ih
      exact ⟨_, .tail earlier admissible (logged_step.mpr ⟨stepped, rfl⟩)⟩

/-- Where every step pays for what it notes, out of a potential and of what its events
earn, a run notes no more than the potential at its start and its events allow. -/
theorem Run.paid {allowed : State × List Entry → Label → State × List Entry → Prop}
    {log log' : List Entry}
    (run : Run (m.logged note) allowed (first, log) events (last, log'))
    (sound : State → Prop) (potential : State → Nat) (earned : Event → Nat)
    (start : sound first)
    (next : ∀ {s s' : State × List Entry} {label : Label} {emitted : List Event}, sound s.1 →
      allowed s label s' → m.step s.1 label = some (s'.1, emitted) → sound s'.1 ∧
        potential s'.1 + (note s.1 label).length ≤
          potential s.1 + (emitted.map earned).sum) :
    potential last + log'.length ≤ potential first + log.length + (events.map earned).sum := by
  have paid := run.invariant
    (fun events s => sound s.1 ∧
      potential s.1 + s.2.length ≤ potential first + log.length + (events.map earned).sum)
    ⟨start, Nat.le_refl _⟩ (fun {_ _ _ _ _} before admissible stepped => by
      obtain ⟨stays, bound⟩ := before
      obtain ⟨moved, noted⟩ := logged_step.mp stepped
      obtain ⟨stays', paid⟩ := next stays admissible moved
      refine ⟨stays', ?_⟩
      rw [noted, List.length_append, List.map_append, List.sum_append]
      omega)
  exact paid.2

end Logged

/-- Executes a list of labels, checking the step condition on the way. -/
def exec (m : Machine State Label Event) (check : State → Label → State → Bool) :
    State → List Label → Option (List Event × State)
  | state, [] => some ([], state)
  | state, label :: labels =>
      match m.step state label with
      | none => none
      | some (state', emitted) =>
          if check state label state' then
            (exec m check state' labels).map (fun rest => (emitted ++ rest.1, rest.2))
          else none

theorem run_of_exec {check : State → Label → State → Bool}
    (sound : ∀ state label state', check state label state' = true → ok state label state')
    {labels : List Label} (executed : exec m check first labels = some (events, last)) :
    Run m ok first events last := by
  induction labels generalizing first events with
  | nil =>
      simp only [exec, Option.some.injEq, Prod.mk.injEq] at executed
      obtain ⟨rfl, rfl⟩ := executed
      exact .refl
  | cons label labels ih =>
      simp only [exec] at executed
      cases stepped : m.step first label with
      | none =>
          rw [stepped] at executed
          cases executed
      | some next =>
          obtain ⟨state', emitted⟩ := next
          simp only [stepped] at executed
          split at executed
          · rename_i checked
            obtain ⟨⟨rest, ended⟩, restExecuted, same⟩ := Option.map_eq_some_iff.mp executed
            simp only [Prod.mk.injEq] at same
            obtain ⟨rfl, rfl⟩ := same
            have single : Run m ok first ([] ++ emitted) state' :=
              .tail .refl (sound _ _ _ checked) stepped
            exact single.trans (ih restExecuted)
          · cases executed

/-- A test on the outcome of an execution shows a run that passes it. -/
theorem exists_run_of_exec {check : State → Label → State → Bool}
    (sound : ∀ state label state', check state label state' = true → ok state label state')
    (labels : List Label) (test : List Event × State → Bool)
    (passed : (exec m check first labels).any test = true) :
    ∃ events last, Run m ok first events last ∧ test (events, last) = true := by
  cases executed : exec m check first labels with
  | none =>
      rw [executed] at passed
      cases passed
  | some outcome =>
      rw [executed] at passed
      exact ⟨outcome.1, outcome.2, run_of_exec sound executed, passed⟩

/-- The same for runs without a restriction. -/
theorem exists_anyRun_of_exec (m : Machine State Label Event) (first : State)
    (labels : List Label) (test : List Event × State → Bool)
    (passed : (exec m (fun _ _ _ => true) first labels).any test = true) :
    ∃ events last, Run m Machine.anyStep first events last ∧ test (events, last) = true :=
  exists_run_of_exec (fun _ _ _ _ => trivial) labels test passed

end Machine
