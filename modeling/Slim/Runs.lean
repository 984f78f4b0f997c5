import Mathlib.Data.List.Basic

/-!
# Runs of a state machine

A state machine is a total step function; a run is a list of events.  A condition
on the steps of a run relates each event to the state it meets, which is what
`Along` says.  The rules at the end of each section are how invariants and
refinements are lifted from one step to every run.
-/

namespace Runs

variable {σ ε : Type} (step : σ → ε → σ)

/-- The state after the events, from left to right. -/
def run (s : σ) (events : List ε) : σ := events.foldl step s

@[simp] theorem run_nil (s : σ) : run step s [] = s := rfl

@[simp] theorem run_cons (s : σ) (event : ε) (events : List ε) :
    run step s (event :: events) = run step (step s event) events := rfl

theorem run_append (s : σ) (first second : List ε) :
    run step s (first ++ second) = run step (run step s first) second :=
  List.foldl_append

@[simp] theorem run_concat (s : σ) (events : List ε) (event : ε) :
    run step s (events ++ [event]) = step (run step s events) event := by
  rw [run_append]
  rfl

/-- Every event of the run meets a state in which `P` holds of it. -/
def Along (P : σ → ε → Prop) : σ → List ε → Prop
  | _, [] => True
  | s, event :: events => P s event ∧ Along P (step s event) events

variable {step}

theorem along_append {P : σ → ε → Prop} (first second : List ε) :
    ∀ s, Along step P s (first ++ second) ↔
      Along step P s first ∧ Along step P (run step s first) second := by
  induction first with
  | nil => intro s; simp [Along]
  | cons event events ih =>
      intro s
      simp only [List.cons_append, Along, run_cons, ih, and_assoc]

/-- An invariant that every admissible step keeps holds after every admissible run. -/
theorem run_invariant {I : σ → Prop} {P : σ → ε → Prop}
    (hstep : ∀ s event, I s → P s event → I (step s event)) :
    ∀ (events : List ε) (s : σ), Along step P s events → I s → I (run step s events) := by
  intro events
  induction events with
  | nil => intro s _ hinit; exact hinit
  | cons event events ih =>
      intro s halong hinit
      exact ih (step s event) halong.2 (hstep s event hinit halong.1)

/-- A relation that every admissible step keeps relates the two runs. -/
theorem run_simulation {τ : Type} {abstractStep : τ → ε → τ} {R : σ → τ → Prop}
    {P : σ → ε → Prop}
    (hstep : ∀ s a event, R s a → P s event → R (step s event) (abstractStep a event)) :
    ∀ (events : List ε) (s : σ) (a : τ), Along step P s events → R s a →
      R (run step s events) (run abstractStep a events) := by
  intro events
  induction events with
  | nil => intro s a _ hinit; exact hinit
  | cons event events ih =>
      intro s a halong hinit
      exact ih _ _ halong.2 (hstep s a event hinit halong.1)

/-- A condition that follows from the invariant and the other conditions need not
    be assumed of a run. -/
theorem along_of_invariant {I : σ → Prop} {P Q : σ → ε → Prop}
    (hstep : ∀ s event, I s → P s event → I (step s event))
    (himp : ∀ s event, I s → P s event → Q s event) :
    ∀ (events : List ε) (s : σ), Along step P s events → I s → Along step Q s events := by
  intro events
  induction events with
  | nil => intro s _ _; trivial
  | cons event events ih =>
      intro s halong hinit
      exact ⟨himp s event hinit halong.1,
        ih _ halong.2 (hstep s event hinit halong.1)⟩

/-- A condition on the events alone. -/
theorem along_of_forall {P : ε → Prop} :
    ∀ (events : List ε) (s : σ), (∀ event ∈ events, P event) →
      Along step (fun _ event => P event) s events := by
  intro events
  induction events with
  | nil => intro s _; trivial
  | cons event events ih =>
      intro s hall
      exact ⟨hall event List.mem_cons_self,
        ih _ fun other hother => hall other (List.mem_cons_of_mem _ hother)⟩

theorem along_mono {P Q : σ → ε → Prop} (himp : ∀ s event, P s event → Q s event)
    {events : List ε} {s : σ} (halong : Along step P s events) : Along step Q s events :=
  along_of_invariant (I := fun _ => True) (fun _ _ _ _ => trivial)
    (fun s event _ => himp s event) events s halong trivial

theorem along_and {P Q : σ → ε → Prop} :
    ∀ (events : List ε) (s : σ),
      Along step (fun s event => P s event ∧ Q s event) s events ↔
        Along step P s events ∧ Along step Q s events := by
  intro events
  induction events with
  | nil => intro s; simp [Along]
  | cons event events ih =>
      intro s
      simp only [Along, ih]
      tauto

/-- A condition on the events alone, beside one on the steps. -/
theorem along_and_forall {P : σ → ε → Prop} {Q : ε → Prop} {events : List ε} {s : σ}
    (halong : Along step P s events) (hall : ∀ event ∈ events, Q event) :
    Along step (fun s event => P s event ∧ Q event) s events :=
  (along_and events s).2 ⟨halong, along_of_forall events s hall⟩

/-- A property that no step takes away, and that some events bring about, holds after a
    run if it held before or one of these events is in the run. -/
theorem run_gains {F : σ → Prop} {G : ε → Prop} {P : σ → ε → Prop}
    (hstep : ∀ s event, P s event → (F (step s event) ↔ F s ∨ G event)) :
    ∀ (events : List ε) (s : σ), Along step P s events →
      (F (run step s events) ↔ F s ∨ ∃ event ∈ events, G event) := by
  intro events
  induction events with
  | nil => intro s _; simp
  | cons event events ih =>
      intro s halong
      rw [run_cons, ih _ halong.2, hstep s event halong.1, or_assoc]
      simp only [List.mem_cons, exists_eq_or_imp]

/-- What is in a log after a run was there before, or one of the events has put it there. -/
theorem run_records {α : Type} (log : σ → List α) {R : ε → α → Prop} {I : σ → Prop}
    {P : σ → ε → Prop} (hstep : ∀ s event, I s → P s event → I (step s event))
    (hlog : ∀ s event, I s → P s event → ∀ a ∈ log (step s event), a ∈ log s ∨ R event a) :
    ∀ (events : List ε) (s : σ), Along step P s events → I s →
      ∀ a ∈ log (run step s events), a ∈ log s ∨ ∃ event ∈ events, R event a := by
  intro events
  induction events with
  | nil => intro s _ _ a ha; exact .inl ha
  | cons event events ih =>
      intro s halong hinit a ha
      rcases ih _ halong.2 (hstep s event hinit halong.1) a ha with ha | ⟨later, hlater, hrecords⟩
      · rcases hlog s event hinit halong.1 a ha with ha | hrecords
        · exact .inl ha
        · exact .inr ⟨event, List.mem_cons_self, hrecords⟩
      · exact .inr ⟨later, List.mem_cons_of_mem _ hlater, hrecords⟩

/-- A property of the state at the beginning holds all along a run exactly if every event of the
    run is one that keeps it.  What is known of every state may be used for that. -/
theorem always_iff {J I : σ → Prop} {P K : σ → ε → Prop}
    (hkeep : ∀ s event, J s → P s event → J (step s event))
    (hstep : ∀ s event, J s → I s → P s event → (I (step s event) ↔ K s event)) :
    ∀ (events : List ε) (s : σ), Along step P s events → J s → I s →
      ((∀ done, done <+: events → I (run step s done)) ↔ Along step K s events) := by
  intro events
  induction events with
  | nil =>
      intro s _ _ hinit
      refine iff_of_true ?_ trivial
      intro done hdone
      rw [List.prefix_nil.1 hdone]
      exact hinit
  | cons event events ih =>
      intro s halong hknown hinit
      have hnext := hstep s event hknown hinit halong.1
      constructor
      · intro hall
        have hafter : I (step s event) := hall [event] (List.prefix_append [event] events)
        refine ⟨hnext.1 hafter, (ih _ halong.2 (hkeep s event hknown halong.1) hafter).1 ?_⟩
        intro done hdone
        exact hall (event :: done) ((List.prefix_cons_inj event).2 hdone)
      · rintro ⟨hkept, hrest⟩ done hdone
        have hafter := hnext.2 hkept
        rcases done with _ | ⟨first, done⟩
        · exact hinit
        · obtain ⟨rfl, hbefore⟩ := List.cons_prefix_cons.1 hdone
          exact (ih _ halong.2 (hkeep s first hknown halong.1) hafter).2 hrest done hbefore

/-- Every event is a step of one actor.  A step lowers the rank of its actor, down to zero,
    and raises that of no other one; so an actor that has taken enough steps is at zero. -/
theorem rank_run {ι : Type} [DecidableEq ι] {actor : ε → ι} {rank : σ → ι → Nat} {I : σ → Prop}
    (hkeep : ∀ s event, I s → I (step s event))
    (hown : ∀ s event, I s → rank (step s event) (actor event) ≤ rank s (actor event) - 1)
    (hother : ∀ s event i, I s → i ≠ actor event → rank (step s event) i ≤ rank s i) :
    ∀ (events : List ε) (s : σ), I s → ∀ i,
      rank (run step s events) i ≤ rank s i - events.countP fun event => actor event = i := by
  intro events
  induction events with
  | nil => intro s _ i; simp
  | cons event events ih =>
      intro s hinit i
      have hrest := ih (step s event) (hkeep s event hinit) i
      rw [run_cons, List.countP_cons]
      by_cases hactor : actor event = i
      · have hstep := hown s event hinit
        rw [hactor] at hstep
        simp only [hactor, decide_true, if_true]
        omega
      · have hstep := hother s event i hinit (Ne.symm hactor)
        simp only [hactor, decide_false, Bool.false_eq_true, if_false]
        omega

/-! ## Prefixes

A step of a run is an event together with the events before it. -/

theorem concat_prefix_concat_iff {done events : List ε} {event last : ε} :
    done ++ [event] <+: events ++ [last] ↔
      done ++ [event] <+: events ∨ done = events ∧ event = last := by
  rw [List.prefix_concat_iff, or_comm, ← List.concat_eq_append, ← List.concat_eq_append,
    List.concat_inj]

/-- A condition on all steps of a longer run. -/
theorem forall_prefix_concat {P : List ε → ε → Prop} {events : List ε} {last : ε} :
    (∀ done event, done ++ [event] <+: events ++ [last] → P done event) ↔
      (∀ done event, done ++ [event] <+: events → P done event) ∧ P events last := by
  simp only [concat_prefix_concat_iff]
  constructor
  · intro hall
    exact ⟨fun done event hbefore => hall done event (.inl hbefore),
      hall events last (.inr ⟨rfl, rfl⟩)⟩
  · rintro ⟨hall, hlast⟩ done event (hbefore | ⟨rfl, rfl⟩)
    · exact hall done event hbefore
    · exact hlast

/-- A condition on some step of a longer run. -/
theorem exists_prefix_concat {P : List ε → ε → Prop} {events : List ε} {last : ε} :
    (∃ done event, done ++ [event] <+: events ++ [last] ∧ P done event) ↔
      (∃ done event, done ++ [event] <+: events ∧ P done event) ∨ P events last := by
  simp only [concat_prefix_concat_iff]
  constructor
  · rintro ⟨done, event, hbefore | ⟨rfl, rfl⟩, hholds⟩
    · exact .inl ⟨done, event, hbefore, hholds⟩
    · exact .inr hholds
  · rintro (⟨done, event, hbefore, hholds⟩ | hlast)
    · exact ⟨done, event, .inl hbefore, hholds⟩
    · exact ⟨events, last, .inr ⟨rfl, rfl⟩, hlast⟩

end Runs
