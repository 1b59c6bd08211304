import LintRules.Loader

/-!
# Scripts and what they announce

A load is laid down as a script before anyone listens.  What a listener learns of a script that it
never rejects is its *outcome*: the events in order, and how the load ends.

* `Script.perform_accepting`: a listener that never rejects hears every event of the script, and
  the load ends as the script does.
* `Script.perform_andThen`: one script after another.
* `Script.outcome_andThen_of_ok`, `Script.outcome_andThen_of_error`: the outcome of one script after
  another; a script that fails hides everything after it.
-/

namespace LintRules

namespace Script

/-! ## Playing to a listener that never rejects -/

variable {σ : Type}

/-- An action that announces nothing is played past every listener. -/
theorem play_cons_of_silent {action : LoadAction} (h : action.announced? = none)
    (listener : Listener σ) (s : σ) (rest : List LoadAction) :
    play listener s (action :: rest) = ((play listener s rest).1,
      action :: (play listener s rest).2.1, (play listener s rest).2.2) := by
  cases action with
  | announce event => cases h
  | scan directory => rfl
  | resolve kind name => rfl
  | log entry => rfl

theorem eq_announce_of_announced? {action : LoadAction} {event : LoadEvent}
    (h : action.announced? = some event) : action = .announce event := by
  cases action with
  | announce other => rw [Option.some.inj h]
  | scan directory => cases h
  | resolve kind name => cases h
  | log entry => cases h

/-- Every action is played, and the listener hears what is announced. -/
theorem play_accepting (hear : LoadEvent → σ → σ) (s : σ) (actions : List LoadAction) :
    play (.accepting hear) s actions =
      ((actions.filterMap (·.announced?)).foldl (fun s event => hear event s) s, actions,
        .ok ()) := by
  induction actions generalizing s with
  | nil => rfl
  | cons action rest ih =>
    rcases haction : action.announced? with _ | event
    · rw [play_cons_of_silent haction, ih, List.filterMap_cons_none haction]
    · obtain rfl := eq_announce_of_announced? haction
      rw [play, List.filterMap_cons_some haction, List.foldl_cons]
      simp only [Listener.accepting]
      rw [← Listener.accepting, ih]

/-- **A listener that never rejects hears the whole script**, and the load ends as the script
says. -/
theorem perform_accepting (script : Script) (hear : LoadEvent → σ → σ) (s : σ) :
    script.perform (.accepting hear) s =
      (script.events.foldl (fun s event => hear event s) s, script.actions, script.result) := by
  rw [perform, play_accepting]
  rfl

/-! ## One script after another -/

/-- What comes after a rejection is not played. -/
theorem play_append (listener : Listener σ) (s : σ) (first second : List LoadAction) :
    play listener s (first ++ second) =
      match play listener s first with
      | (s', done, .ok ()) => ((play listener s' second).1, done ++ (play listener s' second).2.1,
          (play listener s' second).2.2)
      | (s', done, .error e) => (s', done, .error e) := by
  induction first generalizing s with
  | nil => rfl
  | cons action first ih =>
    rcases haction : action.announced? with _ | event
    · rw [List.cons_append, play_cons_of_silent haction, play_cons_of_silent haction, ih]
      rcases play listener s first with ⟨s', done, e | ⟨⟩⟩ <;> rfl
    · obtain rfl := eq_announce_of_announced? haction
      rw [List.cons_append, play, play]
      rcases listener.hear event s with ⟨s', e | ⟨⟩⟩
      · rfl
      · simp only [ih]
        rcases play listener s' first with ⟨s'', done, e | ⟨⟩⟩ <;> rfl

/-- What is played is the beginning of what there is to play. -/
theorem play_prefix (listener : Listener σ) (s : σ) (actions : List LoadAction) :
    (play listener s actions).2.1 <+: actions := by
  induction actions generalizing s with
  | nil => exact List.prefix_refl _
  | cons action rest ih =>
    rcases haction : action.announced? with _ | event
    · rw [play_cons_of_silent haction]
      exact List.cons_prefix_cons.mpr ⟨rfl, ih s⟩
    · obtain rfl := eq_announce_of_announced? haction
      rw [play]
      rcases listener.hear event s with ⟨s', e | ⟨⟩⟩
      · exact List.cons_prefix_cons.mpr ⟨rfl, List.nil_prefix⟩
      · exact List.cons_prefix_cons.mpr ⟨rfl, ih s'⟩

theorem perform_done (script : Script) (listener : Listener σ) (s : σ) :
    (script.perform listener s).2.1 = (play listener s script.actions).2.1 := by
  rw [perform]
  rcases play listener s script.actions with ⟨s', done, e | ⟨⟩⟩ <;> rfl

/-- A script that goes to its end leaves the listener to the next one, and any other ends the
performance. -/
theorem perform_andThen (first second : Script) (listener : Listener σ) (s : σ) :
    (first.andThen second).perform listener s =
      match first.perform listener s with
      | (s', done, .ok ()) => ((second.perform listener s').1,
          done ++ (second.perform listener s').2.1, (second.perform listener s').2.2)
      | (s', done, .error e) => (s', done, .error e) := by
  rcases hresult : first.result with e | ⟨⟩
  · rw [andThen_of_error hresult, perform, hresult]
    rcases play listener s first.actions with ⟨s', done, e' | ⟨⟩⟩ <;> rfl
  · rw [andThen_of_ok hresult, perform, perform, play_append, hresult]
    rcases play listener s first.actions with ⟨s', done, e | ⟨⟩⟩
    · rfl
    · simp only [perform]
      rcases play listener s' second.actions with ⟨s'', more, e | ⟨⟩⟩ <;> rfl

/-! ## Outcomes -/

/-- What a script announces, and how it ends. -/
def outcome (script : Script) : List LoadEvent × Except LoadError Unit :=
  (script.events, script.result)

theorem outcome_eq_iff {script : Script} {events : List LoadEvent}
    {result : Except LoadError Unit} :
    script.outcome = (events, result) ↔ script.events = events ∧ script.result = result := by
  rw [outcome, Prod.mk.injEq]

theorem filterMap_announced?_announce (events : List LoadEvent) :
    (events.map LoadAction.announce).filterMap (·.announced?) = events := by
  rw [List.filterMap_map]
  exact List.filterMap_some

/-- A script that succeeds is followed by the next one. -/
theorem outcome_andThen_of_ok {first second : Script} {before after : List LoadEvent}
    {result : Except LoadError Unit} (hfirst : first.outcome = (before, .ok ()))
    (hsecond : second.outcome = (after, result)) :
    (first.andThen second).outcome = (before ++ after, result) := by
  obtain ⟨hevents₁, hresult₁⟩ := outcome_eq_iff.mp hfirst
  obtain ⟨hevents₂, hresult₂⟩ := outcome_eq_iff.mp hsecond
  rw [outcome_eq_iff, andThen_of_ok hresult₁]
  refine ⟨?_, hresult₂⟩
  rw [events, List.filterMap_append, ← hevents₁, ← hevents₂]
  rfl

/-- Nothing follows a script that fails. -/
theorem outcome_andThen_of_error {first : Script} {before : List LoadEvent} {e : LoadError}
    (hfirst : first.outcome = (before, .error e)) (second : Script) :
    (first.andThen second).outcome = (before, .error e) := by
  rw [andThen_of_error (outcome_eq_iff.mp hfirst).2, hfirst]

/-- A question that is answered. -/
theorem outcome_asking_of_ok {α : Type} {actions : List LoadAction}
    (hsilent : actions.filterMap (·.announced?) = []) (a : α) (next : α → List LoadEvent) :
    (asking actions (.ok a) fun a => (next a).map .announce).outcome = (next a, .ok ()) := by
  rw [outcome_eq_iff]
  refine ⟨?_, rfl⟩
  rw [asking, events, List.filterMap_append, hsilent, filterMap_announced?_announce,
    List.nil_append]

/-- A question that is not answered announces nothing. -/
theorem outcome_asking_of_error {α : Type} {actions : List LoadAction}
    (hsilent : actions.filterMap (·.announced?) = []) (e : LoadError)
    (next : α → List LoadAction) :
    (asking actions (.error e) next).outcome = ([], .error e) := by
  rw [outcome_eq_iff]
  exact ⟨hsilent, rfl⟩

end Script

end LintRules
