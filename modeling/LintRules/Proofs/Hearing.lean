import LintRules.Proofs.Script

/-!
# Listeners that reject

A listener may reject any event in any state, and its state changes all the same.  A *hearer* is a
listener with the state that it is in.  What becomes of a hearer depends only on the events that it
is called on, and these are the events of the script up to the first that it rejects.

* `Hearer.accepts_or_rejects`: a hearer accepts all events of a list, or one is the first that it
  rejects.
* `Script.perform_of_accepts`, `Script.perform_of_rejects`: a script that is performed to a hearer.
  The actions end with the announcement that is rejected.
* `Script.perform_both_accepting`: a listener that never rejects hears the events that the listener
  after it is called on, and changes nothing else.
-/

namespace LintRules

/-- A listener in a state. -/
structure Hearer (σ : Type) where
  listener : Listener σ
  state : σ

namespace Hearer

variable {σ : Type} (hearer : Hearer σ)

/-- What the hearer says to an event. -/
def answer (event : LoadEvent) : Except LoadError Unit :=
  (hearer.listener.hear event hearer.state).2

/-- The hearer after a call, whatever it says. -/
def next (event : LoadEvent) : Hearer σ :=
  ⟨hearer.listener, (hearer.listener.hear event hearer.state).1⟩

/-- The hearer after it has been called on events, up to the first that it rejects. -/
def after (events : List LoadEvent) : Hearer σ :=
  ⟨hearer.listener, (hearer.listener.hearAll events hearer.state).1⟩

/-- The hearer rejects none of the events. -/
def Accepts (events : List LoadEvent) : Prop :=
  (hearer.listener.hearAll events hearer.state).2 = .ok ()

/-- The hearer accepts `heard`, and then it rejects `event`. -/
def Rejects (heard : List LoadEvent) (event : LoadEvent) (e : LoadError) : Prop :=
  hearer.Accepts heard ∧ (hearer.after heard).answer event = .error e

@[simp] theorem after_nil : hearer.after [] = hearer := rfl

@[simp] theorem accepts_nil : hearer.Accepts [] := rfl

variable {hearer}

/-! ## One call after another -/

theorem hear_of_answer {event : LoadEvent} {reply : Except LoadError Unit}
    (h : hearer.answer event = reply) :
    hearer.listener.hear event hearer.state = ((hearer.next event).state, reply) := by
  rw [← h]
  rfl

theorem hearAll_cons_of_ok {event : LoadEvent} (h : hearer.answer event = .ok ())
    (rest : List LoadEvent) :
    hearer.listener.hearAll (event :: rest) hearer.state =
      hearer.listener.hearAll rest (hearer.next event).state := by
  rw [Listener.hearAll, hear_of_answer h]

theorem hearAll_cons_of_error {event : LoadEvent} {e : LoadError}
    (h : hearer.answer event = .error e) (rest : List LoadEvent) :
    hearer.listener.hearAll (event :: rest) hearer.state =
      ((hearer.next event).state, .error e) := by
  rw [Listener.hearAll, hear_of_answer h]

theorem after_cons_of_ok {event : LoadEvent} (h : hearer.answer event = .ok ())
    (rest : List LoadEvent) : hearer.after (event :: rest) = (hearer.next event).after rest := by
  rw [after, hearAll_cons_of_ok h]
  rfl

theorem after_singleton (event : LoadEvent) : hearer.after [event] = hearer.next event := by
  rcases h : hearer.answer event with e | ⟨⟩
  · rw [after, hearAll_cons_of_error h]
    rfl
  · rw [after_cons_of_ok h, after_nil]

theorem accepts_cons {event : LoadEvent} {rest : List LoadEvent} :
    hearer.Accepts (event :: rest) ↔
      hearer.answer event = .ok () ∧ (hearer.next event).Accepts rest := by
  rcases h : hearer.answer event with e | ⟨⟩
  · rw [Accepts, hearAll_cons_of_error h]
    simp
  · rw [Accepts, hearAll_cons_of_ok h]
    exact (and_iff_right rfl).symm

theorem accepts_append {heard rest : List LoadEvent} :
    hearer.Accepts (heard ++ rest) ↔ hearer.Accepts heard ∧ (hearer.after heard).Accepts rest := by
  induction heard generalizing hearer with
  | nil => simp
  | cons event heard ih =>
    rw [List.cons_append, accepts_cons, accepts_cons, ih, and_assoc]
    refine and_congr_right fun h => ?_
    rw [after_cons_of_ok h]

theorem after_append_of_accepts {heard : List LoadEvent} (h : hearer.Accepts heard)
    (rest : List LoadEvent) : hearer.after (heard ++ rest) = (hearer.after heard).after rest := by
  induction heard generalizing hearer with
  | nil => rfl
  | cons event heard ih =>
    obtain ⟨hevent, hheard⟩ := accepts_cons.mp h
    rw [List.cons_append, after_cons_of_ok hevent, after_cons_of_ok hevent, ih hheard]

theorem rejects_nil {event : LoadEvent} {e : LoadError} :
    hearer.Rejects [] event e ↔ hearer.answer event = .error e :=
  and_iff_right (accepts_nil _)

theorem rejects_cons {first : LoadEvent} {heard : List LoadEvent} {event : LoadEvent}
    {e : LoadError} : hearer.Rejects (first :: heard) event e ↔
      hearer.answer first = .ok () ∧ (hearer.next first).Rejects heard event e := by
  rw [Rejects, accepts_cons, and_assoc]
  refine and_congr_right fun h => ?_
  rw [after_cons_of_ok h, Rejects]

theorem not_accepts_of_rejects {heard : List LoadEvent} {event : LoadEvent} {e : LoadError}
    (h : hearer.Rejects heard event e) (unheard : List LoadEvent) :
    ¬ hearer.Accepts (heard ++ event :: unheard) := by
  rw [accepts_append, accepts_cons, h.2]
  simp

/-- **All events are accepted, or one is the first to be rejected.** -/
theorem accepts_or_rejects (hearer : Hearer σ) (events : List LoadEvent) :
    hearer.Accepts events ∨ ∃ heard event unheard e,
      events = heard ++ event :: unheard ∧ hearer.Rejects heard event e := by
  induction events generalizing hearer with
  | nil => exact Or.inl (accepts_nil _)
  | cons first rest ih =>
    rcases hfirst : hearer.answer first with e | ⟨⟩
    · exact Or.inr ⟨[], first, rest, e, rfl, rejects_nil.mpr hfirst⟩
    · rcases ih (hearer.next first) with hrest | ⟨heard, event, unheard, e, rfl, hrejects⟩
      · exact Or.inl (accepts_cons.mpr ⟨hfirst, hrest⟩)
      · exact Or.inr ⟨first :: heard, event, unheard, e, rfl,
          rejects_cons.mpr ⟨hfirst, hrejects⟩⟩

end Hearer

namespace Script

/-! ## Playing to a hearer -/

variable {σ τ : Type}

theorem play_announce_of_ok {hearer : Hearer σ} {event : LoadEvent}
    (h : hearer.answer event = .ok ()) (rest : List LoadAction) :
    play hearer.listener hearer.state (.announce event :: rest) =
      ((play hearer.listener (hearer.next event).state rest).1,
        .announce event :: (play hearer.listener (hearer.next event).state rest).2.1,
        (play hearer.listener (hearer.next event).state rest).2.2) := by
  rw [play, Hearer.hear_of_answer h]

theorem play_announce_of_error {hearer : Hearer σ} {event : LoadEvent} {e : LoadError}
    (h : hearer.answer event = .error e) (rest : List LoadAction) :
    play hearer.listener hearer.state (.announce event :: rest) =
      ((hearer.next event).state, [.announce event], .error e) := by
  rw [play, Hearer.hear_of_answer h]

/-- All actions are played to a hearer that accepts what they announce. -/
theorem play_of_accepts {hearer : Hearer σ} {actions : List LoadAction}
    (h : hearer.Accepts (actions.filterMap (·.announced?))) :
    play hearer.listener hearer.state actions =
      ((hearer.after (actions.filterMap (·.announced?))).state, actions, .ok ()) := by
  induction actions generalizing hearer with
  | nil => rfl
  | cons action rest ih =>
    rcases haction : action.announced? with _ | event
    · rw [List.filterMap_cons_none haction] at h ⊢
      rw [play_cons_of_silent haction, ih h]
    · rw [List.filterMap_cons_some haction] at h ⊢
      obtain rfl := eq_announce_of_announced? haction
      obtain ⟨hevent, hrest⟩ := Hearer.accepts_cons.mp h
      have hplay := ih hrest
      rw [play_announce_of_ok hevent, Hearer.after_cons_of_ok hevent]
      rw [show (hearer.next event).listener = hearer.listener from rfl] at hplay
      rw [hplay]

/-- The actions that are played to a hearer end with the announcement that it rejects. -/
theorem play_of_rejects {hearer : Hearer σ} {lead : List LoadAction} {event : LoadEvent}
    {e : LoadError} (h : hearer.Rejects (lead.filterMap (·.announced?)) event e)
    (rest : List LoadAction) :
    play hearer.listener hearer.state (lead ++ .announce event :: rest) =
      ((hearer.after (lead.filterMap (·.announced?) ++ [event])).state,
        lead ++ [.announce event], .error e) := by
  induction lead generalizing hearer with
  | nil =>
    have hanswer : hearer.answer event = .error e := Hearer.rejects_nil.mp h
    rw [List.nil_append, play_announce_of_error hanswer, List.filterMap_nil, List.nil_append,
      Hearer.after_singleton]
    rfl
  | cons action lead ih =>
    rcases haction : action.announced? with _ | first
    · rw [List.filterMap_cons_none haction] at h ⊢
      rw [List.cons_append, play_cons_of_silent haction, ih h]
      rfl
    · rw [List.filterMap_cons_some haction] at h ⊢
      obtain rfl := eq_announce_of_announced? haction
      obtain ⟨hfirst, hlater⟩ := Hearer.rejects_cons.mp h
      have hplay := ih hlater
      rw [show (hearer.next first).listener = hearer.listener from rfl] at hplay
      rw [List.cons_append, play_announce_of_ok hfirst, hplay, List.cons_append,
        Hearer.after_cons_of_ok hfirst]
      rfl

/-- A script goes to its end for a hearer that accepts its events. -/
theorem perform_of_accepts {script : Script} {hearer : Hearer σ}
    (h : hearer.Accepts script.events) :
    script.perform hearer.listener hearer.state =
      ((hearer.after script.events).state, script.actions, script.result) := by
  rw [perform, play_of_accepts h]
  rfl

/-- A script ends for a hearer with the first event that it rejects, and with its error. -/
theorem perform_of_rejects {script : Script} {hearer : Hearer σ} {lead rest : List LoadAction}
    {event : LoadEvent} {e : LoadError}
    (hactions : script.actions = lead ++ .announce event :: rest)
    (h : hearer.Rejects (lead.filterMap (·.announced?)) event e) :
    script.perform hearer.listener hearer.state =
      ((hearer.after (lead.filterMap (·.announced?) ++ [event])).state,
        lead ++ [.announce event], .error e) := by
  rw [perform, hactions, play_of_rejects h]

/-- The actions of a script fall apart at every event. -/
theorem exists_announce {script : Script} {heard unheard : List LoadEvent} {event : LoadEvent}
    (h : script.events = heard ++ event :: unheard) :
    ∃ lead rest, script.actions = lead ++ .announce event :: rest ∧
      lead.filterMap (·.announced?) = heard := by
  obtain ⟨lead, more, hactions, hheard, hmore⟩ := List.filterMap_eq_append_iff.mp h
  obtain ⟨silent, action, rest, rfl, hsilent, haction, -⟩ := List.filterMap_eq_cons_iff.mp hmore
  obtain rfl := eq_announce_of_announced? haction
  refine ⟨lead ++ silent, rest, ?_, ?_⟩
  · rw [hactions, List.append_assoc]
  · rw [List.filterMap_append, hheard, List.filterMap_eq_nil_iff.mpr hsilent, List.append_nil]

/-- **A hearer sees the beginning of a script**, as far as what is done announces it.  The load
succeeds if the script does and the hearer accepts all of it. -/
theorem perform_hearer (script : Script) (hearer : Hearer σ) :
    ∃ seen done result,
      script.perform hearer.listener hearer.state = ((hearer.after seen).state, done, result) ∧
      done.filterMap (·.announced?) = seen ∧ seen <+: script.events ∧
      (result = .ok () ↔ script.result = .ok () ∧ hearer.Accepts script.events) := by
  rcases hearer.accepts_or_rejects script.events with
    haccepts | ⟨heard, event, unheard, e, hevents, hrejects⟩
  · exact ⟨script.events, script.actions, script.result, perform_of_accepts haccepts, rfl,
      List.prefix_refl _, (and_iff_left haccepts).symm⟩
  · obtain ⟨lead, rest, hactions, rfl⟩ := exists_announce hevents
    refine ⟨_, _, _, perform_of_rejects hactions hrejects, ?_, ?_, ?_⟩
    · rw [List.filterMap_append]
      rfl
    · rw [hevents]
      exact (List.prefix_append_right_inj _).mpr ⟨unheard, rfl⟩
    · have hnot : ¬ hearer.Accepts script.events := by
        rw [hevents]
        exact Hearer.not_accepts_of_rejects hrejects unheard
      simp [hnot]

/-! ## A listener that never rejects beside another one -/

/-- **A listener that never rejects is not noticed by the one after it**, and it hears exactly the
events that the other one is called on, the rejected one included. -/
theorem play_both_accepting (hear : LoadEvent → σ → σ) (second : Listener τ) (s : σ) (t : τ)
    (actions : List LoadAction) :
    play ((Listener.accepting hear).both second) (s, t) actions =
      (((((play second t actions).2.1).filterMap (·.announced?)).foldl
          (fun s event => hear event s) s, (play second t actions).1),
        (play second t actions).2) := by
  induction actions generalizing s t with
  | nil => rfl
  | cons action rest ih =>
    rcases haction : action.announced? with _ | event
    · rw [play_cons_of_silent haction, play_cons_of_silent haction, ih,
        List.filterMap_cons_none haction]
    · obtain rfl := eq_announce_of_announced? haction
      -- the pair says what its second listener says
      rcases hanswer : Hearer.answer ⟨second, t⟩ event with e | ⟨⟩
      · have hpair : Hearer.answer ⟨(Listener.accepting hear).both second, (s, t)⟩ event =
            .error e := hanswer
        rw [play_announce_of_error hpair, play_announce_of_error hanswer]
        rfl
      · have hpair : Hearer.answer ⟨(Listener.accepting hear).both second, (s, t)⟩ event =
            .ok () := hanswer
        have hplay := ih (hear event s) (Hearer.next ⟨second, t⟩ event).state
        rw [play_announce_of_ok hanswer, play_announce_of_ok hpair]
        rw [show (Hearer.next ⟨(Listener.accepting hear).both second, (s, t)⟩ event).state =
          (hear event s, (Hearer.next ⟨second, t⟩ event).state) from rfl, hplay]
        rfl

theorem perform_both_accepting (script : Script) (hear : LoadEvent → σ → σ)
    (second : Listener τ) (s : σ) (t : τ) :
    script.perform ((Listener.accepting hear).both second) (s, t) =
      ((((script.perform second t).2.1.filterMap (·.announced?)).foldl
          (fun s event => hear event s) s, (script.perform second t).1),
        (script.perform second t).2) := by
  rw [perform, perform, play_both_accepting]
  rcases play second t script.actions with ⟨t', done, e | ⟨⟩⟩ <;> rfl

end Script

end LintRules
