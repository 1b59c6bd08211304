import LintRules.Proofs.Delivery
import LintRules.Proofs.Hearing
import LintRules.Proofs.Registry

/-!
# Many listeners at one load

Listeners that hear a load together hear every event one after another, and one of them may reject
it.  The listeners after that one do not hear the event, and nothing more is loaded.  So the load
cuts the events off for every listener, but not at the same event for all.

* `Hearer.after_together`: hearers that accept all events do not notice each other.
* `Hearer.FirstToReject`: the place where the first rejection happens, told from what each of the
  hearers would do alone.  By `Hearer.accepts_or_firstToReject` there is one unless all accept.
* `Loader.StopsIn`: the actions of a load up to an event.  They ask for no item after the one that
  the event belongs to, by `Loader.comesTo_of_events`.
* `Loader.loadConfig_fanOut`: a load that is heard by many, and a load of registries with an
  observer.
-/

namespace LintRules

/-- The first of several listeners hears an event before all others. -/
theorem Listener.hear_fanOut_cons {σ : Type} (first : Listener σ) (rest : List (Listener σ))
    (event : LoadEvent) (s : σ) (states : List σ) :
    (fanOut (first :: rest)).hear event (s :: states) =
      match first.hear event s with
      | (s, .error e) => (s :: states, .error e)
      | (s, .ok ()) =>
        (s :: ((fanOut rest).hear event states).1, ((fanOut rest).hear event states).2) := rfl

namespace Hearer

variable {σ : Type}

/-- Hearers that hear every event one after another, as one hearer. -/
def together (hearers : List (Hearer σ)) : Hearer (List σ) :=
  ⟨.fanOut (hearers.map (·.listener)), hearers.map (·.state)⟩

/-- `party` is the first to reject an event.  It accepts `heard` and rejects `event`; the hearers
`before` it accept this event too, and those `later` have rejected nothing up to then. -/
structure FirstToReject (before : List (Hearer σ)) (party : Hearer σ) (later : List (Hearer σ))
    (heard : List LoadEvent) (event : LoadEvent) (e : LoadError) : Prop where
  before : ∀ hearer ∈ before, hearer.Accepts (heard ++ [event])
  party : party.Rejects heard event e
  later : ∀ hearer ∈ later, hearer.Accepts heard

/-! ## One event -/

theorem hear_together_cons_of_ok {first : Hearer σ} {event : LoadEvent}
    (h : first.answer event = .ok ()) (rest : List (Hearer σ)) :
    (together (first :: rest)).answer event = (together rest).answer event ∧
      ((together (first :: rest)).next event).state =
        (first.next event).state :: ((together rest).next event).state := by
  have hhear : (together (first :: rest)).listener.hear event (together (first :: rest)).state =
      ((first.next event).state :: ((together rest).next event).state,
        (together rest).answer event) := by
    rw [together, List.map_cons, List.map_cons, Listener.hear_fanOut_cons, hear_of_answer h]
    rfl
  rw [answer, next, hhear]
  exact ⟨rfl, rfl⟩

theorem hear_together_cons_of_error {first : Hearer σ} {event : LoadEvent} {e : LoadError}
    (h : first.answer event = .error e) (rest : List (Hearer σ)) :
    (together (first :: rest)).answer event = .error e ∧
      ((together (first :: rest)).next event).state =
        (first.next event).state :: rest.map (·.state) := by
  have hhear : (together (first :: rest)).listener.hear event (together (first :: rest)).state =
      ((first.next event).state :: rest.map (·.state), .error e) := by
    rw [together, List.map_cons, List.map_cons, Listener.hear_fanOut_cons, hear_of_answer h]
  rw [answer, next, hhear]
  exact ⟨rfl, rfl⟩

theorem hear_together_of_ok {hearers : List (Hearer σ)} {event : LoadEvent}
    (h : ∀ hearer ∈ hearers, hearer.answer event = .ok ()) :
    (together hearers).answer event = .ok () ∧
      (together hearers).next event = together (hearers.map (·.next event)) := by
  have hstate : (together hearers).answer event = .ok () ∧
      ((together hearers).next event).state = (hearers.map (·.next event)).map (·.state) := by
    induction hearers with
    | nil => exact ⟨rfl, rfl⟩
    | cons first rest ih =>
      obtain ⟨hanswer, hnext⟩ := ih fun hearer hmem => h hearer (List.mem_cons_of_mem _ hmem)
      obtain ⟨hanswer', hnext'⟩ := hear_together_cons_of_ok (h first (List.mem_cons_self ..)) rest
      rw [hanswer', hnext', hanswer, hnext]
      exact ⟨rfl, rfl⟩
  refine ⟨hstate.1, ?_⟩
  have hlisteners : (hearers.map (·.next event)).map (·.listener) = hearers.map (·.listener) := by
    rw [List.map_map]
    rfl
  rw [together, together, hlisteners, ← hstate.2]
  rfl

theorem hear_together_of_error {before : List (Hearer σ)} {party : Hearer σ} {event : LoadEvent}
    {e : LoadError} (hbefore : ∀ hearer ∈ before, hearer.answer event = .ok ())
    (hparty : party.answer event = .error e) (later : List (Hearer σ)) :
    (together (before ++ party :: later)).answer event = .error e ∧
      ((together (before ++ party :: later)).next event).state =
        before.map (fun hearer => (hearer.next event).state) ++
          (party.next event).state :: later.map (·.state) := by
  induction before with
  | nil => exact hear_together_cons_of_error hparty later
  | cons first rest ih =>
    obtain ⟨hanswer, hnext⟩ := ih fun hearer hmem => hbefore hearer (List.mem_cons_of_mem _ hmem)
    obtain ⟨hanswer', hnext'⟩ :=
      hear_together_cons_of_ok (hbefore first (List.mem_cons_self ..)) (rest ++ party :: later)
    rw [List.cons_append, hanswer', hnext', hanswer, hnext]
    exact ⟨rfl, rfl⟩

/-- All accept an event, or there is a first that rejects it. -/
theorem answers_or_first_error (hearers : List (Hearer σ)) (event : LoadEvent) :
    (∀ hearer ∈ hearers, hearer.answer event = .ok ()) ∨
      ∃ before party later e, hearers = before ++ party :: later ∧
        (∀ hearer ∈ before, hearer.answer event = .ok ()) ∧ party.answer event = .error e := by
  induction hearers with
  | nil => exact Or.inl fun hearer h => absurd h List.not_mem_nil
  | cons first rest ih =>
    rcases hfirst : first.answer event with e | ⟨⟩
    · exact Or.inr ⟨[], first, rest, e, rfl, fun hearer h => absurd h List.not_mem_nil, hfirst⟩
    · rcases ih with hrest | ⟨before, party, later, e, rfl, hbefore, hparty⟩
      · exact Or.inl (List.forall_mem_cons.mpr ⟨hfirst, hrest⟩)
      · exact Or.inr ⟨first :: before, party, later, e, rfl,
          List.forall_mem_cons.mpr ⟨hfirst, hbefore⟩, hparty⟩

/-! ## All events -/

/-- **Hearers that accept all events** are left, each of them, as if it had heard them alone. -/
theorem after_together {hearers : List (Hearer σ)} {events : List LoadEvent}
    (h : ∀ hearer ∈ hearers, hearer.Accepts events) :
    (together hearers).Accepts events ∧
      (together hearers).after events = together (hearers.map (·.after events)) := by
  induction events generalizing hearers with
  | nil =>
    refine ⟨accepts_nil _, ?_⟩
    simp only [after_nil, List.map_id']
  | cons event rest ih =>
    have hevent : ∀ hearer ∈ hearers, hearer.answer event = .ok () := fun hearer hmem =>
      (accepts_cons.mp (h hearer hmem)).1
    obtain ⟨hanswer, hnext⟩ := hear_together_of_ok hevent
    have hrest : ∀ hearer ∈ hearers.map (·.next event), hearer.Accepts rest := by
      intro hearer hmem
      obtain ⟨earlier, hearlier, rfl⟩ := List.mem_map.mp hmem
      exact (accepts_cons.mp (h earlier hearlier)).2
    obtain ⟨haccepts, hafter⟩ := ih hrest
    rw [accepts_cons, after_cons_of_ok hanswer, hnext]
    refine ⟨⟨hanswer, haccepts⟩, hafter.trans ?_⟩
    rw [List.map_map]
    congr 1
    exact List.map_congr_left fun hearer hmem => (after_cons_of_ok (hevent hearer hmem) rest).symm

/-- **The first rejection** is that of all hearers together.  The hearers before it have heard one
event more than those after it. -/
theorem FirstToReject.together {before later : List (Hearer σ)} {party : Hearer σ}
    {heard : List LoadEvent} {event : LoadEvent} {e : LoadError}
    (h : FirstToReject before party later heard event e) :
    (together (before ++ party :: later)).Rejects heard event e ∧
      ((together (before ++ party :: later)).after (heard ++ [event])).state =
        before.map (fun hearer => (hearer.after (heard ++ [event])).state) ++
          (party.after (heard ++ [event])).state ::
            later.map fun hearer => (hearer.after heard).state := by
  have hheard : ∀ hearer ∈ before ++ party :: later, hearer.Accepts heard := by
    intro hearer hmem
    rw [List.mem_append, List.mem_cons] at hmem
    rcases hmem with hmem | rfl | hmem
    · exact (accepts_append.mp (h.before hearer hmem)).1
    · exact h.party.1
    · exact h.later hearer hmem
  obtain ⟨haccepts, hafter⟩ := after_together hheard
  rw [List.map_append, List.map_cons] at hafter
  have hbefore : ∀ hearer ∈ before.map (·.after heard), hearer.answer event = .ok () := by
    intro hearer hmem
    obtain ⟨earlier, hearlier, rfl⟩ := List.mem_map.mp hmem
    exact (accepts_cons.mp (accepts_append.mp (h.before earlier hearlier)).2).1
  obtain ⟨hanswer, hnext⟩ :=
    hear_together_of_error hbefore h.party.2 (later.map (·.after heard))
  have hlast : ∀ {hearer : Hearer σ}, hearer.Accepts heard →
      (hearer.after (heard ++ [event])).state = ((hearer.after heard).next event).state := by
    intro hearer haccepts
    rw [after_append_of_accepts haccepts, after_singleton]
  refine ⟨⟨haccepts, ?_⟩, ?_⟩
  · rw [hafter, hanswer]
  · rw [after_append_of_accepts haccepts, after_singleton, hafter, hnext, hlast h.party.1,
      List.map_map, List.map_map]
    congr 1
    exact List.map_congr_left fun hearer hmem =>
      (hlast (accepts_append.mp (h.before hearer hmem)).1).symm

/-- **All events are accepted by all, or there is a first rejection.** -/
theorem accepts_or_firstToReject (hearers : List (Hearer σ)) (events : List LoadEvent) :
    (∀ hearer ∈ hearers, hearer.Accepts events) ∨
      ∃ before party later heard event unheard e, hearers = before ++ party :: later ∧
        events = heard ++ event :: unheard ∧ FirstToReject before party later heard event e := by
  induction events generalizing hearers with
  | nil => exact Or.inl fun hearer _ => accepts_nil hearer
  | cons first rest ih =>
    rcases answers_or_first_error hearers first with
      hfirst | ⟨before, party, later, e, rfl, hbefore, hparty⟩
    · rcases ih (hearers.map (·.next first)) with
        hrest | ⟨before, party, later, heard, event, unheard, e, hsplit, rfl, h⟩
      · refine Or.inl fun hearer hmem => accepts_cons.mpr ⟨hfirst hearer hmem, ?_⟩
        exact hrest _ (List.mem_map_of_mem hmem)
      · -- the hearers after the first event fall into the same parts as those before it
        obtain ⟨before, others, rfl, rfl, hothers⟩ := List.map_eq_append_iff.mp hsplit
        obtain ⟨party, later, rfl, rfl, rfl⟩ := List.map_eq_cons_iff.mp hothers
        refine Or.inr ⟨before, party, later, first :: heard, event, unheard, e, rfl, rfl, ?_⟩
        refine ⟨fun hearer hmem => ?_, ?_, fun hearer hmem => ?_⟩
        · exact accepts_cons.mpr ⟨hfirst hearer (List.mem_append_left _ hmem),
            h.before _ (List.mem_map_of_mem hmem)⟩
        · exact rejects_cons.mpr ⟨hfirst party (by simp), h.party⟩
        · exact accepts_cons.mpr ⟨hfirst hearer (by simp [hmem]),
            h.later _ (List.mem_map_of_mem hmem)⟩
    · refine Or.inr ⟨before, party, later, [], first, rest, e, rfl, rfl, ?_⟩
      refine ⟨fun hearer hmem => ?_, rejects_nil.mpr hparty, fun hearer _ => accepts_nil hearer⟩
      exact accepts_cons.mpr ⟨hbefore hearer hmem, accepts_nil _⟩

end Hearer

/-! ## What a load asks for -/

/-- Whether a step asks for a directory or for a package. -/
def LoadAction.isQuestion : LoadAction → Bool
  | .scan _ | .resolve .. => true
  | .log _ | .announce _ => false

theorem LoadAction.filter_isQuestion_map {α : Type} {f : α → LoadAction}
    (h : ∀ a, (f a).isQuestion = false) (l : List α) : (l.map f).filter (·.isQuestion) = [] := by
  rw [List.filter_eq_nil_iff]
  intro action haction
  obtain ⟨a, -, rfl⟩ := List.mem_map.mp haction
  rw [h a]
  exact Bool.false_ne_true

theorem filter_isQuestion_announce (events : List LoadEvent) :
    (events.map LoadAction.announce).filter (·.isQuestion) = [] :=
  LoadAction.filter_isQuestion_map (fun _ => rfl) events

theorem filter_isQuestion_log (entries : List LogEntry) :
    (entries.map LoadAction.log).filter (·.isQuestion) = [] :=
  LoadAction.filter_isQuestion_map (fun _ => rfl) entries

/-- A question that is answered with events, or not at all: what is done before the answer, and
then the announcements. -/
theorem Script.actions_asking {α : Type} {lead : List LoadAction}
    (hsilent : lead.filterMap (·.announced?) = []) (answer : Except LoadError α)
    (next : α → List LoadEvent) :
    (asking lead answer fun a => (next a).map .announce).actions =
      lead ++ (asking lead answer fun a => (next a).map .announce).events.map .announce := by
  cases answer with
  | error e =>
    rw [(outcome_eq_iff.mp (outcome_asking_of_error hsilent e _)).1, List.map_nil, List.append_nil]
    rfl
  | ok a =>
    rw [(outcome_eq_iff.mp (outcome_asking_of_ok hsilent a next)).1]
    rfl

namespace Loader

/-- What the load of an item asks for.  It asks for nothing when a rule or a preset has the name of
a plugin's rule. -/
def question? (loader : Loader) : LoadItem → Option LoadAction
  | .directory path => some (.scan path)
  | .rule name =>
    if isPluginRuleName (loader.config.naming.stripRule name) then none
    else some (.resolve .rule name)
  | .preset name =>
    if isPluginRuleName (loader.config.naming.stripRule name) then none
    else some (.resolve .preset name)
  | .plugin name => some (.resolve .plugin name)

/-- The load of an item asks first and announces last. -/
theorem exists_lead (loader : Loader) (item : LoadItem) :
    ∃ lead, (loader.loadItem item).actions =
        lead ++ (loader.loadItem item).events.map .announce ∧
      lead.filterMap (·.announced?) = [] ∧
      lead.filter (·.isQuestion) = (loader.question? item).toList := by
  cases item with
  | directory path =>
    rcases hscan : loader.scanner path with ⟨log, answer⟩
    have hsilent : (LoadAction.scan path :: log.map .log).filterMap (·.announced?) = [] :=
      log_silent log
    refine ⟨.scan path :: log.map .log, ?_, hsilent, ?_⟩
    · rw [loadItem, loadDirectory, hscan]
      exact Script.actions_asking hsilent answer scanEvents
    · rw [List.filter_cons_of_pos rfl, filter_isQuestion_log]
      rfl
  | rule name =>
    rw [loadItem, loadRule, question?]
    split
    · exact ⟨_, (List.append_nil _).symm, rfl, rfl⟩
    · exact ⟨_, Script.actions_asking rfl _ fun handler =>
        [.rule (.flat (loader.config.naming.stripRule name)) handler], rfl, rfl⟩
  | preset name =>
    rw [loadItem, loadPreset, question?]
    split
    · exact ⟨_, (List.append_nil _).symm, rfl, rfl⟩
    · exact ⟨_, Script.actions_asking rfl _
        (presetEvents (loader.config.naming.stripRule name)), rfl, rfl⟩
  | plugin name =>
    rw [loadItem, loadPlugin, question?]
    exact ⟨_, Script.actions_asking rfl _ fun parts : Option (Table Handler) × Option Processor =>
      pluginEvents (loader.config.naming.stripPlugin name) parts.1 parts.2, rfl, rfl⟩

/-- The load of a whole item asks one question, if any. -/
theorem filter_isQuestion_actions (loader : Loader) (item : LoadItem) :
    (loader.loadItem item).actions.filter (·.isQuestion) = (loader.question? item).toList := by
  obtain ⟨lead, hactions, -, hquestions⟩ := loader.exists_lead item
  rw [hactions, List.filter_append, hquestions, filter_isQuestion_announce, List.append_nil]

/-- `done` is what a load does up to the announcement of `event`, the first event after those of
`heard`.  The event is one of `item`; the items `first` before it have delivered all their events,
and there is no question for any other item. -/
structure StopsIn (loader : Loader) (first : List LoadItem) (item : LoadItem)
    (heard : List LoadEvent) (event : LoadEvent) (done : List LoadAction) : Prop where
  delivers : ∃ blocks before after, List.Forall₂ loader.Delivers first blocks ∧
    loader.Delivers item (before ++ event :: after) ∧ heard = blocks.flatten ++ before
  announced : done.filterMap (·.announced?) = heard ++ [event]
  questions : done.filter (·.isQuestion) = (first ++ [item]).filterMap loader.question?

/-- An event of one item ends the load inside the item. -/
theorem stopsIn_of_delivers {loader : Loader} {item : LoadItem} {heard after : List LoadEvent}
    {event : LoadEvent} (h : loader.Delivers item (heard ++ event :: after)) :
    ∃ lead more, (loader.loadItem item).actions = lead ++ .announce event :: more ∧
      lead.filterMap (·.announced?) = heard ∧
      loader.StopsIn [] item heard event (lead ++ [.announce event]) := by
  obtain ⟨lead, hactions, hsilent, hquestions⟩ := loader.exists_lead item
  rw [(Script.outcome_eq_iff.mp (outcome_of_delivers h)).1, List.map_append, List.map_cons,
    ← List.append_assoc] at hactions
  have hannounced :
      (lead ++ heard.map LoadAction.announce).filterMap (·.announced?) = heard := by
    rw [List.filterMap_append, hsilent, Script.filterMap_announced?_announce, List.nil_append]
  refine ⟨lead ++ heard.map .announce, after.map .announce, hactions, hannounced, ?_⟩
  refine ⟨⟨[], heard, after, .nil, h, rfl⟩, ?_, ?_⟩
  · rw [List.filterMap_append, hannounced]
    rfl
  · rw [List.filter_append, List.filter_append, hquestions, filter_isQuestion_announce,
      List.nil_append, List.filterMap_cons]
    cases loader.question? item <;> rfl

/-- An item that is loaded whole comes before the end of the load. -/
theorem StopsIn.cons {loader : Loader} {first : List LoadItem} {item whole : LoadItem}
    {heard events : List LoadEvent} {event : LoadEvent} {done : List LoadAction}
    (h : loader.StopsIn first item heard event done) (hwhole : loader.Delivers whole events) :
    loader.StopsIn (whole :: first) item (events ++ heard) event
      ((loader.loadItem whole).actions ++ done) := by
  obtain ⟨blocks, before, after, hblocks, hitem, rfl⟩ := h.delivers
  have hevents : (loader.loadItem whole).events = events :=
    (Script.outcome_eq_iff.mp (outcome_of_delivers hwhole)).1
  refine ⟨⟨events :: blocks, before, after, .cons hwhole hblocks, hitem, ?_⟩, ?_, ?_⟩
  · rw [List.flatten_cons, List.append_assoc]
  · rw [List.filterMap_append, h.announced, ← Script.events, hevents, ← List.append_assoc]
  · rw [List.filter_append, h.questions, filter_isQuestion_actions, List.cons_append,
      List.filterMap_cons]
    cases loader.question? whole <;> rfl

/-- The load of the items comes to the announcement of `event` right after the events of `heard`, in
one of the items. -/
def ComesTo (loader : Loader) (items : List LoadItem) (heard : List LoadEvent)
    (event : LoadEvent) : Prop :=
  ∃ first item rest lead more, items = first ++ item :: rest ∧
    (Script.sequence (items.map loader.loadItem)).actions = lead ++ .announce event :: more ∧
    lead.filterMap (·.announced?) = heard ∧
    loader.StopsIn first item heard event (lead ++ [.announce event])

section ComesTo

variable {loader : Loader} {item : LoadItem} {events heard : List LoadEvent} {event : LoadEvent}

theorem actions_sequence_cons_of_delivers (h : loader.Delivers item events)
    (items : List LoadItem) :
    (Script.sequence ((item :: items).map loader.loadItem)).actions =
      (loader.loadItem item).actions ++
        (Script.sequence (items.map loader.loadItem)).actions := by
  rw [List.map_cons, Script.sequence_cons,
    Script.andThen_of_ok (Script.outcome_eq_iff.mp (outcome_of_delivers h)).2]

theorem events_sequence_cons_of_delivers (h : loader.Delivers item events)
    (items : List LoadItem) :
    (Script.sequence ((item :: items).map loader.loadItem)).events =
      events ++ (Script.sequence (items.map loader.loadItem)).events := by
  rw [Script.events, actions_sequence_cons_of_delivers h, List.filterMap_append, ← Script.events,
    (Script.outcome_eq_iff.mp (outcome_of_delivers h)).1, ← Script.events]

/-- The event is one of the first item. -/
theorem comesTo_of_delivers {after : List LoadEvent}
    (h : loader.Delivers item (heard ++ event :: after)) (items : List LoadItem) :
    loader.ComesTo (item :: items) heard event := by
  obtain ⟨lead, more, hactions, hannounced, hstops⟩ := stopsIn_of_delivers h
  refine ⟨[], item, items, lead, more ++ (Script.sequence (items.map loader.loadItem)).actions, rfl,
    ?_, hannounced, hstops⟩
  rw [actions_sequence_cons_of_delivers h, hactions, List.append_assoc, List.cons_append]

/-- The event is one of the items after the first. -/
theorem ComesTo.cons {items : List LoadItem} (h : loader.ComesTo items heard event)
    (hitem : loader.Delivers item events) :
    loader.ComesTo (item :: items) (events ++ heard) event := by
  obtain ⟨first, last, rest, lead, more, rfl, hactions, hannounced, hstops⟩ := h
  refine ⟨item :: first, last, rest, (loader.loadItem item).actions ++ lead, more, rfl, ?_, ?_, ?_⟩
  · rw [actions_sequence_cons_of_delivers hitem, hactions, List.append_assoc]
  · rw [List.filterMap_append, hannounced, ← Script.events,
      (Script.outcome_eq_iff.mp (outcome_of_delivers hitem)).1]
  · rw [List.append_assoc]
    exact hstops.cons hitem

end ComesTo

/-- **Nothing is asked for the items after an event**: every event of a load belongs to an item, and
what is done up to its announcement concerns this item and those before it. -/
theorem comesTo_of_events (loader : Loader) {items : List LoadItem}
    {heard unheard : List LoadEvent} {event : LoadEvent}
    (h : (Script.sequence (items.map loader.loadItem)).events = heard ++ event :: unheard) :
    loader.ComesTo items heard event := by
  induction items generalizing heard with
  | nil => exact absurd h (by simp [Script.events])
  | cons item items ih =>
    rcases loader.delivers_or_fails item with ⟨events, hitem⟩ | ⟨e, hitem⟩
    · rw [events_sequence_cons_of_delivers hitem] at h
      rcases List.append_eq_append_iff.mp h with ⟨later, rfl, hrest⟩ | ⟨own, rfl, hown⟩
      · exact (ih hrest).cons hitem
      · rcases List.cons_eq_append_iff.mp hown with ⟨rfl, hrest⟩ | ⟨after, rfl, -⟩
        · -- the first item delivers no event after `heard`
          have hlater : loader.ComesTo items [] event := ih hrest
          have hcons := hlater.cons hitem
          rwa [List.append_nil, List.append_nil] at hcons
        · exact comesTo_of_delivers hitem items
    · obtain ⟨hevents, hresult⟩ := Script.outcome_eq_iff.mp (outcome_of_fails hitem)
      rw [List.map_cons, Script.sequence_cons, Script.andThen_of_error hresult, hevents] at h
      exact absurd h (by simp)

/-! ## The load of a config -/

variable {σ τ : Type}

theorem events_loadConfig (loader : Loader) :
    loader.loadConfig.events = loader.loadSources.events :=
  congrArg Prod.fst loader.outcome_loadConfig

theorem exists_actions_loadConfig (loader : Loader) :
    ∃ summary, loader.loadConfig.actions = loader.loadSources.actions ++ summary := by
  rcases hresult : loader.loadSources.result with e | ⟨⟩
  · exact ⟨[], by rw [loadConfig, Script.andThen_of_error hresult, List.append_nil]⟩
  · exact ⟨_, by rw [loadConfig, Script.andThen_of_ok hresult]⟩

/-- Hearers that reject nothing. -/
theorem perform_together_of_accepts {loader : Loader} {hearers : List (Hearer σ)}
    (h : ∀ hearer ∈ hearers, hearer.Accepts loader.loadConfig.events) :
    loader.loadConfig.perform (.fanOut (hearers.map (·.listener))) (hearers.map (·.state)) =
      (hearers.map fun hearer => (loader.loadConfig.perform hearer.listener hearer.state).1,
        loader.loadConfig.actions, loader.loadConfig.result) := by
  obtain ⟨haccepts, hafter⟩ := Hearer.after_together h
  have hperform := Script.perform_of_accepts haccepts
  have halone : hearers.map (fun hearer =>
      (loader.loadConfig.perform hearer.listener hearer.state).1) =
        (hearers.map (·.after loader.loadConfig.events)).map (·.state) := by
    rw [List.map_map]
    refine List.map_congr_left fun hearer hmem => ?_
    rw [Script.perform_of_accepts (h hearer hmem)]
    rfl
  rw [hafter] at hperform
  rw [halone]
  exact hperform

/-- The first rejection ends the load. -/
theorem perform_together_of_rejects {loader : Loader} {before later : List (Hearer σ)}
    {party : Hearer σ} {heard unheard : List LoadEvent} {event : LoadEvent} {e : LoadError}
    (hevents : loader.loadConfig.events = heard ++ event :: unheard)
    (h : Hearer.FirstToReject before party later heard event e) :
    ∃ first item rest done, loader.config.items = first ++ item :: rest ∧
      loader.StopsIn first item heard event done ∧
      loader.loadConfig.perform (.fanOut ((before ++ party :: later).map (·.listener)))
          ((before ++ party :: later).map (·.state)) =
        (before.map (fun hearer => (hearer.after (heard ++ [event])).state) ++
          (party.after (heard ++ [event])).state ::
            later.map fun hearer => (hearer.after heard).state, done, .error e) := by
  rw [events_loadConfig, loadSources_eq_sequence_items] at hevents
  obtain ⟨first, item, rest, lead, more, hitems, hactions, rfl, hstops⟩ :=
    loader.comesTo_of_events hevents
  obtain ⟨summary, hsummary⟩ := loader.exists_actions_loadConfig
  rw [loadSources_eq_sequence_items, hactions, List.append_assoc] at hsummary
  obtain ⟨hrejects, hstates⟩ := h.together
  have hperform := Script.perform_of_rejects hsummary hrejects
  rw [hstates] at hperform
  exact ⟨first, item, rest, _, hitems, hstops, hperform⟩

/-- **Many listeners at one load.**  If none of them rejects an event, each is left as if the load
were its own.  Otherwise there is a first that rejects an event: the listeners before it have heard
the events up to this one, those after it the events before this one, the load ends with the
objection, and nothing is asked for the items after that of the event.

The registries of a load are returned if the load succeeds and the observer accepts all its events.
They hold the entries of the events that the observer has seen, and these are in any case the first
events of the load. -/
theorem loadConfig_fanOut (loader : Loader) (hearers : List (Hearer σ)) (observer : Hearer τ) :
    (((∀ hearer ∈ hearers, hearer.Accepts loader.loadConfig.events) ∧
        loader.loadConfig.perform (.fanOut (hearers.map (·.listener))) (hearers.map (·.state)) =
          (hearers.map fun hearer => (loader.loadConfig.perform hearer.listener hearer.state).1,
            loader.loadConfig.actions, loader.loadConfig.result)) ∨
      ∃ before party later heard event unheard e first item rest done,
        hearers = before ++ party :: later ∧
        loader.loadConfig.events = heard ++ event :: unheard ∧
        Hearer.FirstToReject before party later heard event e ∧
        loader.config.items = first ++ item :: rest ∧
        loader.StopsIn first item heard event done ∧
        loader.loadConfig.perform (.fanOut (hearers.map (·.listener))) (hearers.map (·.state)) =
          (before.map (fun hearer => (hearer.after (heard ++ [event])).state) ++
            (party.after (heard ++ [event])).state ::
              later.map fun hearer => (hearer.after heard).state, done, .error e)) ∧
    ∃ seen s done result,
      loader.loadRegistries observer.listener observer.state = (s, done, result) ∧
      ((∃ registries, result = .ok registries) ↔
        loader.loadConfig.result = .ok () ∧ observer.Accepts loader.loadConfig.events) ∧
      (∀ rules processors, result = .ok (rules, processors) →
        rules.rules = .ofList (seen.filterMap (·.definedRule?)) ∧
        processors.processors = .ofList (seen.filterMap (·.definedProcessor?))) ∧
      done.filterMap (·.announced?) = seen ∧ s = (observer.after seen).state ∧
      seen <+: loader.loadConfig.events := by
  constructor
  · rcases Hearer.accepts_or_firstToReject hearers loader.loadConfig.events with
      haccepts | ⟨before, party, later, heard, event, unheard, e, rfl, hevents, hfirst⟩
    · exact Or.inl ⟨haccepts, perform_together_of_accepts haccepts⟩
    · obtain ⟨first, item, rest, done, hitems, hstops, hperform⟩ :=
        perform_together_of_rejects hevents hfirst
      exact Or.inr ⟨before, party, later, heard, event, unheard, e, first, item, rest, done, rfl,
        hevents, hfirst, hitems, hstops, hperform⟩
  · obtain ⟨seen, done, result, hperform, hseen, hprefix, hresult⟩ :=
      loader.loadConfig.perform_hearer observer
    have hregistries := loader.loadConfig.perform_registering_observer observer.listener {} {}
      observer.state
    rw [hperform] at hregistries
    simp only [hseen] at hregistries
    refine ⟨seen, _, done, result.map fun _ => (⟨.ofList (seen.filterMap (·.definedRule?))⟩,
      ⟨.ofList (seen.filterMap (·.definedProcessor?))⟩), ?_, ?_, ?_, hseen, rfl, hprefix⟩
    · rw [loadRegistries, hregistries]
      rfl
    · rw [← hresult]
      cases result with
      | ok => simp [Except.map]
      | error e => simp [Except.map]
    · intro rules processors h
      cases result with
      | ok =>
        simp only [Except.map, Except.ok.injEq, Prod.mk.injEq] at h
        obtain ⟨rfl, rfl⟩ := h
        exact ⟨rfl, rfl⟩
      | error e => cases h

end Loader

end LintRules
