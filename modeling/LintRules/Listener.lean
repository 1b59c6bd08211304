import LintRules.Module
import LintRules.RuleKey

/-!
# Events of a load and their listeners

A load announces what it loads as events.  A listener takes an event in a state and either accepts
or rejects it; its state changes in either case.

* `Listener.both`, `Listener.fanOut`: listeners that hear every event one after another.  One that
  rejects an event ends it: the listeners after it do not hear it.
* `Listener.hearAll`: events one after another, up to the first that is rejected.
-/

namespace LintRules

/-- What a load announces. -/
inductive LoadEvent where
  | rule (key : RuleKey) (handler : Handler)
  | processor (name : String) (processor : Processor)
  /-- Something that could not be loaded without ending the load. -/
  | failure (error : LoadError)
  deriving DecidableEq

/-- What hears events, in states of type `σ`. -/
structure Listener (σ : Type) where
  hear : LoadEvent → σ → σ × Except LoadError Unit

namespace Listener

variable {σ τ : Type}

/-- Hears an event without ever rejecting it. -/
def accepting (hear : LoadEvent → σ → σ) : Listener σ := ⟨fun event s => (hear event s, .ok ())⟩

/-- Two listeners, the first of which hears an event first. -/
def both (first : Listener σ) (second : Listener τ) : Listener (σ × τ) where
  hear event := fun (s, t) =>
    match first.hear event s with
    | (s, .error e) => ((s, t), .error e)
    | (s, .ok ()) =>
      let (t, answer) := second.hear event t
      ((s, t), answer)

/-- Any number of listeners with their states; they hear an event in their order. -/
def fanOut : List (Listener σ) → Listener (List σ)
  | [] => ⟨fun _ states => (states, .ok ())⟩
  | first :: rest => ⟨fun event states =>
    match states with
    | [] => ([], .ok ())
    | s :: states =>
      match first.hear event s with
      | (s, .error e) => (s :: states, .error e)
      | (s, .ok ()) =>
        let (states, answer) := (fanOut rest).hear event states
        (s :: states, answer)⟩

/-- Hears events one after another up to the first that is rejected. -/
def hearAll (listener : Listener σ) : List LoadEvent → σ → σ × Except LoadError Unit
  | [], s => (s, .ok ())
  | event :: rest, s =>
    match listener.hear event s with
    | (s, .error e) => (s, .error e)
    | (s, .ok ()) => hearAll listener rest s

@[simp] theorem hearAll_nil (listener : Listener σ) (s : σ) :
    listener.hearAll [] s = (s, .ok ()) := rfl

/-- A listener that never rejects folds the events into its state. -/
theorem hearAll_accepting (hear : LoadEvent → σ → σ) (events : List LoadEvent) (s : σ) :
    (accepting hear).hearAll events s = (events.foldl (fun s e => hear e s) s, .ok ()) := by
  induction events generalizing s with
  | nil => rfl
  | cons event rest ih => exact ih _

end Listener
end LintRules
