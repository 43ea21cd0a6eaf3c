import EdoyumIM.Effects

/-!
Store-and-forward relays. A relay accepts items, hands some on at once and
queues the others; labels of a trace tell which items were accepted and which
were handed on. Nothing is lost, doubled or reordered when the items queued
before, followed by those accepted since, are those handed on, followed by the
ones still queued.
-/

namespace EdoyumIM.StoreForward

open Effects

structure Relay (σ ω ι : Type) where
  queue : σ → List ι
  accepted : ω → Option ι
  delivered : ω → Option ι

namespace Relay

variable {σ ω ι : Type} (relay : Relay σ ω ι)

def acceptedIn (trace : List ω) : List ι := trace.filterMap relay.accepted

def deliveredIn (trace : List ω) : List ι := trace.filterMap relay.delivered

def Conserves (before : σ) (trace : List ω) (after : σ) : Prop :=
  relay.queue before ++ relay.acceptedIn trace = relay.deliveredIn trace ++ relay.queue after

theorem conserves_composable : Composable relay.Conserves where
  nothing state := by simp [Conserves, acceptedIn, deliveredIn]
  sequence := by
    intro before middle after first second one other
    simp only [Conserves, acceptedIn, deliveredIn, List.filterMap_append] at one other ⊢
    rw [← List.append_assoc, one, List.append_assoc, other, ← List.append_assoc]

/-- A step that only hands on: what it hands on leaves the head of the queue. -/
theorem conserves_drained (before after : σ) (trace : List ω)
    (silent : ∀ label ∈ trace, relay.accepted label = none)
    (drained : relay.queue before = relay.deliveredIn trace ++ relay.queue after) :
    relay.Conserves before trace after := by
  have none : relay.acceptedIn trace = [] := List.filterMap_eq_nil_iff.mpr silent
  rw [Conserves, none, List.append_nil, drained]

def Quiet (trace : List ω) : Prop :=
  ∀ label ∈ trace, relay.accepted label = none ∧ relay.delivered label = none

theorem conserves_quiet (before after : σ) (trace : List ω) (quiet : relay.Quiet trace)
    (same : relay.queue after = relay.queue before) : relay.Conserves before trace after := by
  have none : relay.deliveredIn trace = [] :=
    List.filterMap_eq_nil_iff.mpr fun label member => (quiet label member).2
  exact relay.conserves_drained before after trace (fun label member => (quiet label member).1)
    (by rw [none, same, List.nil_append])

theorem conserves_stored (before after : σ) (label : ω) (item : ι)
    (accepts : relay.accepted label = some item) (holds : relay.delivered label = none)
    (grown : relay.queue after = relay.queue before ++ [item]) :
    relay.Conserves before [label] after := by
  simp [Conserves, acceptedIn, deliveredIn, accepts, holds, grown]

/-- Handing on at once keeps the order only behind an empty queue. -/
theorem conserves_forwarded (before after : σ) (first second : ω) (item : ι)
    (accepts : relay.accepted first = some item) (holds : relay.delivered first = none)
    (silent : relay.accepted second = none) (hands : relay.delivered second = some item)
    (idle : relay.queue before = []) (same : relay.queue after = relay.queue before) :
    relay.Conserves before [first, second] after := by
  simp [Conserves, acceptedIn, deliveredIn, accepts, holds, silent, hands, same, idle]

end Relay

end EdoyumIM.StoreForward
