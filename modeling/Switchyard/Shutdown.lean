/-!
# Shutdown

A signal that tasks subscribe to. It can be given more than once, and a subscriber holds one signal
at most: one that has missed signals is told so first and then has the latest.
-/

namespace Switchyard

/-- The signals that a subscriber has not taken yet. -/
inductive Inbox where
  | empty
  | signal
  /-- Signals were missed; the latest is still there. -/
  | lagged
deriving DecidableEq, Inhabited, Repr

namespace Inbox

/-- The inbox after a signal. -/
def push : Inbox → Inbox
  | .empty => .signal
  | .signal | .lagged => .lagged

/-- Whether the subscriber gets a signal now, and what is left. -/
def poll : Inbox → Bool × Inbox
  | .empty => (false, .empty)
  | .signal => (true, .empty)
  | .lagged => (false, .signal)

end Inbox

/-- The subscribers of the signal, oldest first. -/
structure Shutdown where
  subscribers : List Inbox
deriving DecidableEq, Repr

namespace Shutdown

/-- The signal without subscribers. -/
def empty : Shutdown := ⟨[]⟩

/-- How many subscribers there are. -/
def size (s : Shutdown) : Nat := s.subscribers.length

/-- Adds a subscriber, who sees later signals only. -/
def subscribe (s : Shutdown) : Shutdown := ⟨s.subscribers ++ [.empty]⟩

/-- The oldest subscriber goes away. -/
def dropOldest (s : Shutdown) : Shutdown := ⟨s.subscribers.tail⟩

/-- Gives the signal. -/
def trigger (s : Shutdown) : Shutdown := ⟨s.subscribers.map Inbox.push⟩

/-- Asks every subscriber whether a signal is there. -/
def poll (s : Shutdown) : List Bool × Shutdown :=
  (s.subscribers.map fun i => i.poll.1, ⟨s.subscribers.map fun i => i.poll.2⟩)

end Shutdown

end Switchyard
