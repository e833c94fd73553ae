import SyncLedger.Log.Event
import SyncLedger.Stream.Key
import SyncLedger.Stream.Status
import SyncLedger.Table

/-!
# The statuses of a run

The store holds a status for every stream that something was observed of. The first
observation of a stream creates its status; an observation of a terminal stream is
ignored and only noted in the log. A snapshot lists the statuses in the order of their
keys, whatever the order in which they were created.
-/

namespace SyncLedger

/-- The statuses of the streams of a run. -/
structure StatusStore where
  statuses : Table StreamKey TrackedStatus

/-- What an observation did: the run state before, and the status after. -/
structure StatusChange where
  key : StreamKey
  previous : RunState
  current : TrackedStatus
deriving DecidableEq

/-- The stream moved to another run state. -/
def StatusChange.isTransition (c : StatusChange) : Bool := c.previous ≠ c.current.runState

namespace StatusStore

/-- The store of a run that has not begun. -/
def empty : StatusStore := ⟨Table.empty⟩

instance : Inhabited StatusStore := ⟨empty⟩

/-- The status of a stream, if something was observed of it. -/
def get? (s : StatusStore) (k : StreamKey) : Option TrackedStatus := s.statuses.get? k

/-- The status of a stream, or the initial one. -/
def status (s : StatusStore) (k : StreamKey) : TrackedStatus := (s.get? k).getD .initial

/-- The number of streams that something was observed of. -/
def size (s : StatusStore) : Nat := s.statuses.size

/-- Nothing was observed. -/
def isEmpty (s : StatusStore) : Bool := s.statuses.isEmpty

/-- The statuses in the order of their keys. -/
def snapshot (s : StatusStore) : List (StreamKey × TrackedStatus) :=
  s.statuses.toList.mergeSort fun a b => a.1.notAfter b.1

/-- The store after an observation. -/
def update (s : StatusStore) (k : StreamKey) (o : Observation) : StatusStore :=
  ⟨s.statuses.insert k ((s.status k).observe o)⟩

/-- What an observation does to a stream. -/
def change (s : StatusStore) (k : StreamKey) (o : Observation) : StatusChange :=
  ⟨k, (s.status k).runState, (s.status k).observe o⟩

/-- The note about an observation that came too late. -/
def ignored (k : StreamKey) (state : RunState) : LogEvent where
  level := .debug
  message := "stream already terminal, ignoring update"
  fields := [("stream", k.text), ("run_state", state.name)]

/-- What the log says about an observation. -/
def report (s : StatusStore) (k : StreamKey) : List LogEvent :=
  if (s.status k).runState.isTerminal then [ignored k (s.status k).runState] else []

@[simp] theorem get?_empty (k : StreamKey) : empty.get? k = none := rfl

theorem get?_update (s : StatusStore) (k : StreamKey) (o : Observation) (a : StreamKey) :
    (s.update k o).get? a = if a = k then some ((s.status k).observe o) else s.get? a :=
  Table.get?_insert s.statuses k _ a

theorem status_update_self (s : StatusStore) (k : StreamKey) (o : Observation) :
    (s.update k o).status k = (s.status k).observe o := by
  simp [status, get?_update]

theorem status_update_of_ne (s : StatusStore) {k a : StreamKey} (o : Observation) (h : a ≠ k) :
    (s.update k o).status a = s.status a := by
  simp [status, get?_update, h]

end StatusStore

end SyncLedger
