import SyncLedger.Stream.Tracker

/-!
# Updates that are handed over

A tracker may send its updates through a channel, so that it need not wait until somebody has
dealt with them. A consumer at the other end receives them one at a time and gives each of them
to an emitter. It waits as long as the channel is empty and somebody may still send, and it is
done when the channel is empty and nobody can send any more. Nothing else fixes the order in
which the tracker and the consumer take their turns.
-/

namespace SyncLedger

/-- What the consumer of a channel is about to do. -/
inductive ConsumerState where
  /-- It is about to receive the next update. -/
  | waiting
  /-- It has received an update that it has not dealt with. -/
  | holding (u : StreamStatusUpdate)
  /-- It is done. -/
  | returned
deriving DecidableEq

/-- The updates that the consumer has received and not dealt with. -/
def ConsumerState.held : ConsumerState → List StreamStatusUpdate
  | .holding u => [u]
  | .waiting => []
  | .returned => []

/-- A tracker that sends its updates through a channel, and the consumer of the channel with
the state `ε` of its emitter. -/
structure HandOver (σ ε : Type) where
  tracking : Tracking σ UpdateChannel
  /-- How many there are who may send: the tracker, and copies of its sender. -/
  senders : Nat
  consumer : ConsumerState
  receiver : ε

namespace HandOver

variable {σ ε : Type}

/-- What can happen next. -/
inductive Turn where
  /-- The tracker takes a message. -/
  | track (a : Arrival)
  /-- A sender is copied. -/
  | clone
  /-- A sender is dropped. With the last one the tracker is gone. -/
  | drop
  /-- The consumer receives an update. -/
  | receive
  /-- The consumer deals with the update that it holds. -/
  | deliver
  /-- The consumer notices that there is nothing left to receive. -/
  | finish

/-- The message that the tracker takes in a turn. -/
def Turn.arrival? : Turn → Option Arrival
  | .track a => some a
  | .clone => none
  | .drop => none
  | .receive => none
  | .deliver => none
  | .finish => none

/-- The messages that the tracker takes. -/
def arrivals (turns : List Turn) : List Arrival := turns.filterMap Turn.arrival?

/-- Nothing was tracked yet, and the tracker is the only one who may send. -/
def start (flags : σ) (receiver : ε) : HandOver σ ε :=
  ⟨⟨.empty, flags, .empty⟩, 1, .waiting, receiver⟩

/-- The updates that nobody has dealt with yet. -/
def pending (s : HandOver σ ε) : List StreamStatusUpdate :=
  s.consumer.held ++ s.tracking.emitter.queue

/-- How often the consumer still has to act if nothing more is sent. -/
def remaining (s : HandOver σ ε) : Nat :=
  2 * s.tracking.emitter.queue.length +
    match s.consumer with
    | .waiting => 1
    | .holding _ => 2
    | .returned => 0

section Turns

variable (client : FlagClient σ) (context : RunContext) (e : Emitter ε)

/-- What comes of a turn; nothing if it cannot be taken. -/
def turn? (s : HandOver σ ε) : Turn → Option (HandOver σ ε)
  | .track a =>
    let sending : Tracker σ UpdateChannel := ⟨client, .channel, context⟩
    if s.senders = 0 then none
    else some { s with tracking := (sending.track a s.tracking).2 }
  | .clone => if s.senders = 0 then none else some { s with senders := s.senders + 1 }
  | .drop => if s.senders = 0 then none else some { s with senders := s.senders - 1 }
  | .receive =>
    match s.consumer, s.tracking.emitter.queue with
    | .waiting, u :: us =>
      some { s with
        tracking.emitter := { s.tracking.emitter with queue := us }, consumer := .holding u }
    | _, _ => none
  | .deliver =>
    match s.consumer with
    | .holding u => some { s with consumer := .waiting, receiver := (e.emit u s.receiver).2 }
    | _ => none
  | .finish =>
    match s.consumer, s.tracking.emitter.queue with
    | .waiting, [] =>
      if s.senders = 0 then
        some { s with tracking.emitter := .closed, consumer := .returned }
      else none
    | _, _ => none

/-- What comes of some turns, one after another; nothing if one of them cannot be taken. -/
def run? (turns : List Turn) (s : HandOver σ ε) : Option (HandOver σ ε) :=
  turns.foldlM (turn? client context e) s

end Turns

end HandOver

end SyncLedger
