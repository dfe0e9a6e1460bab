/-
# Store.Shutdown -- an orderly end

Background tasks watch a signal that is given once the service is to end.  The signal
counts how often it was set; a receiver remembers the count it saw last, and every
receiver is a copy of one that has seen nothing, so that also a receiver made after
the signal finds it changed.

A shutdown sets the signal, takes the tasks that are registered, and closes the store
once all of them have ended or the time for it is over.  Another may begin meanwhile; it
takes what was registered since.

`Lifecycle.step` is one event of such a history.  An event that cannot happen, such as
closing while a task is still awaited, changes nothing.
-/
import CatalogListing.Store.Connection

namespace CatalogListing

set_option autoImplicit false

/-! ## Signals -/

/-- A truth value with the count of the times that it was set. -/
structure Signal where
  value : Bool := false
  version : Nat := 0
  deriving DecidableEq, Repr

/-- The version of a signal that was seen last. -/
structure Receiver where
  seen : Nat := 0
  deriving DecidableEq, Repr

/-- The signal set to true. -/
def Signal.set (signal : Signal) : Signal :=
  ⟨true, signal.version + 1⟩

/-- The signal was set since the receiver looked. -/
def Receiver.hasChanged (receiver : Receiver) (signal : Signal) : Bool :=
  receiver.seen != signal.version

/-! ## Tasks -/

/-- What a task does, and when it ends. -/
inductive Duty where
  /-- It waits for the signal to be true. -/
  | wait
  /-- It writes the log back from time to time, and looks at the signal when it changes. -/
  | checkpoints
  /-- It has work of its own, and ends when that is done. -/
  | work
  deriving DecidableEq, Repr

/-- A background task. -/
structure BackgroundTask where
  duty : Duty
  receiver : Receiver
  finished : Bool := false
  deriving DecidableEq, Repr

namespace BackgroundTask

/-- The task after a turn. -/
def turn (signal : Signal) (task : BackgroundTask) : BackgroundTask :=
  match task.duty with
  | .wait => { task with finished := task.finished || signal.value }
  | .checkpoints =>
      if task.receiver.hasChanged signal then
        { task with receiver := ⟨signal.version⟩, finished := task.finished || signal.value }
      else task
  | .work => task

/-- The task after its work, if it has any. -/
def finish (task : BackgroundTask) : BackgroundTask :=
  match task.duty with
  | .work => { task with finished := true }
  | _ => task

end BackgroundTask

/-! ## Histories -/

/-- A shutdown. -/
structure Departure where
  /-- The places of the tasks that it awaits, once it has taken them. -/
  awaited : Option (List Nat) := none
  /-- The time for them is over. -/
  expired : Bool := false
  /-- It has closed the store. -/
  closed : Bool := false
  deriving DecidableEq, Repr

/-- A store with its background tasks and the signal that they watch. -/
structure Lifecycle where
  store : Store
  signal : Signal := {}
  /-- The receiver that all others are copies of. -/
  receiver : Receiver := {}
  /-- Every receiver that was handed out. -/
  subscribers : List Receiver := []
  /-- Every task that was started. -/
  tasks : List BackgroundTask := []
  /-- The places of the registered tasks that no shutdown has taken. -/
  registered : List Nat := []
  /-- Every shutdown that was begun. -/
  departures : List Departure := []

/-- What may happen. -/
inductive Event where
  | subscribe
  /-- A task is started with a copy of the receiver at a place. -/
  | spawn (duty : Duty) (subscriber : Nat)
  /-- The task at a place is registered. -/
  | register (place : Nat)
  /-- A task is started with a receiver of its own, and registered. -/
  | start (duty : Duty)
  | trigger
  /-- The task at a place gets a turn. -/
  | turn (place : Nat)
  /-- The task at a place is done with its work. -/
  | finish (place : Nat)
  /-- A shutdown begins. -/
  | depart
  /-- The shutdown at a place takes the registered tasks. -/
  | take (place : Nat)
  /-- The time of the shutdown at a place is over. -/
  | expire (place : Nat)
  /-- The shutdown at a place closes the store. -/
  | close (place : Nat)
  deriving DecidableEq, Repr

namespace Lifecycle

/-- The signal was given. -/
def isTriggered (life : Lifecycle) : Bool :=
  life.signal.value

/-- The task at a place has finished. -/
def hasFinished (life : Lifecycle) (place : Nat) : Bool :=
  (life.tasks[place]?.map (·.finished)).getD true

/-- The places of all tasks that were ever registered. -/
def handles (life : Lifecycle) : List Nat :=
  life.departures.flatMap (fun departure => departure.awaited.getD []) ++ life.registered

/-- A shutdown has its tasks, and need not wait for them any longer. -/
def mayClose (life : Lifecycle) (departure : Departure) : Bool :=
  match departure.awaited with
  | some tasks => departure.expired || tasks.all life.hasFinished
  | none => false

/-! ## Events -/

def subscribe (life : Lifecycle) : Lifecycle :=
  { life with subscribers := life.subscribers ++ [life.receiver] }

def spawn (life : Lifecycle) (duty : Duty) (subscriber : Nat) : Lifecycle :=
  match life.subscribers[subscriber]? with
  | some receiver => { life with tasks := life.tasks ++ [⟨duty, receiver, false⟩] }
  | none => life

/-- A task can be registered once. -/
def register (life : Lifecycle) (place : Nat) : Lifecycle :=
  if place < life.tasks.length ∧ place ∉ life.handles then
    { life with registered := life.registered ++ [place] }
  else life

def trigger (life : Lifecycle) : Lifecycle :=
  { life with signal := life.signal.set }

/-- The tasks that are registered go to a shutdown that has none yet. -/
def take (life : Lifecycle) (place : Nat) : Lifecycle :=
  match life.departures[place]? with
  | some ⟨none, expired, closed⟩ =>
      { life with
        registered := []
        departures := life.departures.set place ⟨some life.registered, expired, closed⟩ }
  | _ => life

/-- The time begins when a shutdown has its tasks. -/
def expire (life : Lifecycle) (place : Nat) : Lifecycle :=
  match life.departures[place]? with
  | some departure =>
      { life with
        departures := life.departures.set place
          { departure with expired := departure.expired || departure.awaited.isSome } }
  | none => life

def close (life : Lifecycle) (place : Nat) : Lifecycle :=
  match life.departures[place]? with
  | some departure =>
      if life.mayClose departure then
        { life with
          store := life.store.close
          departures := life.departures.set place { departure with closed := true } }
      else life
  | none => life

/-- The state after an event. -/
def step (life : Lifecycle) : Event → Lifecycle
  | .subscribe => life.subscribe
  | .spawn duty subscriber => life.spawn duty subscriber
  | .register place => life.register place
  | .start duty =>
      (life.subscribe.spawn duty life.subscribers.length).register life.tasks.length
  | .trigger => life.trigger
  | .turn place => { life with tasks := life.tasks.modify place (BackgroundTask.turn life.signal) }
  | .finish place => { life with tasks := life.tasks.modify place BackgroundTask.finish }
  | .depart => { life.trigger with departures := life.departures ++ [{}] }
  | .take place => life.take place
  | .expire place => life.expire place
  | .close place => life.close place

/-- The state after events in order. -/
def run (life : Lifecycle) (events : List Event) : Lifecycle :=
  events.foldl step life

/-- A turn for every task. -/
def turns (life : Lifecycle) : List Event :=
  (List.range life.tasks.length).map .turn

/-- The signal is given, every task gets a turn, and the store is closed when the time of those
that go on is over. -/
def shutdown (life : Lifecycle) : Lifecycle :=
  let place := life.departures.length
  life.run (.depart :: .take place :: life.turns ++ [.expire place, .close place])

end Lifecycle

end CatalogListing
