/-
The scheduler in time.

* `World.next?`: what happens next at the present moment: the watcher comes first, then
  the sessions in the order of their start, the timers and the dispatcher;
* `World.nextDue?`: the time at which something happens again;
* `World.run`: everything that happens until some time.
-/
import DiceHost.Scheduler.World

namespace DiceHost.Scheduler

/-- The time for which a session waits. -/
def Session.due? (s : Session) : Option Nat :=
  match s.stage with
  | .connecting due | .sending _ _ due .. => some due
  | _ => none

namespace World

/-- The step of a session that is possible now. -/
def sessionMove? (w : World) (s : Session) : Option Move :=
  match s.stage with
  | .connecting due =>
    if w.radio.adapter.isReady then if due ≤ w.now then some (.session s.id) else none
    else some (.interrupt s.id)
  | .sending _ _ due .. => if due ≤ w.now then some (.session s.id) else none
  | _ => some (.session s.id)

/-- The step of the dispatcher, if one is possible. -/
def dispatcherMove? (w : World) : Option Move :=
  let able : Bool := match w.dispatcher with
    | .acquiring => decide (0 < w.freeSlots)
    | .looking => true
    | .parked => w.wake
  if able then some .dispatch else none

/-- What happens next at the present moment. -/
def next? (w : World) : Option Move :=
  if w.changePending then some .watch
  else
    (w.sessions.findSome? w.sessionMove?).or
      (((w.timers.find? (·.due ≤ w.now)).map Move.timer).or w.dispatcherMove?)

/-- The time at which something happens again. -/
def nextDue? (w : World) : Option Nat :=
  (w.sessions.filterMap Session.due? ++ w.timers.map (·.due)).min?

/-- What happens next until some time: when nothing happens at the present moment, time
passes until something is due, but not beyond that time. -/
def nextBefore? (w : World) (stop : Nat) : Option Move :=
  w.next?.or
    (if w.now < stop then
      some (.advance ((w.nextDue?.elim stop (min stop)) - w.now))
    else none)

/-- Everything that happens until some time, in at most `fuel` steps, after some events
in reverse order. -/
def runSteps (stop : Nat) : Nat → World → List Event → World × List Event
  | 0, w, told => (w, told.reverse)
  | fuel + 1, w, told =>
    match w.nextBefore? stop with
    | none => (w, told.reverse)
    | some m =>
      let (w, events) := w.step m
      runSteps stop fuel w (events.reverse ++ told)

/-- More steps than any run takes. -/
def manySteps : Nat := 0x4000000000000000

/-- Everything that happens in some milliseconds, what is due at their end included. -/
def run (w : World) (ms : Nat) : World × List Event :=
  runSteps (w.now + ms) manySteps w []

end World

end DiceHost.Scheduler
