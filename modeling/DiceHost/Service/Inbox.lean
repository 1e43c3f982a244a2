/-
Events on their way to a receiver.

* `Inbox`: the events that a receiver has still to take, and how many it has missed;
* `Inbox.push`: an event arrives; when the inbox is full, the oldest one is lost;
* `Inbox.take?`: what the receiver takes next: the number of events that it has missed,
  or the oldest event.
-/
namespace DiceHost.Service

/-- What a receiver takes. -/
inductive Notice (ε : Type) where
  | event (e : ε)
  /-- Some events were lost. -/
  | missed (count : Nat)
deriving DecidableEq, Repr

/-- The events that a receiver has still to take, the oldest first. -/
structure Inbox (ε : Type) where
  pending : List ε := []
  /-- The number of events that were lost before those. -/
  missed : Nat := 0
deriving DecidableEq, Repr

namespace Inbox

variable {ε : Type}

/-- An inbox holds this many events. -/
def capacity : Nat := 128

/-- An event arrives. -/
def push (i : Inbox ε) (e : ε) : Inbox ε :=
  if i.pending.length < capacity then { i with pending := i.pending ++ [e] }
  else { pending := i.pending.tail ++ [e], missed := i.missed + 1 }

/-- Some events arrive, one after the other. -/
def pushAll (i : Inbox ε) (events : List ε) : Inbox ε :=
  events.foldl push i

/-- What the receiver takes next, and the inbox after it. -/
def take? (i : Inbox ε) : Option (Notice ε × Inbox ε) :=
  if i.missed = 0 then
    match i.pending with
    | [] => none
    | e :: pending => some (.event e, { i with pending })
  else some (.missed i.missed, { i with missed := 0 })

/-- All that the receiver takes until the inbox is empty. -/
def notices (i : Inbox ε) : List (Notice ε) :=
  (if i.missed = 0 then [] else [.missed i.missed]) ++ i.pending.map .event

end Inbox

end DiceHost.Service
