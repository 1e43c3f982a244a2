/-
Clients of the event stream.

* `Client`: a client with its inbox, and the messages that it has received;
* `Client.message`: what is sent for an event, or for events that were lost;
* `Client.hear`, `Client.send`, `Client.ping`, `Client.close`: what reaches a client, and
  what a client does.

A client receives a snapshot first, and then every event in its order.
-/
import DiceHost.Scheduler.World
import DiceHost.Service.Inbox

namespace DiceHost.Service

open Scheduler

/-- A client of the event stream. -/
structure Client where
  inbox : Inbox Event := {}
  /-- The messages received since the client looked last. -/
  received : List Json := []
  isOpen : Bool := true

namespace Client

/-- A message of some type. -/
def typed (type : String) (data : Json) : Json :=
  .obj [("type", .str type), ("data", data)]

/-- The message about an event, or about events that were lost. -/
def message : Notice Event → Json
  | .event e => typed "scheduler_event" e.toJson
  | .missed n => typed "lagged" (.obj [("skipped", .nat n)])

/-- The mark of the end of the stream. -/
def ended : Json := .str "end"

/-- A client that has just connected. -/
def start (state : State) : Client where
  received := [typed "snapshot" state.toJson]

/-- An event is on its way to the client. -/
def tell (c : Client) (e : Event) : Client :=
  if c.isOpen then { c with inbox := c.inbox.push e } else c

/-- The client receives all that is on its way. -/
def hear (c : Client) : Client :=
  if c.isOpen then
    { c with inbox := {}, received := c.received ++ c.inbox.notices.map message }
  else c

/-- The client looks at what it has received. -/
def look (c : Client) : List Json × Client :=
  (c.received, { c with received := [] })

/-- The client closes the stream. -/
def close (c : Client) : Client :=
  { c with isOpen := false, received := c.received ++ [ended] }

/-- The client sends a text; only one is answered. -/
def send (c : Client) (text : String) : Client :=
  if text = "ping" then
    { c with received := c.received ++ [.obj [("type", .str "pong")]] }
  else c

/-- The most bytes of a ping. -/
def maxPing : Nat := 125

/-- The client sends a ping, which is answered with its bytes; one with too many bytes
ends the stream. -/
def ping (c : Client) (bytes : List UInt8) : Client :=
  if bytes.length ≤ maxPing then
    let echo := Json.str (String.ofList (Text.Hex.ofBytes bytes))
    { c with received := c.received ++ [.obj [("pong", echo)]] }
  else c.close

end Client

end DiceHost.Service
