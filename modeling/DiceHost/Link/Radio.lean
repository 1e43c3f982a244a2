/-
A simulated radio and the dice in its range.

* `Die`: a die with its memory, its stored payloads and the transfer it receives;
* `Die.respond`: what a die answers to a message;
* `Radio`: the adapter, the dice and the count of open links;
* `Radio.adjust`: dice put in range, and their behaviour changed;
* `Radio.accept`, `Radio.request`, `Radio.close`: links opened, used and closed.
-/
import DiceHost.DataSet.View
import DiceHost.Link.Transfer
import DiceHost.Die.PixelMap

namespace DiceHost.Link

/-! ### Adapters -/

/-- The state of an adapter. -/
inductive AdapterState where
  | poweredOn
  | poweredOff
  | unavailable
deriving DecidableEq, Repr

namespace AdapterState

/-- Whether links can be opened. -/
def isReady : AdapterState → Bool
  | poweredOn => true
  | _ => false

/-- The name of a state. -/
def name : AdapterState → String
  | poweredOn => "powered_on"
  | poweredOff => "powered_off"
  | unavailable => "unavailable"

/-- The state of a name. -/
def ofName? : String → Option AdapterState
  | "powered_on" => some poweredOn
  | "powered_off" => some poweredOff
  | "unavailable" => some unavailable
  | _ => none

/-- A state as its name. -/
def toJson (s : AdapterState) : Json := .str s.name

/-- A state from its name. -/
def decode : Json.Decoder AdapterState := Json.Decoder.word ofName?

end AdapterState

/-! ### Dice -/

/-- How a simulated die behaves. -/
structure DieOptions where
  /-- The most bytes of a payload. -/
  memory : Nat := 1048576
  maxMessage : Nat := 512
  /-- The link drops at the next block after this many blocks of a transfer. -/
  dropAfter : Option Nat := none
  /-- The milliseconds that a block takes. -/
  chunkDelay : Nat := 0
deriving DecidableEq, Repr

/-- A payload that a die keeps. -/
structure Stored where
  hash : UInt32
  bytes : List UInt8
deriving DecidableEq, Repr

/-- The payloads that a die keeps, one of each kind. -/
structure Storage where
  dataSet : Option Stored := none
  firmware : Option Stored := none
  bootloader : Option Stored := none
deriving DecidableEq, Repr

namespace Storage

/-- The payload of a kind. -/
def get? (s : Storage) : PayloadKind → Option Stored
  | .dataSet => s.dataSet
  | .firmware => s.firmware
  | .bootloader => s.bootloader

/-- The storage with a payload of a kind. -/
def put (s : Storage) (x : Stored) : PayloadKind → Storage
  | .dataSet => { s with dataSet := some x }
  | .firmware => { s with firmware := some x }
  | .bootloader => { s with bootloader := some x }

end Storage

/-- Bytes with some of them replaced from a place on. -/
def overwrite (bytes : List UInt8) (offset : Nat) (data : List UInt8) : List UInt8 :=
  bytes.take offset ++ data ++ bytes.drop (offset + data.length)

/-- A transfer that a die receives. -/
structure Incoming where
  kind : PayloadKind
  size : Nat
  /-- The blocks received so far with their offsets, the last one first. -/
  blocks : List (Nat × List UInt8) := []
deriving DecidableEq, Repr

/-- The bytes of a transfer: zeros, overwritten by the blocks in their order. -/
def Incoming.buffer (i : Incoming) : List UInt8 :=
  i.blocks.foldr (fun (offset, data) bytes => overwrite bytes offset data)
    (List.replicate i.size 0)

/-- A simulated die. -/
structure Die where
  options : DieOptions := {}
  /-- The number of connections that it will refuse. -/
  failing : Nat := 0
  alwaysFails : Bool := false
  stored : Storage := {}
  incoming : Option Incoming := none
deriving DecidableEq, Repr

/-- What a die does with a message. -/
inductive Response where
  | reply (m : Message)
  /-- The die closes the link. -/
  | drop
  /-- The die cannot handle the message. -/
  | refuse (name : String)
deriving DecidableEq, Repr

namespace Die

/-- Whether bytes may be kept: they have the hash, and a data set can be read. -/
def accepts (kind : PayloadKind) (bytes : List UInt8) (hash : UInt32) : Bool :=
  DataSet.hash bytes = hash
    && (kind ≠ .dataSet || (DataSet.Contents.parse bytes).toBool)

/-- The answer to an announcement. -/
def announce (d : Die) (kind : PayloadKind) (size hash : UInt32) : Message × Die :=
  if (d.stored.get? kind).any (·.hash = hash) then (.transferAck .upToDate, d)
  else if d.options.memory < size.toNat then (.transferAck .noMemory, d)
  else (.transferAck .download, { d with incoming := some { kind, size := size.toNat } })

/-- The answer to a block. -/
def block (d : Die) (i : Incoming) (offset : UInt32) (data : List UInt8) : Response × Die :=
  if d.options.dropAfter = some i.blocks.length then
    (.drop, { d with options := { d.options with dropAfter := none }, incoming := none })
  else if i.size < offset.toNat + data.length then (.reply (.commitAck false), d)
  else
    (.reply (.bulkDataAck offset),
      { d with incoming := some { i with blocks := (offset.toNat, data) :: i.blocks } })

/-- The answer to the end of a transfer. -/
def commit (d : Die) (i : Incoming) (hash : UInt32) : Message × Die :=
  let d := { d with incoming := none }
  let bytes := i.buffer
  if accepts i.kind bytes hash then
    (.commitAck true, { d with stored := d.stored.put ⟨hash, bytes⟩ i.kind })
  else (.commitAck false, d)

/-- What a die answers to a message, and the die after it. -/
def respond (d : Die) : Message → Response × Die
  | .transferPayload kind size hash =>
    let (m, d) := d.announce kind size hash
    (.reply m, d)
  | .bulkSetup size =>
    if d.incoming.any (·.size = size.toNat) then (.reply .bulkSetupAck, d)
    else (.reply (.commitAck false), d)
  | .bulkData offset data =>
    match d.incoming with
    | none => (.reply (.commitAck false), d)
    | some i => d.block i offset data
  | .commit hash =>
    match d.incoming with
    | none => (.reply (.commitAck false), d)
    | some i =>
      let (m, d) := d.commit i hash
      (.reply m, d)
  | m => (.refuse m.name, d)

end Die

/-! ### The radio -/

/-- An open or closed link to a die, with what the die told when it was opened. -/
structure Connection where
  pixel : PixelId
  maxMessage : Nat
  chunkDelay : Nat
  isOpen : Bool := true
deriving DecidableEq, Repr

/-- The adapter, the dice in range, and the links opened so far. -/
structure Radio where
  adapter : AdapterState := .poweredOn
  dice : PixelMap Die := {}
  /-- The dice in the order in which links were opened to them. -/
  connected : List PixelId := []
  active : Nat := 0
  maxActive : Nat := 0
deriving DecidableEq, Repr

namespace Radio

/-- The die of an identifier. -/
def die? (r : Radio) (p : PixelId) : Option Die :=
  r.dice.get? p

/-- The radio with a die changed; an unknown die changes nothing. -/
def modifyDie (r : Radio) (p : PixelId) (f : Die → Die) : Radio :=
  { r with dice := r.dice.modify p f }

/-- The radio with a die put in range, in place of any other with its identifier. -/
def addDie (r : Radio) (p : PixelId) (options : DieOptions) : Radio :=
  { r with dice := r.dice.insert p { options } }

/-- What can be changed about the dice in range. -/
inductive Adjustment where
  | addDie (pixel : PixelId) (options : DieOptions)
  /-- The next connections are refused. -/
  | failNext (pixel : PixelId) (count : Nat)
  /-- All connections are refused, or no longer. -/
  | alwaysFail (pixel : PixelId) (fail : Bool)
  /-- The link drops after some blocks of a transfer. -/
  | dropAfter (pixel : PixelId) (blocks : Nat)
deriving DecidableEq, Repr

/-- The radio after an adjustment. -/
def adjust (r : Radio) : Adjustment → Radio
  | .addDie p options => r.addDie p options
  | .failNext p count => r.modifyDie p fun d => { d with failing := count }
  | .alwaysFail p fail => r.modifyDie p fun d => { d with alwaysFails := fail }
  | .dropAfter p blocks =>
    r.modifyDie p fun d => { d with options := { d.options with dropAfter := some blocks } }

/-- A connection is completed: the link, or why there is none. -/
def accept (r : Radio) (p : PixelId) : Except LinkError Connection × Radio :=
  match r.die? p with
  | none => (.error (.connectionFailed (p.display ++ " not in range")), r)
  | some d =>
    if d.alwaysFails then (.error (.connectionFailed "no response"), r)
    else if 0 < d.failing then
      (.error (.connectionFailed "no response"),
        r.modifyDie p fun d => { d with failing := d.failing - 1 })
    else
      let r := r.modifyDie p fun d => { d with incoming := none }
      (.ok ⟨p, d.options.maxMessage, d.options.chunkDelay, true⟩,
        { r with
          connected := r.connected ++ [p]
          active := r.active + 1
          maxActive := max r.maxActive (r.active + 1) })

/-- A link is closed; a closed one stays closed. -/
def close (r : Radio) (c : Connection) : Connection × Radio :=
  if c.isOpen then ({ c with isOpen := false }, { r with active := r.active - 1 }) else (c, r)

/-- How long a request takes in milliseconds: only blocks of data take time. -/
def requestDelay (c : Connection) (bytes : List UInt8) : Nat :=
  match c.isOpen, Message.decode bytes with
  | true, .ok (.bulkData ..) => c.chunkDelay
  | _, _ => 0

/-- A request over a link: the answer of the die, and link and radio after it. -/
def request (r : Radio) (c : Connection) (bytes : List UInt8) :
    Except LinkError (List UInt8) × Connection × Radio :=
  if !c.isOpen then (.error .disconnected, c, r)
  else
    match Message.decode bytes with
    | .error e => (.error (.connectionFailed e.message), c, r)
    | .ok m =>
      match r.die? c.pixel with
      | none => (.error .disconnected, c, r)
      | some d =>
        let (response, d) := d.respond m
        let r := r.modifyDie c.pixel fun _ => d
        match response with
        | .reply m => (.ok m.encode, c, r)
        | .refuse name => (.error (.connectionFailed ("die cannot handle " ++ name)), c, r)
        | .drop =>
          let (c, r) := r.close c
          (.error .disconnected, c, r)

/-- A connection is attempted: the outcome and the milliseconds it took. An adapter that
is not ready refuses at once. -/
def connect (r : Radio) (delay : Nat) (p : PixelId) :
    Except LinkError Connection × Radio × Nat :=
  if r.adapter.isReady then
    let (c, r) := r.accept p
    (c, r, delay)
  else (.error .adapterUnavailable, r, 0)

end Radio

/-- A link in use: the radio it belongs to, and the milliseconds its requests took. -/
structure Line where
  link : Connection
  radio : Radio
  elapsed : Nat := 0

/-- A link in use as the peer of a transfer. -/
def Line.request : Transfer.Peer Line := fun l bytes =>
  let (reply, link, radio) := l.radio.request l.link bytes
  (reply, ⟨link, radio, l.elapsed + Radio.requestDelay l.link bytes⟩)

end DiceHost.Link
