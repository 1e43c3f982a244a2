/-
The answers of the service to its clients.

* `Handler`: what is done for a request: it may change the service, and may end early with
  a refusal; what has changed before stays so;
* `Handler.ofRoute`: the answer of each route;
* `Service.respond`: the answer to a request.
-/
import DiceHost.Service.Basic
import DiceHost.Service.Route

namespace DiceHost.Service

open Json Scheduler

/-- What is done for a request. -/
abbrev Handler := ExceptT HttpResponse (StateM Service)

namespace Handler

/-- The answer, and the service after it. -/
def answer (h : Handler HttpResponse) (s : Service) : HttpResponse × Service :=
  match h.run.run s with
  | (.ok r, s) => (r, s)
  | (.error r, s) => (r, s)

/-- A part of the path. -/
def part (text : String) : Handler String :=
  match percentDecode? text with
  | some s => pure s
  | none => throw (.bare 400)

/-- The die that a part of the path names. -/
def pixel (id : String) : Handler PixelId :=
  match PixelId.parse id with
  | .ok p => pure p
  | .error _ => throw (.refused 400 ("Invalid pixel id " ++ Text.quoted id))

/-- The body of a request as a record. A text that is not JSON, and one of another shape,
are told apart. -/
def body {α : Type} (r : HttpRequest) (record : Record α) : Handler α :=
  if r.isJson then
    match decodeText record.decode r.body.toList with
    | .ok x => pure x
    | .error .malformed => throw (.bare 400)
    | .error .mistyped => throw (.bare 422)
  else throw (.bare 415)

/-- A request to the scheduler. -/
def granted (r : Scheduler.Request) : Handler Reply := do
  match ← modifyGet (·.ask r) with
  | .ok reply => return reply
  | .error e =>
    let status := match e with
      | .notRegistered _ => 404
      | .inSession _ | .givenUp _ => 409
    throw (.refused status e.message)

/-- The data set of a profile. Only a profile that is missing itself is not found. -/
def compiled (u : Uuid) : Handler DataSet.Compiled := do
  match ← modifyGet (·.compile u) with
  | .ok c => return c
  | .error e =>
    throw (.refused (if e = .dangling .profile u then 404 else 422) e.message)

end Handler

/-! ### Bodies -/

/-- The priority that a body asks for. -/
def priority : Record Link.Priority :=
  .defaulted "priority" Link.Priority.decode .high

/-- What is shown of a profile. -/
def profileSummary (p : Profile) : Json :=
  .obj [("uuid", p.uuid.toJson), ("name", .str p.name), ("die_type", p.dieKind.toJson),
    ("rules", .nat p.rules.length), ("animations", .nat p.animationRefs.length),
    ("brightness", .single p.brightness)]

/-- What is shown of a data set beside its records. -/
def dataSetSummary (c : DataSet.Compiled) : List (String × Json) :=
  [("profile", c.profile.toJson), ("hash", .nat c.hash.toNat), ("size", .nat c.bytes.length)]

/-- The host actions of a data set. -/
def remoteActions (c : DataSet.Compiled) : String × Json :=
  ("remote_actions", .list DataSet.RemoteAction.toJson c.remoteActions)

/-! ### Routes -/

namespace Handler

/-- A data set is compiled and queued for a die, unless the die holds it. -/
def program (id : String) (r : HttpRequest) : Handler HttpResponse := do
  let (profile, priority) ← body r (Prod.mk <$> .field "profile" Uuid.decode <*> priority)
  let p ← pixel id
  let c ← compiled profile
  let reply ← granted (.program p ⟨c.profile, c.bytes, c.hash⟩ priority)
  return .ok (.obj (dataSetSummary c ++ reply.toJson.entries))

/-- An update is queued for a die, if there are images. -/
def updateFirmware (id : String) (r : HttpRequest) : Handler HttpResponse := do
  let (force, priority) ← body r (Prod.mk <$> .defaulted "force" Decoder.bool false <*> priority)
  let p ← pixel id
  match (← get).firmware with
  | none => throw (.refused 404 "No firmware images configured")
  | some image => return .ok (← granted (.updateFirmware p image force priority)).toJson

/-- A data set is compiled and shown. -/
def showDataSet (text : String) : Handler HttpResponse := do
  match Uuid.parse? text with
  | none => throw (.bare 400)
  | some u =>
    let c ← compiled u
    match DataSet.Contents.parse c.bytes with
    | .error e => throw (.refused 500 ("Compiled DataSet is malformed: " ++ e.message))
    | .ok records =>
      return .ok (.obj (dataSetSummary c
        ++ [("animations", .list Uuid.toJson c.animations), remoteActions c,
          ("records", records.toJson)]))

/-- The answer of a route. The path is looked at first, then the body. -/
def ofRoute (r : HttpRequest) : Route → Handler HttpResponse
  | .peripherals => return .ok (.list Member.toJson (← get).world.state.members.values)
  | .peripheral id => do
    let p ← pixel (← part id)
    match (← get).world.state.member? p with
    | some m => return .ok m.toJson
    | none => throw (.refused 404 "Peripheral not found")
  | .connect id => do
    let id ← part id
    let level ← body r priority
    return .ok (← granted (.connect (← pixel id) level)).toJson
  | .program id => do program (← part id) r
  | .cancel id => do
    let _ ← granted (.cancel (← pixel (← part id)))
    return .ok (.obj [("status", .str "cancelled")])
  | .retry id => do
    let _ ← granted (.retry (← pixel (← part id)))
    return .ok (.obj [("status", .str "queued")])
  | .firmware id => do updateFirmware (← part id) r
  | .queue => return .ok (← get).world.state.queue.toJson
  | .adapter => do
    let a ← body r (.field "state" Link.AdapterState.decode)
    modify fun s => s.advance (s.world.step (.adapter a))
    return .ok (.obj [("adapter", a.toJson)])
  | .profiles => do
    let sorted := (← get).library.profiles.toList.mergeSort fun p q => p.name ≤ q.name
    return .ok (.list profileSummary sorted)
  | .dataSet profile => do showDataSet (← part profile)
  | .stream => throw (.bare 400)

end Handler

/-- The answer to a request. Any path may be asked for its options; a request without body
gets the answer without body. -/
def respond (s : Service) (r : HttpRequest) : HttpResponse × Service :=
  if r.method = "OPTIONS" then (.bare 200, s)
  else
    match Route.ofPath? (path r.target) with
    | none => (.bare 404, s)
    | some route =>
      if route.allows r.method then
        let (response, s) := (Handler.ofRoute r route).answer s
        (if r.method = "HEAD" then { response with body := none } else response, s)
      else (.bare 405, s)

end DiceHost.Service
