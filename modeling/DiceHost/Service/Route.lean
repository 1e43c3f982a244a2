/-
The routes of the service.

* `HttpRequest`, `HttpResponse`: what a client asks for, and what it gets;
* `Route`: what can be asked for, with the parts of the path that vary;
* `Route.ofPath?`: the route of a path; a varying part is never empty;
* `percentDecode?`: a part of a path with its escapes resolved.
-/
import DiceHost.Json.Value

namespace DiceHost.Service

/-- What a client asks for. -/
structure HttpRequest where
  method : String
  /-- The path, perhaps after a scheme and a host, and perhaps before a query. -/
  target : String
  /-- Whether the body is marked as JSON. -/
  isJson : Bool
  body : String

/-- What a client gets; a body is a JSON document. -/
structure HttpResponse where
  status : Nat
  body : Option Json := none

namespace HttpResponse

/-- A document. -/
def ok (body : Json) : HttpResponse := ⟨200, some body⟩

/-- A refusal with its reason in words. -/
def refused (status : Nat) (message : String) : HttpResponse :=
  ⟨status, some (.obj [("error", .str message)])⟩

/-- A refusal without words. -/
def bare (status : Nat) : HttpResponse := ⟨status, none⟩

/-- What is shown of a response. -/
def toJson (r : HttpResponse) : Json :=
  .obj [("status", .nat r.status), ("body", r.body.getD .null)]

end HttpResponse

/-! ### Paths -/

/-- The bytes of a text with its escapes resolved; what is no escape stands for itself. -/
def percentBytes : List UInt8 → List UInt8
  | 0x25 :: a :: b :: bs =>
    match Text.Hex.bytes? [Char.ofNat a.toNat, Char.ofNat b.toNat] with
    | some [x] => x :: percentBytes bs
    | _ => 0x25 :: percentBytes (a :: b :: bs)
  | x :: bs => x :: percentBytes bs
  | [] => []

/-- A text with its escapes resolved; none when that is no text. -/
def percentDecode? (s : String) : Option String :=
  String.fromUTF8? (ByteArray.mk (percentBytes s.toUTF8.toList).toArray)

/-- The path of a target: without scheme and host, query and fragment. -/
def path (target : String) : String :=
  let cs := target.toList.takeWhile fun c => c ≠ '?' && c ≠ '#'
  match cs with
  | '/' :: _ => String.ofList cs
  | _ => String.ofList (((cs.dropWhile (· ≠ '/')).drop 2).dropWhile (· ≠ '/'))

/-! ### Routes -/

/-- What can be asked for. -/
inductive Route where
  | peripherals
  | peripheral (id : String)
  | connect (id : String)
  | program (id : String)
  | cancel (id : String)
  | retry (id : String)
  | firmware (id : String)
  | queue
  | adapter
  | profiles
  | dataSet (profile : String)
  | stream
deriving DecidableEq, Repr

namespace Route

/-- The route of a path, by its parts. -/
def ofPath? (path : String) : Option Route :=
  match path.splitOn "/" with
  | ["", "api", "peripherals"] => some peripherals
  | ["", "api", "peripherals", id] => if id = "" then none else some (peripheral id)
  | ["", "api", "peripherals", id, verb] =>
    if id = "" then none
    else
      match verb with
      | "connect" => some (connect id)
      | "profile" => some (program id)
      | "cancel" => some (cancel id)
      | "retry" => some (retry id)
      | "firmware" => some (firmware id)
      | _ => none
  | ["", "api", "queue"] => some queue
  | ["", "api", "adapter"] => some adapter
  | ["", "api", "profiles"] => some profiles
  | ["", "api", "profiles", profile, "dataset"] =>
    if profile = "" then none else some (dataSet profile)
  | ["", "ws"] => some stream
  | _ => none

/-- Whether a route only reads; all others change something. -/
def isReading : Route → Bool
  | peripherals | peripheral _ | queue | profiles | dataSet _ | stream => true
  | _ => false

/-- Whether a route has a method. What can be read can also be asked for without a body,
except for the stream. -/
def allows (r : Route) (method : String) : Bool :=
  if r.isReading then method = "GET" || (method = "HEAD" && r ≠ .stream) else method = "POST"

end Route

end DiceHost.Service
