/-
The text of a library file.

* `Library.Contents.toJson`, `Library.Contents.record`: the document of a library;
* `Library.save`: the indented text of that document;
* `Library.load`: the library of a text, or why there is none.
-/
import DiceHost.Library.Basic

namespace DiceHost.Library

/-- The document of a library. -/
def Contents.toJson (c : Contents) : Json :=
  .obj [("profiles", .list Profile.toJson c.profiles),
    ("animations", .list Animation.toJson c.animations),
    ("patterns", .list Pattern.toJson c.patterns)]

/-- The entities of a document; a kind that is left out has none. -/
def Contents.record : Json.Record Contents :=
  Contents.mk <$> .defaulted "profiles" (Json.Decoder.list Profile.record.decode) []
    <*> .defaulted "animations" (Json.Decoder.list Animation.decode) []
    <*> .defaulted "patterns" (Json.Decoder.list Pattern.record.decode) []

/-- The text of a library. -/
def save (l : Library) : String :=
  String.ofList l.contents.toJson.pretty

/-- Why a text gives no library. -/
inductive LoadError where
  | json
  | entity (e : EntityError)

/-- The error in words. -/
def LoadError.message : LoadError → String
  | json => "JSON error"
  | entity e => "invalid library entry: " ++ e.message

/-- The error as an object. -/
def LoadError.toJson (e : LoadError) : Json :=
  match e with
  | json => .obj [("error", .str "JsonError")]
  | entity _ => .failure "LoadEntity" e.message

/-- The library of a text. -/
def load (text : String) : Except LoadError Library :=
  match Json.decodeText Contents.record.decode text.toList with
  | .error _ => .error .json
  | .ok c => (ofContents c).mapError .entity

end DiceHost.Library
