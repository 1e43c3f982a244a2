/-
Edits of entities: new values for some of their fields.

* `Profile.edit`, `Animation.edit`, `Pattern.edit`: the change that an object asks for; a
  field that it does not have is left as it is.
-/
import DiceHost.Library.Basic

namespace DiceHost

open Json

namespace Json.Record

/-- A field that is changed if it is there. -/
def change {α β : Type} (name : String) (d : Decoder β) (f : β → α → α) : Record (α → α) :=
  .defaulted name (fun n => (d n).map f) id

/-- One change after another. -/
def andThen {α : Type} (r s : Record (α → α)) : Record (α → α) :=
  (fun f g => g ∘ f) <$> r <*> s

end Json.Record

open Json.Record

/-- An edit of a profile. -/
def Profile.edit : Record (Profile → Profile) :=
  ((((change "uuid" Uuid.decode fun x p => { p with uuid := x }).andThen
    (change "name" Decoder.string fun x p => { p with name := x })).andThen
    (change "description" Decoder.string fun x p => { p with description := x })).andThen
    (change "die_type" DieKind.decode fun x p => { p with dieKind := x })).andThen
    ((change "rules" (Decoder.list Rule.record.decode) fun x p => { p with rules := x }).andThen
    (change "brightness" Decoder.singleOrName fun x p => { p with brightness := x }))

/-- An edit of an animation. -/
def Animation.edit : Record (Animation → Animation) :=
  (((change "uuid" Uuid.decode fun x a => { a with uuid := x }).andThen
    (change "name" Decoder.string fun x a => { a with name := x })).andThen
    (change "duration_ms" Decoder.word32 fun x a => { a with duration := x })).andThen
    ((change "face_mask" Decoder.word32 fun x a => { a with faceMask := x }).andThen
    (change "kind" AnimationKind.decode fun x a => { a with kind := x }))

/-- An edit of a pattern. -/
def Pattern.edit : Record (Pattern → Pattern) :=
  ((change "uuid" Uuid.decode fun x p => { p with uuid := x }).andThen
    (change "name" Decoder.string fun x p => { p with name := x })).andThen
    (change "tracks" (Decoder.list PatternTrack.record.decode) fun x p => { p with tracks := x })

end DiceHost
