/-
The cache of compiled data sets.

* `contentDigest`: the digest of everything that the compilation of a profile reads;
* `Cache`: compiled data sets by profile, each with that digest and its dependencies;
* `Cache.getOrCompile`: the data set of a profile, from the cache when the digest is still
  the same;
* `Cache.applyEvent`: entries dropped after a change of the library.
-/
import DiceHost.DataSet.Compile
import DiceHost.DataSet.Sha256

namespace DiceHost.DataSet

/-- The bytes of a document followed by a zero byte. -/
def digestPart (j : Json) : List UInt8 :=
  (String.ofList j.compact).toUTF8.toList ++ [0]

/-- The bytes of everything that a compilation reads: the profile, its animations, its
patterns and the options. -/
def contentBytes (p : Profile) (d : Dependencies) (l : Library) (o : CompileOptions) :
    List UInt8 :=
  digestPart p.toJson
    ++ d.animations.flatMap (fun u => digestPart (.opt Animation.toJson (l.animation? u)))
    ++ d.patterns.flatMap (fun u => digestPart (.opt Pattern.toJson (l.pattern? u)))
    ++ digestPart o.toJson

/-- The digest of everything that a compilation reads. -/
def contentDigest (p : Profile) (d : Dependencies) (l : Library) (o : CompileOptions) :
    String :=
  sha256Hex (contentBytes p d l o)

/-- A compiled data set with what it was compiled from. -/
structure CacheEntry where
  digest : String
  dependencies : Dependencies
  compiled : Compiled
deriving DecidableEq, Repr

/-- Compiled data sets by profile, and how often one was found or not. -/
structure Cache where
  entries : List (Uuid × CacheEntry) := []
  hits : Nat := 0
  misses : Nat := 0
deriving DecidableEq, Repr

namespace Cache

/-- The entry of a profile. -/
def entry? (c : Cache) (u : Uuid) : Option CacheEntry :=
  (c.entries.find? (·.1 = u)).map (·.2)

/-- The data set kept for a profile. -/
def get? (c : Cache) (u : Uuid) : Option Compiled :=
  (c.entry? u).map (·.compiled)

/-- The cache with an entry in place of any other of the profile. -/
def put (c : Cache) (u : Uuid) (e : CacheEntry) : Cache :=
  { c with entries := (u, e) :: c.entries.filter (·.1 ≠ u) }

/-- The data set of a profile: from the cache when everything that its compilation reads
has the same digest, else compiled and kept. The profile and its dependencies are looked
up first, and a failure there counts neither as found nor as missed. -/
def getOrCompile (c : Cache) (u : Uuid) (l : Library) (o : CompileOptions) :
    Except CompileError Compiled × Cache :=
  match l.profile? u with
  | none => (.error (.dangling .profile u), c)
  | some p =>
    match dependencies p l with
    | .error e => (.error e, c)
    | .ok d =>
      let digest := contentDigest p d l o
      match (c.entry? u).filter (·.digest = digest) with
      | some e => (.ok e.compiled, { c with hits := c.hits + 1 })
      | none =>
        let missed := { c with misses := c.misses + 1 }
        match compile p l o with
        | .error e => (.error e, missed)
        | .ok compiled => (.ok compiled, missed.put u ⟨digest, d, compiled⟩)

/-- The cache without the entry of a profile. -/
def invalidate (c : Cache) (u : Uuid) : Cache :=
  { c with entries := c.entries.filter (·.1 ≠ u) }

/-- Whether a data set was compiled from an animation or pattern. -/
def CacheEntry.dependsOn (e : CacheEntry) (u : Uuid) : Bool :=
  u ∈ e.dependencies.animations || u ∈ e.dependencies.patterns

/-- The cache without the entries that depend on an animation or pattern. -/
def invalidateDependency (c : Cache) (u : Uuid) : Cache :=
  { c with entries := c.entries.filter fun (_, e) => !CacheEntry.dependsOn e u }

/-- The cache after a change of the library. -/
def applyEvent (c : Cache) (e : LibraryEvent) : Cache :=
  match e.kind with
  | .profile => c.invalidate e.uuid
  | .animation | .pattern => c.invalidateDependency e.uuid

/-- The numbers of entries, of data sets found and of data sets missed. -/
def stats (c : Cache) : Json :=
  .obj [("entries", .nat c.entries.length), ("hits", .nat c.hits), ("misses", .nat c.misses)]

/-- The cache without entries. -/
def clear (c : Cache) : Cache :=
  { c with entries := [] }

end Cache

end DiceHost.DataSet
