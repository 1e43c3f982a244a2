/-
The rolling hash by which host and die tell data sets apart.

* `hash`: from the seed 5381, every byte multiplies the hash by 33 and is then added to
  it without carries.
-/
namespace DiceHost.DataSet

/-- The hash of no bytes. -/
def hashSeed : UInt32 := 5381

/-- The hash after one more byte. -/
def hashStep (h : UInt32) (b : UInt8) : UInt32 :=
  (h * 33) ^^^ b.toUInt32

/-- The hash of some bytes. -/
def hash (bytes : List UInt8) : UInt32 :=
  bytes.foldl hashStep hashSeed

end DiceHost.DataSet
