/-
Little-endian words as bytes.

* `bytes16`, `bytes32`: the bytes of a word, the lowest first;
* `word16`, `word32`: the word of some bytes.
-/
namespace DiceHost.DataSet

/-- The two bytes of a word. -/
def bytes16 (w : UInt16) : List UInt8 :=
  [w.toUInt8, (w >>> 8).toUInt8]

/-- The four bytes of a word. -/
def bytes32 (w : UInt32) : List UInt8 :=
  [w.toUInt8, (w >>> 8).toUInt8, (w >>> 16).toUInt8, (w >>> 24).toUInt8]

/-- The word of two bytes. -/
def word16 (a b : UInt8) : UInt16 :=
  a.toUInt16 ||| (b.toUInt16 <<< 8)

/-- The word of four bytes. -/
def word32 (a b c d : UInt8) : UInt32 :=
  a.toUInt32 ||| (b.toUInt32 <<< 8) ||| (c.toUInt32 <<< 16) ||| (d.toUInt32 <<< 24)

end DiceHost.DataSet
