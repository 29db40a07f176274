import ScopedQuery.Json.Writer
/-!
# Ids of requests

`requestIdOf` writes sixteen random bytes as a unique id: 32 hexadecimal digits in five groups, of
which the 13th tells the version, 4, and the 17th the variant.
-/

namespace ScopedQuery.CommandLine

/-- The bytes of an id, with version and variant in their places. -/
def markedBytes (bytes : List UInt8) : List UInt8 :=
  bytes.zipIdx.map fun byte =>
    if byte.2 = 6 then (byte.1 &&& 0x0f) ||| 0x40
    else if byte.2 = 8 then (byte.1 &&& 0x3f) ||| 0x80
    else byte.1

def hexDigits (byte : UInt8) : List Char :=
  [Json.hexDigit (byte.toNat / 16), Json.hexDigit (byte.toNat % 16)]

/-- The places of the bytes behind which a group ends. -/
def groupEnds : List Nat := [3, 5, 7, 9]

def requestIdOf (bytes : List UInt8) : String :=
  String.ofList ((markedBytes bytes).zipIdx.flatMap fun byte =>
    hexDigits byte.1 ++ if groupEnds.contains byte.2 then ['-'] else [])

end ScopedQuery.CommandLine
