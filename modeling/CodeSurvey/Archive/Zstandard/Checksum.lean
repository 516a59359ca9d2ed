/-
Checksums of 64 bits.

Rows of 32 bytes are worked into four lanes side by side. The lanes are merged into one number, what is left behind the
rows is worked in eight, four and one byte at a time, and at last high bits are brought down into low ones.
-/
import CodeSurvey.Archive.Record

namespace CodeSurvey.Zstandard

open Text Record

/-- the multipliers of checksums -/
def prime1 : UInt64 := 0x9E3779B185EBCA87
def prime2 : UInt64 := 0xC2B2AE3D27D4EB4F
def prime3 : UInt64 := 0x165667B19E3779F9
def prime4 : UInt64 := 0x85EBCA77C2B2AE63
def prime5 : UInt64 := 0x27D4EB2F165667C5

/-- the bits turned to the left -/
def turned (x : UInt64) (n : UInt64) : UInt64 := (x <<< n) ||| (x >>> (64 - n))

/-- a lane with a number worked in -/
def mixed (lane input : UInt64) : UInt64 := turned (lane + input * prime2) 31 * prime1

/-- the checksum with a lane worked in -/
def merged (sum lane : UInt64) : UInt64 := (sum ^^^ mixed 0 lane) * prime1 + prime4

/-- four lanes with all the rows of 32 bytes worked in, and the bytes behind them -/
def lanes (fuel : Nat) (a b c d : UInt64) (bytes : Bytes) : (UInt64 × UInt64 × UInt64 × UInt64) × Bytes :=
  match fuel, take? 32 bytes with
  | fuel + 1, some (row, rest) =>
    let number := fun i => UInt64.ofNat (littleEndian ((row.drop (8 * i)).take 8))
    lanes fuel (mixed a (number 0)) (mixed b (number 1)) (mixed c (number 2)) (mixed d (number 3)) rest
  | _, _ => ((a, b, c, d), bytes)

/-- the checksum with bytes worked in that make no row -/
def remaining (fuel : Nat) (sum : UInt64) (bytes : Bytes) : UInt64 :=
  match fuel, bytes with
  | _, [] => sum
  | 0, _ => sum
  | fuel + 1, b :: rest =>
    match number? 8 bytes, number? 4 bytes with
    | some (n, rest), _ =>
      remaining fuel (turned (sum ^^^ mixed 0 (UInt64.ofNat n)) 27 * prime1 + prime4) rest
    | none, some (n, rest) =>
      remaining fuel (turned (sum ^^^ (UInt64.ofNat n * prime1)) 23 * prime2 + prime3) rest
    | none, none => remaining fuel (turned (sum ^^^ (b.toUInt64 * prime5)) 11 * prime1) rest

/-- the checksum of the bytes -/
def checksum (bytes : Bytes) : UInt64 :=
  let length := bytes.length
  let (sum, rest) :=
    if length < 32 then (prime5, bytes)
    else
      let ((a, b, c, d), rest) := lanes length (prime1 + prime2) prime2 0 (0 - prime1) bytes
      ([a, b, c, d].foldl merged (turned a 1 + turned b 7 + turned c 12 + turned d 18), rest)
  let sum := remaining length (sum + UInt64.ofNat length) rest
  let sum := (sum ^^^ (sum >>> 33)) * prime2
  let sum := (sum ^^^ (sum >>> 29)) * prime3
  sum ^^^ (sum >>> 32)

end CodeSurvey.Zstandard
