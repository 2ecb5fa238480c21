import ProxyFilter.Bytes

/-!
# Words of thirty-two bits

What the digests share: octets as words and back in both orders, rotation, the cutting of a message
into blocks and its padding to whole blocks.
-/

namespace ProxyFilter.Digest

/-- Rotation to the left by `n` bits, for `n` between 1 and 31. -/
def rotateLeft (x : UInt32) (n : UInt32) : UInt32 := (x <<< n) ||| (x >>> (32 - n))

/-- Rotation to the right by `n` bits, for `n` between 1 and 31. -/
def rotateRight (x : UInt32) (n : UInt32) : UInt32 := (x >>> n) ||| (x <<< (32 - n))

/-- The octets of a word, the highest first. -/
def bigEndian (x : UInt32) : Bytes :=
  [(x >>> 24).toUInt8, (x >>> 16).toUInt8, (x >>> 8).toUInt8, x.toUInt8]

/-- The octets of a word, the lowest first. -/
def littleEndian (x : UInt32) : Bytes :=
  [x.toUInt8, (x >>> 8).toUInt8, (x >>> 16).toUInt8, (x >>> 24).toUInt8]

/-- The words of a block whose octets stand highest first. -/
def bigEndianWords : Bytes → List UInt32
  | a :: b :: c :: d :: rest =>
    ((a.toUInt32 <<< 24) ||| (b.toUInt32 <<< 16) ||| (c.toUInt32 <<< 8) ||| d.toUInt32)
      :: bigEndianWords rest
  | _ => []

/-- The words of a block whose octets stand lowest first. -/
def littleEndianWords : Bytes → List UInt32
  | a :: b :: c :: d :: rest =>
    ((d.toUInt32 <<< 24) ||| (c.toUInt32 <<< 16) ||| (b.toUInt32 <<< 8) ||| a.toUInt32)
      :: littleEndianWords rest
  | _ => []

/-- The eight octets of a number, the highest first. -/
def lengthOctets (n : Nat) : Bytes :=
  [56, 48, 40, 32, 24, 16, 8, 0].map fun shift => UInt8.ofNat (n >>> shift)

/-- A message followed by a one bit, zeros and eight octets that hold its length, so that the whole
is a multiple of sixty-four octets long. -/
def pad (length : Bytes) (message : Bytes) : Bytes :=
  message ++ 0x80 :: List.replicate ((119 - message.length % 64) % 64) 0 ++ length

/-- The first `count` blocks of sixty-four octets. -/
def blocks : Nat → Bytes → List Bytes
  | 0, _ => []
  | count + 1, bytes => bytes.take 64 :: blocks count (bytes.drop 64)

/-- All whole blocks of sixty-four octets. -/
def allBlocks (bytes : Bytes) : List Bytes := blocks (bytes.length / 64) bytes

end ProxyFilter.Digest
