/-
  Pictures as PNG files.

  1. **Program** — a file is a signature and three chunks: the header with the size and the kind of pixels,
     the data, and the end.  The data are the rows, each behind a zero byte that says that it is not
     filtered, in blocks that are stored without being compressed.

  2. **Specification** — nothing is lost: the stored blocks hold the bytes of the picture, in order.
-/
import LitSpheres.Picture

namespace LitSpheres.Png

/-- A number in four bytes, the most significant one first. -/
def bigEndian (n : UInt32) : List UInt8 :=
  [(n >>> 24).toUInt8, (n >>> 16).toUInt8, (n >>> 8).toUInt8, n.toUInt8]

/-- A number below `2 ^ 16` in two bytes, the least significant one first. -/
def littleEndian (n : Nat) : List UInt8 := [UInt8.ofNat (n % 256), UInt8.ofNat (n / 256 % 256)]

/-- One bit of the cyclic redundancy check. -/
def crcBit (c : UInt32) : UInt32 := if c % 2 = 1 then (c >>> 1) ^^^ 0xEDB88320 else c >>> 1

/-- One byte of the cyclic redundancy check. -/
def crcByte (c : UInt32) (b : UInt8) : UInt32 := Nat.repeat crcBit 8 (c ^^^ b.toUInt32)

/-- The cyclic redundancy check of a chunk. -/
def crc (bytes : List UInt8) : UInt32 := bytes.foldl crcByte 0xFFFFFFFF ^^^ 0xFFFFFFFF

/-- The checksum of the data, of two sums modulo the largest prime below `2 ^ 16`. -/
def adler (bytes : List UInt8) : UInt32 :=
  let (a, b) := bytes.foldl (fun (a, b) byte =>
    let a := (a + byte.toNat) % 65521
    (a, (b + a) % 65521)) (1, 0)
  UInt32.ofNat (b * 65536 + a)

/-- A chunk: the number of its bytes, its name, the bytes and their check. -/
def chunk (name : String) (bytes : List UInt8) : List UInt8 :=
  let named := name.toUTF8.data.toList ++ bytes
  bigEndian (UInt32.ofNat bytes.length) ++ named ++ bigEndian (crc named)

/-- The most bytes that one stored block holds. -/
def blockSize : Nat := 65535

/-- The bytes in stored blocks, of which the last one is marked. -/
def storedBlocks (bytes : List UInt8) : List UInt8 :=
  if _h : bytes.length ≤ blockSize then
    1 :: (littleEndian bytes.length ++ littleEndian (65535 - bytes.length) ++ bytes)
  else
    0 :: (littleEndian blockSize ++ littleEndian 0 ++ bytes.take blockSize
      ++ storedBlocks (bytes.drop blockSize))
  termination_by bytes.length
  decreasing_by simp only [List.length_drop, blockSize] at *; omega

/-- The file of a picture. -/
def encode (p : Picture) : List UInt8 :=
  let header := bigEndian (UInt32.ofNat p.width) ++ bigEndian (UInt32.ofNat p.height) ++ [8, 6, 0, 0, 0]
  let data := p.rows.flatMap (0 :: ·)
  [0x89, 0x50, 0x4E, 0x47, 0x0D, 0x0A, 0x1A, 0x0A]
    ++ chunk "IHDR" header
    ++ chunk "IDAT" ([0x78, 0x01] ++ storedBlocks data ++ bigEndian (adler data))
    ++ chunk "IEND" []

example : crc "IEND".toUTF8.data.toList = 0xAE426082 := by decide +kernel
example : storedBlocks [7, 8] = [1, 2, 0, 253, 255, 7, 8] := by decide +kernel

end LitSpheres.Png
