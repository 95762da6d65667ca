/-
  The ways in which the bytes of a frame are kept.

  They hold bytes alike, and differ only in what happens beyond the last byte, and in what is said when
  there are more bytes than can be kept.
-/
import LitSpheres.Text.BinarySize

namespace LitSpheres

/-- How bytes are kept. -/
inductive ByteStore where
  /-- A fixed number of bytes, of which ranges are filled. -/
  | array
  /-- Bytes that make room for more behind the last one. -/
  | growing
  /-- A fixed number of bytes, of which ranges are replaced by ranges of the same length. -/
  | view
deriving DecidableEq, Repr

namespace ByteStore

/-- The largest index, and the largest number of bytes: both are signed words of 64 bits. -/
def lastIndex : Nat := 9223372036854775807

/-- Whether an integer is a signed word of 64 bits. -/
def isIndex (n : Int) : Bool := -9223372036854775808 ≤ n && n ≤ lastIndex

/-- A tebibyte: so many bytes are more than there is memory for. -/
def memorySize : Nat := 1099511627776

/-- What is said of a number that is no index. -/
def noIndexMessage : String := "cannot fit 'int' into an index-sized integer"

/-- What is said of a side or a length that is no index. -/
def lengthMessage : String := "Maximum allowed dimension exceeded"

/-- What is said when more bytes are asked for than can be counted. -/
def countMessage (store : ByteStore) : String :=
  match store with
  | array => lengthMessage
  | growing | view => noIndexMessage

/-- What is said when more bytes are asked for than there is memory for. -/
def memoryMessage (store : ByteStore) (size : Nat) : String :=
  match store with
  | array => s!"Unable to allocate {Text.BinarySize.write size} for an array with shape ({size},) and data type uint8"
  | growing | view => ""

/-- What is said when four bytes are put where there is room for fewer. -/
def roomMessage (store : ByteStore) (room : Nat) : String :=
  match store with
  | array | growing => s!"could not broadcast input array from shape (4,) into shape ({room},)"
  | view => "memoryview assignment: lvalue and rvalue have different structures"

/-- What is said when there is no byte of the given index. -/
def indexMessage (store : ByteStore) (index : Int) (size : Nat) : String :=
  if isIndex index then
    match store with
    | array => s!"index {index} is out of bounds for axis 0 with size {size}"
    | growing => "bytearray index out of range"
    | view => "index out of bounds on dimension 1"
  else noIndexMessage

end ByteStore
end LitSpheres
