/-
  What can be wrong with the values that a picture is computed from.

  A problem is a cause with its data; the wording is given once, in `message`.
-/
import LitSpheres.ByteStore
import LitSpheres.Decimal.Layout

namespace LitSpheres

/-- Values that cannot be used as asked. -/
inductive ValueProblem where
  /-- A whole number is taken of what is no number. -/
  | wholeOfNaN
  /-- A whole number is taken of an infinity. -/
  | wholeOfInfinity
  /-- An integer lies beyond the largest float. -/
  | integerTooLarge
  /-- A number is divided by zero. -/
  | divisionByZero
  /-- A canvas without rows or columns. -/
  | canvasSize (width height : Int)
  /-- A viewport side that is not positive. -/
  | viewportSide (name : String) (size : Float)
  /-- A sphere radius that is not positive. -/
  | sphereRadius (radius : Float)
  /-- A frame that does not hold four bytes for each pixel of its canvas. -/
  | frameSize (held width height : Nat)
  /-- A color of four bytes is put where the frame has room for fewer. -/
  | frameRoom (store : ByteStore) (room : Nat)
  /-- A byte is written where the frame has none. -/
  | frameIndex (store : ByteStore) (index : Int) (size : Nat)
  /-- A frame of more bytes than can be counted. -/
  | frameUncountable (store : ByteStore)
  /-- A frame of more bytes than there is memory for. -/
  | frameMemory (store : ByteStore) (size : Nat)
  /-- Bytes that are no picture of the wanted number of bytes. -/
  | pictureSize (held wanted : Int)
  /-- A side of a picture is negative, though its number of bytes is right. -/
  | pictureSides (width height : Int)
  /-- A side of a picture is no number that an index can be. -/
  | pictureSideUncountable
  /-- A picture without pixels has a side of more bytes than can be counted. -/
  | pictureUncountable
  /-- A side of a picture that is saved is no signed word of 32 bits. -/
  | savedSide
  /-- A picture without pixels is saved. -/
  | savedEmpty
  /-- A picture without pixels is shown. -/
  | shownEmpty
  /-- The path of a file holds a null character, which no path does. -/
  | nullInPath
  /-- A light is made of a definition of another kind, which is shown here. -/
  | notALight (shown : String)
  /-- A file name whose ending belongs to no picture format. -/
  | pictureFormat (ending : String)

namespace ValueProblem

/-- What is said of negative sides: one of them could follow from the number of bytes, if that is not
    zero, but not two. -/
def sidesMessage (width height : Int) : String :=
  if width < 0 ∧ height < 0 then "can only specify one unknown dimension"
  else if height < 0 then s!"cannot reshape array of size 0 into shape ({width},4)"
  else s!"cannot reshape array of size 0 into shape ({height},newaxis,4)"

def message : ValueProblem → String
  | wholeOfNaN => "cannot convert float NaN to integer"
  | wholeOfInfinity => "cannot convert float infinity to integer"
  | integerTooLarge => "int too large to convert to float"
  | divisionByZero => "float division by zero"
  | canvasSize w h => s!"Canvas dimensions must be positive, got {w}x{h}"
  | viewportSide name size => s!"Viewport {name} must be positive, got {NumberLayout.message.write size}"
  | sphereRadius r => s!"Sphere radius must be positive, got {NumberLayout.message.write r}"
  | frameSize held w h => s!"Frame holds {held} bytes but a {w}x{h} canvas needs {w * h * 4}"
  | frameRoom store room => store.roomMessage room
  | frameIndex store index size => store.indexMessage index size
  | frameUncountable store => store.countMessage
  | frameMemory store size => store.memoryMessage size
  | pictureSize held wanted => s!"Frame holds {held} bytes, expected {wanted}"
  | pictureSides w h => sidesMessage w h
  | pictureSideUncountable => ByteStore.lengthMessage
  | pictureUncountable =>
    "array is too big; `arr.size * arr.dtype.itemsize` is larger than the maximum possible size."
  | savedSide => "signed integer is greater than maximum"
  | savedEmpty => "cannot write empty image"
  | shownEmpty => "zero-size array to reduction operation minimum which has no identity"
  | nullInPath => "embedded null byte"
  | notALight shown => s!"Not a light definition: {shown}"
  | pictureFormat ending => s!"unknown file extension: {ending}"

end ValueProblem
end LitSpheres
