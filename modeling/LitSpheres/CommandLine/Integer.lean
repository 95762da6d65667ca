/-
  Integers as they are typed on a command line.

  1. **Program** — blanks around an integer are left out; then come an optional sign and digits, between
     which single underscores may stand.  Every script's decimal digits count.

  2. **Specification** — a text of more than 4300 digits is no integer, and neither is one with any other
     character in it.
-/
namespace LitSpheres.CommandLine

/-- The zero of each script's decimal digits; its other nine digits follow it. -/
def digitZeros : List Nat :=
  [0x30, 0x660, 0x6F0, 0x7C0, 0x966, 0x9E6, 0xA66, 0xAE6, 0xB66, 0xBE6, 0xC66, 0xCE6, 0xD66, 0xDE6,
    0xE50, 0xED0, 0xF20, 0x1040, 0x1090, 0x17E0, 0x1810, 0x1946, 0x19D0, 0x1A80, 0x1A90, 0x1B50, 0x1BB0,
    0x1C40, 0x1C50, 0xA620, 0xA8D0, 0xA900, 0xA9D0, 0xA9F0, 0xAA50, 0xABF0, 0xFF10, 0x104A0, 0x10D30,
    0x11066, 0x110F0, 0x11136, 0x111D0, 0x112F0, 0x11450, 0x114D0, 0x11650, 0x116C0, 0x11730, 0x118E0,
    0x11950, 0x11C50, 0x11D50, 0x11DA0, 0x16A60, 0x16AC0, 0x16B50, 0x1D7CE, 0x1D7D8, 0x1D7E2, 0x1D7EC,
    0x1D7F6, 0x1E140, 0x1E2F0, 0x1E950, 0x1FBF0]

/-- The value of a decimal digit of any script. -/
def digitValue? (c : Char) : Option Nat :=
  (digitZeros.find? fun first => first ≤ c.toNat && c.toNat < first + 10).map (c.toNat - ·)

/-- A blank that may stand around an integer. -/
def isBlank (c : Char) : Bool :=
  let n := c.toNat
  n == 0x20 || (0x9 ≤ n && n ≤ 0xD) || n == 0x85 || n == 0xA0 || n == 0x1680 || (0x2000 ≤ n && n ≤ 0x200A)
    || n == 0x2028 || n == 0x2029 || n == 0x202F || n == 0x205F || n == 0x3000

/-- The text without the blanks around it. -/
def strip (cs : List Char) : List Char :=
  ((cs.dropWhile isBlank).reverse.dropWhile isBlank).reverse

/-- The digits of a text in which single underscores may stand between them. -/
def digits? : List Char → Option (List Nat)
  | [] => none
  | [c] => (digitValue? c).map ([·])
  | c :: '_' :: cs => do
    let d ← digitValue? c
    let ds ← digits? cs
    some (d :: ds)
  | c :: cs => do
    let d ← digitValue? c
    let ds ← digits? cs
    some (d :: ds)

/-- The most digits an integer may have. -/
def mostDigits : Nat := 4300

/-- The natural number that a text of digits stands for. -/
def natural? (cs : List Char) : Option Nat := do
  let ds ← digits? cs
  if ds.length ≤ mostDigits then some (ds.foldl (fun n d => n * 10 + d) 0) else none

/-- The integer that a text stands for. -/
def integer? (s : String) : Option Int :=
  match strip s.toList with
  | '-' :: cs => (natural? cs).map fun n => -(n : Int)
  | '+' :: cs => (natural? cs).map fun n => (n : Int)
  | cs => (natural? cs).map fun n => (n : Int)

example : digits? "1_000".toList = some [1, 0, 0, 0] := by decide
example : digits? "1__0".toList = none ∧ digits? "_1".toList = none ∧ digits? "1_".toList = none := by
  decide
example : strip " 2 ".toList = ['2'] := by decide

end LitSpheres.CommandLine
