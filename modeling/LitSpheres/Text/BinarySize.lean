/-
  Numbers of bytes, as they are told to people.

  1. **Program** — a number of bytes is told in the largest unit that it reaches, where each unit is 1024
     of the one before it, with three digits or with all that stand before the point.

  2. **The crux** — rounding may reach a whole further unit, which is then told instead; the point is
     always written.
-/
namespace LitSpheres.Text.BinarySize

/-- The units, each with the number of its bytes, from the largest down. -/
def units : List (String × Nat) :=
  [("EiB", 1152921504606846976), ("PiB", 1125899906842624), ("TiB", 1099511627776), ("GiB", 1073741824),
    ("MiB", 1048576), ("KiB", 1024)]

/-- A quotient to the nearest whole number; a half goes to the even neighbour. -/
def nearest (n unit : Nat) : Nat :=
  if 2 * (n % unit) < unit ∨ (2 * (n % unit) = unit ∧ n / unit % 2 = 0) then n / unit else n / unit + 1

/-- A number of units with three digits, or with all digits before the point. -/
def digits (n unit : Nat) : String :=
  let hundredths := nearest (n * 100) unit
  let tenths := nearest (n * 10) unit
  if hundredths < 1000 then s!"{hundredths / 100}.{hundredths / 10 % 10}{hundredths % 10}"
  else if tenths < 1000 then s!"{tenths / 10}.{tenths % 10}"
  else s!"{nearest n unit}."

/-- A number of bytes in the largest unit that it reaches, or else in bytes. -/
def write (n : Nat) : String :=
  match units.find? (fun (_, unit) => unit ≤ n ∨ nearest n (unit / 1024) = 1024) with
  | some (name, unit) => s!"{digits n unit} {name}"
  | none => s!"{n} bytes"

example : write 72057594037927936 = "64.0 PiB" := by decide +kernel
example : write 1125899906842623 = "1.00 PiB" := by decide +kernel
example : write 1099511627776000 = "1000. TiB" := by decide +kernel
example : write 1700 = "1.66 KiB" := by decide +kernel

end LitSpheres.Text.BinarySize
