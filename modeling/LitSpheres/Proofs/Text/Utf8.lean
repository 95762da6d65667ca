/-
  What was encoded is decoded again, and nothing else is decoded.

  1. **Program** — a character is encoded in one to four bytes, by the size of its code point; decoding reads
     the number of bytes off the first one, and the range in which the second one must lie.

  2. **Specification** — decoding the encoding of a text gives the text, and bytes that are decoded are the
     encoding of what they are decoded to.  So bytes have a fault exactly if they encode no text.

  3. **The crux** — the ranges that the first byte leaves to the second one are those of the code points that
     need so many bytes and are no surrogates, so no encoding of a character lies outside of them, and
     nothing that lies within is anything else.
-/
import LitSpheres.Text.Utf8

namespace LitSpheres.Text

variable {b code d e f high low n read tails : Nat} {c : Char} {rest : List UInt8}

/-! ## Single bytes -/

theorem toNat_ofNat (h : n < 256) : (UInt8.ofNat n).toNat = n := UInt8.toNat_ofNat_of_lt h

/-- A byte of six bits in its range is read. -/
theorem readTails_cons (hd : d < 64) (atLeast : low ≤ d + 128) (atMost : d + 128 ≤ high) :
    readTails code low high read (tails + 1) (UInt8.ofNat (d + 128) :: rest) =
      readTails (code * 64 + d) 0x80 0xBF (read + 1) tails rest := by
  rw [readTails, toNat_ofNat (by omega), if_pos ⟨atLeast, atMost⟩, Nat.add_sub_cancel]

/-- Every byte but the second one may have any six bits. -/
theorem readTails_free (hd : d < 64) :
    readTails code 0x80 0xBF read (tails + 1) (UInt8.ofNat (d + 128) :: rest) =
      readTails (code * 64 + d) 0x80 0xBF (read + 1) tails rest :=
  readTails_cons hd (by omega) (by omega)

/-! ## First bytes -/

theorem lead_one (h : n < 128) : lead? n = some { bits := n, tails := 0 } := if_pos h

theorem lead_two (least : 2 ≤ b) (h : b < 32) : lead? (b + 192) = some { bits := b, tails := 1 } := by
  unfold lead?
  rw [if_neg (by omega), if_neg (by omega), if_pos (by omega), Nat.add_sub_cancel]

/-- Of three bytes, the first one leaves to the second one what makes the code point long enough, and no
    surrogate. -/
theorem exists_lead_three (hb : b < 16) (hd : d < 64) (long : b = 0 → 32 ≤ d) (plain : b = 13 → d < 32) :
    ∃ l, lead? (b + 224) = some l ∧ l.bits = b ∧ l.tails = 2 ∧ l.low ≤ d + 128 ∧ d + 128 ≤ l.high := by
  by_cases least : b = 0
  · have := long least
    subst least
    exact ⟨_, rfl, rfl, rfl, by dsimp only; omega, by dsimp only; omega⟩
  · by_cases surrogates : b = 13
    · have := plain surrogates
      subst surrogates
      exact ⟨_, rfl, rfl, rfl, by dsimp only; omega, by dsimp only; omega⟩
    · refine ⟨{ bits := b, tails := 2 }, ?_, rfl, rfl, by dsimp only; omega, by dsimp only; omega⟩
      unfold lead?
      rw [if_neg (by omega), if_neg (by omega), if_neg (by omega), if_neg (by omega), if_neg (by omega),
        if_pos (by omega), Nat.add_sub_cancel]

/-- Of four bytes, the first one leaves to the second one what makes the code point long enough, and no larger
    than the last one. -/
theorem exists_lead_four (hb : b < 5) (hd : d < 64) (long : b = 0 → 16 ≤ d) (last : b = 4 → d < 16) :
    ∃ l, lead? (b + 240) = some l ∧ l.bits = b ∧ l.tails = 3 ∧ l.low ≤ d + 128 ∧ d + 128 ≤ l.high := by
  by_cases least : b = 0
  · have := long least
    subst least
    exact ⟨_, rfl, rfl, rfl, by dsimp only; omega, by dsimp only; omega⟩
  · by_cases greatest : b = 4
    · have := last greatest
      subst greatest
      exact ⟨_, rfl, rfl, rfl, by dsimp only; omega, by dsimp only; omega⟩
    · refine ⟨{ bits := b, tails := 3 }, ?_, rfl, rfl, by dsimp only; omega, by dsimp only; omega⟩
      unfold lead?
      rw [if_neg (by omega), if_neg (by omega), if_neg (by omega), if_neg (by omega), if_neg (by omega),
        if_neg (by omega), if_neg (by omega), if_pos (by omega), Nat.add_sub_cancel]

/-! ## Characters -/

/-- What a first byte announces, and the bytes behind it, are a character. -/
theorem decodeChar_of_lead {bytes : List UInt8} {l : Lead} (byte : n < 256) (announced : lead? n = some l)
    (tails : readTails l.bits l.low l.high 1 l.tails bytes = .ok (c.toNat, rest)) :
    decodeChar (UInt8.ofNat n) bytes = .ok (c, rest) := by
  unfold decodeChar
  rw [toNat_ofNat byte, announced]
  dsimp only
  rw [tails]
  dsimp only
  rw [Char.ofNat_toNat]

theorem decodeChar_one (h : c.toNat < 128) : decodeChar (UInt8.ofNat c.toNat) rest = .ok (c, rest) :=
  decodeChar_of_lead (by omega) (lead_one h) rfl

theorem decodeChar_two (least : 128 ≤ c.toNat) (h : c.toNat < 2048) :
    decodeChar (UInt8.ofNat (c.toNat / 64 % 32 + 192)) (UInt8.ofNat (c.toNat % 64 + 128) :: rest) =
      .ok (c, rest) := by
  have lead := lead_two (b := c.toNat / 64 % 32) (by omega) (by omega)
  apply decodeChar_of_lead (by omega) lead
  have code : c.toNat / 64 % 32 * 64 + c.toNat % 64 = c.toNat := by omega
  dsimp only
  rw [readTails_free (Nat.mod_lt _ (by decide)), code]
  rfl

theorem decodeChar_three (least : 2048 ≤ c.toNat) (h : c.toNat < 65536) :
    decodeChar (UInt8.ofNat (c.toNat / 4096 % 16 + 224))
      (UInt8.ofNat (c.toNat / 64 % 64 + 128) :: UInt8.ofNat (c.toNat % 64 + 128) :: rest) = .ok (c, rest) := by
  have valid : c.toNat < 55296 ∨ 57343 < c.toNat ∧ c.toNat < 1114112 := c.valid
  obtain ⟨l, lead, bits, tails, low, high⟩ := exists_lead_three (b := c.toNat / 4096 % 16)
    (d := c.toNat / 64 % 64) (by omega) (by omega) (by omega) (by omega)
  apply decodeChar_of_lead (by omega) lead
  have code : (c.toNat / 4096 % 16 * 64 + c.toNat / 64 % 64) * 64 + c.toNat % 64 = c.toNat := by omega
  rw [bits, tails, readTails_cons (by omega) low high, readTails_free (by omega), code]
  rfl

theorem decodeChar_four (least : 65536 ≤ c.toNat) :
    decodeChar (UInt8.ofNat (c.toNat / 262144 % 8 + 240))
      (UInt8.ofNat (c.toNat / 4096 % 64 + 128) :: UInt8.ofNat (c.toNat / 64 % 64 + 128) ::
        UInt8.ofNat (c.toNat % 64 + 128) :: rest) = .ok (c, rest) := by
  have valid : c.toNat < 55296 ∨ 57343 < c.toNat ∧ c.toNat < 1114112 := c.valid
  obtain ⟨l, lead, bits, tails, low, high⟩ := exists_lead_four (b := c.toNat / 262144 % 8)
    (d := c.toNat / 4096 % 64) (by omega) (by omega) (by omega) (by omega)
  apply decodeChar_of_lead (by omega) lead
  have code : ((c.toNat / 262144 % 8 * 64 + c.toNat / 4096 % 64) * 64 + c.toNat / 64 % 64) * 64 +
      c.toNat % 64 = c.toNat := by omega
  rw [bits, tails, readTails_cons (by omega) low high, readTails_free (by omega), readTails_free (by omega), code]
  rfl

/-- The bytes of a character, by the size of its code point. -/
theorem utf8EncodeChar_eq (c : Char) : String.utf8EncodeChar c =
    if c.toNat ≤ 127 then [UInt8.ofNat c.toNat]
    else if c.toNat ≤ 2047 then
      [UInt8.ofNat (c.toNat / 64 % 32 + 192), UInt8.ofNat (c.toNat % 64 + 128)]
    else if c.toNat ≤ 65535 then
      [UInt8.ofNat (c.toNat / 4096 % 16 + 224), UInt8.ofNat (c.toNat / 64 % 64 + 128),
        UInt8.ofNat (c.toNat % 64 + 128)]
    else
      [UInt8.ofNat (c.toNat / 262144 % 8 + 240), UInt8.ofNat (c.toNat / 4096 % 64 + 128),
        UInt8.ofNat (c.toNat / 64 % 64 + 128), UInt8.ofNat (c.toNat % 64 + 128)] := rfl

/-- **The encoding of a character** is decoded as that character, whatever follows. -/
theorem exists_utf8EncodeChar (c : Char) :
    ∃ first bytes, String.utf8EncodeChar c = first :: bytes ∧
      ∀ rest, decodeChar first (bytes ++ rest) = .ok (c, rest) := by
  rw [utf8EncodeChar_eq]
  by_cases one : c.toNat ≤ 127
  · rw [if_pos one]
    exact ⟨_, _, rfl, fun rest => decodeChar_one (by omega)⟩
  · rw [if_neg one]
    by_cases two : c.toNat ≤ 2047
    · rw [if_pos two]
      exact ⟨_, _, rfl, fun rest => decodeChar_two (by omega) (by omega)⟩
    · rw [if_neg two]
      by_cases three : c.toNat ≤ 65535
      · rw [if_pos three]
        exact ⟨_, _, rfl, fun rest => decodeChar_three (by omega) (by omega)⟩
      · rw [if_neg three]
        exact ⟨_, _, rfl, fun rest => decodeChar_four (by omega)⟩

/-! ## Bytes that are decoded -/

/-- A byte that was read has six bits, in its range. -/
theorem exists_of_readTails {bytes : List UInt8} (least : 128 ≤ low) (greatest : high ≤ 191)
    (h : readTails code low high read (tails + 1) bytes = .ok (n, rest)) :
    ∃ d others, d < 64 ∧ low ≤ d + 128 ∧ d + 128 ≤ high ∧ bytes = UInt8.ofNat (d + 128) :: others ∧
      readTails (code * 64 + d) 0x80 0xBF (read + 1) tails others = .ok (n, rest) := by
  cases bytes with
  | nil =>
    rw [readTails] at h
    cases h
  | cons byte others =>
    rw [readTails] at h
    by_cases inside : low ≤ byte.toNat ∧ byte.toNat ≤ high
    · rw [if_pos inside] at h
      have back : byte.toNat - 128 + 128 = byte.toNat := by omega
      refine ⟨byte.toNat - 128, others, by omega, by omega, by omega, ?_, h⟩
      rw [back, UInt8.ofNat_toNat]
    · rw [if_neg inside] at h
      cases h

/-- What a first byte can announce: its own bits, and the range that it leaves to the second byte. -/
theorem lead_cases {l : Lead} (h : lead? n = some l) :
    (n < 128 ∧ l.bits = n ∧ l.tails = 0) ∨
    (∃ b, 2 ≤ b ∧ b < 32 ∧ n = b + 192 ∧ l.bits = b ∧ l.tails = 1 ∧ l.low = 128 ∧ l.high = 191) ∨
    (∃ b, b < 16 ∧ n = b + 224 ∧ l.bits = b ∧ l.tails = 2 ∧ 128 ≤ l.low ∧ l.high ≤ 191 ∧
      (b = 0 → 160 ≤ l.low) ∧ (b = 13 → l.high ≤ 159)) ∨
    (∃ b, b < 5 ∧ n = b + 240 ∧ l.bits = b ∧ l.tails = 3 ∧ 128 ≤ l.low ∧ l.high ≤ 191 ∧
      (b = 0 → 144 ≤ l.low) ∧ (b = 4 → l.high ≤ 143)) := by
  unfold lead? at h
  split at h
  · next ascii =>
    obtain rfl := Option.some.inj h
    exact .inl ⟨ascii, rfl, rfl⟩
  split at h
  · exact absurd h nofun
  split at h
  · obtain rfl := Option.some.inj h
    exact .inr (.inl ⟨n - 192, by omega, by omega, by omega, rfl, rfl, rfl, rfl⟩)
  split at h
  · obtain rfl := Option.some.inj h
    exact .inr (.inr (.inl ⟨0, by omega, by omega, rfl, rfl, by decide, by decide, by decide, by decide⟩))
  split at h
  · obtain rfl := Option.some.inj h
    exact .inr (.inr (.inl ⟨13, by omega, by omega, rfl, rfl, by decide, by decide, by decide, by decide⟩))
  split at h
  · obtain rfl := Option.some.inj h
    exact .inr (.inr (.inl ⟨n - 224, by omega, by omega, rfl, rfl, Nat.le_refl _, Nat.le_refl _, by omega, by omega⟩))
  split at h
  · obtain rfl := Option.some.inj h
    exact .inr (.inr (.inr ⟨0, by omega, by omega, rfl, rfl, by decide, by decide, by decide, by decide⟩))
  split at h
  · obtain rfl := Option.some.inj h
    exact .inr (.inr (.inr ⟨n - 240, by omega, by omega, rfl, rfl, Nat.le_refl _, Nat.le_refl _, by omega, by omega⟩))
  split at h
  · obtain rfl := Option.some.inj h
    exact .inr (.inr (.inr ⟨4, by omega, by omega, rfl, rfl, by decide, by decide, by decide, by decide⟩))
  · exact absurd h nofun

theorem toNat_charOfNat (h : n < 55296 ∨ 57343 < n ∧ n < 1114112) : (Char.ofNat n).toNat = n := by
  have valid : Char.ofNat n = Char.ofNatAux n h := dif_pos h
  rw [valid]
  rfl

theorem utf8EncodeChar_one (h : n < 128) : String.utf8EncodeChar (Char.ofNat n) = [UInt8.ofNat n] := by
  rw [utf8EncodeChar_eq, toNat_charOfNat (by omega), if_pos (by omega)]

theorem utf8EncodeChar_two (least : 2 ≤ b) (hb : b < 32) (hd : d < 64) :
    String.utf8EncodeChar (Char.ofNat (b * 64 + d)) = [UInt8.ofNat (b + 192), UInt8.ofNat (d + 128)] := by
  have first : (b * 64 + d) / 64 % 32 = b := by omega
  have second : (b * 64 + d) % 64 = d := by omega
  rw [utf8EncodeChar_eq, toNat_charOfNat (by omega), if_neg (by omega), if_pos (by omega), first, second]

theorem utf8EncodeChar_three (hb : b < 16) (hd : d < 64) (he : e < 64) (long : b = 0 → 32 ≤ d)
    (plain : b = 13 → d < 32) : String.utf8EncodeChar (Char.ofNat ((b * 64 + d) * 64 + e)) =
      [UInt8.ofNat (b + 224), UInt8.ofNat (d + 128), UInt8.ofNat (e + 128)] := by
  have first : ((b * 64 + d) * 64 + e) / 4096 % 16 = b := by omega
  have second : ((b * 64 + d) * 64 + e) / 64 % 64 = d := by omega
  have third : ((b * 64 + d) * 64 + e) % 64 = e := by omega
  rw [utf8EncodeChar_eq, toNat_charOfNat (by omega), if_neg (by omega), if_neg (by omega), if_pos (by omega),
    first, second, third]

theorem utf8EncodeChar_four (hb : b < 5) (hd : d < 64) (he : e < 64) (hf : f < 64) (long : b = 0 → 16 ≤ d)
    (last : b = 4 → d < 16) : String.utf8EncodeChar (Char.ofNat (((b * 64 + d) * 64 + e) * 64 + f)) =
      [UInt8.ofNat (b + 240), UInt8.ofNat (d + 128), UInt8.ofNat (e + 128), UInt8.ofNat (f + 128)] := by
  have first : (((b * 64 + d) * 64 + e) * 64 + f) / 262144 % 8 = b := by omega
  have second : (((b * 64 + d) * 64 + e) * 64 + f) / 4096 % 64 = d := by omega
  have third : (((b * 64 + d) * 64 + e) * 64 + f) / 64 % 64 = e := by omega
  have fourth : (((b * 64 + d) * 64 + e) * 64 + f) % 64 = f := by omega
  rw [utf8EncodeChar_eq, toNat_charOfNat (by omega), if_neg (by omega), if_neg (by omega), if_neg (by omega),
    first, second, third, fourth]

/-- A character is decoded from what its first byte announces. -/
theorem exists_lead_of_decodeChar {first : UInt8} {bytes : List UInt8}
    (h : decodeChar first bytes = .ok (c, rest)) :
    ∃ l code, lead? first.toNat = some l ∧ readTails l.bits l.low l.high 1 l.tails bytes = .ok (code, rest) ∧
      c = Char.ofNat code := by
  unfold decodeChar at h
  cases announced : lead? first.toNat with
  | none =>
    rw [announced] at h
    exact absurd h nofun
  | some l =>
    rw [announced] at h
    dsimp only at h
    cases taken : readTails l.bits l.low l.high 1 l.tails bytes with
    | error problem =>
      rw [taken] at h
      exact absurd h nofun
    | ok read =>
      rw [taken] at h
      obtain ⟨rfl, rfl⟩ := Prod.mk.inj (Except.ok.inj h)
      exact ⟨l, read.1, rfl, taken, rfl⟩

/-- **A character that was decoded** stands in the bytes as its encoding. -/
theorem utf8EncodeChar_of_decodeChar {first : UInt8} {bytes : List UInt8}
    (h : decodeChar first bytes = .ok (c, rest)) : String.utf8EncodeChar c ++ rest = first :: bytes := by
  obtain ⟨l, code, announced, taken, rfl⟩ := exists_lead_of_decodeChar h
  have byte : UInt8.ofNat first.toNat = first := UInt8.ofNat_toNat
  rcases lead_cases announced with ⟨ascii, bits, tails⟩ | ⟨b, least, hb, lead, bits, tails, low, high⟩ |
      ⟨b, hb, lead, bits, tails, low, high, long, plain⟩ | ⟨b, hb, lead, bits, tails, low, high, long, last⟩
  · rw [bits, tails] at taken
    obtain ⟨rfl, rfl⟩ := Prod.mk.inj (Except.ok.inj taken)
    rw [utf8EncodeChar_one ascii, byte]
    rfl
  · rw [bits, tails] at taken
    obtain ⟨d, others, hd, -, -, second, taken₁⟩ := exists_of_readTails (by omega) (by omega) taken
    obtain ⟨rfl, rfl⟩ := Prod.mk.inj (Except.ok.inj taken₁)
    rw [utf8EncodeChar_two least hb hd, ← lead, byte, second]
    rfl
  · rw [bits, tails] at taken
    obtain ⟨d, others, hd, atLeast, atMost, second, taken₁⟩ := exists_of_readTails low high taken
    obtain ⟨e, others, he, -, -, third, taken₂⟩ := exists_of_readTails (by omega) (by omega) taken₁
    obtain ⟨rfl, rfl⟩ := Prod.mk.inj (Except.ok.inj taken₂)
    rw [utf8EncodeChar_three hb hd he (by omega) (by omega), ← lead, byte, second, third]
    rfl
  · rw [bits, tails] at taken
    obtain ⟨d, others, hd, atLeast, atMost, second, taken₁⟩ := exists_of_readTails low high taken
    obtain ⟨e, others, he, -, -, third, taken₂⟩ := exists_of_readTails (by omega) (by omega) taken₁
    obtain ⟨f, others, hf, -, -, fourth, taken₃⟩ := exists_of_readTails (by omega) (by omega) taken₂
    obtain ⟨rfl, rfl⟩ := Prod.mk.inj (Except.ok.inj taken₃)
    rw [utf8EncodeChar_four hb hd he hf (by omega) (by omega), ← lead, byte, second, third, fourth]
    rfl

/-! ## Texts -/

/-- The encoding of a text at the end of a file is decoded as that text. -/
theorem decodeLast_encodeUtf8 (total : Nat) (cs : List Char) : decodeLast total (encodeUtf8 cs) = .ok cs := by
  induction cs with
  | nil =>
    show decodeLast total [] = .ok []
    rw [decodeLast]
  | cons c cs ih =>
    obtain ⟨first, bytes, encoded, decoded⟩ := exists_utf8EncodeChar c
    show decodeLast total (String.utf8EncodeChar c ++ encodeUtf8 cs) = .ok (c :: cs)
    rw [encoded, List.cons_append, decodeLast]
    -- what is decoded first is the first character, so the other branch is never taken
    split
    · next fault => exact absurd ((decoded _).symm.trans fault) (by simp)
    · next d behind read =>
      obtain ⟨rfl, rfl⟩ := Prod.mk.inj (Except.ok.inj ((decoded _).symm.trans read))
      rw [ih]
      rfl

/-- **Decoding gives back what was encoded.** -/
theorem decodeUtf8_encodeUtf8 (cs : List Char) : decodeUtf8 (encodeUtf8 cs) = .ok cs :=
  decodeLast_encodeUtf8 _ cs

/-- The bytes at the end of a file that are decoded are the encoding of their text. -/
theorem encodeUtf8_of_decodeLast {total : Nat} {bytes : List UInt8} {cs : List Char}
    (h : decodeLast total bytes = .ok cs) : encodeUtf8 cs = bytes := by
  fun_induction decodeLast total bytes generalizing cs with
  | case1 =>
    obtain rfl := Except.ok.inj h
    rfl
  | case2 => exact absurd h nofun
  | case3 first bytes c behind read ih =>
    cases later : decodeLast total behind with
    | error fault =>
      rw [later] at h
      exact absurd h nofun
    | ok others =>
      rw [later] at h
      obtain rfl := Except.ok.inj h
      show String.utf8EncodeChar c ++ encodeUtf8 others = first :: bytes
      rw [ih later, utf8EncodeChar_of_decodeChar read]

/-- **Nothing but encodings is decoded.** -/
theorem decodeUtf8_eq_ok_iff {bytes : List UInt8} {cs : List Char} :
    decodeUtf8 bytes = .ok cs ↔ encodeUtf8 cs = bytes := by
  refine ⟨encodeUtf8_of_decodeLast, ?_⟩
  rintro rfl
  exact decodeUtf8_encodeUtf8 cs

end LitSpheres.Text
