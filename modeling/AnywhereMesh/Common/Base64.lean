import AnywhereMesh.Common.Types

/-! Base64 with the standard alphabet and `=` padding, as
`general_purpose::STANDARD` encodes the binary payloads of the tunnel's
`WebSocketProxyData` frames and decodes them on the other side. Three bytes
become four characters; a final group of one or two bytes is padded to four
characters. Decoding is strict: every group has four characters, padding only
ends the last group, and the unused low bits of a padded group must be zero.
Proved: decoding inverts encoding on every byte string. -/

namespace AnywhereMesh.Base64

/-- Sextet `i < 64` in the standard alphabet `A–Z a–z 0–9 + /`. -/
def encodeSextet (i : ℕ) : Char :=
  if i < 26 then Char.ofNat (65 + i)
  else if i < 52 then Char.ofNat (71 + i)
  else if i < 62 then Char.ofNat (i - 4)
  else if i = 62 then '+' else '/'

def decodeSextet (c : Char) : Option ℕ :=
  if 65 ≤ c.toNat ∧ c.toNat ≤ 90 then some (c.toNat - 65)
  else if 97 ≤ c.toNat ∧ c.toNat ≤ 122 then some (c.toNat - 71)
  else if 48 ≤ c.toNat ∧ c.toNat ≤ 57 then some (c.toNat + 4)
  else if c = '+' then some 62
  else if c = '/' then some 63
  else none

/-- The four sextets of a 24-bit group `n`, most significant first. -/
def encodeGroup (n : ℕ) : List Char :=
  [encodeSextet (n / 262144), encodeSextet (n / 4096 % 64), encodeSextet (n / 64 % 64),
    encodeSextet (n % 64)]

def encodeChars : List UInt8 → List Char
  | b0 :: b1 :: b2 :: rest =>
    encodeGroup (b0.toNat * 65536 + b1.toNat * 256 + b2.toNat) ++ encodeChars rest
  | [b0, b1] => (encodeGroup (b0.toNat * 65536 + b1.toNat * 256)).take 3 ++ ['=']
  | [b0] => (encodeGroup (b0.toNat * 65536)).take 2 ++ ['=', '=']
  | [] => []

/-- `general_purpose::STANDARD.encode`. -/
def encode (bytes : List UInt8) : String := ⟨encodeChars bytes⟩

/-- One group of four characters; `last` says whether padding may end it. -/
def decodeGroup (c0 c1 c2 c3 : Char) (last : Bool) : Option (List UInt8) := do
  let i0 ← decodeSextet c0
  let i1 ← decodeSextet c1
  if last ∧ c2 = '=' ∧ c3 = '=' then
    if i1 % 16 = 0 then some [UInt8.ofNat (i0 * 4 + i1 / 16)] else none
  else
    let i2 ← decodeSextet c2
    if last ∧ c3 = '=' then
      let m := i0 * 4096 + i1 * 64 + i2
      if i2 % 4 = 0 then some [UInt8.ofNat (m / 1024), UInt8.ofNat (m / 4 % 256)] else none
    else
      let i3 ← decodeSextet c3
      let n := i0 * 262144 + i1 * 4096 + i2 * 64 + i3
      some [UInt8.ofNat (n / 65536), UInt8.ofNat (n / 256 % 256), UInt8.ofNat (n % 256)]

def decodeChars : List Char → Option (List UInt8)
  | [] => some []
  | c0 :: c1 :: c2 :: c3 :: rest => do
    let bytes ← decodeGroup c0 c1 c2 c3 rest.isEmpty
    let tail ← decodeChars rest
    some (bytes ++ tail)
  | _ => none

/-- `general_purpose::STANDARD.decode`. -/
def decode (s : String) : Option (List UInt8) := decodeChars s.data

/-! ### Round trip -/

theorem decodeSextet_encodeSextet : ∀ i : Fin 64, decodeSextet (encodeSextet i) = some i := by
  decide

theorem encodeSextet_ne_pad : ∀ i : Fin 64, encodeSextet i ≠ '=' := by
  decide

theorem decodeSextet_digit {i : ℕ} (h : i < 64) : decodeSextet (encodeSextet i) = some i :=
  decodeSextet_encodeSextet ⟨i, h⟩

theorem encodeSextet_ne_pad_of_lt {i : ℕ} (h : i < 64) : encodeSextet i ≠ '=' :=
  encodeSextet_ne_pad ⟨i, h⟩

theorem toNat_lt (b : UInt8) : b.toNat < 256 := b.val.isLt

@[simp] theorem ofNat_toNat (b : UInt8) : UInt8.ofNat b.toNat = b := by
  apply UInt8.eq_of_val_eq
  simp [UInt8.ofNat, UInt8.toNat, UInt8.val]

theorem ofNat_eq {n : ℕ} {b : UInt8} (h : n = b.toNat) : UInt8.ofNat n = b := by
  rw [h, ofNat_toNat]

/-- A group without padding decodes to its three bytes. -/
theorem decodeGroup_encodeGroup {n : ℕ} (hn : n < 16777216) (last : Bool) :
    decodeGroup (encodeSextet (n / 262144)) (encodeSextet (n / 4096 % 64))
      (encodeSextet (n / 64 % 64)) (encodeSextet (n % 64)) last =
      some [UInt8.ofNat (n / 65536), UInt8.ofNat (n / 256 % 256), UInt8.ofNat (n % 256)] := by
  have e0 := decodeSextet_digit (show n / 262144 < 64 by omega)
  have e1 := decodeSextet_digit (show n / 4096 % 64 < 64 by omega)
  have e2 := decodeSextet_digit (show n / 64 % 64 < 64 by omega)
  have e3 := decodeSextet_digit (show n % 64 < 64 by omega)
  have p2 := encodeSextet_ne_pad_of_lt (show n / 64 % 64 < 64 by omega)
  have p3 := encodeSextet_ne_pad_of_lt (show n % 64 < 64 by omega)
  have hsum : n / 262144 * 262144 + n / 4096 % 64 * 4096 + n / 64 % 64 * 64 + n % 64 = n := by
    omega
  simp [decodeGroup, e0, e1, e2, e3, p2, p3, hsum]

theorem decodeChars_encodeChars : ∀ bytes : List UInt8,
    decodeChars (encodeChars bytes) = some bytes
  | b0 :: b1 :: b2 :: rest => by
    have h0 := toNat_lt b0
    have h1 := toNat_lt b1
    have h2 := toNat_lt b2
    simp only [encodeChars, encodeGroup, List.cons_append, List.nil_append, decodeChars,
      decodeGroup_encodeGroup (show b0.toNat * 65536 + b1.toNat * 256 + b2.toNat < 16777216 by
        omega)]
    simp [decodeChars_encodeChars rest,
      ofNat_eq (show (b0.toNat * 65536 + b1.toNat * 256 + b2.toNat) / 65536 = b0.toNat by omega),
      ofNat_eq (show (b0.toNat * 65536 + b1.toNat * 256 + b2.toNat) / 256 % 256 = b1.toNat by
        omega),
      ofNat_eq (show (b0.toNat * 65536 + b1.toNat * 256 + b2.toNat) % 256 = b2.toNat by omega)]
  | [b0, b1] => by
    have h0 := toNat_lt b0
    have h1 := toNat_lt b1
    have e0 := decodeSextet_digit (show (b0.toNat * 65536 + b1.toNat * 256) / 262144 < 64 by omega)
    have e1 := decodeSextet_digit
      (show (b0.toNat * 65536 + b1.toNat * 256) / 4096 % 64 < 64 by omega)
    have e2 := decodeSextet_digit (show (b0.toNat * 65536 + b1.toNat * 256) / 64 % 64 < 64 by omega)
    have p2 := encodeSextet_ne_pad_of_lt (show (b0.toNat * 65536 + b1.toNat * 256) / 64 % 64 < 64 by
      omega)
    simp only [encodeChars, encodeGroup, List.take, List.cons_append, List.nil_append]
    simp [decodeChars, decodeGroup, e0, e1, e2, p2]
    refine ⟨by omega, ofNat_eq (by omega), ofNat_eq (by omega)⟩
  | [b0] => by
    have h0 := toNat_lt b0
    have e0 := decodeSextet_digit (show b0.toNat * 65536 / 262144 < 64 by omega)
    have e1 := decodeSextet_digit (show b0.toNat * 65536 / 4096 % 64 < 64 by omega)
    simp only [encodeChars, encodeGroup, List.take, List.cons_append, List.nil_append]
    simp [decodeChars, decodeGroup, e0, e1]
    refine ⟨by omega, ofNat_eq (by omega)⟩
  | [] => rfl

/-- Decoding inverts encoding, for every byte string. -/
theorem decode_encode (bytes : List UInt8) : decode (encode bytes) = some bytes :=
  decodeChars_encodeChars bytes

end AnywhereMesh.Base64
