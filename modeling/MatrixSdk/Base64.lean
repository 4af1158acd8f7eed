import MatrixSdk.Rust.Bytes

/-!
# Base64 with the standard alphabet and no padding

Both codecs frame bytes as text with the `base64` crate's `encode_config` and
`decode_config` at `STANDARD_NO_PAD` (the key export through the crypto crate's
`utilities::encode` and `utilities::decode`, the QR code through its own
`base_64_encode` and `base64_decode`). The SDK relies on three facts of that
codec, and `MatrixSdk.Base64` is a codec together with them:

* decoding an encoding gives the bytes back;
* an encoding is made of characters of the standard alphabet `A–Z a–z 0–9 + /`,
  so it holds no line break and no `-` of a marker line;
* a text that decodes is made of characters of the alphabet and the padding
  character `=`: any other character – a blank, a dash – makes decoding fail.
-/

namespace MatrixSdk

/-- `base64::DecodeError`. -/
inductive DecodeError where
  /-- A character outside the alphabet, at this offset. -/
  | invalidByte (offset : Nat) (byte : UInt8)
  /-- A length that leaves one character over after the last full group. -/
  | invalidLength
  /-- A last character whose bits below the last byte are not zero. -/
  | invalidLastSymbol (offset : Nat) (byte : UInt8)
deriving DecidableEq, Repr

/-- The characters of the standard alphabet: `A–Z`, `a–z`, `0–9`, `+` and `/`. -/
def isBase64Char (c : Char) : Bool :=
  let n := c.toNat
  (65 ≤ n && n ≤ 90) || (97 ≤ n && n ≤ 122) || (48 ≤ n && n ≤ 57) || n == 43 || n == 47

/-- A base64 codec with the standard alphabet and without padding, with the three
facts the SDK relies on. -/
structure Base64 where
  /-- `encode_config(_, STANDARD_NO_PAD)`. -/
  encode : List UInt8 → String
  /-- `decode_config(_, STANDARD_NO_PAD)`. -/
  decode : String → Except DecodeError (List UInt8)
  /-- Decoding an encoding gives the bytes back. -/
  decode_encode : ∀ v, decode (encode v) = .ok v
  /-- An encoding is written in the alphabet. -/
  isBase64Char_of_mem_encode : ∀ v, ∀ c ∈ (encode v).data, isBase64Char c = true
  /-- A text that decodes is written in the alphabet and the padding character. -/
  isBase64Char_of_decode : ∀ s v, decode s = .ok v →
    ∀ c ∈ s.data, isBase64Char c = true ∨ c = '='

/-! ### The standard codec -/

namespace Base64

/-- The character of a six-bit value. -/
def encodeSym (n : Nat) : Char :=
  if n < 26 then Char.ofNat (65 + n)
  else if n < 52 then Char.ofNat (71 + n)
  else if n < 62 then Char.ofNat (n - 4)
  else if n = 62 then '+' else '/'

/-- The six-bit value of a character of the alphabet. -/
def decodeSym (c : Char) : Option Nat :=
  let n := c.toNat
  if 65 ≤ n ∧ n ≤ 90 then some (n - 65)
  else if 97 ≤ n ∧ n ≤ 122 then some (n - 71)
  else if 48 ≤ n ∧ n ≤ 57 then some (n + 4)
  else if n = 43 then some 62
  else if n = 47 then some 63
  else none

theorem decodeSym_encodeSym : ∀ n, n < 64 → decodeSym (encodeSym n) = some n := by decide

theorem isBase64Char_encodeSym : ∀ n, n < 64 → isBase64Char (encodeSym n) = true := by decide

theorem isBase64Char_of_decodeSym {c : Char} {n : Nat} (h : decodeSym c = some n) :
    isBase64Char c = true ∧ n < 64 := by
  simp only [decodeSym] at h
  simp only [isBase64Char, Bool.or_eq_true, Bool.and_eq_true, decide_eq_true_eq, beq_iff_eq]
  split_ifs at h <;> cases h <;> omega

/-- The encoding, three bytes to four characters; a last group of one or two bytes
gives two or three characters, the bits below its last byte zero. -/
def encodeChars : List UInt8 → List Char
  | a :: b :: c :: rest =>
    encodeSym (a.toNat / 4) :: encodeSym (a.toNat % 4 * 16 + b.toNat / 16) ::
      encodeSym (b.toNat % 16 * 4 + c.toNat / 64) :: encodeSym (c.toNat % 64) :: encodeChars rest
  | [a, b] => [encodeSym (a.toNat / 4), encodeSym (a.toNat % 4 * 16 + b.toNat / 16),
      encodeSym (b.toNat % 16 * 4)]
  | [a] => [encodeSym (a.toNat / 4), encodeSym (a.toNat % 4 * 16)]
  | [] => []

/-- The value of the character at offset `pos`, or the error naming it. -/
def sym (pos : Nat) (c : Char) : Except DecodeError Nat :=
  match decodeSym c with
  | some n => .ok n
  | none => .error (.invalidByte pos (UInt8.ofNat c.toNat))

/-- The decoding of the characters from offset `pos` on, four characters to three
bytes: a last group of two or three characters must have zero bits below its last
byte, and a last group of one character is refused. -/
def decodeChars (pos : Nat) : List Char → Except DecodeError (List UInt8)
  | c0 :: c1 :: c2 :: c3 :: rest => do
    let v0 ← sym pos c0
    let v1 ← sym (pos + 1) c1
    let v2 ← sym (pos + 2) c2
    let v3 ← sym (pos + 3) c3
    let tail ← decodeChars (pos + 4) rest
    return UInt8.ofNat (v0 * 4 + v1 / 16) :: UInt8.ofNat (v1 % 16 * 16 + v2 / 4) ::
      UInt8.ofNat (v2 % 4 * 64 + v3) :: tail
  | [c0, c1, c2] => do
    let v0 ← sym pos c0
    let v1 ← sym (pos + 1) c1
    let v2 ← sym (pos + 2) c2
    if v2 % 4 ≠ 0 then throw (.invalidLastSymbol (pos + 2) (UInt8.ofNat c2.toNat))
    return [UInt8.ofNat (v0 * 4 + v1 / 16), UInt8.ofNat (v1 % 16 * 16 + v2 / 4)]
  | [c0, c1] => do
    let v0 ← sym pos c0
    let v1 ← sym (pos + 1) c1
    if v1 % 16 ≠ 0 then throw (.invalidLastSymbol (pos + 1) (UInt8.ofNat c1.toNat))
    return [UInt8.ofNat (v0 * 4 + v1 / 16)]
  | [_] => .error .invalidLength
  | [] => .ok []

theorem sym_encodeSym (pos : Nat) {n : Nat} (h : n < 64) : sym pos (encodeSym n) = .ok n := by
  simp [sym, decodeSym_encodeSym n h]

/-- Decoding an encoding gives the bytes back. -/
theorem decodeChars_encodeChars (pos : Nat) (v : List UInt8) :
    decodeChars pos (encodeChars v) = .ok v := by
  induction v using encodeChars.induct generalizing pos with
  | case1 a b c rest ih =>
    have ha := a.toNat_lt; have hb := b.toNat_lt; have hc := c.toNat_lt
    change _ < 256 at ha hb hc
    simp only [encodeChars, decodeChars, sym_encodeSym _ (by omega : a.toNat / 4 < 64),
      sym_encodeSym _ (by omega : a.toNat % 4 * 16 + b.toNat / 16 < 64),
      sym_encodeSym _ (by omega : b.toNat % 16 * 4 + c.toNat / 64 < 64),
      sym_encodeSym _ (by omega : c.toNat % 64 < 64), ih]
    simp only [bind, Except.bind, pure, Except.pure, Except.ok.injEq, List.cons.injEq]
    exact ⟨uint8_ofNat_eq (by omega), uint8_ofNat_eq (by omega), uint8_ofNat_eq (by omega),
      trivial⟩
  | case2 a b =>
    have ha := a.toNat_lt; have hb := b.toNat_lt
    change _ < 256 at ha hb
    simp only [encodeChars, decodeChars, sym_encodeSym _ (by omega : a.toNat / 4 < 64),
      sym_encodeSym _ (by omega : a.toNat % 4 * 16 + b.toNat / 16 < 64),
      sym_encodeSym _ (by omega : b.toNat % 16 * 4 < 64)]
    simp only [bind, Except.bind, pure, Except.pure,
      if_neg (by omega : ¬(b.toNat % 16 * 4 % 4 ≠ 0))]
    simp only [Except.ok.injEq, List.cons.injEq]
    exact ⟨uint8_ofNat_eq (by omega), uint8_ofNat_eq (by omega), trivial⟩
  | case3 a =>
    have ha := a.toNat_lt
    change _ < 256 at ha
    simp only [encodeChars, decodeChars, sym_encodeSym _ (by omega : a.toNat / 4 < 64),
      sym_encodeSym _ (by omega : a.toNat % 4 * 16 < 64)]
    simp only [bind, Except.bind, pure, Except.pure,
      if_neg (by omega : ¬(a.toNat % 4 * 16 % 16 ≠ 0))]
    simp only [Except.ok.injEq, List.cons.injEq]
    exact ⟨uint8_ofNat_eq (by omega), trivial⟩
  | case4 => rfl

theorem isBase64Char_of_mem_encodeChars (v : List UInt8) :
    ∀ c ∈ encodeChars v, isBase64Char c = true := by
  induction v using encodeChars.induct with
  | case1 a b c rest ih =>
    have ha := a.toNat_lt; have hb := b.toNat_lt; have hc := c.toNat_lt
    change _ < 256 at ha hb hc
    simp only [encodeChars, List.forall_mem_cons]
    exact ⟨isBase64Char_encodeSym _ (by omega), isBase64Char_encodeSym _ (by omega),
      isBase64Char_encodeSym _ (by omega), isBase64Char_encodeSym _ (by omega), ih⟩
  | case2 a b =>
    have ha := a.toNat_lt; have hb := b.toNat_lt
    change _ < 256 at ha hb
    simp only [encodeChars, List.forall_mem_cons, List.not_mem_nil, false_implies, implies_true,
      and_true]
    exact ⟨isBase64Char_encodeSym _ (by omega), isBase64Char_encodeSym _ (by omega),
      isBase64Char_encodeSym _ (by omega)⟩
  | case3 a =>
    have ha := a.toNat_lt
    change _ < 256 at ha
    simp only [encodeChars, List.forall_mem_cons, List.not_mem_nil, false_implies, implies_true,
      and_true]
    exact ⟨isBase64Char_encodeSym _ (by omega), isBase64Char_encodeSym _ (by omega)⟩
  | case4 => simp [encodeChars]

theorem except_bind_eq_ok {ε α β : Type} {x : Except ε α} {f : α → Except ε β} {b : β} :
    x >>= f = .ok b ↔ ∃ a, x = .ok a ∧ f a = .ok b := by
  cases x <;> simp [bind, Except.bind]

theorem isBase64Char_of_sym {pos : Nat} {c : Char} {n : Nat} (h : sym pos c = .ok n) :
    isBase64Char c = true := by
  simp only [sym] at h
  split at h
  · exact (isBase64Char_of_decodeSym ‹_›).1
  · cases h

theorem isBase64Char_of_decodeChars (pos : Nat) (s : List Char) (v : List UInt8)
    (h : decodeChars pos s = .ok v) :
    ∀ c ∈ s, isBase64Char c = true := by
  induction pos, s using decodeChars.induct generalizing v with
  | case1 pos c0 c1 c2 c3 rest ih =>
    simp only [decodeChars, except_bind_eq_ok] at h
    obtain ⟨v0, h0, v1, h1, v2, h2, v3, h3, t, ht, -⟩ := h
    simp only [List.forall_mem_cons]
    exact ⟨isBase64Char_of_sym h0, isBase64Char_of_sym h1, isBase64Char_of_sym h2,
      isBase64Char_of_sym h3, ih t ht⟩
  | case2 pos c0 c1 c2 =>
    simp only [decodeChars, except_bind_eq_ok] at h
    obtain ⟨v0, h0, v1, h1, v2, h2, -⟩ := h
    simp only [List.forall_mem_cons, List.not_mem_nil, false_implies, implies_true, and_true]
    exact ⟨isBase64Char_of_sym h0, isBase64Char_of_sym h1, isBase64Char_of_sym h2⟩
  | case3 pos c0 c1 =>
    simp only [decodeChars, except_bind_eq_ok] at h
    obtain ⟨v0, h0, v1, h1, -⟩ := h
    simp only [List.forall_mem_cons, List.not_mem_nil, false_implies, implies_true, and_true]
    exact ⟨isBase64Char_of_sym h0, isBase64Char_of_sym h1⟩
  | case4 pos c0 => simp [decodeChars] at h
  | case5 pos => simp

end Base64

/-- **The standard codec without padding**, with its three facts. Its decoder is
stricter than the crate's `decode_config(_, STANDARD_NO_PAD)`: it refuses the padding
character `=` with an `InvalidByte`, where the crate also reads a padded text such as
`AA==`. The results hold of every codec with the three facts; this one only evaluates
them on unpadded texts. -/
def Base64.standardNoPad : Base64 where
  encode v := ⟨Base64.encodeChars v⟩
  decode s := Base64.decodeChars 0 s.data
  decode_encode v := Base64.decodeChars_encodeChars 0 v
  isBase64Char_of_mem_encode v := Base64.isBase64Char_of_mem_encodeChars v
  isBase64Char_of_decode s v h c hc := .inl (Base64.isBase64Char_of_decodeChars 0 s.data v h c hc)

end MatrixSdk
