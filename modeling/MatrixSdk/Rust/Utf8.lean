import MatrixSdk.Rust.Bytes

/-!
# UTF-8: `as_bytes` and `String::from_utf8`

A Rust `String` is a byte vector that holds UTF-8. The key export turns the JSON
text of the keys into its bytes before encrypting it and turns the decrypted bytes
back into a `String`; the import reads its input as bytes and takes them as text.
Both directions are Lean's own UTF-8 codec on `String` (`String.toUTF8` and
`String.fromUTF8?`), and the one fact the codec needs of them is
`MatrixSdk.fromUtf8_asBytes`: decoding the bytes of a string gives the string back.

That fact is proved here from the two sides of the codec, one character at a time:
the encoder writes one of four byte patterns according to the value of the
character (`MatrixSdk.Utf8.utf8EncodeChar_two` and its siblings), and the decoder,
on those bytes, recognises the pattern by its lead byte, checks the continuation
bytes and puts the bits back together (`MatrixSdk.Utf8.decode_two` and its
siblings). A byte of the encoder is one lemma over the width of its field
(`MatrixSdk.Utf8.field_toNat`); the decoder's tests on a byte are facts about a
field of at most six bits, checked by `decide` over the field's range.
-/

namespace MatrixSdk

/-- `str::as_bytes` and `String::into_bytes`: the UTF-8 encoding of the string. -/
def asBytes (s : String) : List UInt8 := s.toUTF8.data.toList

/-- `String::from_utf8`: the string whose UTF-8 encoding the bytes are, if they
are UTF-8. -/
def fromUtf8 (b : List UInt8) : Option String := String.fromUTF8? ⟨⟨b⟩⟩

theorem asBytes_eq (s : String) : asBytes s = s.data.flatMap String.utf8EncodeChar := rfl

namespace Utf8

open String

/-! ### Bit fields -/

/-- A shift right by a constant below the width divides by its power of two. -/
theorem toNat_shiftRight (v : UInt32) (k : Nat) (hk : k < 32) :
    (v >>> (OfNat.ofNat k : UInt32)).toNat = v.toNat / 2 ^ (OfNat.ofNat k : Nat) := by
  change v.toNat >>> (k % 2 ^ 32 % 32) = _
  rw [Nat.mod_eq_of_lt (by omega : k < 2 ^ 32), Nat.mod_eq_of_lt hk, Nat.shiftRight_eq_div_pow]
  rfl

/-- A shift left by a constant below the width multiplies by its power of two, modulo
the width. -/
theorem toNat_shiftLeft (x : UInt32) (k : Nat) (hk : k < 32) :
    (x <<< (OfNat.ofNat k : UInt32)).toNat = x.toNat * 2 ^ (OfNat.ofNat k : Nat) % 2 ^ 32 := by
  change x.toNat <<< (k % 2 ^ 32 % 32) % 2 ^ 32 = _
  rw [Nat.mod_eq_of_lt (by omega : k < 2 ^ 32), Nat.mod_eq_of_lt hk, Nat.shiftLeft_eq]
  rfl

theorem toNat_or (x y : UInt32) : (x ||| y).toNat = x.toNat ||| y.toNat := rfl

/-- A field of `x`, as a `UInt32`. -/
theorem toNat_toUInt32_ofNat {x : Nat} (h : x < 256) : (UInt8.ofNat x).toUInt32.toNat = x :=
  Nat.mod_eq_of_lt h

/-- Below a field of `k` bits, a disjunction is a sum. -/
theorem or_eq_add (a : Nat) {b k : Nat} (hb : b < 2 ^ k) : a * 2 ^ k ||| b = a * 2 ^ k + b := by
  rw [Nat.mul_comm, Nat.mul_add_lt_is_or hb]

/-- A byte the encoder writes: the low `k` bits of `x` under a marker `b`, where the
mask `m` is `k` ones and the marker has none of them set. -/
theorem field_toNat (x k m b : Nat) (h : m + 1 = 2 ^ k ∧ k ≤ 8 ∧ b % 2 ^ k = 0 ∧ b < 256) :
    (x % 256 &&& m) ||| b = (x % 2 ^ k + b) % 256 := by
  obtain ⟨hm, hk, hb, hb'⟩ := h
  have h256 : 2 ^ k ∣ 256 := Nat.pow_dvd_pow 2 hk
  have hdvd : 2 ^ k ∣ b := Nat.dvd_of_mod_eq_zero hb
  have hle : 2 ^ k ≤ 256 - b := Nat.le_of_dvd (by omega) (Nat.dvd_sub' h256 hdvd)
  have hx : x % 2 ^ k < 2 ^ k := Nat.mod_lt _ (Nat.two_pow_pos k)
  have hor : b ||| x % 2 ^ k = x % 2 ^ k + b := by
    obtain ⟨q, rfl⟩ := hdvd
    rw [Nat.mul_comm, or_eq_add q hx, Nat.add_comm]
  rw [show m = 2 ^ k - 1 by omega, Nat.and_pow_two_sub_one_eq_mod, Nat.mod_mod_of_dvd _ h256,
    Nat.lor_comm, hor, Nat.mod_eq_of_lt (by omega : x % 2 ^ k + b < 256)]

/-- A lead byte, whose field `x` fits its `k` bits. -/
theorem lead_toNat {x : Nat} (k m b : Nat) (hx : x < 2 ^ k)
    (h : m + 1 = 2 ^ k ∧ k ≤ 8 ∧ b % 2 ^ k = 0 ∧ b < 256) :
    (x % 256 &&& m) ||| b = (x + b) % 256 := by
  rw [field_toNat x k m b h, Nat.mod_eq_of_lt hx]

/-- A continuation byte: the low six bits of `x`, under the marker `10`. -/
theorem cont_toNat (x : Nat) : (x % 256 &&& 63) ||| 128 = (x % 64 + 128) % 256 :=
  field_toNat x 6 63 128 (by decide)

/-! ### The four patterns of the encoder -/

section Encoder

variable (c : Char)

theorem utf8EncodeChar_one (h : c.toNat ≤ 127) : utf8EncodeChar c = [UInt8.ofNat c.toNat] := by
  simp only [utf8EncodeChar, if_pos (show c.val ≤ 0x7f from h)]; rfl

theorem utf8EncodeChar_two (h1 : 127 < c.toNat) (h2 : c.toNat ≤ 0x7ff) :
    utf8EncodeChar c = [UInt8.ofNat (c.toNat / 64 + 192), UInt8.ofNat (c.toNat % 64 + 128)] := by
  have n1 : ¬ c.val ≤ 0x7f := fun h => absurd (show c.toNat ≤ 127 from h) (by omega)
  simp only [utf8EncodeChar, if_neg n1, if_pos (show c.val ≤ 0x7ff from h2), List.cons.injEq,
    and_true]
  refine ⟨UInt8.ext ?_, UInt8.ext (cont_toNat _)⟩
  change ((c.val >>> 6).toNat % 256 &&& 31) ||| 192 = _
  rw [toNat_shiftRight _ _ (by norm_num),
    lead_toNat 5 31 192 (by change c.toNat / 64 < 32; omega) (by decide)]; rfl

theorem utf8EncodeChar_three (h1 : 0x7ff < c.toNat) (h2 : c.toNat ≤ 0xffff) :
    utf8EncodeChar c = [UInt8.ofNat (c.toNat / 4096 + 224),
      UInt8.ofNat (c.toNat / 64 % 64 + 128), UInt8.ofNat (c.toNat % 64 + 128)] := by
  have n1 : ¬ c.val ≤ 0x7f := fun h => absurd (show c.toNat ≤ 127 from h) (by omega)
  have n2 : ¬ c.val ≤ 0x7ff := fun h => absurd (show c.toNat ≤ 0x7ff from h) (by omega)
  simp only [utf8EncodeChar, if_neg n1, if_neg n2, if_pos (show c.val ≤ 0xffff from h2),
    List.cons.injEq, and_true]
  refine ⟨UInt8.ext ?_, UInt8.ext ?_, UInt8.ext (cont_toNat _)⟩
  · change ((c.val >>> 12).toNat % 256 &&& 15) ||| 224 = _
    rw [toNat_shiftRight _ _ (by norm_num),
      lead_toNat 4 15 224 (by change c.toNat / 4096 < 16; omega) (by decide)]; rfl
  · change ((c.val >>> 6).toNat % 256 &&& 63) ||| 128 = _
    rw [toNat_shiftRight _ _ (by norm_num), cont_toNat]; rfl

theorem utf8EncodeChar_four (h1 : 0xffff < c.toNat) :
    utf8EncodeChar c = [UInt8.ofNat (c.toNat / 262144 + 240),
      UInt8.ofNat (c.toNat / 4096 % 64 + 128), UInt8.ofNat (c.toNat / 64 % 64 + 128),
      UInt8.ofNat (c.toNat % 64 + 128)] := by
  have hv : c.toNat < 0x110000 := by
    have := c.valid
    simp [UInt32.isValidChar, Nat.isValidChar] at this
    change c.val.toNat < _; omega
  have n1 : ¬ c.val ≤ 0x7f := fun h => absurd (show c.toNat ≤ 127 from h) (by omega)
  have n2 : ¬ c.val ≤ 0x7ff := fun h => absurd (show c.toNat ≤ 0x7ff from h) (by omega)
  have n3 : ¬ c.val ≤ 0xffff := fun h => absurd (show c.toNat ≤ 0xffff from h) (by omega)
  simp only [utf8EncodeChar, if_neg n1, if_neg n2, if_neg n3, List.cons.injEq, and_true]
  refine ⟨UInt8.ext ?_, UInt8.ext ?_, UInt8.ext ?_, UInt8.ext (cont_toNat _)⟩
  · change ((c.val >>> 18).toNat % 256 &&& 7) ||| 240 = _
    rw [toNat_shiftRight _ _ (by norm_num),
      lead_toNat 3 7 240 (by change c.toNat / 262144 < 8; omega) (by decide)]; rfl
  · change ((c.val >>> 12).toNat % 256 &&& 63) ||| 128 = _
    rw [toNat_shiftRight _ _ (by norm_num), cont_toNat]; rfl
  · change ((c.val >>> 6).toNat % 256 &&& 63) ||| 128 = _
    rw [toNat_shiftRight _ _ (by norm_num), cont_toNat]; rfl

end Encoder

/-! ### The decoder on the four patterns -/

theorem one_byte : ∀ x < 128, (UInt8.ofNat x &&& 128 == 0) = true := by decide

theorem lead2_byte : ∀ x < 32, (UInt8.ofNat (x + 192) &&& 128 == 0) = false ∧
    (UInt8.ofNat (x + 192) &&& 224 == 192) = true ∧
    UInt8.ofNat (x + 192) &&& 31 = UInt8.ofNat x := by decide

theorem lead3_byte : ∀ x < 16, (UInt8.ofNat (x + 224) &&& 128 == 0) = false ∧
    (UInt8.ofNat (x + 224) &&& 224 == 192) = false ∧
    (UInt8.ofNat (x + 224) &&& 240 == 224) = true ∧
    UInt8.ofNat (x + 224) &&& 15 = UInt8.ofNat x := by decide

theorem lead4_byte : ∀ x < 8, (UInt8.ofNat (x + 240) &&& 128 == 0) = false ∧
    (UInt8.ofNat (x + 240) &&& 224 == 192) = false ∧
    (UInt8.ofNat (x + 240) &&& 240 == 224) = false ∧
    (UInt8.ofNat (x + 240) &&& 248 == 240) = true ∧
    UInt8.ofNat (x + 240) &&& 7 = UInt8.ofNat x := by decide

theorem cont_byte : ∀ y < 64, (UInt8.ofNat (y + 128) &&& 192 == 128) = true ∧
    UInt8.ofNat (y + 128) &&& 63 = UInt8.ofNat y := by decide

section Decoder

variable {a : ByteArray} {i : Nat} {c : Char}

theorem decode_one (h : c.toNat ≤ 127) (ha : a[i]? = some (UInt8.ofNat c.toNat)) :
    utf8DecodeChar? a i = some c := by
  simp only [utf8DecodeChar?, ha, Option.bind_eq_bind, Option.some_bind,
    one_byte _ (Nat.lt_succ_of_le h), if_true, Option.some.injEq]
  exact Char.ext (UInt32.ext (toNat_toUInt32_ofNat (by omega)))

theorem decode_two (h1 : 127 < c.toNat) (h2 : c.toNat ≤ 0x7ff)
    (ha : a[i]? = some (UInt8.ofNat (c.toNat / 64 + 192)))
    (hb : a[i + 1]? = some (UInt8.ofNat (c.toNat % 64 + 128))) :
    utf8DecodeChar? a i = some c := by
  obtain ⟨l1, l2, l3⟩ := lead2_byte (c.toNat / 64) (by omega)
  obtain ⟨c1, c2⟩ := cont_byte (c.toNat % 64) (Nat.mod_lt _ (by norm_num))
  have hr : (UInt8.ofNat (c.toNat / 64)).toUInt32 <<< 6 |||
      (UInt8.ofNat (c.toNat % 64)).toUInt32 = c.val := by
    refine UInt32.ext ?_
    rw [toNat_or, toNat_shiftLeft _ _ (by norm_num), toNat_toUInt32_ofNat (by omega),
      toNat_toUInt32_ofNat (by omega), Nat.mod_eq_of_lt (by omega), or_eq_add _ (k := 6) (by omega)]
    change _ = c.toNat; omega
  have g1 : (128 : UInt32) ≤ c.val := show 128 ≤ c.toNat by omega
  have g2 : c.val < 55296 := show c.toNat < 55296 by omega
  simp only [utf8DecodeChar?, ha, hb, Option.bind_eq_bind, Option.some_bind, l1, l2, l3, c1, c2,
    hr, Bool.false_eq_true, if_false, if_true]
  simp [g1, g2]

theorem decode_three (h1 : 0x7ff < c.toNat) (h2 : c.toNat ≤ 0xffff)
    (ha : a[i]? = some (UInt8.ofNat (c.toNat / 4096 + 224)))
    (hb : a[i + 1]? = some (UInt8.ofNat (c.toNat / 64 % 64 + 128)))
    (hc : a[i + 2]? = some (UInt8.ofNat (c.toNat % 64 + 128))) :
    utf8DecodeChar? a i = some c := by
  obtain ⟨l1, l2, l3, l4⟩ := lead3_byte (c.toNat / 4096) (by omega)
  obtain ⟨c1, c2⟩ := cont_byte (c.toNat / 64 % 64) (Nat.mod_lt _ (by norm_num))
  obtain ⟨c3, c4⟩ := cont_byte (c.toNat % 64) (Nat.mod_lt _ (by norm_num))
  have hr : (UInt8.ofNat (c.toNat / 4096)).toUInt32 <<< 12 |||
      (UInt8.ofNat (c.toNat / 64 % 64)).toUInt32 <<< 6 |||
      (UInt8.ofNat (c.toNat % 64)).toUInt32 = c.val := by
    refine UInt32.ext ?_
    rw [toNat_or, toNat_or, toNat_shiftLeft _ _ (by norm_num), toNat_shiftLeft _ _ (by norm_num),
      toNat_toUInt32_ofNat (by omega), toNat_toUInt32_ofNat (by omega),
      toNat_toUInt32_ofNat (by omega),
      Nat.mod_eq_of_lt (by omega : c.toNat / 4096 * 2 ^ 12 < 2 ^ 32),
      Nat.mod_eq_of_lt (by omega : c.toNat / 64 % 64 * 2 ^ 6 < 2 ^ 32),
      or_eq_add _ (k := 12) (by omega),
      show c.toNat / 4096 * 2 ^ 12 + c.toNat / 64 % 64 * 2 ^ 6 = c.toNat / 64 * 2 ^ 6 by omega,
      or_eq_add _ (k := 6) (by omega)]
    change _ = c.toNat; omega
  have hv : c.toNat < 0xd800 ∨ (0xdfff < c.toNat ∧ c.toNat < 0x110000) := c.valid
  have g1 : (2048 : UInt32) ≤ c.val := show 2048 ≤ c.toNat by omega
  have g2 : c.val < 55296 ∨ 57343 < c.val ∧ c.val < 1114112 := hv
  simp only [utf8DecodeChar?, ha, hb, hc, Option.bind_eq_bind, Option.some_bind, l1, l2, l3, l4,
    c1, c2, c3, c4, hr, Bool.false_eq_true, if_false, if_true, Bool.and_self]
  simp [g1, g2]

theorem decode_four (h1 : 0xffff < c.toNat)
    (ha : a[i]? = some (UInt8.ofNat (c.toNat / 262144 + 240)))
    (hb : a[i + 1]? = some (UInt8.ofNat (c.toNat / 4096 % 64 + 128)))
    (hc : a[i + 2]? = some (UInt8.ofNat (c.toNat / 64 % 64 + 128)))
    (hd : a[i + 3]? = some (UInt8.ofNat (c.toNat % 64 + 128))) :
    utf8DecodeChar? a i = some c := by
  have hv : c.toNat < 0xd800 ∨ (0xdfff < c.toNat ∧ c.toNat < 0x110000) := c.valid
  obtain ⟨l1, l2, l3, l4, l5⟩ := lead4_byte (c.toNat / 262144) (by omega)
  obtain ⟨c1, c2⟩ := cont_byte (c.toNat / 4096 % 64) (Nat.mod_lt _ (by norm_num))
  obtain ⟨c3, c4⟩ := cont_byte (c.toNat / 64 % 64) (Nat.mod_lt _ (by norm_num))
  obtain ⟨c5, c6⟩ := cont_byte (c.toNat % 64) (Nat.mod_lt _ (by norm_num))
  have hr : (UInt8.ofNat (c.toNat / 262144)).toUInt32 <<< 18 |||
      (UInt8.ofNat (c.toNat / 4096 % 64)).toUInt32 <<< 12 |||
      (UInt8.ofNat (c.toNat / 64 % 64)).toUInt32 <<< 6 |||
      (UInt8.ofNat (c.toNat % 64)).toUInt32 = c.val := by
    refine UInt32.ext ?_
    rw [toNat_or, toNat_or, toNat_or, toNat_shiftLeft _ _ (by norm_num),
      toNat_shiftLeft _ _ (by norm_num), toNat_shiftLeft _ _ (by norm_num),
      toNat_toUInt32_ofNat (by omega), toNat_toUInt32_ofNat (by omega),
      toNat_toUInt32_ofNat (by omega), toNat_toUInt32_ofNat (by omega),
      Nat.mod_eq_of_lt (by omega : c.toNat / 262144 * 2 ^ 18 < 2 ^ 32),
      Nat.mod_eq_of_lt (by omega : c.toNat / 4096 % 64 * 2 ^ 12 < 2 ^ 32),
      Nat.mod_eq_of_lt (by omega : c.toNat / 64 % 64 * 2 ^ 6 < 2 ^ 32),
      or_eq_add _ (k := 18) (by omega),
      show c.toNat / 262144 * 2 ^ 18 + c.toNat / 4096 % 64 * 2 ^ 12 = c.toNat / 4096 * 2 ^ 12
        by omega,
      or_eq_add _ (k := 12) (by omega),
      show c.toNat / 4096 * 2 ^ 12 + c.toNat / 64 % 64 * 2 ^ 6 = c.toNat / 64 * 2 ^ 6 by omega,
      or_eq_add _ (k := 6) (by omega)]
    change _ = c.toNat; omega
  have g : (65536 : UInt32) ≤ c.val ∧ c.val < 1114112 :=
    ⟨show 65536 ≤ c.toNat by omega, show c.toNat < 1114112 by omega⟩
  simp only [utf8DecodeChar?, ha, hb, hc, hd, Option.bind_eq_bind, Option.some_bind, l1, l2, l3,
    l4, l5, c1, c2, c3, c4, c5, c6, hr, Bool.false_eq_true, if_false, if_true, Bool.and_self]
  simp [g]

end Decoder

/-! ### Whole strings -/

theorem getElem?_mk (L : List UInt8) (i : Nat) : (ByteArray.mk ⟨L⟩)[i]? = L[i]? := by
  by_cases h : i < L.length
  · rw [List.getElem?_eq_getElem h]
    exact dif_pos h
  · rw [List.getElem?_eq_none (by omega)]
    exact dif_neg h

theorem getElem?_middle (pre l post : List UInt8) {k : Nat} (hk : k < l.length) :
    (ByteArray.mk ⟨pre ++ l ++ post⟩)[pre.length + k]? = l[k]? := by
  rw [getElem?_mk, List.append_assoc, List.getElem?_append_right (by omega),
    Nat.add_sub_cancel_left, List.getElem?_append_left hk]

/-- **The decoder reads back a character** written between any two byte strings. -/
theorem utf8DecodeChar?_append (pre : List UInt8) (c : Char) (post : List UInt8) :
    utf8DecodeChar? ⟨⟨pre ++ utf8EncodeChar c ++ post⟩⟩ pre.length = some c := by
  rcases (by omega : c.toNat ≤ 127 ∨ 127 < c.toNat ∧ c.toNat ≤ 0x7ff ∨
      0x7ff < c.toNat ∧ c.toNat ≤ 0xffff ∨ 0xffff < c.toNat) with
    h | ⟨h1, h2⟩ | ⟨h1, h2⟩ | h1
  · rw [utf8EncodeChar_one c h]
    exact decode_one h (getElem?_middle pre _ post (k := 0) (by simp))
  · rw [utf8EncodeChar_two c h1 h2]
    exact decode_two h1 h2 (getElem?_middle pre _ post (k := 0) (by simp))
      (getElem?_middle pre _ post (k := 1) (by simp))
  · rw [utf8EncodeChar_three c h1 h2]
    exact decode_three h1 h2 (getElem?_middle pre _ post (k := 0) (by simp))
      (getElem?_middle pre _ post (k := 1) (by simp))
      (getElem?_middle pre _ post (k := 2) (by simp))
  · rw [utf8EncodeChar_four c h1]
    exact decode_four h1 (getElem?_middle pre _ post (k := 0) (by simp))
      (getElem?_middle pre _ post (k := 1) (by simp))
      (getElem?_middle pre _ post (k := 2) (by simp))
      (getElem?_middle pre _ post (k := 3) (by simp))

theorem validateUTF8_loop (cs : List Char) (pre : List UInt8) :
    validateUTF8.loop ⟨⟨pre ++ cs.flatMap utf8EncodeChar⟩⟩ pre.length = some () := by
  induction cs generalizing pre with
  | nil => rw [validateUTF8.loop]; simp [ByteArray.size]
  | cons c cs ih =>
    have hc := utf8DecodeChar?_append pre c (cs.flatMap utf8EncodeChar)
    have ih' := ih (pre ++ utf8EncodeChar c)
    rw [List.length_append, length_utf8EncodeChar, List.append_assoc] at ih'
    rw [List.append_assoc] at hc
    rw [validateUTF8.loop, List.flatMap_cons, if_pos (by simp [ByteArray.size, Char.utf8Size_pos])]
    simp only [hc, Option.bind_eq_bind, Option.some_bind, ih']

theorem fromUTF8_loop (cs : List Char) (pre : List UInt8) (acc : String) :
    fromUTF8.loop ⟨⟨pre ++ cs.flatMap utf8EncodeChar⟩⟩ pre.length acc =
      ⟨acc.data ++ cs⟩ := by
  induction cs generalizing pre acc with
  | nil => rw [fromUTF8.loop]; simp [ByteArray.size]
  | cons c cs ih =>
    have hc := utf8DecodeChar?_append pre c (cs.flatMap utf8EncodeChar)
    have ih' := ih (pre ++ utf8EncodeChar c) (acc.push c)
    rw [List.length_append, length_utf8EncodeChar, List.append_assoc] at ih'
    rw [List.append_assoc] at hc
    rw [fromUTF8.loop, List.flatMap_cons, if_pos (by simp [ByteArray.size, Char.utf8Size_pos])]
    simp only [hc, Option.getD_some, ih']
    simp [String.push]

end Utf8

/-- **Decoding the bytes of a string gives the string back.** -/
theorem fromUtf8_asBytes (s : String) : fromUtf8 (asBytes s) = some s := by
  rw [asBytes_eq]
  have hl := Utf8.validateUTF8_loop s.data []
  rw [List.nil_append, List.length_nil] at hl
  have hv : String.validateUTF8 ⟨⟨s.data.flatMap String.utf8EncodeChar⟩⟩ = true := by
    rw [String.validateUTF8, hl]; rfl
  rw [fromUtf8, String.fromUTF8?, dif_pos hv, String.fromUTF8]
  simpa using Utf8.fromUTF8_loop s.data [] ""

/-- Two strings with the same bytes are equal. -/
theorem asBytes_inj {s t : String} (h : asBytes s = asBytes t) : s = t :=
  Option.some.inj ((fromUtf8_asBytes s).symm.trans (h ▸ fromUtf8_asBytes t))

end MatrixSdk
