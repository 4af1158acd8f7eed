import MatrixSdk.KeyExport.Basic

/-!
# The payload at its offsets

`decrypt_helper` finds the fields of a payload by reading a cursor; the format
places them at fixed offsets – the version at 0, the salt at 1, the IV at 17, the
round count at 33, the ciphertext from 37 up to 32 bytes before the end, and the
MAC in those last 32 bytes. This file proves that the two agree, and states once
what each function of the codec does, so that nothing later unfolds the code:

* `MatrixSdk.KeyExport.readHeader_run`: on at least 37 bytes the reads give the
  fields at their offsets; on fewer they stop with `UnexpectedEof`;
* `MatrixSdk.KeyExport.run_decryptHelper`: the decoder is
  `MatrixSdk.KeyExport.openPayload` on the decoded bytes, a description by
  offsets with the checks in the code's order (and a text that is not base64 is
  refused with the decoder's error);
* `MatrixSdk.KeyExport.encryptHelper_eq`: with randomness, the encoder returns the
  base64 of `MatrixSdk.KeyExport.sealPayload`; without, it panics.
-/

namespace MatrixSdk

namespace KeyExport

open Outcome

/-! ### Fields by offset -/

/-- The salt: bytes 1 to 17. -/
def saltOf (v : List UInt8) : List UInt8 := (v.drop 1).take saltSize

/-- The IV: bytes 17 to 33. -/
def ivOf (v : List UInt8) : List UInt8 := (v.drop 17).take ivSize

/-- The round count: bytes 33 to 37, big-endian. -/
def roundsOf (v : List UInt8) : UInt32 := UInt32.ofNat (fromBeBytes ((v.drop 33).take 4))

/-- What the MAC covers: everything before the last 32 bytes. -/
def authenticatedOf (v : List UInt8) : List UInt8 := v.take (v.length - macSize)

/-- The MAC: the last 32 bytes. -/
def macOf (v : List UInt8) : List UInt8 := v.drop (v.length - macSize)

/-- The ciphertext: from byte 37 up to the MAC. -/
def ciphertextOf (v : List UInt8) : List UInt8 := (authenticatedOf v).drop 37

theorem macOf_append (p : List UInt8) {m : List UInt8} (hm : m.length = 32) :
    macOf (p ++ m) = m := by
  rw [macOf, List.length_append, hm, macSize, Nat.add_sub_cancel, List.drop_left]

theorem authenticatedOf_append (p : List UInt8) {m : List UInt8} (hm : m.length = 32) :
    authenticatedOf (p ++ m) = p := by
  rw [authenticatedOf, List.length_append, hm, macSize, Nat.add_sub_cancel, List.take_left]

section Layout

variable {x : UInt8} {s i r : List UInt8} (c : List UInt8)

/-! Written one after the other, the fields of the header are read back at their
offsets. -/

theorem saltOf_layout (hs : s.length = 16) : saltOf (x :: (s ++ c)) = s := by
  simp [saltOf, saltSize, List.take_append_of_le_length, hs]

theorem ivOf_layout (hs : s.length = 16) (hi : i.length = 16) :
    ivOf (x :: (s ++ (i ++ c))) = i := by
  simp [ivOf, ivSize, hs, hi]

theorem roundsOf_layout (hs : s.length = 16) (hi : i.length = 16) (hr : r.length = 4) :
    roundsOf (x :: (s ++ (i ++ (r ++ c)))) = UInt32.ofNat (fromBeBytes r) := by
  simp [roundsOf, List.drop_append_eq_append_drop, List.take_append_eq_append_take,
    List.drop_eq_nil_of_le, hs, hi, hr]

theorem drop_layout (hs : s.length = 16) (hi : i.length = 16) (hr : r.length = 4) :
    (x :: (s ++ (i ++ (r ++ c)))).drop 37 = c := by
  simp [List.drop_append_eq_append_drop, List.drop_eq_nil_of_le, hs, hi, hr]

end Layout

/-! ### The reads of the header -/

/-- **The reads of the header**: on at least 37 bytes they give the fields at
their offsets, and the MAC is the last 32 bytes; on fewer they fail with
`UnexpectedEof`. -/
theorem readHeader_run (v : List UInt8) :
    (readHeader.run (Cursor.new v)).map Prod.fst =
      if 37 ≤ v.length then
        .ok { version := v.headD 0, salt := saltOf v, iv := ivOf v, rounds := roundsOf v,
              ciphertextStart := 37, ciphertextEnd := v.length - 32, mac := macOf v }
      else .error .unexpectedEof := by
  simp only [readHeader, Cursor.readU8, Cursor.readU32BigEndian, Cursor.readExact,
    Cursor.position, Cursor.seek, Cursor.seekTo, Cursor.new, StateT.run, Bind.bind, StateT.bind,
    Pure.pure, StateT.pure, Except.bind, Except.pure, saltSize, ivSize, macSize]
  by_cases h : 37 ≤ v.length
  · have he : ((v.length : Int) + -32).toNat = v.length - 32 := by omega
    have hm : (v.drop (v.length - 32)).take 32 = v.drop (v.length - 32) :=
      List.take_of_length_le (by simp; omega)
    have hv : (v.take 1).headD 0 = v.headD 0 := by cases v <;> rfl
    simp (disch := omega) only [if_pos, he, hm, hv, Except.map, saltOf, ivOf, roundsOf, macOf,
      List.drop_zero, saltSize, ivSize, macSize]
  · rw [if_neg h]
    rcases (by omega : v.length < 1 ∨ 1 ≤ v.length ∧ v.length < 17 ∨
        17 ≤ v.length ∧ v.length < 33 ∨ 33 ≤ v.length ∧ v.length < 37)
      with h1 | ⟨h1, h2⟩ | ⟨h1, h2⟩ | ⟨h1, h2⟩ <;>
    simp (disch := omega) only [if_pos, if_neg] <;> rfl

/-! ### The decoder by offsets -/

section Decoder

variable (P : Primitives)

/-- The 64 bytes stretched from the passphrase, with the salt and the round count
of the payload. -/
def derivedKeysOf (v : List UInt8) (passphrase : String) : List UInt8 :=
  P.pbkdf2 (asBytes passphrase) (saltOf v) (roundsOf v)

/-- `String::from_utf8(plaintext)?`: the text of the decrypted bytes, or the
`InvalidUtf8` error that keeps them. -/
def utf8Result (plaintext : List UInt8) : Except KeyExportError String :=
  match fromUtf8 plaintext with
  | some s => .ok s
  | none => .error (.invalidUtf8 plaintext)

theorem utf8Result_eq_ok {plaintext : List UInt8} {s : String} :
    utf8Result plaintext = .ok s ↔ fromUtf8 plaintext = some s := by
  cases h : fromUtf8 plaintext <;> simp [utf8Result, h]

/-- What `decrypt_helper` does with the decoded payload `v`, by offsets: fail on
fewer than 37 bytes, then on a wrong version, then on a MAC that does not verify;
then slice out the ciphertext – a panic when the MAC overlaps the header – and
decrypt it. -/
def openPayload (v : List UInt8) (passphrase : String) : Outcome (Except KeyExportError String) :=
  if v.length < 37 then returns (.error (.io .unexpectedEof))
  else if v.headD 0 ≠ version then returns (.error .unsupportedVersion)
  else
    let derivedKeys := derivedKeysOf P v passphrase
    if P.hmac (derivedKeys.drop keySize) (authenticatedOf v) ≠ macOf v then
      returns (.error .invalidMac)
    else (slice v 37 (v.length - 32)).bind fun ciphertext =>
      let plaintext := applyKeystream (P.keystream (derivedKeys.take keySize) (ivOf v)) ciphertext
      returns (utf8Result plaintext)

/-- A text that is not base64 is refused with the error of the decoder. -/
theorem run_decryptHelper_of_error (B : Base64) {c : String} {e : DecodeError}
    (hd : B.decode c = .error e) (passphrase : String) :
    (decryptHelper P B c passphrase).run = returns (.error (.decode e)) := by
  simp [decryptHelper, ofExcept, hd, ExceptT.run_bind, Except.mapError]

/-- **The decoder is `openPayload` on the decoded bytes**: the cursor reads find
the fields at their offsets, and the checks come in the code's order. -/
theorem run_decryptHelper (B : Base64) {c : String} {v : List UInt8} (hd : B.decode c = .ok v)
    (passphrase : String) :
    (decryptHelper P B c passphrase).run = openPayload P v passphrase := by
  simp only [decryptHelper, ofExcept, Except.mapError, hd, readHeader_run,
    List.headD_eq_head?_getD, ne_eq, ExceptT.bind_throw, pure_bind, ite_not, ExceptT.run_bind,
    ExceptT.run_mk, pure_eq, returns_bind]
  by_cases hl : 37 ≤ v.length
  · have h0 : slice v 0 (v.length - 32) = returns (authenticatedOf v) := by
      rw [slice_of_le (Nat.zero_le _) (Nat.sub_le _ _)]; rfl
    simp only [hl, if_true, openPayload, if_neg (Nat.not_lt.mpr hl), h0, derivedKeysOf]
    by_cases hver : v.head?.getD 0 = version
    · simp only [hver, reduceIte, ExceptT.lift, map_returns, ExceptT.run_bind, ExceptT.run_mk,
        pure_eq, returns_bind, List.headD_eq_head?_getD, ne_eq, not_true_eq_false, ite_not]
      split_ifs
      · rcases slice v 37 (v.length - 32) with ct | m
        · simp only [ExceptT.run_bind, ExceptT.run_mk, map_returns, returns_bind, Outcome.bind,
            utf8Result]
          cases fromUtf8 (applyKeystream (P.keystream ((P.pbkdf2 (asBytes passphrase)
            (saltOf v) (roundsOf v)).take keySize) (ivOf v)) ct) <;> rfl
        · rfl
      · rfl
    · simp [hver]
  · simp [hl, openPayload, Nat.lt_of_not_le hl]

/-- A payload too short for its header, of another version, or whose MAC does not
verify is refused with an error. -/
theorem openPayload_eq_error {v : List UInt8} {passphrase : String}
    (h : ¬(37 ≤ v.length ∧ v.headD 0 = version ∧
      P.hmac ((derivedKeysOf P v passphrase).drop keySize) (authenticatedOf v) = macOf v)) :
    ∃ e, openPayload P v passphrase = returns (.error e) := by
  simp only [openPayload]
  split_ifs with h1 h2 h3
  · exact ⟨_, rfl⟩
  · exact ⟨_, rfl⟩
  · exact ⟨_, rfl⟩
  · exact absurd ⟨by omega, not_not.mp h2, not_not.mp h3⟩ h

/-- A payload with a header, the version and a MAC that verifies is sliced and
decrypted. -/
theorem openPayload_of_verified {v : List UInt8} {passphrase : String} (h1 : 37 ≤ v.length)
    (hv : v.headD 0 = version)
    (hm : P.hmac ((derivedKeysOf P v passphrase).drop keySize) (authenticatedOf v) = macOf v) :
    openPayload P v passphrase = (slice v 37 (v.length - 32)).bind fun ciphertext =>
      returns (utf8Result (applyKeystream
        (P.keystream ((derivedKeysOf P v passphrase).take keySize) (ivOf v)) ciphertext)) := by
  unfold openPayload
  rw [if_neg (by omega), if_neg (not_not.mpr hv), if_neg (not_not.mpr hm)]

end Decoder

/-! ### The encoder -/

section Encoder

variable (P : Primitives)

/-- The initial counter of an export: the IV drawn, read as a big-endian `u128`,
with bit 63 cleared. -/
def counterOf (iv : List UInt8) : BitVec 128 := clearBit63 (u128FromBeBytes iv)

/-- The header and the ciphertext an export writes, for the salt and the IV drawn. -/
def sealBody (salt iv plaintext : List UInt8) (passphrase : String) (rounds : UInt32) :
    List UInt8 :=
  let derivedKeys := P.pbkdf2 (asBytes passphrase) salt rounds
  let iv := u128ToBeBytes (counterOf iv)
  [version] ++ salt ++ iv ++ toBeBytes 4 rounds.toNat ++
    applyKeystream (P.keystream (derivedKeys.take keySize) iv) plaintext

/-- The payload an export writes: the header, the ciphertext, and the MAC of both. -/
def sealPayload (salt iv plaintext : List UInt8) (passphrase : String) (rounds : UInt32) :
    List UInt8 :=
  let body := sealBody P salt iv plaintext passphrase rounds
  body ++ P.hmac ((P.pbkdf2 (asBytes passphrase) salt rounds).drop keySize) body

/-- **The encoder with randomness** returns the base64 of `sealPayload`. -/
theorem encryptHelper_eq (B : Base64) (salt : Mathlib.Vector UInt8 saltSize)
    (iv : Mathlib.Vector UInt8 ivSize) (plaintext : List UInt8) (passphrase : String)
    (rounds : UInt32) :
    encryptHelper P B ⟨some salt, some iv⟩ plaintext passphrase rounds =
      returns (B.encode (sealPayload P salt.toList iv.toList plaintext passphrase rounds)) := rfl

/-- **Without randomness the encoder panics**, whatever else it is given. -/
theorem encryptHelper_of_none (B : Base64) {rng : Randomness}
    (h : rng.salt = none ∨ rng.iv = none) (plaintext : List UInt8) (passphrase : String)
    (rounds : UInt32) :
    encryptHelper P B rng plaintext passphrase rounds = panics "Can't generate randomness" := by
  obtain ⟨salt, iv⟩ := rng
  rcases h with h | h <;> cases h <;> [rfl; cases salt <;> rfl]

end Encoder

end KeyExport

end MatrixSdk
