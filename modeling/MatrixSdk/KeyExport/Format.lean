import MatrixSdk.KeyExport.Payload

/-!
# What the export writes, and what the import accepts

The two halves of the payload format, each proved against the code:

* **the encoder conforms to the format** (`MatrixSdk.KeyExport.encryptHelper_conforms`):
  every export is the base64 of the version, the salt, the IV with bit 63 cleared,
  the round count, the ciphertext and an HMAC of everything before it, and each
  field is the one the keys were derived or the data encrypted with;
* **the decoder authenticates before it decrypts**
  (`MatrixSdk.KeyExport.decryptHelper_authenticates`): it returns a plaintext only
  for a payload of at least 69 bytes with the right version and a MAC that
  verifies, and that plaintext is the decryption of the ciphertext field; a MAC
  that does not verify is an `InvalidMac`, whatever the ciphertext;
* **the version is checked after the fixed fields are read**
  (`MatrixSdk.KeyExport.decryptHelper_rejects_version`): a wrong version byte is an
  `UnsupportedVersion` only on a payload long enough to hold the header; a shorter
  one stops earlier, with an I/O error;
* **a flipped byte of the MAC is caught**
  (`MatrixSdk.KeyExport.decryptHelper_mac_tampered`), whatever the HMAC. A flipped byte
  of the ciphertext is caught only if the HMAC tells the two ciphertexts apart, which
  an arbitrary function need not do;
* **an accepted payload is what the encoder writes** for its plaintext, with its own
  salt, IV and round count (`MatrixSdk.KeyExport.decryptHelper_reencrypt`), as long as
  bit 63 of its IV is clear – the bit the encoder clears.

All of these rest on one inversion of the decoder by offsets,
`MatrixSdk.KeyExport.openPayload_cases`: it refuses a payload with an error, panics
on the slice, or returns the text of the decrypted ciphertext, and nothing else.

## Where the decoder falls short

Nothing in `decrypt_helper` checks that the payload holds both a header and a MAC:
the reads stop at 37 bytes, while the MAC takes the last 32. On a payload of 37 to
68 bytes the MAC overlaps the header, and when it verifies the ciphertext slice
starts past its end and `decrypt_helper` **panics**
(`MatrixSdk.KeyExport.decryptHelper_panics_of_overlap`; through the armor, in
`MatrixSdk.KeyExport.decryptKeyExport_panics_of_overlap`). With HMAC-SHA256 such a
payload of 68 bytes is found in about 256 tries: its byte 36 is both the last byte of
the round count and the first byte of the MAC, and the 31 bytes after it are covered
by nothing; set them to the rest of the MAC of the first 36 bytes, and try the values
of byte 36 until the MAC starts with it. That slice is the only panic of the decoder
(`MatrixSdk.KeyExport.run_decryptHelper_eq_panics`).
-/

namespace MatrixSdk

namespace KeyExport

open Outcome

variable (P : Primitives)

/-! ### Reading back what the encoder writes -/

section Sealed

variable {salt : List UInt8} (iv plaintext : List UInt8) (passphrase : String) (rounds : UInt32)

theorem length_sealBody (hs : salt.length = 16) :
    (sealBody P salt iv plaintext passphrase rounds).length = 37 + plaintext.length := by
  simp [sealBody, u128ToBeBytes, hs]; omega

theorem authenticatedOf_sealPayload :
    authenticatedOf (sealPayload P salt iv plaintext passphrase rounds) =
      sealBody P salt iv plaintext passphrase rounds :=
  authenticatedOf_append _ (P.length_hmac _ _)

theorem macOf_sealPayload :
    macOf (sealPayload P salt iv plaintext passphrase rounds) =
      P.hmac ((P.pbkdf2 (asBytes passphrase) salt rounds).drop keySize)
        (sealBody P salt iv plaintext passphrase rounds) :=
  macOf_append _ (P.length_hmac _ _)

theorem length_sealPayload (hs : salt.length = 16) :
    (sealPayload P salt iv plaintext passphrase rounds).length = 69 + plaintext.length := by
  simp only [sealPayload, List.length_append, length_sealBody P iv plaintext passphrase rounds hs,
    P.length_hmac, macSize]
  omega

theorem headD_sealPayload : (sealPayload P salt iv plaintext passphrase rounds).headD 0 = version :=
  rfl

/-! The fields of the header are read back from the body, whatever follows it. -/

theorem saltOf_sealBody_append (hs : salt.length = 16) (m : List UInt8) :
    saltOf (sealBody P salt iv plaintext passphrase rounds ++ m) = salt := by
  simp only [sealBody, List.append_assoc, List.singleton_append, List.cons_append,
    List.nil_append]
  exact saltOf_layout _ hs

theorem roundsOf_sealBody_append (hs : salt.length = 16) (m : List UInt8) :
    roundsOf (sealBody P salt iv plaintext passphrase rounds ++ m) = rounds := by
  simp only [sealBody, List.append_assoc, List.singleton_append, List.cons_append,
    List.nil_append]
  exact (roundsOf_layout _ hs (length_toBeBytes _ _) (length_toBeBytes _ _)).trans
    (uint32_ofNat_fromBeBytes_toBeBytes _)

theorem derivedKeysOf_sealBody_append (hs : salt.length = 16) (m : List UInt8) :
    derivedKeysOf P (sealBody P salt iv plaintext passphrase rounds ++ m) passphrase =
      P.pbkdf2 (asBytes passphrase) salt rounds := by
  rw [derivedKeysOf, saltOf_sealBody_append P iv plaintext passphrase rounds hs,
    roundsOf_sealBody_append P iv plaintext passphrase rounds hs]

theorem saltOf_sealPayload (hs : salt.length = 16) :
    saltOf (sealPayload P salt iv plaintext passphrase rounds) = salt :=
  saltOf_sealBody_append P iv plaintext passphrase rounds hs _

theorem ivOf_sealPayload (hs : salt.length = 16) :
    ivOf (sealPayload P salt iv plaintext passphrase rounds) = u128ToBeBytes (counterOf iv) := by
  simp only [sealPayload, sealBody, List.append_assoc, List.singleton_append, List.cons_append,
    List.nil_append]
  exact ivOf_layout _ hs (length_toBeBytes _ _)

theorem roundsOf_sealPayload (hs : salt.length = 16) :
    roundsOf (sealPayload P salt iv plaintext passphrase rounds) = rounds :=
  roundsOf_sealBody_append P iv plaintext passphrase rounds hs _

theorem ciphertextOf_sealPayload (hs : salt.length = 16) :
    ciphertextOf (sealPayload P salt iv plaintext passphrase rounds) =
      applyKeystream (P.keystream ((P.pbkdf2 (asBytes passphrase) salt rounds).take keySize)
        (u128ToBeBytes (counterOf iv))) plaintext := by
  rw [ciphertextOf, authenticatedOf_sealPayload]
  simp only [sealBody, List.append_assoc, List.singleton_append, List.cons_append,
    List.nil_append]
  exact drop_layout _ hs (length_toBeBytes _ _) (length_toBeBytes _ _)

theorem derivedKeysOf_sealPayload (hs : salt.length = 16) :
    derivedKeysOf P (sealPayload P salt iv plaintext passphrase rounds) passphrase =
      P.pbkdf2 (asBytes passphrase) salt rounds :=
  derivedKeysOf_sealBody_append P iv plaintext passphrase rounds hs _

end Sealed

/-! ### The IV -/

theorem toNat_u128FromBeBytes {b : List UInt8} (h : b.length = 16) :
    (u128FromBeBytes b).toNat = fromBeBytes b := by
  rw [u128FromBeBytes, BitVec.toNat_ofNat, Nat.mod_eq_of_lt]
  simpa [h] using fromBeBytes_lt b

/-- Clearing bit 63 keeps every other bit. -/
theorem testBit_clearBit63 (x : BitVec 128) (j : Nat) :
    (clearBit63 x).toNat.testBit j = (decide (j ≠ 63) && x.toNat.testBit j) := by
  simp only [clearBit63, BitVec.testBit_toNat, BitVec.getLsbD_and, BitVec.getLsbD_not,
    BitVec.getLsbD_shiftLeft, BitVec.getLsbD_one]
  by_cases hj : j < 128
  · by_cases h63 : j = 63
    · subst h63; simp
    · simp [hj, h63]; omega
  · simp [hj, BitVec.getLsbD_ge x j (by omega)]

/-! ### The encoder conforms to the format -/

/-- **The encoder conforms to the export format**: with the salt `s` and the IV
bytes `i` drawn, the export is the base64 of
`0x01 ‖ s ‖ be128(i') ‖ be32(rounds) ‖ C ‖ M`, where `i'` is `i` read big-endian
with bit 63 cleared, `C` is the plaintext XORed with the keystream of the first
half of the derived keys from `i'`, and `M` is the HMAC under the second half of
everything before it. The decoder's offsets find the very salt, IV, round count,
ciphertext and MAC. -/
theorem encryptHelper_conforms (B : Base64) (salt : Mathlib.Vector UInt8 saltSize)
    (iv : Mathlib.Vector UInt8 ivSize) (plaintext : List UInt8) (passphrase : String)
    (rounds : UInt32) :
    let iv' := counterOf iv.toList
    let derivedKeys := P.pbkdf2 (asBytes passphrase) salt.toList rounds
    let ciphertext := applyKeystream (P.keystream (derivedKeys.take keySize) (u128ToBeBytes iv'))
      plaintext
    ∃ v, encryptHelper P B ⟨some salt, some iv⟩ plaintext passphrase rounds = returns (B.encode v) ∧
      v = [version] ++ salt.toList ++ u128ToBeBytes iv' ++ toBeBytes 4 rounds.toNat ++
        ciphertext ++ P.hmac (derivedKeys.drop keySize) (v.take (v.length - macSize)) ∧
      (∀ j, iv'.toNat.testBit j = (decide (j ≠ 63) && (fromBeBytes iv.toList).testBit j)) ∧
      (derivedKeys.take keySize).length = keySize ∧ (derivedKeys.drop keySize).length = keySize ∧
      ciphertext.length = plaintext.length ∧
      saltOf v = salt.toList ∧ ivOf v = u128ToBeBytes iv' ∧ roundsOf v = rounds ∧
      ciphertextOf v = ciphertext ∧ macOf v = P.hmac (derivedKeys.drop keySize) (authenticatedOf v) := by
  intro iv' derivedKeys ciphertext
  have hs : salt.toList.length = 16 := salt.2
  have hk : derivedKeys.length = 2 * keySize := P.length_pbkdf2 _ _ _
  have hauth : authenticatedOf (sealPayload P salt.toList iv.toList plaintext passphrase rounds) =
      sealBody P salt.toList iv.toList plaintext passphrase rounds :=
    authenticatedOf_sealPayload P _ _ _ _
  refine ⟨_, encryptHelper_eq P B salt iv plaintext passphrase rounds, ?_, fun j => ?_,
    by simp [hk, keySize], by simp [hk, keySize], length_applyKeystream _ _,
    saltOf_sealPayload P _ _ _ _ hs, ivOf_sealPayload P _ _ _ _ hs,
    roundsOf_sealPayload P _ _ _ _ hs, ciphertextOf_sealPayload P _ _ _ _ hs, ?_⟩
  · conv_lhs => rw [sealPayload]
    rw [← authenticatedOf, hauth]
    rfl
  · rw [show iv' = clearBit63 (u128FromBeBytes iv.toList) from rfl, testBit_clearBit63,
      toNat_u128FromBeBytes iv.toList_length]
  · rw [macOf_sealPayload, hauth]

/-! ### The decoder authenticates before it decrypts -/

theorem slice_ciphertext {v : List UInt8} (h : 69 ≤ v.length) :
    slice v 37 (v.length - 32) = returns (ciphertextOf v) := by
  rw [slice_of_le (by omega) (Nat.sub_le _ _)]; rfl

/-- **Authenticate, then decrypt**: a plaintext is returned only for a payload
of at least 69 bytes with the right version whose last 32 bytes are the HMAC of
all the bytes before them, under the second half of the keys stretched with the
payload's salt and round count; it is the text of the ciphertext field XORed with
the keystream of the first half from the IV field. A payload with a header whose
MAC does not verify is an `InvalidMac`, whatever its ciphertext decrypts to. -/
theorem decryptHelper_authenticates (B : Base64) (c passphrase : String) :
    (∀ s, (decryptHelper P B c passphrase).run = returns (.ok s) →
      ∃ v, B.decode c = .ok v ∧ 69 ≤ v.length ∧ v.headD 0 = version ∧
        macOf v = P.hmac ((derivedKeysOf P v passphrase).drop keySize) (authenticatedOf v) ∧
        fromUtf8 (applyKeystream (P.keystream ((derivedKeysOf P v passphrase).take keySize)
          (ivOf v)) (ciphertextOf v)) = some s) ∧
    (∀ v, B.decode c = .ok v → 69 ≤ v.length → v.headD 0 = version →
      P.hmac ((derivedKeysOf P v passphrase).drop keySize) (authenticatedOf v) ≠ macOf v →
      (decryptHelper P B c passphrase).run = returns (.error .invalidMac)) := by
  constructor
  · intro s h
    cases hd : B.decode c with
    | error e => rw [run_decryptHelper_of_error P B hd] at h; cases h
    | ok v =>
      rw [run_decryptHelper P B hd] at h
      simp only [openPayload] at h
      split_ifs at h with h1 h2 h3 <;> try cases h
      rcases Nat.lt_or_ge v.length 69 with h4 | h4
      · rw [slice_of_lt (show v.length - 32 < 37 by omega)] at h
        cases h
      · simp only [slice_ciphertext h4, Outcome.bind] at h
        exact ⟨v, rfl, h4, not_not.mp h2, (not_not.mp h3).symm,
          utf8Result_eq_ok.mp (Outcome.returns.inj h)⟩
  · intro v hd h1 h2 h3
    rw [run_decryptHelper P B hd]
    unfold openPayload
    rw [if_neg (by omega), if_neg (not_not.mpr h2), if_pos h3]

/-- A payload of 69 bytes, of the right version, whose last byte is not that of its
MAC: the decoder refuses it as an `InvalidMac`. -/
theorem decryptHelper_authenticates_wrong_mac :
    Base64.standardNoPad.decode (Base64.standardNoPad.encode (1 :: List.replicate 67 0 ++ [1])) =
      .ok (1 :: List.replicate 67 0 ++ [1]) ∧
    69 ≤ (1 :: List.replicate 67 0 ++ [1] : List UInt8).length ∧
    (1 :: List.replicate 67 0 ++ [1] : List UInt8).headD 0 = version ∧
    Primitives.zero.hmac ((derivedKeysOf Primitives.zero (1 :: List.replicate 67 0 ++ [1])
      "").drop keySize) (authenticatedOf (1 :: List.replicate 67 0 ++ [1])) ≠
        macOf (1 :: List.replicate 67 0 ++ [1]) ∧
    (decryptHelper Primitives.zero Base64.standardNoPad
      (Base64.standardNoPad.encode (1 :: List.replicate 67 0 ++ [1])) "").run =
        returns (.error .invalidMac) := by
  have hd := Base64.standardNoPad.decode_encode (1 :: List.replicate 67 0 ++ [1])
  refine ⟨hd, by decide, rfl, ?hm, (decryptHelper_authenticates Primitives.zero
    Base64.standardNoPad _ "").2 _ hd (by decide) rfl ?hm⟩
  decide

/-! ### A tampered MAC -/

/-- **A flipped byte of the MAC is caught**: XORing byte `j` of the MAC of an
export with a nonzero byte makes the import of the payload an `InvalidMac`, whatever
the HMAC. The bytes the MAC covers, and with them the keys, are unchanged, and the
MAC is not. -/
theorem decryptHelper_mac_tampered (B : Base64) {salt : List UInt8} (hs : salt.length = 16)
    (iv plaintext : List UInt8) (passphrase : String) (rounds : UInt32) {j : Nat}
    (hj : j < macSize) {δ : UInt8} (hδ : δ ≠ 0) :
    (decryptHelper P B (B.encode ((sealPayload P salt iv plaintext passphrase rounds).modify
      (· ^^^ δ) (37 + plaintext.length + j))) passphrase).run = returns (.error .invalidMac) := by
  have hb := length_sealBody P iv plaintext passphrase rounds hs
  set body := sealBody P salt iv plaintext passphrase rounds
  set mac := P.hmac ((P.pbkdf2 (asBytes passphrase) salt rounds).drop keySize) body
  have hm : mac.length = 32 := P.length_hmac _ _
  have hm' : (mac.modify (· ^^^ δ) j).length = 32 := by rw [List.length_modify, hm]
  have hv : (sealPayload P salt iv plaintext passphrase rounds).modify (· ^^^ δ)
      (37 + plaintext.length + j) = body ++ mac.modify (· ^^^ δ) j := by
    rw [← hb]; exact modify_append_right _ body mac j
  have hne : mac ≠ mac.modify (· ^^^ δ) j := fun h => by
    have := congrArg (fun l => l[j]?) h
    simp only [List.getElem?_modify_eq, List.getElem?_eq_getElem (show j < mac.length by
      rw [hm]; exact hj), Option.map_eq_map, Option.map_some', Option.some.injEq] at this
    exact xor_ne_self hδ this.symm
  have hh : (body ++ mac.modify (· ^^^ δ) j).headD 0 = version := rfl
  rw [hv, run_decryptHelper P B (B.decode_encode _)]
  unfold openPayload
  rw [if_neg (by simp only [List.length_append, hb, hm']; omega), if_neg (not_not.mpr hh),
    derivedKeysOf_sealBody_append P iv plaintext passphrase rounds hs,
    authenticatedOf_append _ hm', macOf_append _ hm', if_pos hne]

/-- The first byte of the MAC of an export of nothing, flipped: the import refuses
it. -/
theorem decryptHelper_mac_tampered_first :
    (List.replicate 16 0 : List UInt8).length = 16 ∧ 0 < macSize ∧ (1 : UInt8) ≠ 0 ∧
    (decryptHelper Primitives.zero Base64.standardNoPad (Base64.standardNoPad.encode
      ((sealPayload Primitives.zero (List.replicate 16 0) [] [] "" 1).modify (· ^^^ 1)
        (37 + ([] : List UInt8).length + 0))) "").run = returns (.error .invalidMac) :=
  ⟨rfl, by decide, by decide, decryptHelper_mac_tampered Primitives.zero Base64.standardNoPad
    (List.length_replicate _ _) [] [] "" 1 (by decide) (by decide)⟩

/-! ### The version is checked after the header is read -/

/-- **A wrong version byte is rejected**: as `UnsupportedVersion` when the payload
holds the 37 bytes of the header, and with the `UnexpectedEof` of the reads when it
is shorter. Either way the payload never decrypts. -/
theorem decryptHelper_rejects_version (B : Base64) {c : String} (passphrase : String)
    {v : List UInt8} (hd : B.decode c = .ok v) (hv : v.headD 0 ≠ version) :
    (decryptHelper P B c passphrase).run =
      returns (.error (if 37 ≤ v.length then .unsupportedVersion else .io .unexpectedEof)) := by
  rw [run_decryptHelper P B hd]
  unfold openPayload
  by_cases h : 37 ≤ v.length
  · rw [if_neg (by omega), if_pos hv, if_pos h]
  · rw [if_pos (by omega), if_neg h]

/-- A 69-byte payload of version 2 is refused as `UnsupportedVersion`. -/
theorem decryptHelper_rejects_version_two :
    Base64.standardNoPad.decode (Base64.standardNoPad.encode (2 :: List.replicate 68 0)) =
        .ok (2 :: List.replicate 68 0) ∧
      (2 :: List.replicate 68 0 : List UInt8).headD 0 ≠ version ∧
      (decryptHelper Primitives.zero Base64.standardNoPad
          (Base64.standardNoPad.encode (2 :: List.replicate 68 0)) "").run =
        returns (.error (if 37 ≤ (2 :: List.replicate 68 0 : List UInt8).length
          then .unsupportedVersion else .io .unexpectedEof)) :=
  ⟨Base64.standardNoPad.decode_encode _, by decide,
    decryptHelper_rejects_version Primitives.zero Base64.standardNoPad ""
      (Base64.standardNoPad.decode_encode _) (by decide)⟩

/-- A one-byte payload `[0]` has a wrong version byte, and is refused with an I/O
error, not as `UnsupportedVersion`. -/
theorem decryptHelper_short_wrong_version :
    (decryptHelper Primitives.zero Base64.standardNoPad (Base64.standardNoPad.encode [0]) "").run =
      returns (.error (.io .unexpectedEof)) := by
  rw [run_decryptHelper _ _ (Base64.standardNoPad.decode_encode _)]; rfl

/-! ### The overlapping MAC -/

/-- **The import panics** on a payload of 37 to 68 bytes with the right version
whose MAC – its last 32 bytes, which overlap the header – verifies: the ciphertext
slice starts at 37, past its end 32 bytes before the end of the payload. -/
theorem decryptHelper_panics_of_overlap (B : Base64) (passphrase : String) {v : List UInt8}
    (h1 : 37 ≤ v.length) (h2 : v.length < 69) (hv : v.headD 0 = version)
    (hm : P.hmac ((derivedKeysOf P v passphrase).drop keySize) (authenticatedOf v) = macOf v) :
    (decryptHelper P B (B.encode v) passphrase).run =
      panics (sliceOrderMessage 37 (v.length - 32)) := by
  rw [run_decryptHelper P B (B.decode_encode v)]
  unfold openPayload
  rw [if_neg (by omega), if_neg (not_not.mpr hv), if_neg (not_not.mpr hm), slice_of_lt (by omega)]
  rfl

/-! ### Every outcome of the decoder -/

/-- **What the decoder can do with a payload**: refuse it with an error; panic on
the slice, for a payload of 37 to 68 bytes with the version and a MAC that verifies;
or, from 69 bytes on, return the text of its decrypted ciphertext. -/
theorem openPayload_cases (v : List UInt8) (passphrase : String) :
    (∃ e, openPayload P v passphrase = returns (.error e)) ∨
    (37 ≤ v.length ∧ v.length < 69 ∧ v.headD 0 = version ∧
      P.hmac ((derivedKeysOf P v passphrase).drop keySize) (authenticatedOf v) = macOf v ∧
      openPayload P v passphrase = panics (sliceOrderMessage 37 (v.length - 32))) ∨
    (69 ≤ v.length ∧ v.headD 0 = version ∧
      P.hmac ((derivedKeysOf P v passphrase).drop keySize) (authenticatedOf v) = macOf v ∧
      openPayload P v passphrase = returns (utf8Result (applyKeystream
        (P.keystream ((derivedKeysOf P v passphrase).take keySize) (ivOf v))
        (ciphertextOf v)))) := by
  by_cases hok : 37 ≤ v.length ∧ v.headD 0 = version ∧
      P.hmac ((derivedKeysOf P v passphrase).drop keySize) (authenticatedOf v) = macOf v
  · obtain ⟨h1, hv, hm⟩ := hok
    rw [openPayload_of_verified P h1 hv hm]
    rcases Nat.lt_or_ge v.length 69 with h4 | h4
    · exact .inr (.inl ⟨h1, h4, hv, hm, by rw [slice_of_lt (by omega)]; rfl⟩)
    · exact .inr (.inr ⟨h4, hv, hm, by rw [slice_ciphertext h4]; rfl⟩)
  · exact .inl (openPayload_eq_error P hok)

/-- **The one panic of the decoder**: `decrypt_helper` panics exactly on a decoded
payload of 37 to 68 bytes with the right version whose MAC verifies, and then with
the message of a slice whose start is past its end. -/
theorem run_decryptHelper_eq_panics (B : Base64) {c passphrase m : String} :
    (decryptHelper P B c passphrase).run = panics m ↔
      ∃ v, B.decode c = .ok v ∧ 37 ≤ v.length ∧ v.length < 69 ∧ v.headD 0 = version ∧
        P.hmac ((derivedKeysOf P v passphrase).drop keySize) (authenticatedOf v) = macOf v ∧
        m = sliceOrderMessage 37 (v.length - 32) := by
  constructor
  · intro h
    cases hd : B.decode c with
    | error e => rw [run_decryptHelper_of_error P B hd] at h; cases h
    | ok v =>
      rw [run_decryptHelper P B hd] at h
      rcases openPayload_cases P v passphrase with
        ⟨e, he⟩ | ⟨h1, h4, hv, hm, he⟩ | ⟨-, -, -, he⟩ <;> rw [he] at h
      · cases h
      · exact ⟨v, rfl, h1, h4, hv, hm, (Outcome.panics.inj h).symm⟩
      · cases h
  · rintro ⟨v, hd, h1, h2, hv, hm, rfl⟩
    rw [run_decryptHelper P B hd, openPayload_of_verified P h1 hv hm, slice_of_lt (by omega)]
    rfl

/-- A success of the decoder comes from a payload of at least 69 bytes with the
version and a MAC that verifies; the text is that of its decrypted ciphertext. -/
theorem run_decryptHelper_eq_ok (B : Base64) {c passphrase s : String} {v : List UInt8}
    (hd : B.decode c = .ok v) (h : (decryptHelper P B c passphrase).run = returns (.ok s)) :
    69 ≤ v.length ∧ v.headD 0 = version ∧
      P.hmac ((derivedKeysOf P v passphrase).drop keySize) (authenticatedOf v) = macOf v ∧
      utf8Result (applyKeystream (P.keystream ((derivedKeysOf P v passphrase).take keySize)
        (ivOf v)) (ciphertextOf v)) = .ok s := by
  rw [run_decryptHelper P B hd] at h
  rcases openPayload_cases P v passphrase with
    ⟨e, he⟩ | ⟨-, -, -, -, he⟩ | ⟨h4, hv, hm, he⟩ <;> rw [he] at h
  · cases h
  · cases h
  · exact ⟨h4, hv, hm, Outcome.returns.inj h⟩

/-! ### Decrypting, then encrypting again -/

/-- The first 37 bytes of a payload: its version, salt, IV and round count. -/
theorem take_header {v : List UInt8} (h : 37 ≤ v.length) :
    v.take 37 = [v.headD 0] ++ saltOf v ++ ivOf v ++ (v.drop 33).take 4 := by
  obtain ⟨x, w, rfl⟩ := List.exists_cons_of_length_pos (by omega : 0 < v.length)
  simp only [saltOf, ivOf, saltSize, ivSize, List.take_succ_cons, List.drop_succ_cons,
    List.headD_cons, List.drop_zero, List.singleton_append, List.cons_append]
  rw [show 36 = 16 + (16 + 4) from rfl, List.take_add, List.take_add, List.drop_drop]
  simp [List.append_assoc]

/-- An IV whose bit 63 is clear is written back as it was read. -/
theorem u128ToBeBytes_counterOf {iv : List UInt8} (h16 : iv.length = 16)
    (hbit : (fromBeBytes iv).testBit 63 = false) : u128ToBeBytes (counterOf iv) = iv := by
  have hc : counterOf iv = u128FromBeBytes iv := by
    refine BitVec.eq_of_toNat_eq (Nat.eq_of_testBit_eq fun j => ?_)
    rw [counterOf, testBit_clearBit63, toNat_u128FromBeBytes h16]
    by_cases hj : j = 63
    · simp [hj, hbit]
    · simp [hj]
  rw [hc, u128ToBeBytes, toNat_u128FromBeBytes h16, ← h16, toBeBytes_fromBeBytes]

/-- The round count is written back as it was read. -/
theorem toBeBytes_roundsOf {v : List UInt8} (h : 37 ≤ v.length) :
    toBeBytes 4 (roundsOf v).toNat = (v.drop 33).take 4 := by
  have h4 : ((v.drop 33).take 4).length = 4 := by simp; omega
  have hlt := fromBeBytes_lt ((v.drop 33).take 4)
  have hr := toBeBytes_fromBeBytes ((v.drop 33).take 4)
  rw [h4] at hlt hr
  rw [roundsOf, UInt32.toNat_ofNat_of_lt hlt, hr]

/-- **A verified payload is what the encoder writes** for its decrypted ciphertext,
with its own salt, IV and round count as the encoder's, when bit 63 of its IV is
clear. -/
theorem sealPayload_of_verified {v : List UInt8} {passphrase : String} (h1 : 69 ≤ v.length)
    (hv : v.headD 0 = version)
    (hm : P.hmac ((derivedKeysOf P v passphrase).drop keySize) (authenticatedOf v) = macOf v)
    (hbit : (fromBeBytes (ivOf v)).testBit 63 = false) :
    sealPayload P (saltOf v) (ivOf v) (applyKeystream (P.keystream
      ((derivedKeysOf P v passphrase).take keySize) (ivOf v)) (ciphertextOf v)) passphrase
      (roundsOf v) = v := by
  have h16 : (ivOf v).length = 16 := by simp [ivOf, ivSize]; omega
  have hb : sealBody P (saltOf v) (ivOf v) (applyKeystream (P.keystream
      ((derivedKeysOf P v passphrase).take keySize) (ivOf v)) (ciphertextOf v)) passphrase
      (roundsOf v) = authenticatedOf v := by
    rw [sealBody, u128ToBeBytes_counterOf h16 hbit, toBeBytes_roundsOf (by omega)]
    simp only [derivedKeysOf]
    rw [applyKeystream_applyKeystream, ← hv, ← take_header (by omega), ciphertextOf]
    conv_rhs => rw [← List.take_append_drop 37 (authenticatedOf v)]
    rw [authenticatedOf, List.take_take, Nat.min_eq_left (by simp only [macSize]; omega)]
  simp only [sealPayload]
  rw [hb]
  exact (congrArg (authenticatedOf v ++ ·) hm).trans (List.take_append_drop _ _)

/-- **Decrypting, then encrypting again, gives the payload back**: when
`decrypt_helper` accepts a text whose decoded payload has bit 63 of its IV clear,
`encrypt_helper`, given the payload's salt and IV as its two draws of randomness and
the payload's round count, writes the base64 of that very payload for the plaintext
`decrypt_helper` decrypted. An accepted payload is fixed by its plaintext, its
header and the passphrase: the format leaves no other bytes free. -/
theorem decryptHelper_reencrypt (B : Base64) {c passphrase s : String} {v : List UInt8}
    (hd : B.decode c = .ok v) (hbit : (fromBeBytes (ivOf v)).testBit 63 = false)
    (h : (decryptHelper P B c passphrase).run = returns (.ok s)) :
    ∃ (salt : Mathlib.Vector UInt8 saltSize) (iv : Mathlib.Vector UInt8 ivSize),
      salt.toList = saltOf v ∧ iv.toList = ivOf v ∧
      fromUtf8 (applyKeystream (P.keystream ((derivedKeysOf P v passphrase).take keySize)
        (ivOf v)) (ciphertextOf v)) = some s ∧
      encryptHelper P B ⟨some salt, some iv⟩ (applyKeystream (P.keystream
        ((derivedKeysOf P v passphrase).take keySize) (ivOf v)) (ciphertextOf v)) passphrase
        (roundsOf v) = returns (B.encode v) := by
  obtain ⟨h1, hv, hm, hs⟩ := run_decryptHelper_eq_ok P B hd h
  refine ⟨⟨saltOf v, by simp [saltOf, saltSize]; omega⟩,
    ⟨ivOf v, by simp [ivOf, ivSize]; omega⟩, rfl, rfl, utf8Result_eq_ok.mp hs, ?_⟩
  rw [encryptHelper_eq]
  exact congrArg (fun w => returns (B.encode w)) (sealPayload_of_verified P h1 hv hm hbit)

/-- The 69-byte payload `[1, 0, …, 0]` under primitives that answer zeros: it
decrypts to the empty text, and encrypting that again writes it back. -/
theorem decryptHelper_reencrypt_zero :
    Base64.standardNoPad.decode (Base64.standardNoPad.encode (1 :: List.replicate 68 0)) =
      .ok (1 :: List.replicate 68 0) ∧
    (fromBeBytes (ivOf (1 :: List.replicate 68 0))).testBit 63 = false ∧
    (decryptHelper Primitives.zero Base64.standardNoPad
      (Base64.standardNoPad.encode (1 :: List.replicate 68 0)) "").run = returns (.ok "") ∧
    ∃ (salt : Mathlib.Vector UInt8 saltSize) (iv : Mathlib.Vector UInt8 ivSize),
      salt.toList = saltOf (1 :: List.replicate 68 0) ∧
      iv.toList = ivOf (1 :: List.replicate 68 0) ∧
      fromUtf8 (applyKeystream (Primitives.zero.keystream ((derivedKeysOf Primitives.zero
        (1 :: List.replicate 68 0) "").take keySize) (ivOf (1 :: List.replicate 68 0)))
        (ciphertextOf (1 :: List.replicate 68 0))) = some "" ∧
      encryptHelper Primitives.zero Base64.standardNoPad ⟨some salt, some iv⟩
        (applyKeystream (Primitives.zero.keystream ((derivedKeysOf Primitives.zero
          (1 :: List.replicate 68 0) "").take keySize) (ivOf (1 :: List.replicate 68 0)))
          (ciphertextOf (1 :: List.replicate 68 0))) ""
        (roundsOf (1 :: List.replicate 68 0)) =
        returns (Base64.standardNoPad.encode (1 :: List.replicate 68 0)) :=
  have hd := Base64.standardNoPad.decode_encode (1 :: List.replicate 68 0)
  have hbit : (fromBeBytes (ivOf (1 :: List.replicate 68 0))).testBit 63 = false := by decide
  have h : (decryptHelper Primitives.zero Base64.standardNoPad
      (Base64.standardNoPad.encode (1 :: List.replicate 68 0)) "").run = returns (.ok "") := by
    rw [run_decryptHelper _ _ hd, openPayload_of_verified Primitives.zero
      (v := 1 :: List.replicate 68 0) (by decide) rfl (by decide), slice_ciphertext (by decide)]
    exact congrArg returns (utf8Result_eq_ok.mpr (fromUtf8_asBytes ""))
  ⟨hd, hbit, h, decryptHelper_reencrypt Primitives.zero Base64.standardNoPad hd hbit h⟩

end KeyExport

end MatrixSdk
