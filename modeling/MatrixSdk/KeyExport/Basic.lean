import MatrixSdk.Rust.Cursor
import MatrixSdk.Rust.Str
import MatrixSdk.Rust.Utf8
import MatrixSdk.Base64

/-!
# The key export codec

`file_encryption/key_export.rs` turns a list of exported room keys into an
armored text block and back. The export side serializes the keys to JSON,
encrypts the bytes under a key stretched from a passphrase, prepends a header and
appends a MAC:

`payload = version ‖ salt ‖ iv ‖ be32(rounds) ‖ AES-CTR(key, iv, plaintext) ‖ HMAC(hmacKey, …)`,

and writes the base64 of it between two marker lines. The import side undoes each
step, and checks the MAC before it decrypts.

This file is the model of the code, function by function. The cryptographic
functions are parameters (`MatrixSdk.KeyExport.Primitives`): PBKDF2 and HMAC are
arbitrary functions of their inputs, and AES-CTR is the XOR with an arbitrary
keystream fixed by the key and the initial counter. What the OS's randomness gives
is an input (`MatrixSdk.KeyExport.Randomness`), and so is the JSON serializer
(`MatrixSdk.KeyExport.SerdeJson`) over an arbitrary type of keys.

A call either returns a `Result` or panics: the export panics when the OS has no
randomness to give, and the import panics when it slices its payload with a start
past the end (`MatrixSdk.KeyExport.decryptHelper`). The `expect`s on the creation
of the HMAC and AES objects never fire – an HMAC accepts a key of any length, and
the AES key and IV have the sizes AES-256-CTR asks for – and are not modelled.
-/

namespace MatrixSdk

namespace KeyExport

open Outcome

/-! ### Constants, errors and collaborators -/

/-- `SALT_SIZE`. -/
def saltSize : Nat := 16

/-- `IV_SIZE`. -/
def ivSize : Nat := 16

/-- `MAC_SIZE`. -/
def macSize : Nat := 32

/-- `KEY_SIZE`. -/
def keySize : Nat := 32

/-- `VERSION`. -/
def version : UInt8 := 1

/-- `HEADER`, the first marker line. -/
def header : String := "-----BEGIN MEGOLM SESSION DATA-----"

/-- `FOOTER`, the last marker line. -/
def footer : String := "-----END MEGOLM SESSION DATA-----"

/-- `serde_json::Error`, known here by its message. -/
structure SerdeError where
  /-- What went wrong. -/
  msg : String
deriving DecidableEq, Repr

/-- `KeyExportError`. -/
inductive KeyExportError where
  /-- "Invalid or missing key export headers." -/
  | invalidHeaders
  /-- "The key export has been encrypted with an unsupported version." -/
  | unsupportedVersion
  /-- "The MAC of the encrypted payload is invalid." -/
  | invalidMac
  /-- The decrypted bytes are not UTF-8; `FromUtf8Error` keeps them. -/
  | invalidUtf8 (bytes : List UInt8)
  /-- The decrypted text is not the JSON of a list of keys. -/
  | json (e : SerdeError)
  /-- The payload is not base64. -/
  | decode (e : DecodeError)
  /-- A read of the payload, or of the input, failed. -/
  | io (e : IoError)
deriving DecidableEq, Repr

/-- The cryptographic functions the codec calls, as functions of their inputs. -/
structure Primitives where
  /-- `pbkdf2::<Hmac<Sha512>>(passphrase, salt, rounds, &mut derived_keys)`: the
  64 bytes it writes. -/
  pbkdf2 : List UInt8 → List UInt8 → UInt32 → List UInt8
  length_pbkdf2 : ∀ p s r, (pbkdf2 p s r).length = 2 * keySize
  /-- `Hmac::<Sha256>` under a key, over a message: the 32 bytes of `finalize`. -/
  hmac : List UInt8 → List UInt8 → List UInt8
  length_hmac : ∀ k m, (hmac k m).length = macSize
  /-- The keystream of `Aes256Ctr::new_var(key, iv)`, byte by byte. -/
  keystream : List UInt8 → List UInt8 → Nat → UInt8

/-- Primitives that answer zeros: they meet the laws of `Primitives`, and let the
codec be run on fixed inputs. -/
def Primitives.zero : Primitives where
  pbkdf2 _ _ _ := List.replicate (2 * keySize) 0
  length_pbkdf2 _ _ _ := List.length_replicate _ _
  hmac _ _ := List.replicate macSize 0
  length_hmac _ _ := List.length_replicate _ _
  keystream _ _ _ := 0

/-- What the two calls of `getrandom` in one export give: the bytes they filled,
or nothing when the OS had no randomness to give. -/
structure Randomness where
  /-- The fill of the salt. -/
  salt : Option (Mathlib.Vector UInt8 saltSize)
  /-- The fill of the IV. -/
  iv : Option (Mathlib.Vector UInt8 ivSize)

/-- `serde_json::to_string` and `serde_json::from_str` on lists of keys. -/
structure SerdeJson (κ : Type) where
  /-- `serde_json::to_string`. -/
  toString : List κ → Except SerdeError String
  /-- `serde_json::from_str`. -/
  fromStr : String → Except SerdeError (List κ)

/-- Code that returns a `Result<_, KeyExportError>`, or panics. -/
abbrev Run := ExceptT KeyExportError Outcome

/-- The `?` on a `Result`: its error, converted by `From`, is returned. -/
def ofExcept {ε α : Type} (x : Except ε α) (f : ε → KeyExportError) : Run α :=
  ExceptT.mk (returns (x.mapError f))

@[simp] theorem ofExcept_ok {ε α : Type} (a : α) (f : ε → KeyExportError) :
    ofExcept (.ok a) f = pure a := rfl

/-! ### The 128-bit IV -/

/-- `u128::from_be_bytes`. -/
def u128FromBeBytes (b : List UInt8) : BitVec 128 := BitVec.ofNat 128 (fromBeBytes b)

/-- `u128::to_be_bytes`. -/
def u128ToBeBytes (x : BitVec 128) : List UInt8 := toBeBytes 16 x.toNat

/-- `iv &= !(1 << 63)`: the IV with bit 63 cleared. -/
def clearBit63 (x : BitVec 128) : BitVec 128 := x &&& ~~~((1 : BitVec 128) <<< 63)

/-! ### Export -/

section Code

variable (P : Primitives) (B : Base64) {κ : Type} (J : SerdeJson κ)

/-- `encrypt_helper`: the base64 of the encrypted payload. -/
def encryptHelper (rng : Randomness) (plaintext : List UInt8) (passphrase : String)
    (rounds : UInt32) : Outcome String := do
  let salt ← expect rng.salt "Can't generate randomness"
  let iv ← expect rng.iv "Can't generate randomness"
  let iv := clearBit63 (u128FromBeBytes iv.toList)
  let derivedKeys := P.pbkdf2 (asBytes passphrase) salt.toList rounds
  let key := derivedKeys.take keySize
  let hmacKey := derivedKeys.drop keySize
  let ciphertext := applyKeystream (P.keystream key (u128ToBeBytes iv)) plaintext
  -- `VERSION.to_be_bytes()` is the one byte `VERSION`
  let payload := [version] ++ salt.toList ++ u128ToBeBytes iv ++ toBeBytes 4 rounds.toNat ++
    ciphertext
  let mac := P.hmac hmacKey payload
  return B.encode (payload ++ mac)

/-- `encrypt_key_export`: the JSON of the keys, encrypted and armored. -/
def encryptKeyExport (rng : Randomness) (keys : List κ) (passphrase : String)
    (rounds : UInt32) : ExceptT SerdeError Outcome String := do
  let plaintext ← ExceptT.mk (returns (J.toString keys))
  let ciphertext ← ExceptT.lift (encryptHelper P B rng (asBytes plaintext) passphrase rounds)
  return Str.join "\n" [header, ciphertext, footer]

/-! ### Import -/

/-- The fields `decrypt_helper` reads from its cursor, and the two positions it
notes. -/
structure Header where
  /-- The version byte. -/
  version : UInt8
  /-- The salt. -/
  salt : List UInt8
  /-- The IV, as read. -/
  iv : List UInt8
  /-- The round count. -/
  rounds : UInt32
  /-- The position after the round count. -/
  ciphertextStart : Nat
  /-- The position 32 bytes before the end. -/
  ciphertextEnd : Nat
  /-- The last 32 bytes. -/
  mac : List UInt8
deriving DecidableEq, Repr

/-- The reads of `decrypt_helper` on its cursor, in the code's order. -/
def readHeader : Cursor.M Header := do
  let version ← Cursor.readU8
  let salt ← Cursor.readExact saltSize
  let iv ← Cursor.readExact ivSize
  let rounds ← Cursor.readU32BigEndian
  let ciphertextStart ← Cursor.position
  let _ ← Cursor.seek (.fromEnd (-32))
  let ciphertextEnd ← Cursor.position
  let mac ← Cursor.readExact macSize
  return { version, salt, iv, rounds, ciphertextStart, ciphertextEnd, mac }

/-- `decrypt_helper`: the plaintext of a base64 payload, checked against its MAC
first. -/
def decryptHelper (ciphertext passphrase : String) : Run String := do
  let decoded ← ofExcept (B.decode ciphertext) .decode
  let h ← ofExcept ((readHeader.run (Cursor.new decoded)).map Prod.fst) .io
  if h.version ≠ version then throw .unsupportedVersion
  let derivedKeys := P.pbkdf2 (asBytes passphrase) h.salt h.rounds
  let key := derivedKeys.take keySize
  let hmacKey := derivedKeys.drop keySize
  let authenticated ← ExceptT.lift (slice decoded 0 h.ciphertextEnd)
  if P.hmac hmacKey authenticated ≠ h.mac then throw .invalidMac
  let ciphertext ← ExceptT.lift (slice decoded h.ciphertextStart h.ciphertextEnd)
  let plaintext := applyKeystream (P.keystream key h.iv) ciphertext
  match fromUtf8 plaintext with
  | some s => return s
  | none => throw (.invalidUtf8 plaintext)

/-- `decrypt_key_export`: the keys of an armored export, read from the bytes of
the input. -/
def decryptKeyExport (input : List UInt8) (passphrase : String) : Run (List κ) := do
  let x ← ofExcept ((fromUtf8 input).elim (.error .invalidData) .ok) .io
  if !(Str.startsWith (Str.trimStart x) header && Str.endsWith (Str.trimEnd x) footer) then
    throw .invalidHeaders
  let payload := Str.collect ((Str.lines x).filter fun l =>
    !(Str.startsWith l header || Str.startsWith l footer))
  let s ← decryptHelper P B payload passphrase
  ofExcept (J.fromStr s) .json

end Code

end KeyExport

end MatrixSdk
