import Mathlib

/-!
# Bytes, big-endian integers and panics

Both codecs of the SDK lay their data out as bytes one field after the other:
the key export writes a version byte, a salt, an IV, a big-endian round count, a
ciphertext and a MAC; the QR code payload writes a big-endian length before the
flow id. This file fixes how those bytes, and the ways the code can stop, are
modelled.

* A byte string is a `List UInt8`. The fixed-width integers the code reads and
  writes go through `MatrixSdk.fromBeBytes` and `MatrixSdk.toBeBytes`, which are
  each other's inverses (`MatrixSdk.toBeBytes_fromBeBytes`,
  `MatrixSdk.fromBeBytes_toBeBytes`).
* A call of Rust code **returns or panics** (`MatrixSdk.Outcome`). Slicing with
  `&v[a..b]` panics when `a > b` or when `b` is past the end
  (`MatrixSdk.slice`), and `Option::expect` panics on `None`.
* The stream cipher's `apply_keystream` is the XOR of the data with a keystream
  indexed by the byte position (`MatrixSdk.applyKeystream`); applying it twice
  gives the data back.
-/

namespace MatrixSdk

/-! ### Returning or panicking -/

/-- How a call of Rust code ends: it returns a value, or it panics with the
message the runtime prints. -/
inductive Outcome (α : Type) where
  /-- The call returns `a`. -/
  | returns (a : α)
  /-- The call panics. -/
  | panics (msg : String)
deriving DecidableEq, Repr

namespace Outcome

variable {α β : Type}

/-- The rest of the code runs on the value returned; a panic unwinds past it. -/
def bind : Outcome α → (α → Outcome β) → Outcome β
  | returns a, f => f a
  | panics m, _ => panics m

instance : Monad Outcome where
  pure := returns
  bind := bind

instance : LawfulMonad Outcome :=
  LawfulMonad.mk' Outcome (fun x => by cases x <;> rfl) (fun _ _ => rfl)
    (fun x _ _ => by cases x <;> rfl)

@[simp] theorem pure_eq (a : α) : (pure a : Outcome α) = returns a := rfl

@[simp] theorem returns_bind (a : α) (f : α → Outcome β) : returns a >>= f = f a := rfl

@[simp] theorem panics_bind (m : String) (f : α → Outcome β) : panics m >>= f = panics m := rfl

@[simp] theorem map_returns (f : α → β) (a : α) : f <$> returns a = returns (f a) := rfl

/-- `Option::expect`: the value held, or a panic with the given message. -/
def expect : Option α → String → Outcome α
  | some a, _ => returns a
  | none, msg => panics msg

@[simp] theorem expect_some (a : α) (msg : String) : expect (some a) msg = returns a := rfl

@[simp] theorem expect_none (msg : String) : expect (none : Option α) msg = panics msg := rfl

end Outcome

open Outcome

/-- The message of the panic of a range whose start is past its end. -/
def sliceOrderMessage (start stop : Nat) : String :=
  s!"slice index starts at {start} but ends at {stop}"

/-- `&v[start..stop]`, with the two panics of Rust's range indexing, tested in
Rust's order. -/
def slice {α : Type} (v : List α) (start stop : Nat) : Outcome (List α) :=
  let len := v.length
  if stop < start then
    panics (sliceOrderMessage start stop)
  else if len < stop then
    panics s!"range end index {stop} out of range for slice of length {len}"
  else
    returns ((v.take stop).drop start)

theorem slice_of_le {α : Type} {v : List α} {start stop : Nat} (h : start ≤ stop)
    (hv : stop ≤ v.length) : slice v start stop = returns ((v.take stop).drop start) := by
  simp only [slice, if_neg (Nat.not_lt.mpr h), if_neg (Nat.not_lt.mpr hv)]

theorem slice_of_lt {α : Type} {v : List α} {start stop : Nat} (h : stop < start) :
    slice v start stop = panics (sliceOrderMessage start stop) := by
  simp only [slice, if_pos h]

/-! ### Big-endian integers -/

@[simp] theorem toNat_uint8_ofNat (n : Nat) : (UInt8.ofNat n).toNat = n % 256 := rfl

@[simp] theorem uint8_ofNat_toNat (x : UInt8) : UInt8.ofNat x.toNat = x := by
  cases x with
  | mk bv =>
    show UInt8.mk (BitVec.ofNat 8 bv.toNat) = _
    rw [BitVec.ofNat_toNat, BitVec.setWidth_eq]

@[simp] theorem uint32_ofNat_toNat (x : UInt32) : UInt32.ofNat x.toNat = x := by
  cases x with
  | mk bv =>
    show UInt32.mk (BitVec.ofNat 32 bv.toNat) = _
    rw [BitVec.ofNat_toNat, BitVec.setWidth_eq]

theorem uint8_ofNat_eq {n : Nat} {x : UInt8} (h : n % 256 = x.toNat) : UInt8.ofNat n = x :=
  UInt8.eq_of_val_eq (Fin.ext h)

/-- The number a big-endian byte string stands for: `u16::from_be_bytes`,
`u32::from_be_bytes` and `u128::from_be_bytes` on their widths. -/
def fromBeBytes (b : List UInt8) : Nat :=
  b.foldl (fun acc x => acc * 256 + x.toNat) 0

/-- The `w` big-endian bytes of `n`, which is taken modulo `256 ^ w`: the
`to_be_bytes` of a `w`-byte integer. -/
def toBeBytes : Nat → Nat → List UInt8
  | 0, _ => []
  | w + 1, n => toBeBytes w (n / 256) ++ [UInt8.ofNat n]

@[simp] theorem length_toBeBytes (w n : Nat) : (toBeBytes w n).length = w := by
  induction w generalizing n with
  | zero => rfl
  | succ w ih => simp [toBeBytes, ih]

@[simp] theorem fromBeBytes_nil : fromBeBytes [] = 0 := rfl

@[simp] theorem fromBeBytes_append_singleton (b : List UInt8) (x : UInt8) :
    fromBeBytes (b ++ [x]) = fromBeBytes b * 256 + x.toNat := by
  simp [fromBeBytes, List.foldl_append]

theorem fromBeBytes_lt (b : List UInt8) : fromBeBytes b < 256 ^ b.length := by
  induction b using List.reverseRecOn with
  | nil => simp
  | append_singleton b x ih =>
    have hx := x.toNat_lt
    simp only [fromBeBytes_append_singleton, List.length_append, List.length_singleton,
      pow_succ]
    change _ < 256 at hx
    nlinarith

/-- Reading back what was written gives the number modulo the width. -/
theorem fromBeBytes_toBeBytes (w n : Nat) : fromBeBytes (toBeBytes w n) = n % 256 ^ w := by
  induction w generalizing n with
  | zero => simp [toBeBytes, Nat.mod_one]
  | succ w ih =>
    rw [toBeBytes, fromBeBytes_append_singleton, ih, toNat_uint8_ofNat, pow_succ,
      Nat.mul_comm (256 ^ w) 256, Nat.mod_mul]
    omega

/-- Writing back what was read gives the bytes. -/
theorem toBeBytes_fromBeBytes (b : List UInt8) : toBeBytes b.length (fromBeBytes b) = b := by
  induction b using List.reverseRecOn with
  | nil => rfl
  | append_singleton b x ih =>
    have hx := x.toNat_lt
    change _ < 256 at hx
    have hdiv : (fromBeBytes b * 256 + x.toNat) / 256 = fromBeBytes b := by omega
    simp only [List.length_append, List.length_singleton, toBeBytes,
      fromBeBytes_append_singleton, hdiv, ih]
    rw [uint8_ofNat_eq (x := x) (by omega)]

/-- A `u32` read back from its four big-endian bytes. -/
@[simp] theorem uint32_ofNat_fromBeBytes_toBeBytes (r : UInt32) :
    UInt32.ofNat (fromBeBytes (toBeBytes 4 r.toNat)) = r := by
  rw [fromBeBytes_toBeBytes, Nat.mod_eq_of_lt (by simpa using r.toNat_lt), uint32_ofNat_toNat]

/-- Two numbers below `256 ^ w` with the same bytes are equal. -/
theorem toBeBytes_inj {w n m : Nat} (hn : n < 256 ^ w) (hm : m < 256 ^ w)
    (h : toBeBytes w n = toBeBytes w m) : n = m := by
  have := congrArg fromBeBytes h
  rwa [fromBeBytes_toBeBytes, fromBeBytes_toBeBytes, Nat.mod_eq_of_lt hn,
    Nat.mod_eq_of_lt hm] at this

/-- Changing a byte past a prefix changes the rest only. -/
theorem modify_append_right {α : Type} (f : α → α) (l₁ l₂ : List α) (n : Nat) :
    (l₁ ++ l₂).modify f (l₁.length + n) = l₁ ++ l₂.modify f n := by
  induction l₁ with
  | nil => simp
  | cons a l ih => rw [List.length_cons, Nat.add_right_comm, List.cons_append,
      List.modify_succ_cons, ih, List.cons_append]

/-! ### Stream ciphers -/

/-- The data XORed with the keystream `ks`, from byte `n` of the keystream on. -/
def xorFrom (ks : Nat → UInt8) : Nat → List UInt8 → List UInt8
  | _, [] => []
  | n, b :: l => (b ^^^ ks n) :: xorFrom ks (n + 1) l

/-- `SyncStreamCipher::apply_keystream`: the data XORed with the keystream from
its first byte on. -/
def applyKeystream (ks : Nat → UInt8) (data : List UInt8) : List UInt8 :=
  xorFrom ks 0 data

theorem xor_xor_cancel (b k : UInt8) : b ^^^ k ^^^ k = b := by
  cases b; cases k
  show UInt8.mk (_ ^^^ _ ^^^ _) = _
  rw [BitVec.xor_assoc, BitVec.xor_self, BitVec.xor_zero]

/-- XORing with a nonzero byte changes the byte. -/
theorem xor_ne_self {b k : UInt8} (hk : k ≠ 0) : b ^^^ k ≠ b := by
  cases b with | mk bv => cases k with | mk kv =>
  intro h
  have h' : bv ^^^ kv = bv := congrArg UInt8.toBitVec h
  refine hk (congrArg UInt8.mk ?_)
  calc kv = (bv ^^^ bv) ^^^ kv := by rw [BitVec.xor_self, BitVec.zero_xor]
    _ = bv ^^^ (bv ^^^ kv) := BitVec.xor_assoc _ _ _
    _ = 0 := by rw [h', BitVec.xor_self]; rfl

@[simp] theorem length_xorFrom (ks : Nat → UInt8) (n : Nat) (l : List UInt8) :
    (xorFrom ks n l).length = l.length := by
  induction l generalizing n with
  | nil => rfl
  | cons b l ih => simp [xorFrom, ih]

theorem xorFrom_xorFrom (ks : Nat → UInt8) (n : Nat) (l : List UInt8) :
    xorFrom ks n (xorFrom ks n l) = l := by
  induction l generalizing n with
  | nil => rfl
  | cons b l ih => simp [xorFrom, ih, xor_xor_cancel]

/-- Only the keystream bytes under the data matter. -/
theorem xorFrom_congr {ks ks' : Nat → UInt8} {n : Nat} {l : List UInt8}
    (h : ∀ i, n ≤ i → i < n + l.length → ks i = ks' i) :
    xorFrom ks n l = xorFrom ks' n l := by
  induction l generalizing n with
  | nil => rfl
  | cons b l ih =>
    simp only [xorFrom, h n le_rfl (by simp), List.cons.injEq, true_and]
    exact ih fun i h1 h2 => h i (by omega) (by simp at h2 ⊢; omega)

@[simp] theorem length_applyKeystream (ks : Nat → UInt8) (l : List UInt8) :
    (applyKeystream ks l).length = l.length := length_xorFrom ks 0 l

/-- Applying the keystream twice gives the data back. -/
theorem applyKeystream_applyKeystream (ks : Nat → UInt8) (l : List UInt8) :
    applyKeystream ks (applyKeystream ks l) = l := xorFrom_xorFrom ks 0 l

end MatrixSdk
