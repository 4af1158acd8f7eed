import MatrixSdk.Base64
import MatrixSdk.Rust.Utf8

/-!
# The verification record

`matrix_qrcode::utils::to_bytes` writes the record a QR code of the verification
flow carries: the tag `MATRIX`, the version, the mode, the flow id behind its
length as a big-endian `u16`, and the bytes of the two keys and of the shared
secret, each given as base64 and decoded. This file proves that

* `to_bytes` **succeeds exactly when it can**: when the flow id has at most 65535
  bytes and the three base64 texts decode;
* on success its output is the layout of the record, field after field;
* the record is **injective** in the mode, the flow id and the concatenation of the
  three decoded fields: the length prefix is never truncated, so no two flow ids
  are written alike.

The main result is `MatrixSdk.QrCode.toBytes_record`; the output of a success is
`MatrixSdk.QrCode.record`.

## Where the model stops

`to_qr_code` hands the record to the `qrcode` crate, which is not among the
sources, and is not modelled. The `EncodingError` of the crate's `error` module is
not among the sources either: it is modelled from the spec, with one error for the
flow id and one for base64.
-/

namespace MatrixSdk

namespace QrCode

/-- `HEADER`: the ASCII bytes of `MATRIX`. -/
def header : List UInt8 := [77, 65, 84, 82, 73, 88]

/-- `VERSION`. -/
def version : UInt8 := 2

/-- Modelled from the spec: the `EncodingError` of `matrix_qrcode::error`, not among
the sources, with the two failures the spec names for the record. -/
inductive EncodingError where
  /-- The byte length of the flow id does not fit in a `u16` (`TryFromIntError`). -/
  | flowId
  /-- A key or the shared secret is not base64. -/
  | base64 (e : DecodeError)
deriving DecidableEq, Repr

/-- `u16::try_from` on a `usize`. -/
def u16TryFrom (n : Nat) : Except EncodingError UInt16 :=
  if n < 2 ^ 16 then .ok (UInt16.ofNat n) else .error .flowId

section Code

variable (B : Base64)

/-- `to_bytes`: the record of a mode, a flow id, two keys and a shared secret, the
last three given as base64. -/
def toBytes (mode : UInt8) (flowId firstKey secondKey sharedSecret : String) :
    Except EncodingError (List UInt8) := do
  let flowIdLen ← u16TryFrom (asBytes flowId).length
  let flowIdLen := toBeBytes 2 flowIdLen.toNat
  let firstKey ← (B.decode firstKey).mapError .base64
  let secondKey ← (B.decode secondKey).mapError .base64
  let sharedSecret ← (B.decode sharedSecret).mapError .base64
  return [header, [version], [mode], flowIdLen, asBytes flowId, firstKey, secondKey,
    sharedSecret].flatten

end Code

/-! ### The layout -/

/-- The record of a mode, the bytes of a flow id and the three decoded fields. -/
def record (mode : UInt8) (flowId first second secret : List UInt8) : List UInt8 :=
  header ++ [version, mode] ++ toBeBytes 2 flowId.length ++ flowId ++ first ++ second ++ secret

section Spec

variable (B : Base64)

@[simp] theorem mapError_ok {ε ε' α : Type} (f : ε → ε') (a : α) :
    (Except.ok a : Except ε α).mapError f = .ok a := rfl

@[simp] theorem mapError_error {ε ε' α : Type} (f : ε → ε') (e : ε) :
    (Except.error e : Except ε α).mapError f = .error (f e) := rfl

/-- **What `to_bytes` does**: it fails on a flow id of more than 65535 bytes, then on
the first of the three texts that is not base64, and otherwise returns the record. -/
theorem toBytes_eq (mode : UInt8) (f a b c : String) :
    toBytes B mode f a b c =
      if (asBytes f).length < 2 ^ 16 then
        match B.decode a, B.decode b, B.decode c with
        | .ok x, .ok y, .ok z => .ok (record mode (asBytes f) x y z)
        | .error e, _, _ => .error (.base64 e)
        | .ok _, .error e, _ => .error (.base64 e)
        | .ok _, .ok _, .error e => .error (.base64 e)
      else .error .flowId := by
  unfold toBytes u16TryFrom
  split_ifs with hf
  · have hn : (UInt16.ofNat (asBytes f).length).toNat = (asBytes f).length :=
      Nat.mod_eq_of_lt hf
    cases B.decode a <;> cases B.decode b <;> cases B.decode c <;>
      simp [hn, record, bind, Except.bind, pure, Except.pure]
  · rfl

/-- A success of `to_bytes` holds the record of the decoded fields, for a flow id
that fits the prefix. -/
theorem toBytes_eq_ok {mode : UInt8} {f a b c : String} {out : List UInt8}
    (h : toBytes B mode f a b c = .ok out) :
    (asBytes f).length < 2 ^ 16 ∧ ∃ x y z, B.decode a = .ok x ∧ B.decode b = .ok y ∧
      B.decode c = .ok z ∧ out = record mode (asBytes f) x y z := by
  rw [toBytes_eq] at h
  split_ifs at h with hf
  refine ⟨hf, ?_⟩
  cases ha : B.decode a <;> cases hb : B.decode b <;> cases hc : B.decode c <;>
    simp only [ha, hb, hc, Except.ok.injEq, reduceCtorEq] at h
  exact ⟨_, _, _, rfl, rfl, rfl, h.symm⟩

/-- `to_bytes` succeeds exactly when the flow id fits the prefix and the three texts
decode. -/
theorem toBytes_ok_iff (mode : UInt8) (f a b c : String) :
    (∃ out, toBytes B mode f a b c = .ok out) ↔ (asBytes f).length ≤ 65535 ∧
      (∃ x, B.decode a = .ok x) ∧ (∃ y, B.decode b = .ok y) ∧
        ∃ z, B.decode c = .ok z := by
  constructor
  · rintro ⟨out, h⟩
    obtain ⟨hf, x, y, z, ha, hb, hc, -⟩ := toBytes_eq_ok B h
    exact ⟨by omega, ⟨x, ha⟩, ⟨y, hb⟩, ⟨z, hc⟩⟩
  · rintro ⟨hf, ⟨x, ha⟩, ⟨y, hb⟩, ⟨z, hc⟩⟩
    exact ⟨_, by rw [toBytes_eq, if_pos (by omega), ha, hb, hc]⟩

/-- The record determines the mode, the flow id and the three fields together, for
flow ids that fit the prefix. -/
theorem record_inj {mode mode' : UInt8} {fb fb' x y z x' y' z' : List UInt8}
    (hf : fb.length < 2 ^ 16) (hf' : fb'.length < 2 ^ 16)
    (h : record mode fb x y z = record mode' fb' x' y' z') :
    mode = mode' ∧ fb = fb' ∧ x ++ y ++ z = x' ++ y' ++ z' := by
  simp only [record, List.append_assoc, List.append_cancel_left_eq, List.cons_append,
    List.nil_append, List.cons.injEq, true_and] at h
  obtain ⟨rfl, h⟩ := h
  obtain ⟨hn, h⟩ := List.append_inj h (by simp)
  have hl := toBeBytes_inj (by simpa using hf) (by simpa using hf') hn
  obtain ⟨rfl, h⟩ := List.append_inj h hl
  exact ⟨rfl, rfl, by simpa using h⟩

/-- **The record is what the code can write, and is injective**: `to_bytes` succeeds
exactly when the flow id has at most 65535 bytes and the three texts decode; it
then writes `MATRIX ‖ [2] ‖ [mode] ‖ be16(|flow id|) ‖ flow id ‖ the three decoded
fields`; and two successes with the same output have the same mode, the same flow
id, and the same concatenation of the decoded fields. -/
theorem toBytes_record :
    (∀ mode f a b c, (∃ out, toBytes B mode f a b c = .ok out) ↔
      (asBytes f).length ≤ 65535 ∧ (∃ x, B.decode a = .ok x) ∧ (∃ y, B.decode b = .ok y) ∧
        ∃ z, B.decode c = .ok z) ∧
    (∀ mode f a b c out, toBytes B mode f a b c = .ok out →
      ∃ x y z, B.decode a = .ok x ∧ B.decode b = .ok y ∧ B.decode c = .ok z ∧
        out = header ++ [version, mode] ++ toBeBytes 2 (asBytes f).length ++ asBytes f ++
          x ++ y ++ z) ∧
    (∀ mode f a b c mode' f' a' b' c' out, toBytes B mode f a b c = .ok out →
      toBytes B mode' f' a' b' c' = .ok out →
      mode = mode' ∧ f = f' ∧ ∀ x y z x' y' z', B.decode a = .ok x → B.decode b = .ok y →
        B.decode c = .ok z → B.decode a' = .ok x' → B.decode b' = .ok y' →
        B.decode c' = .ok z' → x ++ y ++ z = x' ++ y' ++ z') := by
  refine ⟨toBytes_ok_iff B, fun mode f a b c out h => (toBytes_eq_ok B h).2, ?_⟩
  intro mode f a b c mode' f' a' b' c' out h h'
  obtain ⟨hf, x, y, z, ha, hb, hc, rfl⟩ := toBytes_eq_ok B h
  obtain ⟨hf', x', y', z', ha', hb', hc', he⟩ := toBytes_eq_ok B h'
  obtain ⟨rfl, hb, hr⟩ := record_inj hf hf' he
  refine ⟨rfl, asBytes_inj hb, fun x₁ y₁ z₁ x₁' y₁' z₁' h1 h2 h3 h1' h2' h3' => ?_⟩
  simp_all

end Spec

end QrCode

end MatrixSdk
