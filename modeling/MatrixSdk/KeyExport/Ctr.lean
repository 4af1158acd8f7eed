import MatrixSdk.KeyExport.Format

/-!
# The counter of AES-CTR stays in the low half

`encrypt_helper` reads the 16 bytes of IV it draws as a big-endian `u128`, clears
bit 63, and hands the result to `Aes256Ctr` as the initial counter block. CTR mode
XORs block `i` of the data with the cipher of the counter block of `i`, and there
are two ways of counting: a **128-bit counter**, `(iv + i) mod 2^128`, and a
**64-bit counter** in the low half, which keeps the high half of `iv` and counts
modulo `2^64` in the low one.

With bit 63 clear, the low half of the initial counter is below `2^63`, and a
plaintext of fewer than `2^64` bytes has fewer than `2^60` blocks, so the low half
never reaches `2^64`:

* `MatrixSdk.KeyExport.counter_stays_in_low_half`: the counter block of every block
  keeps the high half of the IV and holds `iv_lo + i` in the low one, the two modes
  give the same keystream, and no counter block repeats;
* `MatrixSdk.KeyExport.encryptHelper_counter128_eq_counter64`: the export written
  with one mode is the export written with the other.

The block cipher is a parameter: a function of the key and of the 16 bytes of a
counter block, giving the 16 bytes of keystream of that block.

## Where the model stops

The `aes-ctr` crate is not part of the sources. Which of the two counters its
`Aes256Ctr` uses is not modelled; the results say that, for the IVs the export
draws, the choice makes no difference. The `LoopError` of its `apply_keystream` is
not modelled: the crate counts the blocks it has processed from 0, whatever the IV,
and raises it only when that count would overflow, which a slice whose length fits in
a `usize` cannot make it do – on the export's IV and on any IV an import reads.
-/

namespace MatrixSdk

namespace KeyExport

/-! ### Counting blocks -/

/-- The counter block of block `i` for a 128-bit counter: `(iv + i) mod 2^128`. -/
def counter128 (iv : BitVec 128) (i : Nat) : BitVec 128 := iv + BitVec.ofNat 128 i

/-- The counter block of block `i` for a 64-bit counter in the low half: the high
half of `iv`, and `(iv_lo + i) mod 2^64`. -/
def counter64 (iv : BitVec 128) (i : Nat) : BitVec 128 :=
  BitVec.ofNat 128 (iv.toNat / 2 ^ 64 * 2 ^ 64 + (iv.toNat % 2 ^ 64 + i) % 2 ^ 64)

/-- The keystream of CTR mode over the block cipher `E`, counting blocks with
`counter` from the initial counter block `iv`: byte `n` is byte `n % 16` of the
cipher of the counter block of block `n / 16`. -/
def ctrKeystream (E : List UInt8 → List UInt8 → List UInt8)
    (counter : BitVec 128 → Nat → BitVec 128) (key iv : List UInt8) (n : Nat) : UInt8 :=
  (E key (u128ToBeBytes (counter (u128FromBeBytes iv) (n / 16)))).getD (n % 16) 0

/-- The primitives of `P` with the keystream of CTR mode over `E`. -/
def Primitives.withCtr (P : Primitives) (E : List UInt8 → List UInt8 → List UInt8)
    (counter : BitVec 128 → Nat → BitVec 128) : Primitives :=
  { P with keystream := ctrKeystream E counter }

theorem u128FromBeBytes_u128ToBeBytes (x : BitVec 128) : u128FromBeBytes (u128ToBeBytes x) = x := by
  rw [u128FromBeBytes, u128ToBeBytes, fromBeBytes_toBeBytes,
    Nat.mod_eq_of_lt (by simpa using x.isLt), BitVec.ofNat_toNat, BitVec.setWidth_eq]

/-! ### The low half of the counter -/

/-- With bit 63 clear, the low half of the initial counter is below `2^63`. -/
theorem toNat_counterOf_mod_lt (iv : List UInt8) : (counterOf iv).toNat % 2 ^ 64 < 2 ^ 63 := by
  refine Nat.lt_pow_two_of_testBit _ fun j hj => ?_
  rw [Nat.testBit_mod_two_pow, counterOf, testBit_clearBit63]
  by_cases h : j = 63
  · simp [h]
  · simp [show ¬ j < 64 by omega]

/-- While the low half does not overflow, the 128-bit counter keeps the high half
and adds in the low one. -/
theorem toNat_counter128 (iv : BitVec 128) {i : Nat} (h : iv.toNat % 2 ^ 64 + i < 2 ^ 64) :
    (counter128 iv i).toNat = iv.toNat / 2 ^ 64 * 2 ^ 64 + (iv.toNat % 2 ^ 64 + i) := by
  have hiv := iv.isLt
  rw [counter128, BitVec.toNat_add, BitVec.toNat_ofNat]
  omega

/-- While the low half does not overflow, the two counters agree. -/
theorem counter64_eq_counter128 (iv : BitVec 128) {i : Nat} (h : iv.toNat % 2 ^ 64 + i < 2 ^ 64) :
    counter64 iv i = counter128 iv i := by
  have hiv := iv.isLt
  refine BitVec.eq_of_toNat_eq ?_
  rw [toNat_counter128 iv h, counter64, BitVec.toNat_ofNat]
  omega

/-- The block of byte `n < 2^64`, added to the low half of an initial counter of the
export, stays below `2^64`. -/
theorem counterOf_add_block_lt (iv : List UInt8) {i : Nat} (hi : i < 2 ^ 60) :
    (counterOf iv).toNat % 2 ^ 64 + i < 2 ^ 64 := by
  have := toNat_counterOf_mod_lt iv
  omega

/-! ### The two CTR modes agree -/

section Modes

variable (E : List UInt8 → List UInt8 → List UInt8)

theorem ctrKeystream_counter128_eq (iv key : List UInt8) {n : Nat} (hn : n < 2 ^ 64) :
    ctrKeystream E counter128 key (u128ToBeBytes (counterOf iv)) n =
      ctrKeystream E counter64 key (u128ToBeBytes (counterOf iv)) n := by
  rw [ctrKeystream, ctrKeystream, u128FromBeBytes_u128ToBeBytes,
    counter64_eq_counter128 _ (counterOf_add_block_lt iv (by omega))]

theorem applyKeystream_counter128_eq (iv key : List UInt8) {plaintext : List UInt8}
    (hp : plaintext.length < 2 ^ 64) :
    applyKeystream (ctrKeystream E counter128 key (u128ToBeBytes (counterOf iv))) plaintext =
      applyKeystream (ctrKeystream E counter64 key (u128ToBeBytes (counterOf iv))) plaintext :=
  xorFrom_congr fun _ _ hn => ctrKeystream_counter128_eq E iv key (by omega)

/-- **The counter stays in the low half**: for the initial counter `c` of an export,
the counter block of every block `i` of a plaintext of fewer than `2^64` bytes keeps
the high half of `c` and holds `c_lo + i < 2^64` in the low one; so the keystreams
of the 128-bit and of the 64-bit counter agree on the plaintext, and no two blocks
have the same counter block. -/
theorem counter_stays_in_low_half (iv key plaintext : List UInt8)
    (hp : plaintext.length < 2 ^ 64) :
    (∀ i < 2 ^ 60, (counter128 (counterOf iv) i).toNat / 2 ^ 64 = (counterOf iv).toNat / 2 ^ 64 ∧
      (counter128 (counterOf iv) i).toNat % 2 ^ 64 = (counterOf iv).toNat % 2 ^ 64 + i ∧
      (counterOf iv).toNat % 2 ^ 64 + i < 2 ^ 64) ∧
    applyKeystream (ctrKeystream E counter128 key (u128ToBeBytes (counterOf iv))) plaintext =
      applyKeystream (ctrKeystream E counter64 key (u128ToBeBytes (counterOf iv))) plaintext ∧
    ∀ i < 2 ^ 60, ∀ j < 2 ^ 60, counter128 (counterOf iv) i = counter128 (counterOf iv) j →
      i = j := by
  refine ⟨fun i hi => ?_, applyKeystream_counter128_eq E iv key hp, fun i hi j hj h => ?_⟩
  · have hlt := counterOf_add_block_lt iv hi
    rw [toNat_counter128 _ hlt]
    omega
  · have := congrArg BitVec.toNat h
    rw [toNat_counter128 _ (counterOf_add_block_lt iv hi),
      toNat_counter128 _ (counterOf_add_block_lt iv hj)] at this
    omega

/-- The IV of all ones, whose low half after the clearing is the largest there is. -/
theorem counter_stays_in_low_half_ones :
    ([0] : List UInt8).length < 2 ^ 64 ∧
    (∀ i < 2 ^ 60, (counter128 (counterOf (List.replicate 16 255)) i).toNat / 2 ^ 64 =
        (counterOf (List.replicate 16 255)).toNat / 2 ^ 64 ∧
      (counter128 (counterOf (List.replicate 16 255)) i).toNat % 2 ^ 64 =
        (counterOf (List.replicate 16 255)).toNat % 2 ^ 64 + i ∧
      (counterOf (List.replicate 16 255)).toNat % 2 ^ 64 + i < 2 ^ 64) ∧
    applyKeystream (ctrKeystream (fun _ _ => []) counter128 []
        (u128ToBeBytes (counterOf (List.replicate 16 255)))) [0] =
      applyKeystream (ctrKeystream (fun _ _ => []) counter64 []
        (u128ToBeBytes (counterOf (List.replicate 16 255)))) [0] ∧
    ∀ i < 2 ^ 60, ∀ j < 2 ^ 60, counter128 (counterOf (List.replicate 16 255)) i =
      counter128 (counterOf (List.replicate 16 255)) j → i = j :=
  ⟨by decide,
    counter_stays_in_low_half (fun _ _ => []) (List.replicate 16 255) [] [0] (by decide)⟩

/-- **The export does not depend on the counter**: on a plaintext of fewer than
`2^64` bytes, the export written with CTR mode over `E` and a 128-bit counter is the
export written with a 64-bit counter, whatever the randomness. -/
theorem encryptHelper_counter128_eq_counter64 (P : Primitives) (B : Base64) (rng : Randomness)
    {plaintext : List UInt8} (hp : plaintext.length < 2 ^ 64) (passphrase : String)
    (rounds : UInt32) :
    encryptHelper (P.withCtr E counter128) B rng plaintext passphrase rounds =
      encryptHelper (P.withCtr E counter64) B rng plaintext passphrase rounds := by
  match rng with
  | ⟨some salt, some iv⟩ =>
    rw [encryptHelper_eq, encryptHelper_eq]
    simp only [sealPayload, sealBody, Primitives.withCtr,
      applyKeystream_counter128_eq E iv.toList _ hp]
  | ⟨none, _⟩ => rw [encryptHelper_of_none _ _ (.inl rfl), encryptHelper_of_none _ _ (.inl rfl)]
  | ⟨some _, none⟩ =>
    rw [encryptHelper_of_none _ _ (.inr rfl), encryptHelper_of_none _ _ (.inr rfl)]

/-- An export of one byte, with zero salt and IV, written with either counter. -/
theorem encryptHelper_counter128_eq_counter64_zero :
    ([0] : List UInt8).length < 2 ^ 64 ∧
    encryptHelper (Primitives.zero.withCtr (fun _ _ => []) counter128) Base64.standardNoPad
        ⟨some (Mathlib.Vector.replicate 16 0), some (Mathlib.Vector.replicate 16 0)⟩ [0] "" 1 =
      encryptHelper (Primitives.zero.withCtr (fun _ _ => []) counter64) Base64.standardNoPad
        ⟨some (Mathlib.Vector.replicate 16 0), some (Mathlib.Vector.replicate 16 0)⟩ [0] "" 1 :=
  ⟨by decide, encryptHelper_counter128_eq_counter64 _ _ _ _ (by decide) "" 1⟩

end Modes

end KeyExport

end MatrixSdk
