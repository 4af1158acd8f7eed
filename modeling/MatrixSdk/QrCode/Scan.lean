import MatrixSdk.QrCode.Record

/-!
# Scanning an image for the record

`decode_qr` decodes, in detection order, the grids the QR detector found in an
image. It returns the first decoded payload that starts with the tag `MATRIX`; the
failures of the other grids are remembered in one variable, `error`, which each
failure overwrites. When no payload carries the tag it returns that error, or
`DecodingError::Header` when no grid failed.

Detection and the decoding of a grid belong to the `rqrr` crate, which is not among
the sources: the input of the model is the list of the outcomes of `decode_to`, one
for each detected grid, in detection order, each a payload or an error.

* `MatrixSdk.QrCode.decodeQr_accepts_first`: the scan succeeds exactly when some
  grid decodes to a tagged payload, and then returns the payload of the first of
  them, whatever the grids before and after it;
* `MatrixSdk.QrCode.decodeQr_error`: when no grid gives a tagged payload, the scan
  fails with the error of the **last grid that failed**, and with `Header` only
  when no grid failed. A grid that decoded to an untagged payload leaves no trace:
  with a later failure, the error is that failure's, not `Header`
  (`MatrixSdk.QrCode.decodeQr_untagged_then_failure`);
* `MatrixSdk.QrCode.decodeQr_toBytes`: the writer and the scan fit together – a
  record written by `to_bytes` carries the tag, so a grid that decodes to it is
  accepted unless an earlier grid gave a tagged payload.
-/

namespace MatrixSdk

namespace QrCode

variable {ε : Type}

/-- Modelled from the spec: the `DecodingError` of `matrix_qrcode::error`, not among
the sources, with the two errors `decode_qr` returns. -/
inductive DecodingError (ε : Type) where
  /-- No payload carries the tag. -/
  | header
  /-- The error of a grid that failed to decode, converted by `From`. -/
  | qr (e : ε)
deriving DecidableEq, Repr

/-- `<[u8]>::starts_with(HEADER)`. -/
def startsWithHeader (decoded : List UInt8) : Bool := header.isPrefixOf decoded

/-- The loop of `decode_qr` over the outcomes of the grids left, with the last
error seen so far. -/
def decodeQrLoop :
    Option ε → List (Except ε (List UInt8)) → Except (DecodingError ε) (List UInt8)
  | error, [] => .error ((error.map .qr).getD .header)
  | error, .ok decoded :: grids =>
    if startsWithHeader decoded then .ok decoded else decodeQrLoop error grids
  | _, .error e :: grids => decodeQrLoop (some e) grids

/-- `decode_qr`, on the outcomes of the grids detected in the image. -/
def decodeQr (grids : List (Except ε (List UInt8))) : Except (DecodingError ε) (List UInt8) :=
  decodeQrLoop none grids

/-! ### Accepting the first tagged payload -/

/-- Untagged payloads and failures pass through the loop, changing only its error. -/
theorem decodeQrLoop_append_of_untagged {pre : List (Except ε (List UInt8))}
    (hpre : ∀ d, .ok d ∈ pre → startsWithHeader d = false) (error : Option ε)
    (rest : List (Except ε (List UInt8))) :
    ∃ error', decodeQrLoop error (pre ++ rest) = decodeQrLoop error' rest := by
  induction pre generalizing error with
  | nil => exact ⟨error, rfl⟩
  | cons g pre ih =>
    have hpre' : ∀ d, .ok d ∈ pre → startsWithHeader d = false := fun d hd =>
      hpre d (List.mem_cons_of_mem _ hd)
    cases g with
    | error e => exact ih hpre' (some e)
    | ok x =>
      simp only [List.cons_append, decodeQrLoop, hpre x (List.mem_cons_self _ _),
        Bool.false_eq_true, if_false]
      exact ih hpre' error

/-- The loop succeeds exactly on the first tagged payload, whatever error it holds. -/
theorem decodeQrLoop_eq_ok (error : Option ε) (grids : List (Except ε (List UInt8)))
    (d : List UInt8) :
    decodeQrLoop error grids = .ok d ↔ ∃ pre post, grids = pre ++ .ok d :: post ∧
      startsWithHeader d ∧ ∀ x, .ok x ∈ pre → startsWithHeader x = false := by
  constructor
  · induction grids generalizing error with
    | nil => simp [decodeQrLoop]
    | cons g grids ih =>
      intro h
      cases g with
      | error e =>
        obtain ⟨pre, post, rfl, hd, hpre⟩ := ih _ h
        exact ⟨.error e :: pre, post, rfl, hd, by simpa using hpre⟩
      | ok x =>
        by_cases hx : startsWithHeader x
        · simp only [decodeQrLoop, hx, if_true, Except.ok.injEq] at h
          exact ⟨[], grids, by rw [h]; rfl, h ▸ hx, by simp⟩
        · simp only [decodeQrLoop, hx] at h
          obtain ⟨pre, post, rfl, hd, hpre⟩ := ih _ h
          exact ⟨.ok x :: pre, post, rfl, hd, by simpa [hx] using hpre⟩
  · rintro ⟨pre, post, rfl, hd, hpre⟩
    obtain ⟨error', he⟩ := decodeQrLoop_append_of_untagged hpre error (.ok d :: post)
    simp [he, decodeQrLoop, hd]

/-- The loop succeeds when some grid decodes to a tagged payload. -/
theorem decodeQrLoop_ok_of_mem {d : List UInt8} (hd : startsWithHeader d) (error : Option ε)
    {grids : List (Except ε (List UInt8))} (h : .ok d ∈ grids) :
    ∃ d', decodeQrLoop error grids = .ok d' := by
  induction grids generalizing error with
  | nil => cases h
  | cons g grids ih =>
    cases g with
    | error e => exact ih (some e) ((List.mem_cons.mp h).resolve_left (by simp))
    | ok x =>
      by_cases hx : startsWithHeader x
      · exact ⟨x, by simp [decodeQrLoop, hx]⟩
      · simp only [decodeQrLoop, hx, Bool.false_eq_true, if_false]
        rcases List.mem_cons.mp h with h | h
        · cases h
          exact absurd hd hx
        · exact ih error h

/-- **Scan all, accept the first tagged payload**: the scan succeeds exactly when
some grid decodes to a payload that starts with `MATRIX`, and what it returns is the
payload of the first such grid in detection order, whatever the outcomes of the
grids before it (failures, untagged payloads) and after it. -/
theorem decodeQr_accepts_first (grids : List (Except ε (List UInt8))) :
    ((∃ d, decodeQr grids = .ok d) ↔ ∃ d, .ok d ∈ grids ∧ startsWithHeader d) ∧
    ∀ d, decodeQr grids = .ok d ↔ ∃ pre post, grids = pre ++ .ok d :: post ∧
      startsWithHeader d ∧ ∀ x, .ok x ∈ pre → startsWithHeader x = false := by
  refine ⟨⟨fun ⟨d, h⟩ => ?_, fun ⟨d, hd, hh⟩ => ?_⟩, decodeQrLoop_eq_ok none grids⟩
  · obtain ⟨pre, post, rfl, hd, -⟩ := (decodeQrLoop_eq_ok none grids d).mp h
    exact ⟨d, by simp, hd⟩
  · exact decodeQrLoop_ok_of_mem hh none hd

/-! ### The error of a scan without a tagged payload -/

/-- Without a tagged payload or a failure, the loop ends with the error it holds. -/
theorem decodeQrLoop_of_no_failure {grids : List (Except ε (List UInt8))}
    (h : ∀ d, .ok d ∈ grids → startsWithHeader d = false) (hf : ∀ e, .error e ∉ grids)
    (error : Option ε) :
    decodeQrLoop error grids = .error ((error.map .qr).getD .header) := by
  induction grids with
  | nil => rfl
  | cons g grids ih =>
    cases g with
    | error e => exact absurd (List.mem_cons_self _ _) (hf e)
    | ok x =>
      simp only [decodeQrLoop, h x (List.mem_cons_self _ _), Bool.false_eq_true, if_false]
      exact ih (fun d hd => h d (List.mem_cons_of_mem _ hd))
        (fun e he => hf e (List.mem_cons_of_mem _ he))

/-- **The error of a scan**: when no grid decodes to a tagged payload, the scan fails
with `Header` if no grid failed to decode – every grid decoded to an untagged
payload, or none was detected – and otherwise with the error of the last grid that
failed, whatever the untagged payloads around it. -/
theorem decodeQr_error (grids : List (Except ε (List UInt8)))
    (h : ∀ d, .ok d ∈ grids → startsWithHeader d = false) :
    ((∀ e, .error e ∉ grids) → decodeQr grids = .error .header) ∧
    ∀ pre e post, grids = pre ++ .error e :: post → (∀ e', .error e' ∉ post) →
      decodeQr grids = .error (.qr e) := by
  refine ⟨fun hf => decodeQrLoop_of_no_failure h hf none, fun pre e post hg hpost => ?_⟩
  subst hg
  obtain ⟨error', he⟩ := decodeQrLoop_append_of_untagged
    (fun d (hd : .ok d ∈ pre) => h d (List.mem_append_left _ hd)) none (.error e :: post)
  rw [decodeQr, he, decodeQrLoop,
    decodeQrLoop_of_no_failure (fun d hd => h d (by simp [hd])) hpost]
  rfl

/-- The two errors of a scan: a failure, an untagged payload and a second failure
fail with the second failure; two untagged payloads fail with `Header`. -/
theorem decodeQr_error_last_or_header :
    ((∀ d, .ok d ∈ ([.error 1, .ok [], .error 2] : List (Except Nat (List UInt8))) →
        startsWithHeader d = false) ∧
      decodeQr ([.error 1, .ok [], .error 2] : List (Except Nat (List UInt8))) =
        .error (.qr 2)) ∧
    ((∀ d, .ok d ∈ ([.ok [], .ok [77]] : List (Except Nat (List UInt8))) →
        startsWithHeader d = false) ∧
      (∀ e, .error e ∉ ([.ok [], .ok [77]] : List (Except Nat (List UInt8)))) ∧
      decodeQr ([.ok [], .ok [77]] : List (Except Nat (List UInt8))) = .error .header) := by
  refine ⟨⟨?h1, (decodeQr_error _ ?h1).2 [.error 1, .ok []] 2 [] rfl (by simp)⟩,
    ⟨?h2, ?hf, (decodeQr_error _ ?h2).1 ?hf⟩⟩
  case h1 =>
    simp only [List.mem_cons, List.mem_singleton, List.not_mem_nil, or_false]
    rintro d (h | h | h) <;> cases h
    rfl
  case h2 =>
    simp only [List.mem_cons, List.mem_singleton, List.not_mem_nil, or_false]
    rintro d (h | h) <;> cases h <;> rfl
  case hf => simp

/-- An untagged payload, then a failure: the scan fails with the failure, not with
`Header`. -/
theorem decodeQr_untagged_then_failure :
    decodeQr ([.ok [], .error ()] : List (Except Unit (List UInt8))) = .error (.qr ()) ∧
    decodeQr ([.ok [], .error ()] : List (Except Unit (List UInt8))) ≠ .error .header :=
  ⟨rfl, fun h => by cases h⟩

/-! ### The scan of a written record -/

section Written

variable (B : Base64)

/-- A record written by `to_bytes` starts with the tag the scan looks for. -/
theorem startsWithHeader_toBytes {mode : UInt8} {f a b c : String} {out : List UInt8}
    (h : toBytes B mode f a b c = .ok out) : startsWithHeader out = true := by
  obtain ⟨-, x, y, z, -, -, -, rfl⟩ := toBytes_eq_ok B h
  rw [startsWithHeader, List.isPrefixOf_iff_prefix, record]
  simp only [List.append_assoc]
  exact List.prefix_append _ _

/-- **The scan accepts what the writer writes**: when a grid decodes to a record
written by `to_bytes`, and no grid before it decodes to a tagged payload, the scan
returns that record, whatever failures and untagged payloads come before it and
whatever comes after. -/
theorem decodeQr_toBytes {mode : UInt8} {f a b c : String} {out : List UInt8}
    (h : toBytes B mode f a b c = .ok out) (pre post : List (Except ε (List UInt8)))
    (hpre : ∀ x, .ok x ∈ pre → startsWithHeader x = false) :
    decodeQr (pre ++ .ok out :: post) = .ok out :=
  (decodeQrLoop_eq_ok none _ out).mpr ⟨pre, post, rfl, startsWithHeader_toBytes B h, hpre⟩

/-- The record of the flow id `f` with empty keys, after a failed grid and an
untagged payload: the scan returns it. -/
theorem decodeQr_toBytes_after_failures :
    toBytes Base64.standardNoPad 0 "f" "" "" "" = .ok (record 0 [102] [] [] []) ∧
    (∀ x, .ok x ∈ ([.error (), .ok [1]] : List (Except Unit (List UInt8))) →
      startsWithHeader x = false) ∧
    decodeQr (([.error (), .ok [1]] : List (Except Unit (List UInt8))) ++
      .ok (record 0 [102] [] [] []) :: []) = .ok (record 0 [102] [] [] []) :=
  have ht : toBytes Base64.standardNoPad 0 "f" "" "" "" = .ok (record 0 [102] [] [] []) := rfl
  have hpre : ∀ x, .ok x ∈ ([.error (), .ok [1]] : List (Except Unit (List UInt8))) →
      startsWithHeader x = false := by
    simp only [List.mem_cons, List.mem_singleton, List.not_mem_nil, or_false]
    rintro x (h | h) <;> cases h
    rfl
  ⟨ht, hpre, decodeQr_toBytes Base64.standardNoPad ht _ [] hpre⟩

end Written

end QrCode

end MatrixSdk
