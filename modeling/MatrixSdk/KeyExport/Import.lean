import MatrixSdk.KeyExport.Armor

/-!
# The import of any text

`encrypt_key_export` writes its base64 on one line, but an export reaches
`decrypt_key_export` as a file: other clients wrap the base64 into many lines
(the test export of the crate does), editors and mail programs rewrap it and end
its lines with CRLF, and files end with a line break. This file settles what
the import does on all of these, and when it can panic at all.

| input | what the import does | theorem |
|---|---|---|
| the markers around base64 lines, LF or CRLF, last line end or not | `decrypt_helper` of the concatenated lines | `MatrixSdk.KeyExport.decryptKeyExport_lines` |
| the same with line ends before and after it | what the armor alone imports as | `MatrixSdk.KeyExport.decryptKeyExport_blank_lines` |
| an export, its base64 rewrapped in any way | the keys exported | `MatrixSdk.KeyExport.keyExport_roundTrip_rewrapped` |
| any bytes | a panic only on a short payload whose MAC verifies | `MatrixSdk.KeyExport.decryptKeyExport_panics_only_of_overlap` |

The load-bearing one is `MatrixSdk.KeyExport.decryptKeyExport_blank`, of which the
first two rows are cases. `str::lines` cuts at LF and drops one trailing CR from
every line, and `split_terminator` drops the empty piece after a last line end
(`MatrixSdk.Str.lines_join_terminated`), so the lines the filter sees are empty
lines, the marker lines and the base64 lines, whichever line ends the file uses;
the filter keeps the empty lines and the base64 lines, since no base64 character
is a dash, and the empty lines add nothing to the concatenation. Line ends are
blanks to the marker check, which trims them away. A blank that is not a line end,
in front of the first marker, is another matter: it stays on the marker's line
(`MatrixSdk.KeyExport.decryptKeyExport_indented`).
-/

namespace MatrixSdk

namespace KeyExport

open Outcome

/-! ### Wrapped exports -/

section Lines

variable (P : Primitives) (B : Base64) {κ : Type} (J : SerdeJson κ)

/-- Line ends are blanks. -/
theorem isWhitespace_of_mem_collect_replicate {t : String} (ht : t = "\n" ∨ t = "\r\n")
    (k : Nat) : ∀ c ∈ (Str.collect (List.replicate k t)).data, Str.isWhitespace c = true := by
  have ht' : ∀ c ∈ t.data, Str.isWhitespace c = true := by rcases ht with rfl | rfl <;> decide
  intro c hc
  simp only [Str.collect, List.mem_flatten, List.mem_map, List.mem_replicate] at hc
  obtain ⟨_, ⟨l, ⟨-, rfl⟩, rfl⟩, hc⟩ := hc
  exact ht' c hc

/-- The lines of an armor whose base64 is wrapped into the lines `bs`, with `k` line
ends before it and `j` after it: the two markers around the base64 lines, between
the empty lines the line ends open – all but the last line end after the armor. -/
theorem lines_blank {bs : List String} (hb : ∀ l ∈ bs, ∀ c ∈ l.data, isBase64Char c = true)
    {t : String} (ht : t = "\n" ∨ t = "\r\n") (k j : Nat) :
    Str.lines (Str.collect (List.replicate k t) ++ Str.join t (header :: bs ++ [footer]) ++
        Str.collect (List.replicate j t)) =
      List.replicate k "" ++ (header :: bs ++ [footer]) ++ List.replicate (j - 1) "" := by
  have hl : ∀ l ∈ List.replicate k "" ++ (header :: bs ++ [footer]) ++
      List.replicate (j - 1) "", '\n' ∉ l.data ∧ l.data.getLast? ≠ some '\r' := by
    simp only [List.cons_append, List.mem_append, List.mem_cons, List.mem_replicate,
      List.mem_singleton, List.not_mem_nil, or_false]
    rintro l ((⟨-, rfl⟩ | rfl | hl | rfl) | ⟨-, rfl⟩)
    · decide
    · decide
    · exact ⟨fun h => absurd (hb l hl _ h) (by decide),
        fun h => absurd (hb l hl _ (List.mem_of_getLast?_eq_some h)) (by decide)⟩
    · decide
    · decide
  rw [← Str.join_replicate_append t k (by simp)]
  cases j with
  | zero =>
    simp only [List.replicate_zero, Str.collect_nil, String.append_empty, Nat.zero_sub,
      List.append_nil]
    refine Str.lines_join_unterminated ht (by simp) (fun l h => (hl l (by simpa using h)).1)
      (fun l h => (hl l (by simpa using h)).2) ?_
    rw [List.getLast?_append, List.getLast?_append, List.getLast?_singleton]
    exact fun h => absurd (Option.some.inj h) (by decide)
  | succ j =>
    rw [List.replicate_succ', Str.collect_append, Str.collect_cons, Str.collect_nil,
      String.append_empty, ← String.append_assoc, ← Str.join_append_replicate _ (by simp),
      Nat.add_sub_cancel]
    exact Str.lines_join_terminated ht (by simp) (fun l h => (hl l h).1) (fun l h => (hl l h).2)

/-- The filter of the import keeps the base64 lines and the empty lines, and drops
the marker lines. -/
theorem filter_blank {bs : List String} (hb : ∀ l ∈ bs, ∀ c ∈ l.data, isBase64Char c = true)
    (k j : Nat) :
    (List.replicate k "" ++ (header :: bs ++ [footer]) ++ List.replicate j "").filter (fun l =>
      !(Str.startsWith l header || Str.startsWith l footer)) =
      List.replicate k "" ++ bs ++ List.replicate j "" := by
  have hk : ∀ l ∈ bs, (!Str.startsWith l header && !Str.startsWith l footer) = true :=
    fun l hl => by
      simp [startsWith_marker_of_base64 (hb l hl) header_data,
        startsWith_marker_of_base64 (hb l hl) footer_head]
  simp [List.filter_replicate, List.filter_eq_self.mpr hk,
    show Str.startsWith header header by decide, show Str.startsWith footer footer by decide,
    show Str.startsWith "" header = false by decide, show Str.startsWith "" footer = false by decide]

/-- **The import of a wrapped armor with line ends around it**: for base64 lines `bs`
between the two markers, joined by LF or by CRLF, with any number of line ends
before and after, the marker check passes and `decrypt_helper` is given the
concatenation of the base64 lines. -/
theorem decryptKeyExport_blank {bs : List String}
    (hb : ∀ l ∈ bs, ∀ c ∈ l.data, isBase64Char c = true) {t : String}
    (ht : t = "\n" ∨ t = "\r\n") (k j : Nat) (passphrase : String) :
    decryptKeyExport P B J (asBytes (Str.collect (List.replicate k t) ++
        Str.join t (header :: bs ++ [footer]) ++ Str.collect (List.replicate j t))) passphrase =
      (decryptHelper P B (Str.collect bs) passphrase >>= fun s =>
        ofExcept (J.fromStr s) .json) := by
  have hs : Str.startsWith (Str.trimStart (Str.collect (List.replicate k t) ++
      Str.join t (header :: bs ++ [footer]) ++ Str.collect (List.replicate j t))) header := by
    rw [String.append_assoc, Str.trimStart_append (isWhitespace_of_mem_collect_replicate ht k)]
    refine Str.startsWith_trimStart (r := t.data ++ (Str.join t (bs ++ [footer])).data ++
      (Str.collect (List.replicate j t)).data) header_data (by decide) ?_
    rw [List.cons_append, Str.join_cons _ _ (by simp)]
    simp
  have hf : Str.endsWith (Str.trimEnd (Str.collect (List.replicate k t) ++
      Str.join t (header :: bs ++ [footer]) ++ Str.collect (List.replicate j t))) footer := by
    rw [Str.trimEnd_append (isWhitespace_of_mem_collect_replicate ht j),
      Str.join_concat _ (by simp)]
    exact Str.endsWith_trimEnd (r := (Str.collect (List.replicate k t)).data ++
      (Str.join t (header :: bs)).data ++ t.data) footer_data (by decide) (by simp)
  simp only [decryptKeyExport, fromUtf8_asBytes, Option.elim, ofExcept_ok, pure_bind]
  rw [lines_blank hb ht, filter_blank hb, Str.collect_append, Str.collect_append,
    Str.collect_replicate_empty, Str.collect_replicate_empty, String.empty_append,
    String.append_empty]
  rw [List.cons_append] at hs hf
  simp [hs, hf]

/-- **The import of a wrapped armor**: for base64 lines `bs` between the two markers,
joined by LF or by CRLF, with or without a last line end, `decrypt_helper` is given
the concatenation of the lines. -/
theorem decryptKeyExport_lines {bs : List String}
    (hb : ∀ l ∈ bs, ∀ c ∈ l.data, isBase64Char c = true) {t e : String}
    (ht : t = "\n" ∨ t = "\r\n") (he : e = "" ∨ e = t) (passphrase : String) :
    decryptKeyExport P B J (asBytes (Str.join t (header :: bs ++ [footer]) ++ e)) passphrase =
      (decryptHelper P B (Str.collect bs) passphrase >>= fun s =>
        ofExcept (J.fromStr s) .json) := by
  rcases he with rfl | rfl
  · simpa using decryptKeyExport_blank P B J hb ht 0 0 passphrase
  · simpa using decryptKeyExport_blank P B J hb ht 0 1 passphrase

/-- **Line ends around an armor leave the import as it is**: for base64 lines `bs`
between the two markers, joined by LF or by CRLF, any number of line ends before
the first marker and after the second change nothing, while a blank in front of the
first marker does. -/
theorem decryptKeyExport_blank_lines {bs : List String}
    (hb : ∀ l ∈ bs, ∀ c ∈ l.data, isBase64Char c = true) {t : String}
    (ht : t = "\n" ∨ t = "\r\n") (k j : Nat) (passphrase : String) :
    decryptKeyExport P B J (asBytes (Str.collect (List.replicate k t) ++
        Str.join t (header :: bs ++ [footer]) ++ Str.collect (List.replicate j t))) passphrase =
      decryptKeyExport P B J (asBytes (Str.join t (header :: bs ++ [footer]))) passphrase := by
  rw [decryptKeyExport_blank P B J hb ht, ← decryptKeyExport_blank P B J hb ht 0 0]
  simp

/-- The armor around the lines `"AAAA"` and `""`, joined by CRLF, with two line
ends before it and three after it: it imports as the armor alone. -/
theorem decryptKeyExport_blank_lines_crlf :
    (∀ l ∈ ["AAAA", ""], ∀ c ∈ l.data, isBase64Char c = true) ∧
    ("\r\n" = "\n" ∨ "\r\n" = "\r\n") ∧
    decryptKeyExport Primitives.zero Base64.standardNoPad unitJson
        (asBytes (Str.collect (List.replicate 2 "\r\n") ++
          Str.join "\r\n" (header :: ["AAAA", ""] ++ [footer]) ++
          Str.collect (List.replicate 3 "\r\n"))) "" =
      decryptKeyExport Primitives.zero Base64.standardNoPad unitJson
        (asBytes (Str.join "\r\n" (header :: ["AAAA", ""] ++ [footer]))) "" :=
  ⟨by decide, .inr rfl, decryptKeyExport_blank_lines Primitives.zero Base64.standardNoPad unitJson
    (by decide) (.inr rfl) 2 3 ""⟩

end Lines

section Rewrapped

variable (P : Primitives) (B : Base64) {κ : Type} (J : SerdeJson κ)
  (salt : Mathlib.Vector UInt8 saltSize) (iv : Mathlib.Vector UInt8 ivSize)

/-- **A rewrapped export imports**: for every salt and IV drawn, passphrase and round
count, and every list of keys whose JSON reads back, the export's base64 may be cut
into lines in any way, the lines ended by LF or by CRLF, with or without a last line
end: the import gives back the keys. -/
theorem keyExport_roundTrip_rewrapped (passphrase : String) (rounds : UInt32) (keys : List κ)
    (hj : ∃ s, J.toString keys = .ok s ∧ J.fromStr s = .ok keys) :
    ∃ body, (encryptKeyExport P B J ⟨some salt, some iv⟩ keys passphrase rounds).run =
        returns (.ok (Str.join "\n" [header, body, footer])) ∧
      ∀ bs t e, Str.collect bs = body → (t = "\n" ∨ t = "\r\n") → (e = "" ∨ e = t) →
        (decryptKeyExport P B J (asBytes (Str.join t (header :: bs ++ [footer]) ++ e))
          passphrase).run = returns (.ok keys) := by
  obtain ⟨s, hs, hj⟩ := hj
  refine ⟨_, run_encryptKeyExport P B J salt iv hs passphrase rounds,
    fun bs t e hbs ht he => ?_⟩
  have hb : ∀ l ∈ bs, ∀ c ∈ l.data, isBase64Char c = true := fun l hl c hc =>
    B.isBase64Char_of_mem_encode _ c (hbs ▸ Str.mem_collect hl hc)
  rw [decryptKeyExport_lines P B J hb ht he, hbs, ExceptT.run_bind,
    run_decryptHelper_sealPayload]
  simp [hj, ofExcept, Except.mapError]

/-- One unit key, exported with zero salt and IV: every rewrapping of its base64
is imported. -/
theorem keyExport_roundTrip_rewrapped_unit :
    (∃ s, unitJson.toString [()] = .ok s ∧ unitJson.fromStr s = .ok [()]) ∧
    ∃ body, (encryptKeyExport Primitives.zero Base64.standardNoPad unitJson
        ⟨some (Mathlib.Vector.replicate 16 0), some (Mathlib.Vector.replicate 16 0)⟩
        [()] "" 1).run = returns (.ok (Str.join "\n" [header, body, footer])) ∧
      ∀ bs t e, Str.collect bs = body → (t = "\n" ∨ t = "\r\n") → (e = "" ∨ e = t) →
        (decryptKeyExport Primitives.zero Base64.standardNoPad unitJson
          (asBytes (Str.join t (header :: bs ++ [footer]) ++ e)) "").run = returns (.ok [()]) :=
  ⟨⟨"k", rfl, rfl⟩,
    keyExport_roundTrip_rewrapped Primitives.zero Base64.standardNoPad unitJson
      _ _ "" 1 [()] ⟨"k", rfl, rfl⟩⟩

end Rewrapped

/-! ### Panics -/

section Panic

variable (P : Primitives) (B : Base64) {κ : Type} (J : SerdeJson κ)

/-- The import panics only where `decrypt_helper` does: reading the text, the
marker check and the JSON return errors. -/
theorem run_decryptKeyExport_eq_panics {input : List UInt8} {passphrase m : String}
    (h : (decryptKeyExport P B J input passphrase).run = panics m) :
    ∃ c, (decryptHelper P B c passphrase).run = panics m := by
  cases hx : fromUtf8 input with
  | none => simp [decryptKeyExport, hx, ofExcept, Except.mapError] at h
  | some x =>
    by_cases hm : (Str.startsWith (Str.trimStart x) header &&
        Str.endsWith (Str.trimEnd x) footer) = true
    · simp only [decryptKeyExport, hx, Option.elim, ofExcept_ok, hm, Bool.not_true,
        Bool.false_eq_true, if_false, pure_bind, ExceptT.run_bind] at h
      cases hr : (decryptHelper P B (Str.collect ((Str.lines x).filter fun l =>
          !(Str.startsWith l header || Str.startsWith l footer))) passphrase).run with
      | returns r =>
        rw [hr] at h
        cases r <;> simp [ofExcept] at h
      | panics m' =>
        rw [hr, panics_bind] at h
        exact ⟨_, Outcome.panics.inj h ▸ hr⟩
    · simp [decryptKeyExport, hx, Bool.and_eq_false_iff.mp (Bool.eq_false_iff.mpr hm)] at h

/-- **The import panics on one kind of input only**: `decrypt_helper` panics exactly
on a decoded payload of 37 to 68 bytes with the right version whose MAC – its last
32 bytes, which overlap the header – verifies, with the message of a slice whose
start is past its end; and every panic of `decrypt_key_export`, on any bytes, is
that panic of `decrypt_helper` on the base64 it gathered. -/
theorem decryptKeyExport_panics_only_of_overlap (passphrase : String) :
    (∀ c m, (decryptHelper P B c passphrase).run = panics m ↔
      ∃ v, B.decode c = .ok v ∧ 37 ≤ v.length ∧ v.length < 69 ∧ v.headD 0 = version ∧
        P.hmac ((derivedKeysOf P v passphrase).drop keySize) (authenticatedOf v) = macOf v ∧
        m = sliceOrderMessage 37 (v.length - 32)) ∧
    ∀ input m, (decryptKeyExport P B J input passphrase).run = panics m →
      ∃ c v, B.decode c = .ok v ∧ 37 ≤ v.length ∧ v.length < 69 ∧ v.headD 0 = version ∧
        P.hmac ((derivedKeysOf P v passphrase).drop keySize) (authenticatedOf v) = macOf v ∧
        m = sliceOrderMessage 37 (v.length - 32) := by
  refine ⟨fun c m => run_decryptHelper_eq_panics P B, fun input m h => ?_⟩
  obtain ⟨c, hc⟩ := run_decryptKeyExport_eq_panics P B J h
  exact ⟨c, (run_decryptHelper_eq_panics P B).mp hc⟩

end Panic

end KeyExport

end MatrixSdk
