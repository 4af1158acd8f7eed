import MatrixSdk.KeyExport.Format

/-!
# The armored export, and the round trip

`encrypt_key_export` writes the base64 of the payload between the two marker lines;
`decrypt_key_export` checks that the text, trimmed, starts with the first marker and
ends with the second, drops every line that starts with one of them, and decodes
the concatenation of the lines left. This file proves:

* **the round trip** (`MatrixSdk.KeyExport.keyExport_roundTrip`): for every salt and
  IV drawn, every passphrase and every round count, the payload decoder gives back
  every text the payload encoder was given, and the import gives back every list of
  keys whose JSON reads back as the same list;
* **the panic of `decrypt_helper` on a short payload reaches the import**
  (`MatrixSdk.KeyExport.decryptKeyExport_panics_of_overlap`);
* **a leading blank is not tolerated** (`MatrixSdk.KeyExport.decryptKeyExport_indented`):
  the marker check trims the text, but the line filter does not trim the lines. A
  blank before the first marker passes the check, keeps the first marker line from
  being dropped, and ends up in the base64 text, which then fails to decode;
* **blanks behind it are** (`MatrixSdk.KeyExport.decryptKeyExport_trailing`): blanks
  on the line of the second marker, and one last line break, are dropped with that
  line, so the import is that of the export alone.

The facts of the armor are proved once, for a text `w ++ armor ++ t`, where `w` is a
run of blanks without a line break and `t` one on the last line, ended by a line
break or not (`MatrixSdk.KeyExport.decryptKeyExport_armor`): the marker check passes,
and what goes to `decrypt_helper` is the concatenation of the lines that do not start
with a marker. The export itself is the case of an empty `w` and `t`.
-/

namespace MatrixSdk

namespace KeyExport

open Outcome

/-! ### The payload round trip -/

section Payload

variable (P : Primitives) (B : Base64)

/-- **The decoder opens what the encoder seals**: the payload is long enough, has
the version and a MAC that verifies under the keys stretched from its own salt and
round count, and its ciphertext, XORed with the keystream of its own IV, is the
plaintext again. -/
theorem openPayload_sealPayload {salt : List UInt8} (hs : salt.length = 16)
    (iv plaintext : List UInt8) (passphrase : String) (rounds : UInt32) :
    openPayload P (sealPayload P salt iv plaintext passphrase rounds) passphrase =
      returns (utf8Result plaintext) := by
  have hl := length_sealPayload P iv plaintext passphrase rounds hs
  unfold openPayload
  rw [if_neg (by omega), if_neg (not_not.mpr (headD_sealPayload P iv plaintext passphrase rounds)),
    derivedKeysOf_sealPayload P iv plaintext passphrase rounds hs, authenticatedOf_sealPayload,
    macOf_sealPayload, if_neg (not_not.mpr rfl), slice_ciphertext (by omega),
    ciphertextOf_sealPayload P iv plaintext passphrase rounds hs,
    ivOf_sealPayload P iv plaintext passphrase rounds hs]
  simp only [Outcome.bind, applyKeystream_applyKeystream]

theorem run_decryptHelper_sealPayload (salt : Mathlib.Vector UInt8 saltSize)
    (iv : List UInt8) (s passphrase : String) (rounds : UInt32) :
    (decryptHelper P B (B.encode (sealPayload P salt.toList iv (asBytes s) passphrase rounds))
      passphrase).run = returns (.ok s) := by
  rw [run_decryptHelper P B (B.decode_encode _), openPayload_sealPayload P salt.toList_length,
    utf8Result, fromUtf8_asBytes]

end Payload

/-! ### The characters of the armor -/

/-- No blank is a character of the base64 alphabet, or its padding. -/
theorem isBase64Char_of_isWhitespace {c : Char} (h : Str.isWhitespace c = true) :
    isBase64Char c = false ∧ c ≠ '=' := by
  simp only [Str.isWhitespace, Bool.or_eq_true, Bool.and_eq_true, decide_eq_true_eq,
    beq_iff_eq] at h
  refine ⟨?_, fun he => by subst he; revert h; decide⟩
  simp only [isBase64Char, Bool.or_eq_false_iff, Bool.and_eq_false_iff, decide_eq_false_iff_not,
    beq_eq_false_iff_ne]
  omega

theorem header_data : header.data = '-' :: header.data.tail := rfl

theorem footer_data : footer.data = footer.data.dropLast ++ ['-'] := by decide

theorem footer_head : footer.data = '-' :: footer.data.tail := rfl

/-- A base64 text does not start with a marker: both start with a dash. -/
theorem startsWith_marker_of_base64 {b : String} (hb : ∀ c ∈ b.data, isBase64Char c = true)
    {p : String} {l : List Char} (hp : p.data = '-' :: l) : Str.startsWith b p = false :=
  Str.startsWith_eq_false hp fun h => absurd (hb _ h) (by decide)

/-- The markers part at their sixth character, `B` against `E`. -/
theorem header_data_sixth :
    header.data = ['-', '-', '-', '-', '-'] ++ 'B' :: header.data.drop 6 := by decide

theorem footer_data_sixth :
    footer.data = ['-', '-', '-', '-', '-'] ++ 'E' :: footer.data.drop 6 := by decide

/-- A line that starts with the second marker does not start with the first. -/
theorem startsWith_footer_append_header (u : String) :
    Str.startsWith (footer ++ u) header = false :=
  Str.startsWith_of_ne_at
    ((congrArg (· ++ u.data) footer_data_sixth).trans (List.append_assoc _ _ _))
    header_data_sixth (by decide)

/-- The lines of `w ++ armor ++ u`, ended by a line break or not, are the three of
the armor, with `w` in front of the first and `u` behind the last. -/
theorem lines_armor {w b u : String} (hw : ∀ c ∈ w.data, c ≠ '\n')
    (hb : ∀ c ∈ b.data, isBase64Char c = true)
    (hu : ∀ c ∈ u.data, c ≠ '\n' ∧ c ≠ '\r') :
    Str.lines (w ++ Str.join "\n" [header, b, footer] ++ u) = [w ++ header, b, footer ++ u] ∧
    Str.lines (w ++ Str.join "\n" [header, b, footer] ++ u ++ "\n") =
      [w ++ header, b, footer ++ u] := by
  have hj : w ++ Str.join "\n" [header, b, footer] ++ u =
      Str.join "\n" [w ++ header, b, footer ++ u] :=
    String.ext (by simp [Str.join, List.intercalate])
  have hj' : w ++ Str.join "\n" [header, b, footer] ++ u ++ "\n" =
      Str.join "\n" ([w ++ header, b, footer ++ u] ++ [""]) :=
    String.ext (by simp [Str.join, List.intercalate])
  have hnl : ∀ l ∈ [w ++ header, b, footer ++ u], '\n' ∉ l.data := by
    simp only [List.mem_cons, List.mem_singleton, List.not_mem_nil, or_false, forall_eq_or_imp,
      forall_eq, String.data_append, List.mem_append, not_or]
    exact ⟨⟨fun h => hw _ h rfl, by decide⟩, fun h => absurd (hb _ h) (by decide),
      by decide, fun h => (hu _ h).1 rfl⟩
  have hcr : ∀ l ∈ [w ++ header, b, footer ++ u], l.data.getLast? ≠ some '\r' := by
    have hh : header.data.getLast? = some '-' := by decide
    have hf : footer.data.getLast? = some '-' := by decide
    simp only [List.mem_cons, List.mem_singleton, List.not_mem_nil, or_false, forall_eq_or_imp,
      forall_eq, String.data_append, List.getLast?_append]
    refine ⟨by simp [hh],
      fun h => absurd (hb _ (List.mem_of_getLast?_eq_some h)) (by decide), ?_⟩
    cases hl : u.data.getLast? with
    | none => simp [hf]
    | some c => simpa using (hu c (List.mem_of_getLast?_eq_some hl)).2
  have hf0 : footer.data ≠ [] := by decide
  rw [hj', hj]
  exact ⟨Str.lines_join (by simp) hnl hcr (by simp [String.ext_iff, hf0]),
    Str.lines_join_newline hnl hcr⟩

/-! ### The import of an armored text -/

/-- A serializer of unit keys, one `k` for each key, whose texts read back: enough
to run an export and its import on fixed inputs. -/
def unitJson : SerdeJson Unit where
  toString keys := .ok ⟨List.replicate keys.length 'k'⟩
  fromStr s :=
    if s.data.all (· == 'k') then .ok (List.replicate s.length ()) else .error ⟨"expected a k"⟩

section Armor

variable (P : Primitives) (B : Base64) {κ : Type} (J : SerdeJson κ)

/-- **The import of `w ++ armor ++ t`**, for a run `w` of blanks without a line
break and a run `t` of blanks with at most a last line break: the marker check
passes, and `decrypt_helper` is given the lines that do not start with a marker. -/
theorem decryptKeyExport_armor {w b u t : String}
    (hw : ∀ c ∈ w.data, Str.isWhitespace c = true ∧ c ≠ '\n')
    (hb : ∀ c ∈ b.data, isBase64Char c = true)
    (hu : ∀ c ∈ u.data, Str.isWhitespace c = true ∧ c ≠ '\n' ∧ c ≠ '\r')
    (ht : t = u ∨ t = u ++ "\n") (passphrase : String) :
    decryptKeyExport P B J (asBytes (w ++ Str.join "\n" [header, b, footer] ++ t)) passphrase =
      (decryptHelper P B (Str.collect ([w ++ header, b, footer ++ u].filter fun l =>
        !(Str.startsWith l header || Str.startsWith l footer))) passphrase >>= fun s =>
        ofExcept (J.fromStr s) .json) := by
  obtain ⟨hl, htw⟩ : Str.lines (w ++ Str.join "\n" [header, b, footer] ++ t) =
      [w ++ header, b, footer ++ u] ∧ ∀ c ∈ t.data, Str.isWhitespace c = true := by
    have h := lines_armor (fun c hc => (hw c hc).2) hb (fun c hc => (hu c hc).2)
    rcases ht with rfl | rfl
    · exact ⟨h.1, fun c hc => (hu c hc).1⟩
    · refine ⟨by rw [← String.append_assoc]; exact h.2, ?_⟩
      simpa [or_imp, forall_and] using
        And.intro (fun c hc => (hu c hc).1) (show Str.isWhitespace '\n' = true by decide)
  have hs : Str.startsWith (Str.trimStart (w ++ Str.join "\n" [header, b, footer] ++ t))
      header := by
    rw [String.append_assoc, Str.trimStart_append (fun c hc => (hw c hc).1)]
    exact Str.startsWith_trimStart (r := '\n' :: b.data ++ '\n' :: footer.data ++ t.data)
      header_data (by decide) (by simp [Str.join, List.intercalate])
  have he : Str.endsWith (Str.trimEnd (w ++ Str.join "\n" [header, b, footer] ++ t)) footer := by
    rw [Str.trimEnd_append htw]
    exact Str.endsWith_trimEnd (r := w.data ++ header.data ++ '\n' :: b.data ++ ['\n'])
      footer_data (by decide) (by simp [Str.join, List.intercalate])
  simp [decryptKeyExport, fromUtf8_asBytes, hs, he, hl]

/-- The import of an export, blanks behind it or not: the base64 between the markers
goes to `decrypt_helper`. -/
theorem decryptKeyExport_armored_append {b u t : String}
    (hb : ∀ c ∈ b.data, isBase64Char c = true)
    (hu : ∀ c ∈ u.data, Str.isWhitespace c = true ∧ c ≠ '\n' ∧ c ≠ '\r')
    (ht : t = u ∨ t = u ++ "\n") (passphrase : String) :
    decryptKeyExport P B J (asBytes (Str.join "\n" [header, b, footer] ++ t)) passphrase =
      (decryptHelper P B b passphrase >>= fun s => ofExcept (J.fromStr s) .json) := by
  have h := decryptKeyExport_armor P B J (w := "") (by simp) hb hu ht passphrase
  rw [String.empty_append] at h
  rw [h]
  simp [String.empty_append, startsWith_marker_of_base64 hb header_data,
    startsWith_marker_of_base64 hb footer_head, startsWith_footer_append_header,
    Str.startsWith_append, show Str.startsWith header header by decide]

theorem decryptKeyExport_armored {b : String} (hb : ∀ c ∈ b.data, isBase64Char c = true)
    (passphrase : String) :
    decryptKeyExport P B J (asBytes (Str.join "\n" [header, b, footer])) passphrase =
      (decryptHelper P B b passphrase >>= fun s => ofExcept (J.fromStr s) .json) := by
  have h := decryptKeyExport_armored_append P B J (u := "") (t := "") hb (by simp) (.inl rfl)
    passphrase
  rwa [String.append_empty] at h

/-- **Blanks behind an export are tolerated**: blanks on the line of the second
marker, and a last line break after them, leave the import as it was, unlike a
blank in front of the first marker. -/
theorem decryptKeyExport_trailing {b u : String} (hb : ∀ c ∈ b.data, isBase64Char c = true)
    (hu : ∀ c ∈ u.data, Str.isWhitespace c = true ∧ c ≠ '\n' ∧ c ≠ '\r')
    (passphrase : String) :
    decryptKeyExport P B J (asBytes (Str.join "\n" [header, b, footer] ++ u)) passphrase =
        decryptKeyExport P B J (asBytes (Str.join "\n" [header, b, footer])) passphrase ∧
    decryptKeyExport P B J (asBytes (Str.join "\n" [header, b, footer] ++ (u ++ "\n")))
        passphrase =
      decryptKeyExport P B J (asBytes (Str.join "\n" [header, b, footer])) passphrase := by
  rw [decryptKeyExport_armored P B J hb]
  exact ⟨decryptKeyExport_armored_append P B J hb hu (.inl rfl) passphrase,
    decryptKeyExport_armored_append P B J hb hu (.inr rfl) passphrase⟩

/-- The armor around `"AAAA"`, with a space behind it, and with a space and a line
break: each imports as the armor alone. -/
theorem decryptKeyExport_trailing_space :
    ((∀ c ∈ "AAAA".data, isBase64Char c = true) ∧
      ∀ c ∈ " ".data, Str.isWhitespace c = true ∧ c ≠ '\n' ∧ c ≠ '\r') ∧
    decryptKeyExport Primitives.zero Base64.standardNoPad unitJson
        (asBytes (Str.join "\n" [header, "AAAA", footer] ++ " ")) "" =
      decryptKeyExport Primitives.zero Base64.standardNoPad unitJson
        (asBytes (Str.join "\n" [header, "AAAA", footer])) "" ∧
    decryptKeyExport Primitives.zero Base64.standardNoPad unitJson
        (asBytes (Str.join "\n" [header, "AAAA", footer] ++ (" " ++ "\n"))) "" =
      decryptKeyExport Primitives.zero Base64.standardNoPad unitJson
        (asBytes (Str.join "\n" [header, "AAAA", footer])) "" :=
  ⟨⟨by decide, by decide⟩,
    decryptKeyExport_trailing Primitives.zero Base64.standardNoPad unitJson
      (by decide) (by decide) ""⟩

/-- The import of an indented export: the first marker line stays, blank in front,
and goes to `decrypt_helper` with the base64. -/
theorem decryptKeyExport_indented_eq {w b : String} {c : Char} {l : List Char}
    (hw0 : w.data = c :: l) (hw : ∀ c ∈ w.data, Str.isWhitespace c = true ∧ c ≠ '\n')
    (hb : ∀ c ∈ b.data, isBase64Char c = true) (passphrase : String) :
    decryptKeyExport P B J (asBytes (w ++ Str.join "\n" [header, b, footer])) passphrase =
      (decryptHelper P B (w ++ header ++ b) passphrase >>= fun s =>
        ofExcept (J.fromStr s) .json) := by
  have hc : c ≠ '-' := fun h => by
    have := (hw c (hw0 ▸ List.mem_cons_self c l)).1
    rw [h] at this; exact absurd this (by decide)
  have hwh : (w ++ header).data = c :: (l ++ header.data) := by simp [hw0]
  have h := decryptKeyExport_armor P B J (u := "") (t := "") hw hb (by simp) (.inl rfl) passphrase
  simp only [String.append_empty] at h
  rw [h]
  simp [Str.startsWith_of_ne_at (l := []) hwh header_data hc,
    Str.startsWith_of_ne_at (l := []) hwh footer_head hc,
    startsWith_marker_of_base64 hb header_data, startsWith_marker_of_base64 hb footer_head,
    show Str.startsWith footer header = false by decide,
    show Str.startsWith footer footer by decide]

/-- A text with a character outside the alphabet and the padding fails to decode. -/
theorem run_decryptHelper_of_not_base64 {t : String} {c : Char} (hc : c ∈ t.data)
    (h : isBase64Char c = false) (h' : c ≠ '=') (passphrase : String) :
    ∃ e, (decryptHelper P B t passphrase).run = returns (.error (.decode e)) := by
  cases hd : B.decode t with
  | error e => exact ⟨e, run_decryptHelper_of_error P B hd passphrase⟩
  | ok v => exact absurd (B.isBase64Char_of_decode t v hd c hc) (by simp [h, h'])

end Armor

/-! ### The round trip through the armor -/

section Export

variable (P : Primitives) (B : Base64) {κ : Type} (J : SerdeJson κ)
  (salt : Mathlib.Vector UInt8 saltSize) (iv : Mathlib.Vector UInt8 ivSize)

/-- The export of keys whose JSON is `s`: the base64 of the payload sealed around
the bytes of `s`, between the markers. -/
theorem run_encryptKeyExport {keys : List κ} {s : String} (h : J.toString keys = .ok s)
    (passphrase : String) (rounds : UInt32) :
    (encryptKeyExport P B J ⟨some salt, some iv⟩ keys passphrase rounds).run =
      returns (.ok (Str.join "\n" [header,
        B.encode (sealPayload P salt.toList iv.toList (asBytes s) passphrase rounds),
        footer])) := by
  simp [encryptKeyExport, h, ExceptT.run_bind, ExceptT.lift, encryptHelper_eq]

/-- The import of an export gives back the keys whose JSON it holds. -/
theorem run_decryptKeyExport_sealPayload {keys : List κ} {s : String}
    (h : J.fromStr s = .ok keys) (passphrase : String) (rounds : UInt32) :
    (decryptKeyExport P B J (asBytes (Str.join "\n" [header,
      B.encode (sealPayload P salt.toList iv.toList (asBytes s) passphrase rounds), footer]))
      passphrase).run = returns (.ok keys) := by
  rw [decryptKeyExport_armored P B J (B.isBase64Char_of_mem_encode _), ExceptT.run_bind,
    run_decryptHelper_sealPayload]
  simp [h, ofExcept, Except.mapError]

/-- **The round trip**: for every salt and IV drawn, every passphrase and every
round count, the payload decoder gives back every text the payload encoder was
given, and the import of an export gives back the keys exported, in their order,
whenever their JSON reads back as them. -/
theorem keyExport_roundTrip (passphrase : String) (rounds : UInt32) :
    (∀ p : String, ∃ c, encryptHelper P B ⟨some salt, some iv⟩ (asBytes p) passphrase rounds =
        returns c ∧ (decryptHelper P B c passphrase).run = returns (.ok p)) ∧
    ∀ keys : List κ, (∃ s, J.toString keys = .ok s ∧ J.fromStr s = .ok keys) →
      ∃ armored, (encryptKeyExport P B J ⟨some salt, some iv⟩ keys passphrase rounds).run =
          returns (.ok armored) ∧
        (decryptKeyExport P B J (asBytes armored) passphrase).run = returns (.ok keys) := by
  refine ⟨fun p => ⟨_, encryptHelper_eq P B salt iv _ passphrase rounds,
    run_decryptHelper_sealPayload P B salt _ p passphrase rounds⟩, ?_⟩
  rintro keys ⟨s, hs, hj⟩
  exact ⟨_, run_encryptKeyExport P B J salt iv hs passphrase rounds,
    run_decryptKeyExport_sealPayload P B J salt iv hj passphrase rounds⟩

/-- Two unit keys, exported and imported with zero salt and IV, come back. -/
theorem keyExport_roundTrip_unit :
    (∃ s, unitJson.toString [(), ()] = .ok s ∧ unitJson.fromStr s = .ok [(), ()]) ∧
    ∃ armored, (encryptKeyExport Primitives.zero Base64.standardNoPad unitJson
        ⟨some (Mathlib.Vector.replicate 16 0), some (Mathlib.Vector.replicate 16 0)⟩
        [(), ()] "" 1).run = returns (.ok armored) ∧
      (decryptKeyExport Primitives.zero Base64.standardNoPad unitJson (asBytes armored) "").run =
        returns (.ok [(), ()]) :=
  ⟨⟨"kk", rfl, rfl⟩,
    (keyExport_roundTrip Primitives.zero Base64.standardNoPad unitJson _ _ "" 1).2
      [(), ()] ⟨"kk", rfl, rfl⟩⟩

/-- **An indented export does not import**: for every export of keys whose JSON
reads back, and every nonempty run `w` of blanks without a line break, the export
imports, while `w` followed by the export fails to decode as base64. -/
theorem decryptKeyExport_indented {w : String} (hw0 : w ≠ "")
    (hw : ∀ c ∈ w.data, Str.isWhitespace c = true ∧ c ≠ '\n') (keys : List κ)
    (hj : ∃ s, J.toString keys = .ok s ∧ J.fromStr s = .ok keys) (passphrase : String)
    (rounds : UInt32) :
    ∃ armored, (encryptKeyExport P B J ⟨some salt, some iv⟩ keys passphrase rounds).run =
        returns (.ok armored) ∧
      (decryptKeyExport P B J (asBytes armored) passphrase).run = returns (.ok keys) ∧
      ∃ e, (decryptKeyExport P B J (asBytes (w ++ armored)) passphrase).run =
        returns (.error (.decode e)) := by
  obtain ⟨s, hs, hj⟩ := hj
  obtain ⟨c, l, hcl⟩ : ∃ c l, w.data = c :: l := by
    obtain ⟨_ | ⟨c, l⟩⟩ := w
    · exact absurd rfl hw0
    · exact ⟨c, l, rfl⟩
  have hc := isBase64Char_of_isWhitespace (hw c (hcl ▸ List.mem_cons_self c l)).1
  refine ⟨_, run_encryptKeyExport P B J salt iv hs passphrase rounds,
    run_decryptKeyExport_sealPayload P B J salt iv hj passphrase rounds, ?_⟩
  rw [decryptKeyExport_indented_eq P B J hcl hw (B.isBase64Char_of_mem_encode _), ExceptT.run_bind]
  obtain ⟨e, he⟩ := run_decryptHelper_of_not_base64 P B
    (t := w ++ header ++ _) (by simp [hcl]) hc.1 hc.2 passphrase
  exact ⟨e, by rw [he]; rfl⟩

/-- One unit key, exported with zero salt and IV: the export imports, and the
export after one space does not. -/
theorem decryptKeyExport_indented_space :
    (" " ≠ "" ∧ (∀ c ∈ " ".data, Str.isWhitespace c = true ∧ c ≠ '\n') ∧
      ∃ s, unitJson.toString [()] = .ok s ∧ unitJson.fromStr s = .ok [()]) ∧
    ∃ armored, (encryptKeyExport Primitives.zero Base64.standardNoPad unitJson
        ⟨some (Mathlib.Vector.replicate 16 0), some (Mathlib.Vector.replicate 16 0)⟩
        [()] "" 1).run = returns (.ok armored) ∧
      (decryptKeyExport Primitives.zero Base64.standardNoPad unitJson (asBytes armored) "").run =
        returns (.ok [()]) ∧
      ∃ e, (decryptKeyExport Primitives.zero Base64.standardNoPad unitJson
        (asBytes (" " ++ armored)) "").run = returns (.error (.decode e)) :=
  ⟨⟨by decide, by decide, "k", rfl, rfl⟩,
    decryptKeyExport_indented Primitives.zero Base64.standardNoPad unitJson _ _ (by decide)
      (by decide) [()] ⟨"k", rfl, rfl⟩ "" 1⟩

end Export

/-! ### The panic, through the armor -/

section Panic

variable (P : Primitives) (B : Base64) {κ : Type} (J : SerdeJson κ)

/-- **The import panics** on a payload of 37 to 68 bytes with the right version
whose MAC – its last 32 bytes, which overlap the header – verifies: `decrypt_helper`
panics on its base64, and `decrypt_key_export` on the armored text, with the message
of a slice whose start is past its end. -/
theorem decryptKeyExport_panics_of_overlap (passphrase : String) {v : List UInt8}
    (h1 : 37 ≤ v.length) (h2 : v.length < 69) (hv : v.headD 0 = version)
    (hm : P.hmac ((derivedKeysOf P v passphrase).drop keySize) (authenticatedOf v) = macOf v) :
    (decryptHelper P B (B.encode v) passphrase).run =
        panics (sliceOrderMessage 37 (v.length - 32)) ∧
      (decryptKeyExport P B J (asBytes (Str.join "\n" [header, B.encode v, footer]))
        passphrase).run = panics (sliceOrderMessage 37 (v.length - 32)) := by
  have hp := decryptHelper_panics_of_overlap P B passphrase h1 h2 hv hm
  refine ⟨hp, ?_⟩
  rw [decryptKeyExport_armored P B J (B.isBase64Char_of_mem_encode v), ExceptT.run_bind, hp]
  rfl

/-- The 68-byte payload `[1, 0, …, 0]` under primitives whose MAC is 32 zero bytes:
the import panics, on the base64 and on the armored text. -/
theorem decryptKeyExport_panics_of_overlap_zero :
    (37 ≤ (1 :: List.replicate 67 0 : List UInt8).length ∧
      (1 :: List.replicate 67 0 : List UInt8).length < 69 ∧
      (1 :: List.replicate 67 0 : List UInt8).headD 0 = version ∧
      Primitives.zero.hmac ((derivedKeysOf Primitives.zero (1 :: List.replicate 67 0) "").drop
        keySize) (authenticatedOf (1 :: List.replicate 67 0)) =
        macOf (1 :: List.replicate 67 0)) ∧
    (decryptHelper Primitives.zero Base64.standardNoPad
        (Base64.standardNoPad.encode (1 :: List.replicate 67 0)) "").run =
      panics (sliceOrderMessage 37 36) ∧
    (decryptKeyExport Primitives.zero Base64.standardNoPad unitJson (asBytes (Str.join "\n"
        [header, Base64.standardNoPad.encode (1 :: List.replicate 67 0), footer])) "").run =
      panics (sliceOrderMessage 37 36) :=
  ⟨⟨by decide, by decide, rfl, by decide⟩,
    decryptKeyExport_panics_of_overlap Primitives.zero Base64.standardNoPad unitJson ""
      (by decide) (by decide) rfl (by decide)⟩

end Panic

end KeyExport

end MatrixSdk
