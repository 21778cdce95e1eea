import DecisionCenter.Py.JsonText

/-!
# Percent encoding

Texts as parts of a URL: the characters that are safe stand for themselves, and the bytes of the
others in UTF-8 are written with two hexadecimal digits after a percent sign. Which characters
are safe is a parameter, as it differs between `encodeURIComponent`, `urllib.parse.quote` and
the many servers that read the result; letters, digits and the percent sign itself are treated
alike by all of them.

`decode` is `decodeURIComponent`: it fails where the bytes are not UTF-8 or a percent sign is
not followed by two digits. It gives back every text that was encoded, as long as the percent
sign is not safe (`decode_encode`).

`Encodes` says what is wanted of a part of a URL: decoded it is the text, and it holds none of
the delimiters, so that it cannot end the part that it stands in or begin another one.
`encodes_encode` has this of every text, for every list of delimiters none of which is safe.
That a text comes back is not enough by itself: a slash that is left as it is comes back as
well, and begins a new part.
-/

namespace Py.Percent

/-- A hexadecimal digit, in capitals. -/
def hexDigit (n : ℕ) : Char := ("0123456789ABCDEF".toList)[n % 16]?.getD '0'

/-- `%XX` -/
def escapeByte (b : UInt8) : List Char := ['%', hexDigit (b.toNat / 16), hexDigit (b.toNat % 16)]

section Encode

variable (safe : Char → Bool)

def encodeChar (c : Char) : List Char :=
  if safe c then [c] else (String.utf8EncodeChar c).flatMap escapeByte

/-- The encoding of a text. -/
def encode (s : String) : String := String.ofList (s.toList.flatMap (encodeChar safe))

end Encode

/-- The byte of two hexadecimal digits. -/
def byte? (a b : Char) : Option UInt8 := do
  return UInt8.ofNat (16 * (← JsonText.hexValue? a) + (← JsonText.hexValue? b))

/-- The bytes that an encoded text stands for. -/
def decodeBytes : List Char → Option (List UInt8)
  | [] => some []
  | '%' :: a :: b :: cs => do return (← byte? a b) :: (← decodeBytes cs)
  | c :: cs => if c = '%' then none else (decodeBytes cs).map (String.utf8EncodeChar c ++ ·)

/-- `decodeURIComponent(s)`; `none` where it throws. -/
def decode (s : String) : Option String :=
  (decodeBytes s.toList).bind fun bytes => String.fromUTF8? bytes.toByteArray

/-! ### The round trip -/

/-- A hexadecimal digit is read as its value. -/
theorem hexValue?_hexDigit : ∀ n < 16, JsonText.hexValue? (hexDigit n) = some n := by decide

/-- Two of them are read as the byte. -/
theorem byte?_hexDigit (b : UInt8) :
    byte? (hexDigit (b.toNat / 16)) (hexDigit (b.toNat % 16)) = some b := by
  have hb : b.toNat < 256 := b.toNat_lt
  rw [byte?, hexValue?_hexDigit _ (by omega), hexValue?_hexDigit _ (by omega)]
  change some (UInt8.ofNat (16 * (b.toNat / 16) + b.toNat % 16)) = some b
  rw [Nat.div_add_mod, UInt8.ofNat_toNat]

/-- An escaped byte is decoded to it. -/
theorem decodeBytes_escapeByte (b : UInt8) (cs : List Char) :
    decodeBytes (escapeByte b ++ cs) = (decodeBytes cs).map (b :: ·) := by
  change (do return (← byte? _ _) :: (← decodeBytes cs)) = _
  rw [byte?_hexDigit]
  cases decodeBytes cs <;> rfl

/-- Any other character is decoded to its own bytes. -/
theorem decodeBytes_of_ne {c : Char} (h : c ≠ '%') (cs : List Char) :
    decodeBytes (c :: cs) = (decodeBytes cs).map (String.utf8EncodeChar c ++ ·) := by
  rw [decodeBytes.eq_3 _ _ (by rintro a b rest rfl; exact absurd rfl h), if_neg h]

/-- A list of escaped bytes is decoded to it. -/
theorem decodeBytes_escapeBytes (bytes : List UInt8) (cs : List Char) :
    decodeBytes (bytes.flatMap escapeByte ++ cs) = (decodeBytes cs).map (bytes ++ ·) := by
  induction bytes with
  | nil => simp
  | cons b bytes ih =>
    rw [List.flatMap_cons, List.append_assoc, decodeBytes_escapeByte, ih, Option.map_map]
    rfl

variable {safe : Char → Bool}

/-- An encoded character is decoded to its bytes, whether it is escaped or left as it is. -/
theorem decodeBytes_encodeChar (h : safe '%' = false) (c : Char) (cs : List Char) :
    decodeBytes (encodeChar safe c ++ cs) =
      (decodeBytes cs).map (String.utf8EncodeChar c ++ ·) := by
  rw [encodeChar]
  split
  · next hc =>
    have hne : c ≠ '%' := by
      rintro rfl
      rw [h] at hc
      cases hc
    exact decodeBytes_of_ne hne cs
  · exact decodeBytes_escapeBytes _ cs

/-- An encoded text is decoded to its bytes, provided that the percent sign is escaped. -/
theorem decodeBytes_encode (h : safe '%' = false) (cs : List Char) :
    decodeBytes (cs.flatMap (encodeChar safe)) = some (cs.flatMap String.utf8EncodeChar) := by
  induction cs with
  | nil => rfl
  | cons c cs ih =>
    rw [List.flatMap_cons, decodeBytes_encodeChar h, ih, Option.map_some, List.flatMap_cons]

/-- Decoding gives the text back. -/
theorem decode_encode (h : safe '%' = false) (s : String) : decode (encode safe s) = some s := by
  have hbytes : (s.toList.flatMap String.utf8EncodeChar).toByteArray = s.toByteArray :=
    String.utf8Encode_toList
  rw [decode, encode, String.toList_ofList, decodeBytes_encode h, Option.bind_some, hbytes]
  exact dif_pos s.isValidUTF8

/-! ### What an encoding is made of -/

/-- A hexadecimal digit is no delimiter. -/
theorem hexDigit_alphanum : ∀ n < 16, (hexDigit n).isAlphanum = true := by decide

/-- Safe characters, letters, digits and percent signs. -/
theorem safe_or_percent {s : String} {c : Char} (hc : c ∈ (encode safe s).toList) :
    safe c = true ∨ c.isAlphanum = true ∨ c = '%' := by
  rw [encode, String.toList_ofList, List.mem_flatMap] at hc
  obtain ⟨d, -, hc⟩ := hc
  rw [encodeChar] at hc
  split at hc
  · next hd =>
    rw [List.mem_singleton.mp hc]
    exact .inl hd
  · obtain ⟨b, -, hc⟩ := List.mem_flatMap.mp hc
    have hb : b.toNat < 256 := b.toNat_lt
    simp only [escapeByte, List.mem_cons, List.not_mem_nil, or_false] at hc
    rcases hc with rfl | rfl | rfl
    · exact .inr (.inr rfl)
    · exact .inr (.inl (hexDigit_alphanum _ (by omega)))
    · exact .inr (.inl (hexDigit_alphanum _ (by omega)))

/-- The part of a URL stands for a text, and goes on to its end. -/
structure Encodes (delimiters : List Char) (part text : String) : Prop where
  decoded : decode part = some text
  closed : ∀ c ∈ part.toList, c ∉ delimiters

/-- A text is encoded by any function that escapes the delimiters and the percent sign. -/
theorem encodes_encode {delimiters : List Char} (hpercent : safe '%' = false)
    (h : ∀ c ∈ delimiters, safe c = false ∧ c.isAlphanum = false ∧ c ≠ '%') (s : String) :
    Encodes delimiters (encode safe s) s := by
  refine ⟨decode_encode hpercent s, fun c hc hdelimiter => ?_⟩
  obtain ⟨hsafe, halphanum, hne⟩ := h c hdelimiter
  rcases safe_or_percent hc with hc | hc | hc
  · exact absurd (hsafe.symm.trans hc) Bool.false_ne_true
  · exact absurd (halphanum.symm.trans hc) Bool.false_ne_true
  · exact hne hc

end Py.Percent
