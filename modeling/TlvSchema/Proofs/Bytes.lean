import Mathlib
import TlvSchema.Text.Line

/-!
# The bytes of a text

A text is a row of characters for the reader of a schema, and a row of bytes where offsets, columns and
the order of names are concerned.  The first byte of a character tells how many there are, and the bytes
after it are the digits of its code, the highest one first.  So a character in front of another one has
the lesser bytes, whatever follows, and a line feed is the only character with the byte 10.

* `bytes_lt_bytes_iff` — texts are ordered as their bytes are
* `length_bytes` — the number of bytes
* `count_utf8EncodeChar` — the byte 10 is found in the line feed only
-/

namespace TlvSchema.Text

/-- The bytes of a row of characters in UTF-8. -/
def encode (cs : List Char) : List UInt8 := cs.flatMap String.utf8EncodeChar

/-- The bytes of a text in UTF-8. -/
def bytes (text : String) : List UInt8 := text.toUTF8.data.toList

@[simp] theorem encode_nil : encode [] = [] := rfl

@[simp] theorem encode_cons (c : Char) (cs : List Char) :
    encode (c :: cs) = String.utf8EncodeChar c ++ encode cs := by
  rw [encode, List.flatMap_cons, ← encode]

theorem bytes_eq (text : String) : bytes text = encode text.toList := by
  have h : text.toList.utf8Encode = text.toByteArray := by simp
  rw [bytes, String.toUTF8_eq_toByteArray, ← h, List.utf8Encode, List.toList_data_toByteArray]
  rfl

theorem length_encode (cs : List Char) : (encode cs).length = byteLength cs := by
  induction cs with
  | nil => rfl
  | cons c cs ih =>
    rw [encode_cons, List.length_append, ih, String.length_utf8EncodeChar, byteLength]

theorem length_bytes (text : String) : (bytes text).length = text.utf8ByteSize := by
  rw [bytes, Array.length_toList, String.toUTF8_eq_toByteArray]
  rfl

/-! ### Single characters -/

theorem code_lt (c : Char) : c.val.toNat < 0x110000 := by
  have h := c.valid
  unfold UInt32.isValidChar Nat.isValidChar at h
  omega

/-- A character in front of another one has the lesser bytes, whatever follows. -/
theorem utf8EncodeChar_append_lt {c d : Char} (h : c < d) (xs ys : List UInt8) :
    String.utf8EncodeChar c ++ xs < String.utf8EncodeChar d ++ ys := by
  have hlt : c.val.toNat < d.val.toNat := UInt32.lt_iff_toNat_lt.1 h
  have hc := code_lt c
  have hd := code_lt d
  -- the digits of the codes in base 64, one after the other
  have htwo (n : ℕ) : n / 4096 = n / 64 / 64 := by rw [Nat.div_div_eq_div_mul]
  have hthree (n : ℕ) : n / 262144 = n / 64 / 64 / 64 := by
    rw [Nat.div_div_eq_div_mul, Nat.div_div_eq_div_mul]
  fun_cases String.utf8EncodeChar c <;> fun_cases String.utf8EncodeChar d <;>
    simp only [List.cons_append, List.nil_append, List.cons_lt_cons_iff, UInt8.lt_iff_toNat_lt,
      ← UInt8.toNat_inj, UInt8.toNat_ofNat', htwo, hthree] <;>
    omega

/-- A character has one byte, its code, or only bytes from 128 on. -/
theorem utf8EncodeChar_cases (c : Char) :
    (c.val.toNat < 128 ∧ String.utf8EncodeChar c = [UInt8.ofNat c.val.toNat]) ∨
      ∀ b ∈ String.utf8EncodeChar c, 128 ≤ b.toNat := by
  have hc := code_lt c
  fun_cases String.utf8EncodeChar c
  · exact .inl ⟨by omega, rfl⟩
  all_goals
    right
    simp only [List.mem_cons, List.not_mem_nil, or_false, forall_eq_or_imp, forall_eq,
      UInt8.toNat_ofNat']
    omega

/-! ### The order of texts -/

theorem encode_lt_of_lt {cs ds : List Char} (h : cs < ds) : encode cs < encode ds := by
  induction h with
  | @nil d ds =>
    rw [encode_nil, encode_cons]
    obtain ⟨b, bs, hb⟩ := List.exists_cons_of_ne_nil (String.utf8EncodeChar_ne_nil (c := d))
    rw [hb, List.cons_append]
    exact List.nil_lt_cons b _
  | rel hcd =>
    rw [encode_cons, encode_cons]
    exact utf8EncodeChar_append_lt hcd _ _
  | cons _ ih =>
    rw [encode_cons, encode_cons]
    exact List.append_left_lt ih

/-- **Texts are ordered as their bytes are.** -/
theorem bytes_lt_bytes_iff {s t : String} : bytes s < bytes t ↔ s < t := by
  have hof {s t : String} (h : s < t) : bytes s < bytes t := by
    rw [bytes_eq, bytes_eq]
    exact encode_lt_of_lt h
  refine ⟨fun h => ?_, hof⟩
  rcases lt_trichotomy s t with hst | rfl | hts
  · exact hst
  · exact absurd h (List.lt_irrefl _)
  · exact absurd h (List.lt_asymm (hof hts))

theorem bytes_le_bytes_iff {s t : String} : bytes s ≤ bytes t ↔ s ≤ t := by
  rw [← List.not_lt, bytes_lt_bytes_iff, not_lt]

/-! ### Line feeds -/

/-- The byte of a line feed. -/
def lineFeed : UInt8 := 10

/-- **No other character than the line feed has its byte.** -/
theorem count_utf8EncodeChar (c : Char) :
    (String.utf8EncodeChar c).count lineFeed = if c = '\n' then 1 else 0 := by
  split_ifs with hc
  · rw [hc]
    decide
  · refine List.count_eq_zero.2 fun hmem => ?_
    rcases utf8EncodeChar_cases c with ⟨hlt, heq⟩ | hle
    · rw [heq, List.mem_singleton, ← UInt8.toNat_inj, UInt8.toNat_ofNat', lineFeed] at hmem
      refine hc (Char.toNat_inj.1 ?_)
      have hten : (10 : UInt8).toNat = 10 := rfl
      have hcode : c.toNat = c.val.toNat := rfl
      have hfeed : '\n'.toNat = 10 := rfl
      omega
    · exact absurd (hle lineFeed hmem) (by decide)

end TlvSchema.Text
