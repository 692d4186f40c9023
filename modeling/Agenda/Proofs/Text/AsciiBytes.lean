import Agenda.Json.Encoding
/-!
# Bytes of ASCII texts

A text of ASCII characters has one byte for each of them, and it is found again in these bytes.

* `Text.IsAscii` — the characters, the zero aside.
* `Text.utf8Chars_of_isAscii`, `Text.decodeUtf8_utf8Chars` — the bytes of such a text, and the text of them.
* `jsonText_utf8Chars` — the same for bytes whose encoding is not told.
-/

namespace Agenda
namespace Text

/-- A character of ASCII that is not the zero character. -/
def IsAscii (c : Char) : Prop := 0 < c.toNat ∧ c.toNat < 0x80

instance : DecidablePred IsAscii := fun _ => inferInstanceAs (Decidable (_ ∧ _))

variable {cs : List Char}

theorem utf8EncodeChar_of_isAscii {c : Char} (hc : IsAscii c) :
    String.utf8EncodeChar c = [UInt8.ofNat c.toNat] := by
  have hsmall : ¬ 0x7f < c.toNat := Nat.not_lt_of_le (Nat.le_of_lt_succ hc.2)
  simp [String.utf8EncodeChar, hsmall]

/-- The bytes of an ASCII text are the numbers of its characters. -/
theorem utf8Chars_of_isAscii (hcs : ∀ c ∈ cs, IsAscii c) :
    utf8Chars cs = cs.map fun c => UInt8.ofNat c.toNat := by
  induction cs with
  | nil => rfl
  | cons c rest ih =>
      rw [List.forall_mem_cons] at hcs
      have hrest := ih hcs.2
      unfold utf8Chars at hrest ⊢
      rw [List.flatMap_cons, utf8EncodeChar_of_isAscii hcs.1, hrest]
      rfl

/-- The bytes of an ASCII text are below 128, and none is zero. -/
theorem byte_bounds_of_isAscii (hcs : ∀ c ∈ cs, IsAscii c) :
    ∀ b ∈ utf8Chars cs, 0 < b.toNat ∧ b.toNat < 0x80 := by
  rw [utf8Chars_of_isAscii hcs]
  intro b hb
  obtain ⟨c, hc, rfl⟩ := List.mem_map.1 hb
  obtain ⟨hpos, hlt⟩ := hcs c hc
  rw [UInt8.toNat_ofNat']
  omega

/-- An ASCII text is found again in its bytes. -/
theorem decodeUtf8_utf8Chars (hcs : ∀ c ∈ cs, IsAscii c) :
    decodeUtf8 (utf8Chars cs) = some (cs.map .char) := by
  rw [utf8Chars_of_isAscii hcs]
  induction cs with
  | nil =>
      rw [List.map_nil, decodeUtf8]
      rfl
  | cons c rest ih =>
      rw [List.forall_mem_cons] at hcs
      have hbyte : (UInt8.ofNat c.toNat).toNat = c.toNat := by
        rw [UInt8.toNat_ofNat']
        exact Nat.mod_eq_of_lt (Nat.lt_trans hcs.1.2 (by decide))
      rw [List.map_cons, decodeUtf8_ascii (by rw [hbyte]; exact hcs.1.2), ih hcs.2, hbyte, Char.ofNat_toNat]
      rfl

end Text

/-- Bytes of ASCII do not look like any other encoding. -/
theorem TextEncoding.detect_of_ascii {bytes : Bytes} (hbytes : ∀ b ∈ bytes, 0 < b.toNat ∧ b.toNat < 0x80) :
    detect bytes = (utf8, bytes) := by
  have hne : ∀ b ∈ bytes, b ≠ 0 := by
    rintro b hb rfl
    exact absurd (hbytes 0 hb).1 (by decide)
  unfold detect
  split
  · exact absurd (hbytes 0 (by simp)).1 (by decide)
  · exact absurd (hbytes 0xFF (by simp)).2 (by decide)
  · exact absurd (hbytes 0xFE (by simp)).2 (by decide)
  · exact absurd (hbytes 0xFF (by simp)).2 (by decide)
  · exact absurd (hbytes 0xEF (by simp)).2 (by decide)
  · unfold unmarked
    split
    · rw [if_neg (hne _ (by simp)), if_neg (hne _ (by simp))]
    · rw [if_neg (hne _ (by simp)), if_neg (hne _ (by simp))]
    · rfl

/-- The text of bytes of ASCII is the one that they were made of. -/
theorem jsonText_utf8Chars {cs : List Char} (hcs : ∀ c ∈ cs, Text.IsAscii c) :
    jsonText (Text.utf8Chars cs) = some (cs.map .char) := by
  rw [jsonText, TextEncoding.detect_of_ascii (Text.byte_bounds_of_isAscii hcs)]
  exact Text.decodeUtf8_utf8Chars hcs

end Agenda
