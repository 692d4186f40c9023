import Agenda.Text.CodePoint
/-!
# Texts as bytes

The UTF-8 form of a text and its reading back. Body limits, keys, passwords and token segments are
measured and hashed in bytes.

* `Bytes` — a finite sequence of bytes.
* `utf8` — the bytes of a text.
* `decodeUtf8` — the code points of a byte sequence; anything but their shortest forms is refused.
* `decodeUtf8_ascii` — below 128 a byte is a character.
-/

namespace Agenda

abbrev Bytes := List UInt8

namespace Text

/-- The UTF-8 bytes of a list of characters. -/
def utf8Chars (cs : List Char) : Bytes :=
  cs.flatMap String.utf8EncodeChar

def utf8 (s : String) : Bytes :=
  utf8Chars s.toList

/-- The six payload bits of a continuation byte. -/
def continuation? (b : UInt8) : Option Nat :=
  if 0x80 ≤ b.toNat ∧ b.toNat < 0xC0 then some (b.toNat - 0x80) else none

def decodeUtf8 : Bytes → Option (List CodePoint)
  | [] => some []
  | a :: rest =>
      if a.toNat < 0x80 then (decodeUtf8 rest).map (.char (Char.ofNat a.toNat) :: ·)
      else
        match rest with
        | [] => none
        | b :: rest =>
            match continuation? b with
            | none => none
            | some vb =>
                if a.toNat < 0xE0 then do
                  let c ← CodePoint.ofNumber? 0x80 0x7FF ((a.toNat - 0xC0) * 0x40 + vb)
                  (decodeUtf8 rest).map (c :: ·)
                else
                  match rest with
                  | [] => none
                  | c :: rest =>
                      match continuation? c with
                      | none => none
                      | some vc =>
                          if a.toNat < 0xF0 then do
                            let d ← CodePoint.ofNumber? 0x800 0xFFFF
                              (((a.toNat - 0xE0) * 0x40 + vb) * 0x40 + vc)
                            (decodeUtf8 rest).map (d :: ·)
                          else
                            match rest with
                            | [] => none
                            | d :: rest =>
                                match continuation? d with
                                | none => none
                                | some vd => do
                                    let e ← CodePoint.ofNumber? 0x10000 0x10FFFF
                                      ((((a.toNat - 0xF0) * 0x40 + vb) * 0x40 + vc) * 0x40 + vd)
                                    (decodeUtf8 rest).map (e :: ·)

/-- Below 128 a byte is a character of its own. -/
theorem decodeUtf8_ascii {a : UInt8} (ha : a.toNat < 0x80) (rest : Bytes) :
    decodeUtf8 (a :: rest) = (decodeUtf8 rest).map (.char (Char.ofNat a.toNat) :: ·) := by
  rw [decodeUtf8.eq_def]
  simp [ha]

end Text
end Agenda
