import Agenda.Proofs.Calendar.CompactText
import Mathlib.Data.String.Basic
/-!
# The order of compact date texts

Texts are compared by code points.  Two texts of the same number of digits are in the order of their numbers,
and so compact date texts are in the order of the dates that they denote.

* `Text.asciiDigit?_order`, `Text.leading_lt_iff` — one digit, and the digit that decides.
* `Text.Digits.lt_iff` — texts of equally many digits are compared as numbers.
* `Compact.Denotes.lt_iff` — date texts are compared as dates.
-/

namespace Agenda

namespace Text

/-- Digits are in the order of the numbers that they stand for. -/
theorem asciiDigit?_order {c c' : Char} {d d' : Nat} (hc : asciiDigit? c = some d)
    (hc' : asciiDigit? c' = some d') : (c < c' ↔ d < d') ∧ (c = c' ↔ d = d') := by
  have hcode := (asciiDigit?_eq_some_iff.1 hc).2
  have hcode' := (asciiDigit?_eq_some_iff.1 hc').2
  constructor
  · rw [Char.lt_def, UInt32.lt_iff_toNat_lt]
    show c.toNat < c'.toNat ↔ d < d'
    omega
  · rw [← Char.toNat_inj]
    omega

/-- Of two numbers the leading digits decide which is less, unless they are the same. -/
theorem leading_lt_iff {d d' place n n' : Nat} (hn : n < place) (hn' : n' < place) :
    d * place + n < d' * place + n' ↔ d < d' ∨ (d = d' ∧ n < n') := by
  rcases lt_trichotomy d d' with hlt | rfl | hgt
  · have hstep : (d + 1) * place ≤ d' * place := Nat.mul_le_mul_right _ hlt
    rw [Nat.add_mul] at hstep
    omega
  · omega
  · have hstep : (d' + 1) * place ≤ d * place := Nat.mul_le_mul_right _ hgt
    rw [Nat.add_mul] at hstep
    omega

namespace Digits

variable {cs cs' : List Char} {ds ds' : List Nat}

/-- Two texts of equally many digits are in the order of their numbers. -/
theorem lt_iff (h : Digits cs ds) (h' : Digits cs' ds') (hlength : ds.length = ds'.length) :
    cs < cs' ↔ ofDigits ds < ofDigits ds' := by
  induction h generalizing cs' ds' with
  | nil =>
      obtain rfl := List.eq_nil_of_length_eq_zero hlength.symm
      obtain rfl := List.forall₂_nil_right_iff.1 h'
      simp
  | @cons c d cs ds hc hrest ih =>
      cases h' with
      | nil => simp at hlength
      | @cons c' d' cs' ds' hc' hrest' =>
          have hsame : ds.length = ds'.length := by simpa using hlength
          obtain ⟨hless, hequal⟩ := asciiDigit?_order hc hc'
          have hsmall := ofDigits_lt hrest
          have hsmall' := ofDigits_lt hrest'
          rw [← hsame] at hsmall'
          rw [List.cons_lt_cons_iff, hless, hequal, ih hrest' hsame, ofDigits_cons, ofDigits_cons, ← hsame,
            leading_lt_iff hsmall hsmall']

end Digits
end Text

namespace Compact

/-- Two compact date texts are in the order of their dates. -/
theorem Denotes.lt_iff {cs cs' : List Char} {d e : Date} (hd : Denotes cs d) (he : Denotes cs' e) :
    cs < cs' ↔ d < e := by
  obtain ⟨year, month, day, hdigits, ⟨hyearLength, hmonthLength, hdayLength⟩, hyear, hmonth, hday⟩ := hd
  obtain ⟨year', month', day', hdigits', ⟨hyearLength', hmonthLength', hdayLength'⟩, hyear', hmonth',
    hday'⟩ := he
  have hlength : (year ++ (month ++ day)).length = (year' ++ (month' ++ day')).length := by
    simp only [List.length_append]
    omega
  have hbounds : ∀ f : Date, f.month < 100 ∧ f.day < 100 := by
    intro f
    have hmonth := f.month_bounds
    have hday := f.day_le
    omega
  have hdBounds := hbounds d
  have heBounds := hbounds e
  rw [hdigits.lt_iff hdigits' hlength, Date.lt_iff_parts]
  simp only [Text.ofDigits_append, List.length_append, hmonthLength, hdayLength, hmonthLength',
    hdayLength', hyear, hmonth, hday, hyear', hmonth', hday']
  omega

end Compact
end Agenda
