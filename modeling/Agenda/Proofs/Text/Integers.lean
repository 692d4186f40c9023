import Agenda.Proofs.Text.Numerals
import Agenda.Proofs.Text.Trimming
import Agenda.Text.Integer
/-!
# Integers and their texts

Which texts are read as an integer, said as a grammar, and which integer such a text denotes.

* `DigitRun` — digits of any script with single underscores between them.
* `SignedInteger`, `IntegerText` — digits behind a sign, and blanks around them.
* `readInteger_eq_some_iff` — exactly these texts are read.
* `readInteger_signedDecimal` — an integer is read back from its own decimal digits.
* `trim_ne_nil_of_readInteger` — a blank text denotes no integer.
-/

namespace Agenda
namespace Text

/-! ## Digits of any script -/

/-- The ten digits of ASCII are digits with their own values. -/
theorem decimalDigit?_of_asciiDigit? {c : Char} {n : Nat} (hc : asciiDigit? c = some n) :
    decimalDigit? c = some n := by
  obtain ⟨hn, hcode⟩ := asciiDigit?_eq_some_iff.1 hc
  have hall : ∀ k : Fin 10, (digitZeros.findSome? fun first =>
      if first ≤ k.val + 48 ∧ k.val + 48 ≤ first + 9 then some (k.val + 48 - first) else none)
        = some k.val := by
    decide
  unfold decimalDigit?
  rw [hcode]
  exact hall ⟨n, by omega⟩

/-- The codes of the blanks, one by one. -/
def blankCodes : List Nat :=
  [0x09, 0x0A, 0x0B, 0x0C, 0x0D, 0x1C, 0x1D, 0x1E, 0x1F, 0x20, 0x85, 0xA0, 0x1680, 0x2000, 0x2001,
   0x2002, 0x2003, 0x2004, 0x2005, 0x2006, 0x2007, 0x2008, 0x2009, 0x200A, 0x2028, 0x2029, 0x202F,
   0x205F, 0x3000]

theorem toNat_mem_blankCodes {c : Char} (hc : isBlank c = true) : c.toNat ∈ blankCodes := by
  simp only [isBlank, Bool.or_eq_true, Bool.and_eq_true, decide_eq_true_eq, beq_iff_eq] at hc
  simp only [blankCodes, List.mem_cons, List.not_mem_nil, or_false]
  omega

/-- No blank is a digit. -/
theorem decimalDigit?_of_isBlank {c : Char} (hc : isBlank c = true) : decimalDigit? c = none := by
  have hall : ∀ n ∈ blankCodes, (digitZeros.findSome? fun first =>
      if first ≤ n ∧ n ≤ first + 9 then some (n - first) else none) = none := by
    decide
  exact hall c.toNat (toNat_mem_blankCodes hc)

/-- No blank is a digit, and so no digit is blank. -/
theorem isBlank_of_decimalDigit? {c : Char} {d : Nat} (hc : decimalDigit? c = some d) : isBlank c = false := by
  rw [Bool.eq_false_iff]
  intro hblank
  rw [decimalDigit?_of_isBlank hblank] at hc
  cases hc

theorem isIntegerBlank_of_isBlank {c : Char} (hc : isBlank c = false) : isIntegerBlank c = false := by
  simp [isIntegerBlank, hc]

/-- A sign and an underscore are no digits. -/
theorem ne_of_decimalDigit? {c : Char} {d : Nat} (hc : decimalDigit? c = some d) :
    c ≠ '_' ∧ c ≠ '+' ∧ c ≠ '-' := by
  have hne : ∀ {mark : Char}, decimalDigit? mark = none → c ≠ mark := by
    rintro mark hmark rfl
    rw [hmark] at hc
    cases hc
  exact ⟨hne (by decide), hne (by decide), hne (by decide)⟩

/-! ## Runs of digits -/

/-- A run of digits with the values of the digits.  A single underscore may stand between two digits. -/
inductive DigitRun : List Char → List Nat → Prop
  | single {c : Char} {d : Nat} (hc : decimalDigit? c = some d) : DigitRun [c] [d]
  | digit {c : Char} {d : Nat} {cs : List Char} {ds : List Nat} (hc : decimalDigit? c = some d)
      (hcs : DigitRun cs ds) : DigitRun (c :: cs) (d :: ds)
  | spaced {c : Char} {d : Nat} {cs : List Char} {ds : List Nat} (hc : decimalDigit? c = some d)
      (hcs : DigitRun cs ds) : DigitRun (c :: '_' :: cs) (d :: ds)

namespace DigitRun

variable {cs : List Char} {ds : List Nat}

/-- A run begins with a digit. -/
theorem exists_cons (h : DigitRun cs ds) : ∃ c rest d, cs = c :: rest ∧ decimalDigit? c = some d := by
  cases h with
  | single hc => exact ⟨_, _, _, rfl, hc⟩
  | digit hc => exact ⟨_, _, _, rfl, hc⟩
  | spaced hc => exact ⟨_, _, _, rfl, hc⟩

/-- A run ends with a digit. -/
theorem exists_getLast? (h : DigitRun cs ds) : ∃ c d, cs.getLast? = some c ∧ decimalDigit? c = some d := by
  induction h with
  | single hc => exact ⟨_, _, rfl, hc⟩
  | digit hc hcs ih =>
      obtain ⟨c, rest, -, rfl, -⟩ := hcs.exists_cons
      rwa [List.getLast?_cons_cons]
  | spaced hc hcs ih =>
      obtain ⟨c, rest, -, rfl, -⟩ := hcs.exists_cons
      rwa [List.getLast?_cons_cons, List.getLast?_cons_cons]

/-- A text of ASCII digits is a run. -/
theorem of_digits (h : Digits cs ds) (hne : cs ≠ []) : DigitRun cs ds := by
  induction h with
  | nil => exact absurd rfl hne
  | @cons c d cs ds hc hcs ih =>
      have hdigit := decimalDigit?_of_asciiDigit? hc
      cases hcs with
      | nil => exact single hdigit
      | cons hc' hcs' => exact digit hdigit (ih (by simp))

end DigitRun

/-- The values of a run are read, and of nothing else. -/
theorem digitRun_eq_some_iff {cs : List Char} {ds : List Nat} : digitRun cs = some ds ↔ DigitRun cs ds := by
  constructor
  · intro h
    fun_induction digitRun cs generalizing ds with
    | case1 => cases h
    | case2 c =>
        obtain ⟨d, hd, rfl⟩ := Option.map_eq_some_iff.1 h
        exact .single hd
    | case3 c d rest hc => cases h
    | case4 c rest value hc ih =>
        obtain ⟨ds', hds', rfl⟩ := Option.map_eq_some_iff.1 h
        exact .spaced hc (ih hds')
    | case5 c d rest value hc hd ih =>
        obtain ⟨ds', hds', rfl⟩ := Option.map_eq_some_iff.1 h
        exact .digit hc (ih hds')
  · intro h
    induction h with
    | single hc => simp [digitRun, hc]
    | digit hc hcs ih =>
        obtain ⟨c', rest, d', rfl, hc'⟩ := hcs.exists_cons
        rw [digitRun, hc]
        simp only [if_neg (ne_of_decimalDigit? hc').1, ih, Option.map_some]
    | spaced hc hcs ih =>
        rw [digitRun, hc]
        simp only [if_true, ih, Option.map_some]

/-! ## Integers -/

/-- The text is a run of no more digits than may be read, and the number has these digits. -/
def Magnitude (cs : List Char) (n : Nat) : Prop :=
  ∃ ds, DigitRun cs ds ∧ ds.length ≤ maxIntegerDigits ∧ n = ofDigits ds

/-- Digits behind a sign, or without one. -/
inductive SignedInteger : List Char → Int → Prop
  | unsigned {cs : List Char} {n : Nat} (hn : Magnitude cs n) : SignedInteger cs n
  | plus {cs : List Char} {n : Nat} (hn : Magnitude cs n) : SignedInteger ('+' :: cs) n
  | minus {cs : List Char} {n : Nat} (hn : Magnitude cs n) : SignedInteger ('-' :: cs) (-n)

/-- The text denotes an integer: there are only blanks around its sign and its digits. -/
def IntegerText (cs : List Char) (n : Int) : Prop :=
  ∃ front t back, cs = front ++ (t ++ back) ∧ (∀ c ∈ front, isIntegerBlank c = true)
    ∧ (∀ c ∈ back, isIntegerBlank c = true) ∧ SignedInteger t n

theorem readMagnitude_eq_some_iff {cs : List Char} {n : Nat} : readMagnitude cs = some n ↔ Magnitude cs n := by
  unfold readMagnitude Magnitude
  cases hrun : digitRun cs with
  | none =>
      simp only [reduceCtorEq, false_iff]
      rintro ⟨ds, hds, -⟩
      rw [digitRun_eq_some_iff.2 hds] at hrun
      cases hrun
  | some ds =>
      have hds := digitRun_eq_some_iff.1 hrun
      constructor
      · intro h
        obtain ⟨hlength, hn⟩ := Option.ite_none_right_eq_some.1 h
        exact ⟨ds, hds, hlength, (Option.some.inj hn).symm⟩
      · rintro ⟨ds', hds', hlength, rfl⟩
        rw [digitRun_eq_some_iff.2 hds'] at hrun
        obtain rfl := Option.some.inj hrun
        simp only [if_pos hlength]

/-- An integer that is made of a number comes from a number that is denoted. -/
theorem exists_magnitude {cs : List Char} {f : Int → Int} {n : Int}
    (h : ((readMagnitude cs).bind fun m => some (m : Int)).map f = some n) :
    ∃ m : Nat, Magnitude cs m ∧ f m = n := by
  obtain ⟨k, hk, rfl⟩ := Option.map_eq_some_iff.1 h
  obtain ⟨m, hm, hcast⟩ := Option.bind_eq_some_iff.1 hk
  obtain rfl := Option.some.inj hcast
  exact ⟨m, readMagnitude_eq_some_iff.1 hm, rfl⟩

namespace SignedInteger

variable {cs : List Char} {n : Int}

/-- What stands in front is a digit or a sign. -/
theorem exists_cons (h : SignedInteger cs n) : ∃ c rest, cs = c :: rest ∧ isBlank c = false := by
  cases h with
  | unsigned hn =>
      obtain ⟨ds, hds, -⟩ := hn
      obtain ⟨c, rest, d, rfl, hc⟩ := hds.exists_cons
      exact ⟨c, rest, rfl, isBlank_of_decimalDigit? hc⟩
  | plus => exact ⟨_, _, rfl, by decide⟩
  | minus => exact ⟨_, _, rfl, by decide⟩

/-- What stands at the end is a digit. -/
theorem exists_getLast? (h : SignedInteger cs n) : ∃ c, cs.getLast? = some c ∧ isBlank c = false := by
  have hlast : ∀ {ts : List Char} {m : Nat}, Magnitude ts m →
      ∃ c, (∀ sign, (sign :: ts).getLast? = some c) ∧ ts.getLast? = some c ∧ isBlank c = false := by
    rintro ts m ⟨ds, hds, -⟩
    obtain ⟨c, d, hc, hd⟩ := hds.exists_getLast?
    exact ⟨c, fun sign => by rw [List.getLast?_cons, hc]; rfl, hc, isBlank_of_decimalDigit? hd⟩
  cases h with
  | unsigned hn =>
      obtain ⟨c, -, hc, hblank⟩ := hlast hn
      exact ⟨c, hc, hblank⟩
  | plus hn =>
      obtain ⟨c, hc, -, hblank⟩ := hlast hn
      exact ⟨c, hc _, hblank⟩
  | minus hn =>
      obtain ⟨c, hc, -, hblank⟩ := hlast hn
      exact ⟨c, hc _, hblank⟩

/-- Taking the blanks away from around an integer leaves it as it is. -/
theorem dropAround_eq {front back : List Char} (h : SignedInteger cs n)
    (hfront : ∀ c ∈ front, isIntegerBlank c = true) (hback : ∀ c ∈ back, isIntegerBlank c = true) :
    dropAround isIntegerBlank (front ++ (cs ++ back)) = cs := by
  apply dropAround_append hfront hback
  · intro c hc
    obtain ⟨c', rest, rfl, hblank⟩ := h.exists_cons
    rw [← Option.some.inj hc]
    exact isIntegerBlank_of_isBlank hblank
  · intro c hc
    obtain ⟨c', hc', hblank⟩ := h.exists_getLast?
    rw [← Option.some.inj (hc'.symm.trans hc)]
    exact isIntegerBlank_of_isBlank hblank

end SignedInteger

/-- The integer that a text denotes is read, and from no other text is one read. -/
theorem readInteger_eq_some_iff {cs : List Char} {n : Int} : readInteger cs = some n ↔ IntegerText cs n := by
  unfold readInteger
  constructor
  · intro h
    obtain ⟨front, back, hsplit, hfront, hback⟩ := exists_append_dropAround isIntegerBlank cs
    refine ⟨front, _, back, hsplit, hfront, hback, ?_⟩
    split at h
    · next rest hrest =>
        obtain ⟨m, hm, rfl⟩ := exists_magnitude h
        rw [hrest]
        exact .plus hm
    · next rest hrest =>
        obtain ⟨m, hm, rfl⟩ := exists_magnitude h
        rw [hrest]
        exact .minus hm
    · obtain ⟨m, hm, rfl⟩ := exists_magnitude h
      exact .unsigned hm
  · rintro ⟨front, t, back, rfl, hfront, hback, ht⟩
    rw [ht.dropAround_eq hfront hback]
    cases ht with
    | unsigned hn =>
        -- The first digit is no sign.
        have hread := readMagnitude_eq_some_iff.2 hn
        obtain ⟨ds, hds, -⟩ := hn
        obtain ⟨c, rest, d, rfl, hc⟩ := hds.exists_cons
        obtain ⟨-, hplus, hminus⟩ := ne_of_decimalDigit? hc
        split
        · next heq => exact absurd (List.cons.inj heq).1 hplus
        · next heq => exact absurd (List.cons.inj heq).1 hminus
        · rw [hread]
          rfl
    | plus hn =>
        simp only [readMagnitude_eq_some_iff.2 hn]
        rfl
    | minus hn =>
        simp only [readMagnitude_eq_some_iff.2 hn]
        rfl

/-- A number with no more digits than may be read has its decimal digits. -/
theorem magnitude_decimal {n : Nat} (hn : (decimal n).length ≤ maxIntegerDigits) : Magnitude (decimal n) n := by
  obtain ⟨ds, hds, hvalue⟩ := digits_decimal n
  exact ⟨ds, .of_digits hds Nat.toDigits_ne_nil, hds.length_eq ▸ hn, hvalue.symm⟩

/-- An integer of at most as many digits as may be read is denoted by its decimal text. -/
theorem integerText_signedDecimal {n : Int} (hn : (decimal n.natAbs).length ≤ maxIntegerDigits) :
    IntegerText (signedDecimal n) n := by
  have hmagnitude := magnitude_decimal hn
  refine ⟨[], signedDecimal n, [], by simp, by simp, by simp, ?_⟩
  unfold signedDecimal
  by_cases hnegative : n < 0
  · rw [if_pos hnegative]
    have hminus := SignedInteger.minus hmagnitude
    rwa [show -(n.natAbs : Int) = n by omega] at hminus
  · rw [if_neg hnegative]
    have hplain := SignedInteger.unsigned hmagnitude
    rwa [show (n.natAbs : Int) = n by omega] at hplain

/-- An integer of at most as many digits as may be read is read back from its decimal text. -/
theorem readInteger_signedDecimal {n : Int} (hn : (decimal n.natAbs).length ≤ maxIntegerDigits) :
    readInteger (signedDecimal n) = some n :=
  readInteger_eq_some_iff.2 (integerText_signedDecimal hn)

/-- A blank text denotes no integer. -/
theorem trim_ne_nil_of_readInteger {cs : List Char} {n : Int} (h : readInteger cs = some n) :
    trim cs ≠ [] := by
  obtain ⟨front, t, back, hcs, -, -, ht⟩ := readInteger_eq_some_iff.1 h
  obtain ⟨c, rest, rfl, hc⟩ := ht.exists_cons
  obtain ⟨⟨front', back', hsplit, hfront', hback'⟩, -, -⟩ := stripped_trim cs
  -- A text that is trimmed to nothing has blanks only.
  intro htrim
  have hin : c ∈ front' ++ back' := by
    rw [← List.nil_append back', ← htrim, ← hsplit, hcs]
    simp
  have hblank : isBlank c = true := by
    rcases List.mem_append.1 hin with hin | hin
    · exact hfront' c hin
    · exact hback' c hin
  rw [hc] at hblank
  cases hblank

end Text
end Agenda
