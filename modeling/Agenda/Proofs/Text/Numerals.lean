import Agenda.Proofs.PartialFunctions
import Agenda.Proofs.Text.Trimming
import Agenda.Text.Digit
import Mathlib.Algebra.Group.Nat.Defs
import Mathlib.Data.List.Induction
import Mathlib.Tactic.Ring
/-!
# Numerals

The digits with which numbers are written, and the numbers that they are read as.

* `asciiDigit?_eq_some_iff` — the ten digits.
* `Digits` — the values of a text of digits.
* `digits_decimal`, `digits_padded` — a number is read back from its digits, leading zeros or not.
* `ofDigits_append`, `Digits.ofDigits_lt` — the number of digits that are put together, and how large it is.
* `length_decimal_le_iff`, `length_padded` — how many digits there are.
-/

namespace Agenda
namespace Text

/-! ## Digits -/

theorem asciiDigit?_eq_some_iff {c : Char} {n : Nat} :
    asciiDigit? c = some n ↔ n ≤ 9 ∧ c.toNat = n + 48 := by
  have hzero : '0'.toNat = 48 := rfl
  have hnine : '9'.toNat = 57 := rfl
  unfold asciiDigit?
  rw [hzero, hnine]
  by_cases hrange : 48 ≤ c.toNat ∧ c.toNat ≤ 57
  · rw [if_pos hrange, Option.some.injEq]
    omega
  · rw [if_neg hrange]
    constructor
    · intro h
      cases h
    · intro h
      omega

theorem asciiDigit?_digitChar {n : Nat} (hn : n < 10) : asciiDigit? (Nat.digitChar n) = some n := by
  have hall : ∀ k : Fin 10, asciiDigit? (Nat.digitChar k) = some k.val := by decide
  exact hall ⟨n, hn⟩

/-- A digit is no blank. -/
theorem isBlank_of_asciiDigit? {c : Char} {n : Nat} (hc : asciiDigit? c = some n) :
    isBlank c = false := by
  obtain ⟨hn, hcode⟩ := asciiDigit?_eq_some_iff.1 hc
  unfold isBlank
  simp only [hcode, Bool.or_eq_false_iff, Bool.and_eq_false_iff, decide_eq_false_iff_not,
    beq_eq_false_iff_ne]
  omega

/-- The values of a text that is made of ASCII digits. -/
def Digits (cs : List Char) (ds : List Nat) : Prop :=
  List.Forall₂ (fun c d => asciiDigit? c = some d) cs ds

namespace Digits

variable {cs cs' : List Char} {ds ds' : List Nat}

theorem iff_mapM : Digits cs ds ↔ cs.mapM asciiDigit? = some ds :=
  mapM_eq_some_iff.symm

theorem length_eq (h : Digits cs ds) : cs.length = ds.length :=
  List.Forall₂.length_eq h

theorem append (h : Digits cs ds) (h' : Digits cs' ds') : Digits (cs ++ cs') (ds ++ ds') :=
  List.rel_append h h'

theorem asciiDigit?_of_mem (h : Digits cs ds) : ∀ c ∈ cs, ∃ d, asciiDigit? c = some d := by
  intro c hc
  obtain ⟨d, -, hd⟩ := exists_rel_of_mem h c hc
  exact ⟨d, hd⟩

theorem isAsciiDigit_all (h : Digits cs ds) : cs.all isAsciiDigit = true := by
  rw [List.all_eq_true]
  intro c hc
  obtain ⟨d, hd⟩ := h.asciiDigit?_of_mem c hc
  rw [isAsciiDigit, hd]
  rfl

theorem filterMap_eq (h : Digits cs ds) : cs.filterMap asciiDigit? = ds := by
  induction h with
  | nil => rfl
  | cons hc _ ih => rw [List.filterMap_cons_some hc, ih]

theorem not_isBlank (h : Digits cs ds) : ∀ c ∈ cs, isBlank c = false := by
  intro c hc
  obtain ⟨d, hd⟩ := h.asciiDigit?_of_mem c hc
  exact isBlank_of_asciiDigit? hd

/-- Trimming leaves a text of digits alone. -/
theorem trim_eq (h : Digits cs ds) : trim cs = cs :=
  trim_eq_self (fun c hc => h.not_isBlank c (List.mem_of_head? hc))
    fun c hc => h.not_isBlank c (List.mem_of_getLast? hc)

end Digits

/-! ## Numbers -/

theorem ofDigits_append_singleton (ds : List Nat) (d : Nat) :
    ofDigits (ds ++ [d]) = 10 * ofDigits ds + d := by
  simp [ofDigits]

theorem ofDigits_cons (d : Nat) (ds : List Nat) :
    ofDigits (d :: ds) = d * 10 ^ ds.length + ofDigits ds := by
  induction ds using List.reverseRecOn with
  | nil => simp [ofDigits]
  | append_singleton ds e ih =>
      rw [← List.cons_append, ofDigits_append_singleton, ofDigits_append_singleton, ih,
        List.length_append, List.length_singleton]
      ring

/-- The digits that are put in front weigh as much as the others are many. -/
theorem ofDigits_append (ds es : List Nat) :
    ofDigits (ds ++ es) = ofDigits ds * 10 ^ es.length + ofDigits es := by
  induction ds with
  | nil => simp [ofDigits]
  | cons d ds ih =>
      rw [List.cons_append, ofDigits_cons, ofDigits_cons, ih, List.length_append]
      ring

/-- The number of digits tells how large their number can be. -/
theorem Digits.ofDigits_lt {cs : List Char} {ds : List Nat} (h : Digits cs ds) : ofDigits ds < 10 ^ ds.length := by
  induction h with
  | nil => simp [ofDigits]
  | @cons c d cs ds hc _ ih =>
      have hd := (asciiDigit?_eq_some_iff.1 hc).1
      have hle : d * 10 ^ ds.length ≤ 9 * 10 ^ ds.length := Nat.mul_le_mul_right _ hd
      rw [ofDigits_cons, List.length_cons, pow_succ]
      omega

theorem ofDigits_replicate_zero_append (k : Nat) (ds : List Nat) :
    ofDigits (List.replicate k 0 ++ ds) = ofDigits ds := by
  induction k with
  | zero => rfl
  | succ k ih =>
      rw [List.replicate_succ, List.cons_append]
      exact ih

/-- A number is read back from its decimal digits. -/
theorem digits_decimal (n : Nat) : ∃ ds, Digits (decimal n) ds ∧ ofDigits ds = n := by
  induction n using Nat.strongRecOn with
  | ind n ih =>
      unfold decimal
      -- The last digit is written after the digits of the tenth part.
      by_cases hsmall : n < 10
      · rw [Nat.toDigits_of_lt_base hsmall]
        exact ⟨[n], List.Forall₂.cons (asciiDigit?_digitChar hsmall) List.Forall₂.nil, by simp [ofDigits]⟩
      · rw [Nat.toDigits_of_base_le (by omega) (by omega)]
        obtain ⟨ds, hds, hvalue⟩ := ih (n / 10) (by omega)
        refine ⟨ds ++ [n % 10], ?_, ?_⟩
        · exact Digits.append hds
            (List.Forall₂.cons (asciiDigit?_digitChar (by omega)) List.Forall₂.nil)
        · rw [ofDigits_append_singleton, hvalue]
          omega

/-- The number of digits tells how large a number is. -/
theorem length_decimal_le_iff {n k : Nat} (hk : 0 < k) : (decimal n).length ≤ k ↔ n < 10 ^ k :=
  Nat.length_toDigits_le_iff (by omega) hk

/-- A number is read back from its digits when they are filled up with zeros. -/
theorem digits_padded (width n : Nat) : ∃ ds, Digits (padded width n) ds ∧ ofDigits ds = n := by
  obtain ⟨ds, hds, hvalue⟩ := digits_decimal n
  refine ⟨List.replicate (width - (decimal n).length) 0 ++ ds, ?_, ?_⟩
  · have hzeros : ∀ k, Digits (List.replicate k '0') (List.replicate k 0) := by
      intro k
      induction k with
      | zero => exact List.Forall₂.nil
      | succ k ih => exact List.Forall₂.cons rfl ih
    exact Digits.append (hzeros _) hds
  · rw [ofDigits_replicate_zero_append, hvalue]

/-- A number that is not too large is filled up to the width. -/
theorem length_padded {width n : Nat} (hwidth : 0 < width) (hn : n < 10 ^ width) :
    (padded width n).length = width := by
  have hlength := (length_decimal_le_iff hwidth).2 hn
  unfold padded
  rw [List.length_leftpad]
  omega

end Text
end Agenda
