import Agenda.Text.Blank
import Mathlib.Data.List.Basic
import Mathlib.Data.List.DropRight
import Mathlib.Data.List.TakeWhile
/-!
# Blanks at the ends of a text

What trimming leaves of a text, said without the search for its ends.

* `Stripped` — a text without the blanks at the two ends of another one.
* `exists_append_dropAround`, `dropAround_append` — what is dropped from the two ends of a text.
* `dropAround_eq_self`, `trim_eq_self` — a text that has nothing to drop at its two ends.
* `stripped_iff` — the text without its blanks is exactly what trimming gives.
* `trim_cons_append` — a text without blanks at its two ends is left alone.
* `trim_of_blanks_around` — blanks that have been put around a text are trimmed off.
-/

namespace Agenda
namespace Text

/-- The text `t` is what is left of `cs` without the blanks at its two ends: only blanks are left out, and
no blank is left at an end. -/
structure Stripped (cs t : List Char) : Prop where
  split : ∃ front back, cs = front ++ (t ++ back)
    ∧ (∀ c ∈ front, isBlank c = true) ∧ ∀ c ∈ back, isBlank c = true
  first : ∀ c, t.head? = some c → isBlank c = false
  last : ∀ c, t.getLast? = some c → isBlank c = false

theorem dropWhile_append_eq_of_head {p : Char → Bool} {front rest : List Char}
    (hfront : ∀ c ∈ front, p c = true) (hrest : ∀ c, rest.head? = some c → p c = false) :
    (front ++ rest).dropWhile p = rest := by
  rw [List.dropWhile_append_of_pos hfront, List.dropWhile_eq_self_iff]
  intro hlength
  rw [hrest rest[0] (List.head?_eq_getElem? ▸ List.getElem?_eq_getElem hlength)]
  decide

/-! ## Characters at both ends -/

/-- Dropping from both ends takes away characters that are to be dropped, and nothing else. -/
theorem exists_append_dropAround (p : Char → Bool) (cs : List Char) :
    ∃ front back, cs = front ++ (dropAround p cs ++ back)
      ∧ (∀ c ∈ front, p c = true) ∧ ∀ c ∈ back, p c = true := by
  have hfront : cs = cs.takeWhile p ++ cs.dropWhile p := List.takeWhile_append_dropWhile.symm
  -- The characters at the end are the first ones of the reversed text.
  have hback : cs.dropWhile p = dropAround p cs ++ ((cs.dropWhile p).reverse.takeWhile p).reverse := by
    calc
      cs.dropWhile p = ((cs.dropWhile p).reverse.takeWhile p ++ (cs.dropWhile p).reverse.dropWhile p).reverse := by
        rw [List.takeWhile_append_dropWhile, List.reverse_reverse]
      _ = dropAround p cs ++ ((cs.dropWhile p).reverse.takeWhile p).reverse := by
        rw [List.reverse_append, dropAround, dropEndWhile]
  refine ⟨cs.takeWhile p, ((cs.dropWhile p).reverse.takeWhile p).reverse, ?_, ?_, ?_⟩
  · rw [← hback]
    exact hfront
  · intro c hc
    exact List.mem_takeWhile_imp hc
  · intro c hc
    exact List.mem_takeWhile_imp (List.mem_reverse.1 hc)

/-- What is left begins with a kept character. -/
theorem head?_dropAround {p : Char → Bool} {cs : List Char} {c : Char}
    (hc : (dropAround p cs).head? = some c) : p c = false := by
  -- Dropping from the end leaves the first character where it is.
  have hfirst : (cs.dropWhile p).head? = some c := by
    obtain ⟨back, hback⟩ := List.rdropWhile_prefix p (cs.dropWhile p)
    rw [← hback, List.head?_append, show (List.rdropWhile p (cs.dropWhile p)).head? = some c from hc]
    rfl
  have hkept := List.head?_dropWhile_not p cs
  rwa [hfirst] at hkept

/-- What is left ends with a kept character. -/
theorem getLast?_dropAround {p : Char → Bool} {cs : List Char} {c : Char}
    (hc : (dropAround p cs).getLast? = some c) : p c = false := by
  rw [dropAround, dropEndWhile, List.getLast?_reverse] at hc
  have hkept := List.head?_dropWhile_not p (cs.dropWhile p).reverse
  rwa [hc] at hkept

/-- Characters to be dropped that stand around a text are dropped, and nothing else if it has none at its own
ends. -/
theorem dropAround_append {p : Char → Bool} {front t back : List Char} (hfront : ∀ c ∈ front, p c = true)
    (hback : ∀ c ∈ back, p c = true) (hfirst : ∀ c, t.head? = some c → p c = false)
    (hlast : ∀ c, t.getLast? = some c → p c = false) : dropAround p (front ++ (t ++ back)) = t := by
  cases t with
  | nil =>
      -- Everything is dropped from the front, which leaves nothing.
      have hall : (front ++ ([] ++ back)).dropWhile p = [] := by
        rw [List.nil_append, List.dropWhile_append_of_pos hfront, List.dropWhile_eq_nil_iff]
        exact hback
      rw [dropAround, hall]
      rfl
  | cons d rest =>
      have hhead : (front ++ (d :: rest ++ back)).dropWhile p = d :: rest ++ back :=
        dropWhile_append_eq_of_head hfront fun c hc => hfirst c (by simpa using hc)
      have hend : (back.reverse ++ (d :: rest).reverse).dropWhile p = (d :: rest).reverse := by
        apply dropWhile_append_eq_of_head
        · intro c hc
          exact hback c (List.mem_reverse.1 hc)
        · intro c hc
          exact hlast c (by rwa [List.head?_reverse] at hc)
      rw [dropAround, hhead, dropEndWhile, List.reverse_append, hend, List.reverse_reverse]

/-- A list whose first and last characters are kept is left alone. -/
theorem dropAround_eq_self {p : Char → Bool} {cs : List Char}
    (hfirst : ∀ c, cs.head? = some c → p c = false)
    (hlast : ∀ c, cs.getLast? = some c → p c = false) : dropAround p cs = cs := by
  have hnone : ∀ c ∈ ([] : List Char), p c = true := by simp
  have halone := dropAround_append hnone hnone hfirst hlast
  rwa [List.nil_append, List.append_nil] at halone

/-! ## Blanks -/

/-- A text whose first and last characters are not blank is its own trimmed form. -/
theorem trim_eq_self {cs : List Char} (hfirst : ∀ c, cs.head? = some c → isBlank c = false)
    (hlast : ∀ c, cs.getLast? = some c → isBlank c = false) : trim cs = cs :=
  dropAround_eq_self hfirst hlast

theorem stripped_trim (cs : List Char) : Stripped cs (trim cs) :=
  ⟨exists_append_dropAround isBlank cs, fun _ => head?_dropAround, fun _ => getLast?_dropAround⟩

/-- A text is what trimming leaves of another one exactly when it is that one without the blanks at its
ends. -/
theorem stripped_iff {cs t : List Char} : Stripped cs t ↔ t = trim cs := by
  constructor
  · rintro ⟨⟨front, back, rfl, hfront, hback⟩, hfirst, hlast⟩
    exact (dropAround_append hfront hback hfirst hlast).symm
  · rintro rfl
    exact stripped_trim cs

/-- A text is left alone if it starts with a character that is no blank and ends with a part that has none. -/
theorem trim_cons_append (c : Char) (front : List Char) {back : List Char} (hc : isBlank c = false)
    (hne : back ≠ []) (hback : ∀ b ∈ back, isBlank b = false) :
    trim (c :: (front ++ back)) = c :: (front ++ back) := by
  apply trim_eq_self
  · intro b hb
    rw [← Option.some.inj hb]
    exact hc
  · intro b hb
    rw [← List.cons_append, List.getLast?_append_of_ne_nil _ hne] at hb
    exact hback b (List.mem_of_getLast? hb)

/-- Blanks around a text are trimmed off, and nothing else if it has none at its own ends. -/
theorem trim_of_blanks_around {front t back : List Char} (ht : trim t = t)
    (hfront : ∀ c ∈ front, isBlank c = true) (hback : ∀ c ∈ back, isBlank c = true) :
    trim (front ++ (t ++ back)) = t := by
  have hends := stripped_trim t
  rw [ht] at hends
  exact (stripped_iff.1 ⟨⟨front, back, rfl, hfront, hback⟩, hends.first, hends.last⟩).symm

end Text
end Agenda
