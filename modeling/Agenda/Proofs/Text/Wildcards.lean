import Agenda.Text.Wildcard
import Mathlib.Data.List.Forall2
import Mathlib.Data.List.Infix
/-!
# The matching of wildcard patterns

A pattern is matched against all suffixes of a text at once, from its end to its start.  Here the result is
tied to the relation that says what a match is.

* `Wildcard.matches_percent_nil_iff`, `Wildcard.matches_percent_cons_iff`, `Wildcard.matches_letter_iff` — the
  relation, by the first characters of pattern and text.
* `Wildcard.tellsSuffixes_suffixMatches` — what is found out about the suffixes of a text is right for each.
* `Wildcard.accepts_iff` — a pattern is accepted for a text exactly when it matches it, each up to its first
  NUL.
-/

namespace Agenda
namespace Wildcard

variable {a c : Char} {p s : List Char}

/-! ## The relation, by first characters -/

theorem matches_nil_iff : Matches [] s ↔ s = [] := by
  constructor
  · rintro ⟨⟩
    rfl
  · rintro rfl
    exact .nil

theorem matches_percent_nil_iff : Matches ('%' :: p) [] ↔ Matches p [] := by
  constructor
  · intro h
    cases h with
    | skip _ _ h => exact h
  · exact .skip p []

theorem matches_percent_cons_iff :
    Matches ('%' :: p) (c :: s) ↔ Matches p (c :: s) ∨ Matches ('%' :: p) s := by
  constructor
  · intro h
    cases h with
    | skip _ _ h => exact Or.inl h
    | take _ _ _ h => exact Or.inr h
    | letter _ _ _ _ hwild => exact absurd rfl hwild
  · rintro (h | h)
    · exact .skip p (c :: s) h
    · exact .take p c s h

theorem not_matches_letter_nil (ha : a ≠ '%') : ¬ Matches (a :: p) [] := by
  intro h
  cases h with
  | skip _ _ h => exact ha rfl

theorem matches_letter_iff (ha : a ≠ '%') :
    Matches (a :: p) (c :: s) ↔ sameLetter a c = true ∧ Matches p s := by
  constructor
  · intro h
    cases h with
    | skip _ _ h => exact absurd rfl ha
    | take _ _ _ h => exact absurd rfl ha
    | letter _ _ _ _ _ hsame h => exact ⟨hsame, h⟩
  · rintro ⟨hsame, h⟩
    exact .letter a p c s ha hsame h

/-! ## All suffixes at once -/

/-- The list tells for every suffix of the text, the longest first, whether the pattern matches it. -/
def TellsSuffixes (p s : List Char) (told : List Bool) : Prop :=
  List.Forall₂ (fun b suffix => b = true ↔ Matches p suffix) told s.tails

variable {told : List Bool}

theorem tellsSuffixes_nil_iff {b : Bool} : TellsSuffixes p [] [b] ↔ (b = true ↔ Matches p []) := by
  simp [TellsSuffixes]

theorem tellsSuffixes_cons_iff {b : Bool} :
    TellsSuffixes p (c :: s) (b :: told) ↔ (b = true ↔ Matches p (c :: s)) ∧ TellsSuffixes p s told := by
  rw [TellsSuffixes, List.tails_cons, List.forall₂_cons]
  rfl

/-- What is told first is about the whole text. -/
theorem TellsSuffixes.exists_cons (h : TellsSuffixes p s told) :
    ∃ b rest, told = b :: rest ∧ (b = true ↔ Matches p s) := by
  cases s with
  | nil =>
      obtain ⟨b, rest, hb, -, rfl⟩ := List.forall₂_cons_right_iff.1 h
      exact ⟨b, rest, rfl, hb⟩
  | cons c s =>
      obtain ⟨b, rest, hb, -, rfl⟩ := List.forall₂_cons_right_iff.1 h
      exact ⟨b, rest, rfl, hb⟩

theorem tellsSuffixes_empty (s : List Char) :
    TellsSuffixes [] s (s.map (fun _ => false) ++ [true]) := by
  induction s with
  | nil => simp [tellsSuffixes_nil_iff, matches_nil_iff]
  | cons c s ih =>
      rw [List.map_cons, List.cons_append, tellsSuffixes_cons_iff]
      exact ⟨by simp [matches_nil_iff], ih⟩

/-- In front of a pattern, `%` accepts what the pattern accepts at this place or later. -/
theorem TellsSuffixes.percent (h : TellsSuffixes p s told) :
    TellsSuffixes ('%' :: p) s (anyLater told) := by
  induction s generalizing told with
  | nil =>
      obtain ⟨b, rest, hb, hrest, rfl⟩ := List.forall₂_cons_right_iff.1 h
      obtain rfl := List.forall₂_nil_right_iff.1 hrest
      simpa [anyLater, tellsSuffixes_nil_iff, matches_percent_nil_iff] using hb
  | cons c s ih =>
      obtain ⟨b, rest, hb, hrest, rfl⟩ := List.forall₂_cons_right_iff.1 h
      have hlater := ih hrest
      obtain ⟨later, more, hmore, hhead⟩ := hlater.exists_cons
      rw [anyLater, tellsSuffixes_cons_iff, matches_percent_cons_iff, ← hb, ← hhead]
      exact ⟨by simp [hmore], hlater⟩

/-- In front of a pattern, any other character accepts one character, and the pattern what follows. -/
theorem TellsSuffixes.letter (ha : a ≠ '%') (h : TellsSuffixes p s told) :
    TellsSuffixes (a :: p) s
      (List.zipWith (fun c matched => sameLetter a c && matched) s told.tail ++ [false]) := by
  induction s generalizing told with
  | nil => simpa [tellsSuffixes_nil_iff] using not_matches_letter_nil ha
  | cons c s ih =>
      obtain ⟨b, rest, -, hrest, rfl⟩ := List.forall₂_cons_right_iff.1 h
      have hlater := ih hrest
      obtain ⟨next, more, rfl, hnext⟩ := TellsSuffixes.exists_cons hrest
      rw [List.tail_cons, List.zipWith_cons_cons, List.cons_append, tellsSuffixes_cons_iff,
        matches_letter_iff ha, ← hnext]
      exact ⟨by simp, hlater⟩

/-- For every suffix of the text it is found out whether the pattern matches it. -/
theorem tellsSuffixes_suffixMatches (p s : List Char) : TellsSuffixes p s (suffixMatches p s) := by
  induction p with
  | nil => exact tellsSuffixes_empty s
  | cons a p ih =>
      unfold suffixMatches
      split
      · next ha =>
          subst ha
          exact ih.percent
      · next ha => exact ih.letter ha

/-- A pattern is accepted for a text exactly when it matches it, each up to its first NUL. -/
theorem accepts_iff : accepts p s = true ↔ Matches (untilNul p) (untilNul s) := by
  obtain ⟨b, rest, htold, hb⟩ := (tellsSuffixes_suffixMatches (untilNul p) (untilNul s)).exists_cons
  rw [accepts, htold]
  exact hb

end Wildcard
end Agenda
