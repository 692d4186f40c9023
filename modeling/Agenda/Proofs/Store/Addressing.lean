import Agenda.Proofs.PartialFunctions
import Agenda.Proofs.Store.Rows
import Agenda.Proofs.Text.Integers
import Agenda.Store.Command
/-!
# Rows addressed by ids

Which row a given id addresses, and why it addresses none.

* `IdInput.Denotes` — the integer that a given id denotes; `IdInput.IsBlank` — there is no id at all.
* `IdInput.resolve_cases` — an id is blank, denotes one integer, or denotes none.
* `Table.locate_eq_ok_iff` — the row that is addressed is the one whose id is denoted.
* `Table.locate_cases` — all outcomes for an id that does not denote a number beyond 64 bits.
-/

namespace Agenda
namespace IdInput

variable {id : IdInput} {n : Int}

/-- The id denotes an integer: it is a number, or a text that is read as one. -/
def Denotes : IdInput → Int → Prop
  | absent, _ => False
  | number k, n => k = n
  | text s, n => Text.readInteger s.toList = some n

/-- The id is missing, or it is a blank text. -/
def IsBlank : IdInput → Prop
  | absent => True
  | number _ => False
  | text s => Text.trim s.toList = []

/-- The id denotes no number beyond 64 bits. -/
def Fits (id : IdInput) : Prop :=
  ∀ n, id.Denotes n → fitsRow n = true

instance : DecidablePred Fits
  | absent => isTrue fun _ hn => hn.elim
  | number k => decidable_of_iff (fitsRow k = true) ⟨fun hk _ hn => hn ▸ hk, fun h => h k rfl⟩
  | text s =>
      decidable_of_iff (∀ n ∈ Text.readInteger s.toList, fitsRow n = true) Iff.rfl

theorem Denotes.unique {m : Int} (hn : id.Denotes n) (hm : id.Denotes m) : n = m := by
  cases id with
  | absent => cases hn
  | number k => exact hn.symm.trans hm
  | text s => exact Option.some.inj (hn.symm.trans hm)

/-- An id that denotes an integer is not blank. -/
theorem Denotes.not_isBlank (hn : id.Denotes n) : ¬ id.IsBlank := by
  cases id with
  | absent => cases hn
  | number k => exact fun hblank => hblank
  | text s => exact Text.trim_ne_nil_of_readInteger hn

/-- A given id is blank, or it denotes an integer, or it is a text that denotes none. -/
theorem resolve_cases (id : IdInput) :
    (id.IsBlank ∧ id.resolve = .error .emptyId) ∨ (∃ n, id.Denotes n ∧ id.resolve = .ok n)
      ∨ (¬ id.IsBlank ∧ (∀ n, ¬ id.Denotes n) ∧ id.resolve = .error .notFound) := by
  cases id with
  | absent => exact Or.inl ⟨trivial, rfl⟩
  | number k => exact Or.inr (Or.inl ⟨k, rfl, rfl⟩)
  | text s =>
      by_cases hblank : Text.trim s.toList = []
      · exact Or.inl ⟨hblank, by simp [resolve, hblank]⟩
      · cases hread : Text.readInteger s.toList with
        | some n => exact Or.inr (Or.inl ⟨n, hread, by simp [resolve, hblank, hread]⟩)
        | none =>
            refine Or.inr (Or.inr ⟨hblank, ?_, by simp [resolve, hblank, hread]⟩)
            intro n hn
            rw [Denotes, hread] at hn
            cases hn

theorem resolve_eq_ok_iff : id.resolve = .ok n ↔ id.Denotes n := by
  rcases resolve_cases id with ⟨hblank, hresolve⟩ | ⟨m, hm, hresolve⟩ | ⟨-, hnone, hresolve⟩
  · rw [hresolve]
    exact ⟨fun h => (by cases h), fun hn => absurd hblank hn.not_isBlank⟩
  · rw [hresolve, Except.ok.injEq]
    constructor
    · rintro rfl
      exact hm
    · exact hm.unique
  · rw [hresolve]
    exact ⟨fun h => (by cases h), fun hn => absurd hn (hnone n)⟩

/-- The decimal text of an id denotes it. -/
theorem denotes_signedDecimal (hn : fitsRow n = true) :
    (text (String.ofList (Text.signedDecimal n))).Denotes n := by
  have hshort : (Text.decimal n.natAbs).length ≤ 19 := by
    rw [fitsRow_iff] at hn
    rw [Text.length_decimal_le_iff (by omega)]
    unfold maxRowId at hn
    omega
  have hlimit : (Text.decimal n.natAbs).length ≤ Text.maxIntegerDigits := by
    unfold Text.maxIntegerDigits
    omega
  rw [Denotes, String.toList_ofList]
  exact Text.readInteger_signedDecimal hlimit

end IdInput

namespace Table

variable {t : Table} {id : IdInput} {r : Row}

/-- The row that an id addresses is the one whose id it denotes. -/
theorem locate_eq_ok_iff : t.locate id = .ok r ↔ r ∈ t.rows ∧ id.Denotes r.id := by
  unfold locate
  rw [bind_eq_ok_iff]
  constructor
  · rintro ⟨n, hn, h⟩
    split at h
    · cases hfind : t.find? n with
      | none =>
          rw [hfind] at h
          cases h
      | some r' =>
          rw [hfind] at h
          obtain rfl := Except.ok.inj h
          obtain ⟨hr, rfl⟩ := find?_eq_some_iff.1 hfind
          exact ⟨hr, IdInput.resolve_eq_ok_iff.1 hn⟩
    · cases h
  · rintro ⟨hr, hid⟩
    refine ⟨r.id, IdInput.resolve_eq_ok_iff.2 hid, ?_⟩
    rw [if_pos (t.inRange r hr), find?_eq_some_iff.2 ⟨hr, rfl⟩]
    rfl

/-- An id is blank, or it addresses no row, or it addresses the row whose id it denotes. -/
theorem locate_cases (t : Table) (hfits : id.Fits) :
    (id.IsBlank ∧ t.locate id = .error .emptyId)
      ∨ (¬ id.IsBlank ∧ (∀ n, id.Denotes n → t.entryAt? n = none) ∧ t.locate id = .error .notFound)
      ∨ ∃ r ∈ t.rows, id.Denotes r.id ∧ t.locate id = .ok r := by
  rcases IdInput.resolve_cases id with ⟨hblank, hresolve⟩ | ⟨n, hn, hresolve⟩ | ⟨hblank, hnone, hresolve⟩
  · refine Or.inl ⟨hblank, ?_⟩
    rw [locate, hresolve]
    rfl
  · cases hfind : t.find? n with
    | none =>
        refine Or.inr (Or.inl ⟨hn.not_isBlank, ?_, ?_⟩)
        · intro m hm
          obtain rfl := hn.unique hm
          rw [entryAt?, hfind]
          rfl
        · refine bind_eq_error_iff.2 (Or.inr ⟨n, hresolve, ?_⟩)
          rw [if_pos (hfits n hn), hfind]
    | some r =>
        obtain ⟨hr, rfl⟩ := find?_eq_some_iff.1 hfind
        exact Or.inr (Or.inr ⟨r, hr, hn, locate_eq_ok_iff.2 ⟨hr, hn⟩⟩)
  · refine Or.inr (Or.inl ⟨hblank, fun n hn => absurd hn (hnone n), ?_⟩)
    rw [locate, hresolve]
    rfl

end Table
end Agenda
