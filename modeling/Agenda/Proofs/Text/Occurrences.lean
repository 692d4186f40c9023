import Agenda.Proofs.PartialFunctions
import Agenda.Proofs.Text.Wildcards
import Mathlib.Data.List.TakeWhile
/-!
# Words that occur in a text

A word is looked for with a pattern that puts `%` before and after it.  Here the matching of this pattern is
compared with the plain notion of a word that occurs in a text.

* `OccursIn` — a part of the text is the word, up to a relation between characters.
* `AlikeUpToCase`, `AlikeAsRead` — characters that are the same up to the case of ASCII letters, and characters
  that are so when they are read.
* `Wildcard.matches_containing` — the pattern of a word matches every text in which the word occurs, also when
  the word has wildcards in it.
* `Wildcard.occursIn_of_matches_containing` — without wildcards in the word it matches no other text.
-/

namespace Agenda

/-- A part of the text is the word, up to a relation between the characters of the word and of the text. -/
def OccursIn (alike : Char → Char → Prop) (word text : List Char) : Prop :=
  ∃ part, part <:+: text ∧ List.Forall₂ alike word part

/-- A word occurs under a weaker relation, too.  The relation matters for the characters of the word only. -/
theorem OccursIn.imp {alike alike' : Char → Char → Prop} {word text : List Char}
    (h : OccursIn alike word text) (himp : ∀ a ∈ word, ∀ c, alike a c → alike' a c) :
    OccursIn alike' word text := by
  obtain ⟨part, hpart, hword⟩ := h
  have hboth := (List.forall₂_and_left word part).2 ⟨himp, hword⟩
  exact ⟨part, hpart, hboth.imp fun a c hac => hac.1 c hac.2⟩

/-- For every character of a word that occurs in a text there is one like it in the text. -/
theorem OccursIn.exists_mem {alike : Char → Char → Prop} {word text : List Char}
    (h : OccursIn alike word text) {a : Char} (ha : a ∈ word) : ∃ c ∈ text, alike a c := by
  obtain ⟨part, hpart, hword⟩ := h
  obtain ⟨c, hc, hac⟩ := exists_rel_of_mem hword a ha
  exact ⟨c, hpart.subset hc, hac⟩

/-! ## Characters that count as the same -/

/-- The characters are the same up to the case of ASCII letters. -/
def AlikeUpToCase (a c : Char) : Prop := a.toLower = c.toLower

instance (a c : Char) : Decidable (AlikeUpToCase a c) := inferInstanceAs (Decidable (_ = _))

/-- A character as it is read: the two noncharacters at the end of the first plane are read as replacement
characters. -/
def asRead (c : Char) : Char :=
  if c = '\uFFFE' ∨ c = '\uFFFF' then '\uFFFD' else c

/-- The characters are the same up to the case of ASCII letters when they are read. -/
def AlikeAsRead (a c : Char) : Prop := AlikeUpToCase (asRead a) (asRead c)

instance (a c : Char) : Decidable (AlikeAsRead a c) := inferInstanceAs (Decidable (AlikeUpToCase _ _))

/-- The characters that are read as replacement characters. -/
def readAsReplacement : List Char := ['\uFFFD', '\uFFFE', '\uFFFF']

theorem toNat_toLower (c : Char) :
    c.toLower.toNat = if 65 ≤ c.toNat ∧ c.toNat ≤ 90 then c.toNat + 32 else c.toNat := by
  unfold Char.toLower
  split
  · next hcapital =>
      have hrange : 65 ≤ c.toNat ∧ c.toNat ≤ 90 := hcapital
      have hsum : (c.val + ('a'.val - 'A'.val)).toNat = (c.toNat + 32) % 2 ^ 32 := UInt32.toNat_add _ _
      rw [if_pos hrange]
      exact hsum.trans (Nat.mod_eq_of_lt (by omega))
  · next hother =>
      have hrange : ¬ (65 ≤ c.toNat ∧ c.toNat ≤ 90) := hother
      rw [if_neg hrange]

theorem toLower_eq_self {c : Char} (hc : 90 < c.toNat) : c.toLower = c := by
  rw [← Char.toNat_inj, toNat_toLower, if_neg (by omega)]

/-- A character behind the ASCII letters is the same as no other one. -/
theorem AlikeUpToCase.eq_of_lt {a c : Char} (h : AlikeUpToCase a c) (hc : 122 < c.toNat) : a = c := by
  have hlower : a.toLower = c := Eq.trans h (toLower_eq_self (by omega))
  rw [← Char.toNat_inj, toNat_toLower] at hlower
  rw [← Char.toNat_inj]
  split at hlower <;> omega

theorem lt_toNat_of_special {c : Char} (hc : c = '\uFFFE' ∨ c = '\uFFFF') : 122 < c.toNat := by
  rcases hc with rfl | rfl <;> decide

/-- Characters are compared as they are read, with ASCII letters in lower case. -/
theorem Wildcard.folded_eq (c : Char) : folded c = (asRead c).toLower := by
  unfold folded
  split
  · next hcapital =>
      have hrange : 65 ≤ c.toNat ∧ c.toNat ≤ 90 := hcapital
      have hplain : ¬ (c = '\uFFFE' ∨ c = '\uFFFF') := by
        intro hspecial
        have hlarge := lt_toNat_of_special hspecial
        omega
      rw [asRead, if_neg hplain, ← Char.ofNat_toNat c.toLower, toNat_toLower, if_pos hrange]
  · next hother =>
      have hrange : ¬ (65 ≤ c.toNat ∧ c.toNat ≤ 90) := hother
      split
      · next hspecial => rw [asRead, if_pos hspecial, toLower_eq_self (by decide)]
      · next hplain =>
          rw [asRead, if_neg hplain, ← Char.toNat_inj, toNat_toLower, if_neg hrange]

theorem Wildcard.alikeAsRead_iff {a c : Char} : AlikeAsRead a c ↔ folded a = folded c := by
  rw [folded_eq, folded_eq]
  rfl

/-- Characters that are the same up to case are so when they are read. -/
theorem AlikeUpToCase.alikeAsRead {a c : Char} (h : AlikeUpToCase a c) : AlikeAsRead a c := by
  by_cases ha : a = '\uFFFE' ∨ a = '\uFFFF'
  · rw [AlikeUpToCase.eq_of_lt (Eq.symm h) (lt_toNat_of_special ha)]
    rfl
  · by_cases hc : c = '\uFFFE' ∨ c = '\uFFFF'
    · rw [h.eq_of_lt (lt_toNat_of_special hc)]
      rfl
    · rw [AlikeAsRead, asRead, asRead, if_neg ha, if_neg hc]
      exact h

/-- Reading makes two characters the same only if both are read as replacement characters. -/
theorem AlikeAsRead.alikeUpToCase {a c : Char} (h : AlikeAsRead a c) (ha : a ∉ readAsReplacement) :
    AlikeUpToCase a c := by
  simp only [readAsReplacement, List.mem_cons, List.not_mem_nil, or_false, not_or] at ha
  rw [AlikeAsRead, asRead, if_neg (not_or.2 ha.2)] at h
  by_cases hc : c = '\uFFFE' ∨ c = '\uFFFF'
  · rw [asRead, if_pos hc] at h
    exact absurd (h.eq_of_lt (by decide)) ha.1
  · rw [asRead, if_neg hc] at h
    exact h

/-! ## The pattern of a word -/

namespace Wildcard

variable {p s w : List Char}

/-- In front of a pattern, `%` accepts any beginning of a text. -/
theorem matches_percent_iff :
    Matches ('%' :: p) s ↔ ∃ before after, s = before ++ after ∧ Matches p after := by
  induction s with
  | nil =>
      rw [matches_percent_nil_iff]
      constructor
      · intro h
        exact ⟨[], [], rfl, h⟩
      · rintro ⟨before, after, happend, h⟩
        obtain ⟨rfl, rfl⟩ := List.append_eq_nil_iff.1 happend.symm
        exact h
  | cons c s ih =>
      rw [matches_percent_cons_iff, ih]
      constructor
      · rintro (h | ⟨before, after, rfl, h⟩)
        · exact ⟨[], c :: s, rfl, h⟩
        · exact ⟨c :: before, after, rfl, h⟩
      · rintro ⟨before, after, happend, h⟩
        cases before with
        | nil =>
            obtain rfl := happend
            exact Or.inl h
        | cons b before =>
            obtain ⟨-, rfl⟩ := List.cons.inj happend
            exact Or.inr ⟨before, after, rfl, h⟩

theorem matches_percent (s : List Char) : Matches ['%'] s :=
  matches_percent_iff.2 ⟨s, [], (List.append_nil s).symm, .nil⟩

theorem sameLetter_iff {a c : Char} : sameLetter a c = true ↔ a = '_' ∨ folded a = folded c := by
  rw [sameLetter, Bool.or_eq_true, beq_iff_eq, beq_iff_eq]

/-- A pattern may begin with any word as it is: a wildcard in it accepts itself. -/
theorem matches_append {part : List Char} (hword : List.Forall₂ AlikeAsRead w part) (h : Matches p s) :
    Matches (w ++ p) (part ++ s) := by
  induction hword with
  | nil => exact h
  | @cons a c w part hac _ ih =>
      by_cases ha : a = '%'
      · subst ha
        exact .take _ c _ (.skip _ _ ih)
      · exact .letter a _ c _ ha (sameLetter_iff.2 (Or.inr (alikeAsRead_iff.1 hac))) ih

/-- A pattern that begins with a word without wildcards accepts no other beginning of a text. -/
theorem exists_of_matches_append (hpercent : '%' ∉ w) (hunderscore : '_' ∉ w) (h : Matches (w ++ p) s) :
    ∃ part after, s = part ++ after ∧ List.Forall₂ AlikeAsRead w part ∧ Matches p after := by
  induction w generalizing s with
  | nil => exact ⟨[], s, rfl, .nil, h⟩
  | cons a w ih =>
      rw [List.mem_cons, not_or] at hpercent hunderscore
      have ha : a ≠ '%' := Ne.symm hpercent.1
      cases s with
      | nil => exact absurd h (not_matches_letter_nil ha)
      | cons c s =>
          obtain ⟨hsame, hrest⟩ := (matches_letter_iff ha).1 h
          obtain ⟨part, after, rfl, hword, hafter⟩ := ih hpercent.2 hunderscore.2 hrest
          have hac : AlikeAsRead a c :=
            alikeAsRead_iff.2 ((sameLetter_iff.1 hsame).resolve_left (Ne.symm hunderscore.1))
          exact ⟨c :: part, after, rfl, .cons hac hword, hafter⟩

/-- The pattern of a word matches every text in which the word occurs. -/
theorem matches_containing (h : OccursIn AlikeAsRead w s) : Matches (containing w) s := by
  obtain ⟨part, ⟨before, after, rfl⟩, hword⟩ := h
  rw [List.append_assoc]
  exact matches_percent_iff.2 ⟨before, part ++ after, rfl, matches_append hword (matches_percent after)⟩

/-- The pattern of a word without wildcards matches no text in which the word does not occur. -/
theorem occursIn_of_matches_containing (hpercent : '%' ∉ w) (hunderscore : '_' ∉ w)
    (h : Matches (containing w) s) : OccursIn AlikeAsRead w s := by
  obtain ⟨before, rest, rfl, hrest⟩ := matches_percent_iff.1 h
  obtain ⟨part, after, rfl, hword, -⟩ := exists_of_matches_append hpercent hunderscore hrest
  exact ⟨part, ⟨before, after, List.append_assoc before part after⟩, hword⟩

/-! ## Texts without NUL -/

theorem untilNul_eq_self {cs : List Char} (hcs : '\x00' ∉ cs) : untilNul cs = cs := by
  rw [untilNul, List.takeWhile_eq_self_iff]
  intro c hc
  simp only [bne_iff_ne, ne_eq]
  rintro rfl
  exact hcs hc

theorem nul_notMem_containing (hw : '\x00' ∉ w) : '\x00' ∉ containing w := by
  simpa [containing] using hw

end Wildcard
end Agenda
