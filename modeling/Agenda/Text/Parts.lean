/-!
# Parts of a text

The parts of a text between the occurrences of a separator, and the two parts before and after one of them.

* `parts` — the parts in order; there is always at least one.
* `joined` — parts with a separator between them.
* `joined_parts` — joining the parts gives the text back.
* `parts_joined` — joined parts are found again, as long as none of them contains the separator.
* `cutFirst?`, `cutLast?` — the text before and after the first separator, and the last one.
-/

namespace Agenda
namespace Text

/-- The parts of a text between the occurrences of a separator. -/
def parts (separator : Char) : List Char → List (List Char)
  | [] => [[]]
  | c :: rest =>
      if c = separator then [] :: parts separator rest
      else
        match parts separator rest with
        | [] => [[c]]
        | part :: more => (c :: part) :: more

/-- Parts with a separator between them. -/
def joined (separator : Char) : List (List Char) → List Char
  | [] => []
  | [part] => part
  | part :: more => part ++ separator :: joined separator more

theorem parts_ne_nil (separator : Char) (cs : List Char) : parts separator cs ≠ [] := by
  cases cs with
  | nil => simp [parts]
  | cons c rest =>
      unfold parts
      split
      · simp
      · split <;> simp

/-- Joining the parts gives the text back. -/
theorem joined_parts (separator : Char) (cs : List Char) :
    joined separator (parts separator cs) = cs := by
  induction cs with
  | nil => rfl
  | cons c rest ih =>
      unfold parts
      split
      · next hc =>
          subst hc
          cases hrest : parts c rest with
          | nil => exact absurd hrest (parts_ne_nil c rest)
          | cons part more =>
              rw [hrest] at ih
              simp [joined, ih]
      · split
        · next hrest => exact absurd hrest (parts_ne_nil separator rest)
        · next part more hrest =>
            rw [hrest] at ih
            cases more with
            | nil => simpa [joined] using ih
            | cons next others => simpa [joined] using ih

/-- A text without the separator is its own only part. -/
theorem parts_of_not_mem {separator : Char} {cs : List Char} (hcs : separator ∉ cs) :
    parts separator cs = [cs] := by
  induction cs with
  | nil => rfl
  | cons c rest ih =>
      have hc : c ≠ separator := fun heq => hcs (by simp [heq])
      have hrest : separator ∉ rest := fun hin => hcs (by simp [hin])
      simp [parts, hc, ih hrest]

/-- What stands before the first separator is the first part. -/
theorem parts_append_cons {separator : Char} {cs : List Char} (hcs : separator ∉ cs)
    (rest : List Char) : parts separator (cs ++ separator :: rest) = cs :: parts separator rest := by
  induction cs with
  | nil => simp [parts]
  | cons c cs ih =>
      have hc : c ≠ separator := fun heq => hcs (by simp [heq])
      have hrest : separator ∉ cs := fun hin => hcs (by simp [hin])
      simp [parts, hc, ih hrest]

/-- Joined parts are found again, as long as none of them contains the separator. -/
theorem parts_joined {separator : Char} {ps : List (List Char)} (hne : ps ≠ [])
    (hps : ∀ p ∈ ps, separator ∉ p) : parts separator (joined separator ps) = ps := by
  induction ps with
  | nil => exact absurd rfl hne
  | cons p rest ih =>
      cases rest with
      | nil => exact parts_of_not_mem (hps p (by simp))
      | cons q more =>
          have hrest : parts separator (joined separator (q :: more)) = q :: more :=
            ih (by simp) fun r hr => hps r (by simp [hr])
          show parts separator (p ++ separator :: joined separator (q :: more)) = p :: q :: more
          rw [parts_append_cons (hps p (by simp)), hrest]

/-! ## One cut -/

def cutFirst? (separator : Char) : List Char → Option (List Char × List Char)
  | [] => none
  | c :: cs =>
      if c = separator then some ([], cs)
      else (cutFirst? separator cs).map fun (front, rest) => (c :: front, rest)

def cutLast? (separator : Char) (cs : List Char) : Option (List Char × List Char) :=
  (cutFirst? separator cs.reverse).map fun (rest, front) => (front.reverse, rest.reverse)

theorem cutFirst?_eq_some_iff {separator : Char} {cs front rest : List Char} :
    cutFirst? separator cs = some (front, rest) ↔ cs = front ++ separator :: rest ∧ separator ∉ front := by
  induction cs generalizing front with
  | nil => simp [cutFirst?]
  | cons c cs ih =>
      unfold cutFirst?
      split
      · next hc =>
          subst hc
          cases front with
          | nil => simp
          | cons d front =>
              constructor
              · intro h
                cases h
              · rintro ⟨hcs, hfront⟩
                exact absurd (List.mem_cons.2 (Or.inl (List.cons.inj hcs).1)) hfront
      · next hc =>
          rw [Option.map_eq_some_iff]
          constructor
          · rintro ⟨⟨front', rest'⟩, hcut, hsame⟩
            obtain ⟨rfl, rfl⟩ := Prod.mk.inj hsame
            obtain ⟨rfl, hfront⟩ := ih.1 hcut
            exact ⟨rfl, by simp [Ne.symm hc, hfront]⟩
          · rintro ⟨hcs, hfront⟩
            cases front with
            | nil => exact absurd (List.cons.inj hcs).1 hc
            | cons d front =>
                obtain ⟨rfl, rfl⟩ := List.cons.inj hcs
                rw [List.mem_cons, not_or] at hfront
                exact ⟨(front, rest), ih.2 ⟨rfl, hfront.2⟩, rfl⟩

theorem cutLast?_eq_some_iff {separator : Char} {cs front rest : List Char} :
    cutLast? separator cs = some (front, rest) ↔ cs = front ++ separator :: rest ∧ separator ∉ rest := by
  unfold cutLast?
  rw [Option.map_eq_some_iff]
  constructor
  · rintro ⟨⟨last, first⟩, hcut, hsame⟩
    obtain ⟨rfl, rfl⟩ := Prod.mk.inj hsame
    obtain ⟨hcs, hlast⟩ := cutFirst?_eq_some_iff.1 hcut
    refine ⟨?_, by simpa using hlast⟩
    rw [← List.reverse_reverse cs, hcs]
    simp
  · rintro ⟨rfl, hrest⟩
    exact ⟨(rest.reverse, front.reverse), cutFirst?_eq_some_iff.2 ⟨by simp, by simpa using hrest⟩, by simp⟩

end Text
end Agenda
