import Agenda.Proofs.PartialFunctions
import Agenda.Text.Base64Url
import Mathlib.Data.List.GetD
import Mathlib.Data.List.TakeWhile
/-!
# Bytes in groups of six bits

Encoding a byte sequence writes one letter for each group of six of its bits, and decoding puts the groups
together again.

* `Base64Url.sextets` — the groups; `Base64Url.encode_eq_map` — they are what is written.
* `Base64Url.ofValues_sextets` — the groups make the bytes again.
* `Base64Url.decode_encode` — bytes are read back from their text.
* `Base64Url.mem_alphabet_of_mem_encode` — the characters of such a text.
* `Base64Url.ReadsAlphabet` — a decoder that reads no other characters; `Base64Url.readsAlphabet_decode` — this one
  does not.
-/

namespace Agenda
namespace Base64Url

/-- The bits of a byte sequence in groups of six; zeros fill the last group. -/
def sextets : Bytes → List Nat
  | a :: b :: c :: rest =>
      let n := (a.toNat * 256 + b.toNat) * 256 + c.toNat
      n / 262144 :: n / 4096 % 64 :: n / 64 % 64 :: n % 64 :: sextets rest
  | [a, b] =>
      let n := (a.toNat * 256 + b.toNat) * 4
      [n / 4096, n / 64 % 64, n % 64]
  | [a] =>
      let n := a.toNat * 16
      [n / 64, n % 64]
  | [] => []

/-- One letter is written for each group. -/
theorem encode_eq_map (bytes : Bytes) : encode bytes = (sextets bytes).map letter := by
  fun_induction sextets bytes with
  | case1 a b c rest n ih => simp [encode, ih, n]
  | case2 a b n => simp [encode, n]
  | case3 a n => simp [encode, n]
  | case4 => rfl

theorem sextets_lt (bytes : Bytes) : ∀ n ∈ sextets bytes, n < 64 := by
  fun_induction sextets bytes with
  | case1 a b c rest n ih =>
      have ha := a.toNat_lt
      have hb := b.toNat_lt
      have hc := c.toNat_lt
      simp only [List.forall_mem_cons]
      refine ⟨?_, ?_, ?_, ?_, ih⟩ <;> omega
  | case2 a b n =>
      have ha := a.toNat_lt
      have hb := b.toNat_lt
      simp only [List.forall_mem_cons, List.not_mem_nil, false_imp_iff, implies_true, and_true]
      omega
  | case3 a n =>
      have ha := a.toNat_lt
      simp only [List.forall_mem_cons, List.not_mem_nil, false_imp_iff, implies_true, and_true]
      omega
  | case4 => simp

/-- A number that differs from a byte by whole bytes only is this byte. -/
theorem ofNat_eq_of_mod {n : Nat} {a : UInt8} (h : n % 256 = a.toNat) : UInt8.ofNat n = a := by
  rw [← UInt8.toNat_inj, UInt8.toNat_ofNat']
  exact h

/-- The groups make the bytes again. -/
theorem ofValues_sextets (bytes : Bytes) : ofValues (sextets bytes) = some bytes := by
  fun_induction sextets bytes with
  | case1 a b c rest n ih =>
      have ha := a.toNat_lt
      have hb := b.toNat_lt
      have hc := c.toNat_lt
      have hn : ((n / 262144 * 64 + n / 4096 % 64) * 64 + n / 64 % 64) * 64 + n % 64 = n := by
        omega
      rw [ofValues, ih, hn]
      simp only [Option.map_some, Option.some.injEq, List.cons.injEq, and_true]
      exact ⟨ofNat_eq_of_mod (by omega), ofNat_eq_of_mod (by omega), ofNat_eq_of_mod (by omega)⟩
  | case2 a b n =>
      have ha := a.toNat_lt
      have hb := b.toNat_lt
      have hn : (n / 4096 * 64 + n / 64 % 64) * 64 + n % 64 = n := by
        omega
      rw [ofValues, hn, if_pos (by omega)]
      simp only [Option.some.injEq, List.cons.injEq, and_true]
      exact ⟨ofNat_eq_of_mod (by omega), ofNat_eq_of_mod (by omega)⟩
  | case3 a n =>
      have ha := a.toNat_lt
      have hn : n / 64 * 64 + n % 64 = n := by
        omega
      rw [ofValues, hn, if_pos (by omega)]
      simp only [Option.some.injEq, List.cons.injEq, and_true]
      exact ofNat_eq_of_mod (by omega)
  | case4 => rfl

/-! ## Letters -/

theorem value?_letter {n : Nat} (hn : n < 64) : value? (letter n) = some n := by
  have hall : ∀ k : Fin 64, value? (letter k) = some k.val := by
    decide +kernel
  exact hall ⟨n, hn⟩

theorem letter_mem_alphabet (n : Nat) : letter n ∈ alphabet := by
  unfold letter
  by_cases hn : n < alphabet.length
  · rw [List.getD_eq_getElem _ _ hn]
    exact List.getElem_mem hn
  · rw [List.getD_eq_default _ _ (Nat.le_of_not_lt hn)]
    decide

theorem mem_alphabet_of_mem_encode {bytes : Bytes} {c : Char} (hc : c ∈ encode bytes) : c ∈ alphabet := by
  rw [encode_eq_map, List.mem_map] at hc
  obtain ⟨n, -, rfl⟩ := hc
  exact letter_mem_alphabet n

/-- A text without padding stays as it is. -/
theorem withoutPadding_eq_self {cs : List Char} (hcs : '=' ∉ cs) : withoutPadding cs = cs := by
  have hbare : cs.takeWhile (· != '=') = cs := by
    rw [List.takeWhile_eq_self_iff]
    intro c hc
    simp only [bne_iff_ne]
    rintro rfl
    exact hcs hc
  unfold withoutPadding
  rw [hbare, ite_self]

/-- Bytes are read back from their text. -/
theorem decode_encode (bytes : Bytes) : decode (encode bytes) = some bytes := by
  have hpadding : '=' ∉ encode bytes := by
    intro hin
    exact absurd (mem_alphabet_of_mem_encode hin) (by decide)
  have hvalues : (encode bytes).mapM value? = some (sextets bytes) := by
    rw [encode_eq_map, mapM_eq_some_iff, List.forall₂_map_left_iff, List.forall₂_same]
    intro n hn
    exact value?_letter (sextets_lt bytes n hn)
  rw [decode, withoutPadding_eq_self hpadding, hvalues]
  exact ofValues_sextets bytes

/-! ## What is read -/

/-- No text that the decoder reads has a character outside the alphabet, apart from padding. -/
def ReadsAlphabet (decode : List Char → Option Bytes) : Prop :=
  ∀ cs bytes, decode cs = some bytes → ∀ c ∈ cs, c ∈ alphabet ∨ c = '='

/-- Without its padding a text has no other characters than before. -/
theorem mem_withoutPadding {cs : List Char} {c : Char} (hc : c ∈ cs) : c ∈ withoutPadding cs ∨ c = '=' := by
  unfold withoutPadding
  simp only
  split
  · next hpadded =>
      rw [hpadded] at hc
      exact (List.mem_append.1 hc).imp_right List.eq_of_mem_replicate
  · exact Or.inl hc

theorem readsAlphabet_decode : ReadsAlphabet decode := by
  intro cs bytes hdecode c hc
  obtain ⟨values, hvalues, -⟩ := Option.bind_eq_some_iff.1 hdecode
  refine (mem_withoutPadding hc).imp_left fun hbare => ?_
  obtain ⟨n, hn⟩ := (mapM_eq_some_iff_filterMap.1 hvalues).1 c hbare
  have hletter : alphabet.any (· == c) = true := by
    rw [← List.findIdx?_isSome, ← value?, hn]
    rfl
  obtain ⟨x, hx, hsame⟩ := List.any_eq_true.1 hletter
  rwa [← eq_of_beq hsame]

end Base64Url
end Agenda
