import Agenda.Json.Reader
import Agenda.Json.Writer
import Agenda.Proofs.Text.AsciiBytes
import Agenda.Proofs.Text.Numerals
/-!
# Objects of texts and integers

An object whose fields hold texts without special characters and integers is read back from the text that is
written for it.

* `Json.IsPlainChar` — the characters that stand for themselves in a string.
* `Json.IsPlain` — texts of such characters, and integers that are short enough to be read.
* `Json.readString_plain`, `Json.readScalar_signedDecimal`, `Json.readFields_plain` — a string, an integer and
  the fields of an object are read up to their ends.
* `Json.parseBytes_write` — the whole object is read back.
-/

namespace Agenda
namespace Json

/-- A character that stands for itself in a string: one of printable ASCII that is no quote and no
backslash. -/
def IsPlainChar (c : Char) : Prop :=
  0x20 ≤ c.toNat ∧ c.toNat < 0x80 ∧ c ≠ '"' ∧ c ≠ '\\'

/-- A text of plain characters, or an integer of as many digits as can be read. -/
inductive IsPlain (limits : JsonLimits) : Json → Prop
  | text {s : String} (hs : ∀ c ∈ s.toList, IsPlainChar c) : IsPlain limits (.ofText s)
  | integer {n : Int} (hn : limits.admitsDigits (Text.decimal n.natAbs).length = true) :
      IsPlain limits (.integer n)

instance : DecidablePred IsPlainChar := fun _ => inferInstanceAs (Decidable (_ ∧ _))

variable {cs : List Char} {rest : List CodePoint}

/-! ## Strings -/

theorem IsPlainChar.isAscii {c : Char} (hc : IsPlainChar c) : Text.IsAscii c :=
  ⟨Nat.lt_of_lt_of_le (by decide) hc.1, hc.2.1⟩

theorem writeChar_of_isPlainChar {c : Char} (hc : IsPlainChar c) : writeChar c = [c] := by
  obtain ⟨hlow, -, hquote, hbackslash⟩ := hc
  have hcontrol : ∀ d : Char, d.toNat < 0x20 → c ≠ d := by
    rintro d hd rfl
    omega
  unfold writeChar
  rw [if_neg (by simp [hquote, hbackslash]), if_neg (hcontrol _ (by decide)), if_neg (hcontrol _ (by decide)),
    if_neg (hcontrol _ (by decide)), if_neg (hcontrol _ (by decide)), if_neg (hcontrol _ (by decide)),
    if_neg (by omega)]

theorem writeString_plain {s : String} (hs : ∀ c ∈ s.toList, IsPlainChar c) :
    writeString (.text s) = '"' :: (s.toList ++ ['"']) := by
  have hself : s.toList.flatMap writeChar = s.toList := by
    rw [List.flatMap_congr fun c hc => writeChar_of_isPlainChar (hs c hc)]
    exact List.flatMap_singleton' _
  rw [writeString, hself]

theorem readString_cons {c : Char} (hc : IsPlainChar c) (s : PartialString) (rest : List CodePoint) :
    readString s (.char c :: rest) = readString (s.push (.char c)) rest := by
  obtain ⟨hlow, -, hquote, hbackslash⟩ := hc
  rw [readString.eq_def]
  split
  · next heq => cases heq
  · next heq => exact absurd (CodePoint.char.inj (List.cons.inj heq).1) hquote
  · next heq => exact absurd (CodePoint.char.inj (List.cons.inj heq).1) hbackslash
  · next heq => exact absurd (CodePoint.char.inj (List.cons.inj heq).1) hbackslash
  · next heq =>
      obtain ⟨hchar, rfl⟩ := List.cons.inj heq
      obtain rfl := CodePoint.char.inj hchar
      rw [if_neg (by simp [hbackslash]; omega)]
  · next heq => cases (List.cons.inj heq).1

/-- A string of plain characters is read up to its closing quote. -/
theorem readString_plain (hcs : ∀ c ∈ cs, IsPlainChar c) (taken rest : List CodePoint) :
    readString ⟨taken, none⟩ (cs.map .char ++ .char '"' :: rest)
      = .ok (.ofCodePoints (taken.reverse ++ cs.map .char), rest) := by
  induction cs generalizing taken with
  | nil => simp [readString, PartialString.finish, PartialString.points]
  | cons c more ih =>
      rw [List.forall_mem_cons] at hcs
      rw [List.map_cons, List.cons_append, readString_cons hcs.1]
      show readString ⟨.char c :: taken, none⟩ _ = _
      rw [ih hcs.2, List.reverse_cons, List.append_assoc]
      rfl

theorem readString_text {s : String} (hs : ∀ c ∈ s.toList, IsPlainChar c) (rest : List CodePoint) :
    readString .empty (s.toList.map .char ++ .char '"' :: rest) = .ok (.text s, rest) := by
  rw [PartialString.empty, readString_plain hs, List.reverse_nil, List.nil_append, JsonString.ofCodePoints,
    CodePoint.chars?_map_char]
  simp only [String.ofList_toList]

/-! ## Integers -/

/-- The code points before which an integer ends in an object. -/
def IsDelimiter (p : CodePoint) : Prop :=
  p = .char ',' ∨ p = .char '\x7d'

theorem IsDelimiter.digit?_eq_none {p : CodePoint} (hp : IsDelimiter p) : digit? p = none := by
  rcases hp with rfl | rfl <;> decide

theorem spanDigits_of_digits {ds : List Nat} (h : Text.Digits cs ds) {p : CodePoint} (hp : IsDelimiter p)
    (rest : List CodePoint) :
    spanDigits (cs.map .char ++ p :: rest) = (ds, p :: rest) := by
  induction h with
  | nil => simp [spanDigits, hp.digit?_eq_none]
  | @cons c d cs ds hc hcs ih =>
      have hdigit : digit? (.char c) = some d := hc
      unfold spanDigits at ih ⊢
      rw [Prod.mk.injEq] at ih
      simp [hdigit, ih.1, ih.2]

/-- Only zero is written with a zero in front. -/
theorem eq_zero_of_decimal_eq_cons {n : Nat} {more : List Char} (h : Text.decimal n = '0' :: more) :
    n = 0 ∧ more = [] := by
  induction n using Nat.strongRecOn generalizing more with
  | ind n ih =>
      unfold Text.decimal at h
      by_cases hsmall : n < 10
      · rw [Nat.toDigits_of_lt_base hsmall] at h
        obtain ⟨hdigit, hmore⟩ := List.cons.inj h
        have hzero : Text.asciiDigit? '0' = some n := by
          rw [← hdigit]
          exact Text.asciiDigit?_digitChar hsmall
        exact ⟨(Option.some.inj hzero).symm, hmore.symm⟩
      · rw [Nat.toDigits_of_base_le (by omega) (by omega)] at h
        cases hfront : Nat.toDigits 10 (n / 10) with
        | nil => exact absurd hfront Nat.toDigits_ne_nil
        | cons c cs =>
            rw [hfront] at h
            obtain ⟨rfl, -⟩ := List.cons.inj h
            have htenth := (ih (n / 10) (by omega) hfront).1
            omega

/-- The digits of a number are read up to the delimiter after them. -/
theorem wholeDigits_decimal (n : Nat) {p : CodePoint} (hp : IsDelimiter p) (rest : List CodePoint) :
    ∃ ds, Text.Digits (Text.decimal n) ds ∧ Text.ofDigits ds = n
      ∧ wholeDigits ((Text.decimal n).map .char ++ p :: rest) = some (ds, p :: rest) := by
  obtain ⟨ds, hds, hvalue⟩ := Text.digits_decimal n
  refine ⟨ds, hds, hvalue, ?_⟩
  have hspan := spanDigits_of_digits hds hp rest
  cases hdecimal : Text.decimal n with
  | nil => exact absurd hdecimal Nat.toDigits_ne_nil
  | cons c more =>
      rw [hdecimal] at hds hspan
      by_cases hc : c = '0'
      · subst hc
        obtain ⟨rfl, rfl⟩ := eq_zero_of_decimal_eq_cons hdecimal
        cases hds with
        | cons hd hnil =>
            cases hnil
            obtain rfl := Option.some.inj hd
            rfl
      · cases hds with
        | @cons _ d _ ds hd hds =>
            rw [List.map_cons, List.cons_append] at hspan ⊢
            unfold wholeDigits
            split
            · next heq => exact absurd (CodePoint.char.inj (List.cons.inj heq).1) hc
            · rw [hspan]

variable {limits : JsonLimits}

theorem readMagnitude_decimal {n : Nat} (hn : limits.admitsDigits (Text.decimal n).length = true)
    {p : CodePoint} (hp : IsDelimiter p) (rest : List CodePoint) (negative : Bool) :
    readMagnitude limits negative ((Text.decimal n).map .char ++ p :: rest)
      = .ok (.integer (if negative then -(n : Int) else n), p :: rest) := by
  obtain ⟨ds, hds, hvalue, hwhole⟩ := wholeDigits_decimal n hp rest
  have hfraction : fractionDigits (p :: rest) = ([], p :: rest) := by
    rcases hp with rfl | rfl <;> rfl
  have hexponent : exponentPart (p :: rest) = (none, p :: rest) := by
    rcases hp with rfl | rfl <;> rfl
  rw [hds.length_eq] at hn
  simp only [readMagnitude, hwhole, hfraction, hexponent, and_self, if_true, hn, hvalue]

/-- A text that begins with another character than a word does not begin with the word. -/
theorem after?_eq_none {word : String} {first : Char} {more : List Char} (hword : word.toList = first :: more)
    {c : Char} (hc : first ≠ c) (ps : List CodePoint) : after? word (.char c :: ps) = none := by
  simp [after?, hword, List.isPrefixOf?, hc]

/-- A text that begins with a digit or with a minus sign before one is read as a number. -/
theorem readScalar_of_digit (limits : JsonLimits) {c : Char} {d : Nat} (hc : Text.asciiDigit? c = some d)
    (ps : List CodePoint) :
    readScalar limits (.char c :: ps) = readMagnitude limits false (.char c :: ps)
      ∧ readScalar limits (.char '-' :: .char c :: ps) = readMagnitude limits true (.char c :: ps) := by
  have hne : ∀ letter : Char, Text.asciiDigit? letter = none → letter ≠ c := by
    rintro letter hletter rfl
    rw [hc] at hletter
    cases hletter
  have hinfinity : after? "-Infinity" (.char '-' :: .char c :: ps) = none := by
    simp [after?, List.isPrefixOf?, hne 'I' (by decide)]
  unfold readScalar
  constructor
  · rw [after?_eq_none rfl (hne 'n' (by decide)), after?_eq_none rfl (hne 't' (by decide)),
      after?_eq_none rfl (hne 'f' (by decide)), after?_eq_none rfl (hne 'N' (by decide)),
      after?_eq_none rfl (hne 'I' (by decide)), after?_eq_none rfl (hne '-' (by decide))]
    simp only
    split
    · next heq => exact absurd (CodePoint.char.inj (List.cons.inj heq).1).symm (hne '-' (by decide))
    · rfl
  · rw [after?_eq_none rfl (by decide), after?_eq_none rfl (by decide), after?_eq_none rfl (by decide),
      after?_eq_none rfl (by decide), after?_eq_none rfl (by decide), hinfinity]
    rfl

/-- An integer is read up to the delimiter after it. -/
theorem readScalar_signedDecimal {n : Int} (hn : limits.admitsDigits (Text.decimal n.natAbs).length = true)
    {p : CodePoint} (hp : IsDelimiter p) (rest : List CodePoint) :
    readScalar limits ((Text.signedDecimal n).map .char ++ p :: rest) = .ok (.integer n, p :: rest) := by
  have hmagnitude := readMagnitude_decimal hn hp rest
  obtain ⟨ds, hds, -⟩ := Text.digits_decimal n.natAbs
  cases hdecimal : Text.decimal n.natAbs with
  | nil => exact absurd hdecimal Nat.toDigits_ne_nil
  | cons c more =>
      obtain ⟨d, hd⟩ := hds.asciiDigit?_of_mem c (by simp [hdecimal])
      obtain ⟨hpositive, hnegative⟩ := readScalar_of_digit limits hd (more.map .char ++ p :: rest)
      rw [hdecimal] at hmagnitude
      unfold Text.signedDecimal
      by_cases hneg : n < 0
      · rw [if_pos hneg, hdecimal]
        refine hnegative.trans ((hmagnitude true).trans ?_)
        rw [if_pos rfl, show -(n.natAbs : Int) = n by omega]
      · rw [if_neg hneg, hdecimal]
        refine hpositive.trans ((hmagnitude false).trans ?_)
        rw [if_neg Bool.false_ne_true, show (n.natAbs : Int) = n by omega]

/-- An integer begins with a minus sign or with a digit. -/
theorem signedDecimal_eq_cons (n : Int) : ∃ c more, Text.signedDecimal n = c :: more
    ∧ (c = '-' ∨ ∃ d, Text.asciiDigit? c = some d) := by
  unfold Text.signedDecimal
  by_cases hneg : n < 0
  · rw [if_pos hneg]
    exact ⟨_, _, rfl, Or.inl rfl⟩
  · rw [if_neg hneg]
    obtain ⟨ds, hds, -⟩ := Text.digits_decimal n.natAbs
    cases hdecimal : Text.decimal n.natAbs with
    | nil => exact absurd hdecimal Nat.toDigits_ne_nil
    | cons c more => exact ⟨c, more, rfl, Or.inr (hds.asciiDigit?_of_mem c (by simp [hdecimal]))⟩

/-- What begins an integer begins nothing else. -/
theorem ne_of_begins_integer {c letter : Char} (hc : c = '-' ∨ ∃ d, Text.asciiDigit? c = some d)
    (hletter : letter ≠ '-' ∧ Text.asciiDigit? letter = none) : c ≠ letter := by
  rintro rfl
  rcases hc with hc | ⟨d, hd⟩
  · exact hletter.1 hc
  · rw [hletter.2] at hd
    cases hd

/-! ## Values -/

theorem skipSpacing_cons {p : CodePoint} (hp : isSpacing p = false) (rest : List CodePoint) :
    skipSpacing (p :: rest) = p :: rest := by
  simp [skipSpacing, hp]

theorem writeChars_integer (style : JsonStyle) (n : Int) :
    writeChars style (.integer n) = Text.signedDecimal n := rfl

theorem writeChars_ofText {s : String} (hs : ∀ c ∈ s.toList, IsPlainChar c) (style : JsonStyle) :
    writeChars style (.ofText s) = '"' :: (s.toList ++ ['"']) :=
  writeString_plain hs

/-- There is no spacing before a plain value. -/
theorem skipSpacing_writeChars {value : Json} (hvalue : IsPlain limits value) (rest : List CodePoint) :
    skipSpacing ((writeChars .dense value).map .char ++ rest) = (writeChars .dense value).map .char ++ rest := by
  cases hvalue with
  | text hs =>
      rw [writeChars_ofText hs]
      exact skipSpacing_cons (by decide) _
  | @integer n _ =>
      obtain ⟨c, more, hcons, hc⟩ := signedDecimal_eq_cons n
      rw [writeChars_integer, hcons]
      apply skipSpacing_cons
      have hne : ∀ letter, letter ≠ '-' ∧ Text.asciiDigit? letter = none → c ≠ letter :=
        fun _ => ne_of_begins_integer hc
      simp [isSpacing, hne ' ' (by decide), hne '\t' (by decide), hne '\n' (by decide), hne '\r' (by decide)]

/-- A plain value is read up to the delimiter after it. -/
theorem readValue_plain {value : Json} (hvalue : IsPlain limits value) (steps depth : Nat) {p : CodePoint}
    (hp : IsDelimiter p) :
    readValue limits (steps + 1) depth ((writeChars .dense value).map .char ++ p :: rest)
      = .ok (value, p :: rest) := by
  cases hvalue with
  | text hs =>
      rw [writeChars_ofText hs]
      simp only [List.map_cons, List.map_append, List.map_nil, List.cons_append, List.append_assoc,
        List.nil_append, readValue, readString_text hs]
      rfl
  | @integer n hn =>
      have hscalar := readScalar_signedDecimal hn hp rest
      obtain ⟨c, more, hcons, hc⟩ := signedDecimal_eq_cons n
      rw [writeChars_integer]
      rw [hcons, List.map_cons, List.cons_append] at hscalar ⊢
      have hne : ∀ letter, letter ≠ '-' ∧ Text.asciiDigit? letter = none → CodePoint.char c ≠ .char letter := by
        intro letter hletter heq
        exact ne_of_begins_integer hc hletter (CodePoint.char.inj heq)
      unfold readValue
      split
      · next heq => exact absurd (List.cons.inj heq).1 (hne '"' (by decide))
      · next heq => exact absurd (List.cons.inj heq).1 (hne '[' (by decide))
      · next heq => exact absurd (List.cons.inj heq).1 (hne '\x7b' (by decide))
      · exact hscalar

/-! ## Objects -/

/-- The fields have plain names and plain values. -/
def ArePlain (limits : JsonLimits) (fields : List (String × Json)) : Prop :=
  ∀ field ∈ fields, (∀ c ∈ field.1.toList, IsPlainChar c) ∧ IsPlain limits field.2

theorem arePlain_cons {name : String} {value : Json} {fields : List (String × Json)} :
    ArePlain limits ((name, value) :: fields)
      ↔ (∀ c ∈ name.toList, IsPlainChar c) ∧ IsPlain limits value ∧ ArePlain limits fields := by
  unfold ArePlain
  rw [List.forall_mem_cons, and_assoc]

/-- The fields of an object under their names. -/
def named (fields : List (String × Json)) : List (JsonString × Json) :=
  fields.map fun (name, value) => (.text name, value)

/-- The text of a field. -/
def fieldChars (name : String) (value : Json) : List Char :=
  '"' :: (name.toList ++ '"' :: ':' :: writeChars .dense value)

theorem writeFields_cons {name : String} (hname : ∀ c ∈ name.toList, IsPlainChar c) (value : Json)
    (fields : List (String × Json)) :
    writeFields .dense (named ((name, value) :: fields))
      = fieldChars name value ++ if fields = [] then [] else ',' :: writeFields .dense (named fields) := by
  cases fields with
  | nil => simp [named, writeFields, writeString_plain hname, JsonStyle.dense, fieldChars]
  | cons field more =>
      simp [named, writeFields, writeString_plain hname, JsonStyle.dense, fieldChars]

/-- A field is read up to the delimiter after it. -/
theorem readFields_field {name : String} {value : Json} (hname : ∀ c ∈ name.toList, IsPlainChar c)
    (hvalue : IsPlain limits value) (steps depth : Nat) (taken : List (JsonString × Json)) :
    readFields limits (steps + 2) depth taken ((fieldChars name value).map .char ++ .char '\x7d' :: rest)
        = .ok (.object ((.text name, value) :: taken).reverse, rest)
      ∧ readFields limits (steps + 2) depth taken ((fieldChars name value).map .char ++ .char ',' :: rest)
        = readFields limits (steps + 1) depth ((.text name, value) :: taken) (skipSpacing rest) := by
  have hcolon : ∀ ps, skipSpacing (.char ':' :: ps) = .char ':' :: ps := skipSpacing_cons (by decide)
  have hcomma : ∀ ps, skipSpacing (.char ',' :: ps) = .char ',' :: ps := skipSpacing_cons (by decide)
  have hbrace : ∀ ps, skipSpacing (.char '\x7d' :: ps) = .char '\x7d' :: ps := skipSpacing_cons (by decide)
  have htext : ∀ ps, (fieldChars name value).map CodePoint.char ++ ps
      = .char '"' :: (name.toList.map .char
        ++ .char '"' :: .char ':' :: ((writeChars .dense value).map .char ++ ps)) := by
    intro ps
    simp [fieldChars]
  rw [htext, htext]
  constructor
  · unfold readFields
    simp only [readString_text hname, hcolon, skipSpacing_writeChars hvalue,
      readValue_plain hvalue steps depth (Or.inr rfl), hbrace, bind, Except.bind]
    rfl
  · conv_lhs => unfold readFields
    simp only [readString_text hname, hcolon, skipSpacing_writeChars hvalue,
      readValue_plain hvalue steps depth (Or.inl rfl), hcomma, bind, Except.bind]

/-- The text of fields begins with a quote. -/
theorem skipSpacing_writeFields {fields : List (String × Json)} (hplain : ArePlain limits fields)
    (hne : fields ≠ []) (rest : List CodePoint) :
    skipSpacing ((writeFields .dense (named fields)).map .char ++ rest)
      = (writeFields .dense (named fields)).map .char ++ rest := by
  cases fields with
  | nil => exact absurd rfl hne
  | cons field more =>
      rw [writeFields_cons (hplain field (by simp)).1]
      exact skipSpacing_cons (by decide) _

/-- Plain fields are read up to the closing brace. -/
theorem readFields_plain {fields : List (String × Json)} (hplain : ArePlain limits fields) (hne : fields ≠ [])
    {steps : Nat} (hsteps : fields.length < steps) (depth : Nat) (taken : List (JsonString × Json))
    (rest : List CodePoint) :
    readFields limits steps depth taken
        ((writeFields .dense (named fields)).map .char ++ .char '\x7d' :: rest)
      = .ok (.object (taken.reverse ++ named fields), rest) := by
  induction fields generalizing steps taken with
  | nil => exact absurd rfl hne
  | cons field more ih =>
      obtain ⟨name, value⟩ := field
      obtain ⟨hname, hvalue, hmore⟩ := arePlain_cons.1 hplain
      obtain ⟨steps, rfl⟩ : ∃ k, steps = k + 2 := by
        rw [List.length_cons] at hsteps
        exact ⟨steps - 2, by omega⟩
      rw [writeFields_cons hname]
      by_cases hend : more = []
      · subst hend
        rw [if_pos rfl, List.append_nil, (readFields_field hname hvalue steps depth taken).1, List.reverse_cons]
        rfl
      · have hlength : more.length < steps + 1 := by
          rw [List.length_cons] at hsteps
          omega
        rw [if_neg hend, List.map_append, List.append_assoc, List.map_cons, List.cons_append,
          (readFields_field hname hvalue steps depth taken).2, skipSpacing_writeFields hmore hend,
          ih hmore hend hlength, List.reverse_cons, List.append_assoc]
        rfl

/-- There are at least as many characters as fields. -/
theorem length_le_length_writeFields {fields : List (String × Json)} (hplain : ArePlain limits fields) :
    fields.length ≤ (writeFields .dense (named fields)).length := by
  induction fields with
  | nil => exact Nat.zero_le _
  | cons field more ih =>
      obtain ⟨hname, -, hmore⟩ := arePlain_cons.1 hplain
      have hlength := ih hmore
      rw [writeFields_cons hname]
      by_cases hend : more = []
      · subst hend
        simp [fieldChars]
      · rw [if_neg hend]
        simp only [List.length_append, List.length_cons]
        omega

/-- The text of a plain value is one of ASCII. -/
theorem isAscii_of_mem_writeChars {value : Json} (hvalue : IsPlain limits value) :
    ∀ c ∈ writeChars .dense value, Text.IsAscii c := by
  cases hvalue with
  | text hs =>
      rw [writeChars_ofText hs]
      simp only [List.forall_mem_cons, List.forall_mem_append, List.not_mem_nil, false_imp_iff, implies_true,
        and_true]
      exact ⟨by decide, fun c hc => (hs c hc).isAscii, by decide⟩
  | @integer n _ =>
      obtain ⟨ds, hds, -⟩ := Text.digits_decimal n.natAbs
      have hdigits : ∀ c ∈ Text.decimal n.natAbs, Text.IsAscii c := by
        intro c hc
        obtain ⟨d, hd⟩ := hds.asciiDigit?_of_mem c hc
        obtain ⟨hlt, hcode⟩ := Text.asciiDigit?_eq_some_iff.1 hd
        constructor <;> omega
      rw [writeChars_integer, Text.signedDecimal]
      split
      · exact List.forall_mem_cons.2 ⟨by decide, hdigits⟩
      · exact hdigits

/-- The text of plain fields is one of ASCII. -/
theorem isAscii_of_mem_writeFields {fields : List (String × Json)} (hplain : ArePlain limits fields) :
    ∀ c ∈ writeFields .dense (named fields), Text.IsAscii c := by
  induction fields with
  | nil => exact fun c hc => absurd hc (by simp [named, writeFields])
  | cons field more ih =>
      obtain ⟨hname, hvalue, hmore⟩ := arePlain_cons.1 hplain
      rw [writeFields_cons hname]
      intro c hc
      rcases List.mem_append.1 hc with hfield | hrest
      · simp only [fieldChars, List.mem_cons, List.mem_append] at hfield
        rcases hfield with rfl | hc | rfl | rfl | hc
        · decide
        · exact (hname c hc).isAscii
        · decide
        · decide
        · exact isAscii_of_mem_writeChars hvalue c hc
      · split at hrest
        · cases hrest
        · rcases List.mem_cons.1 hrest with rfl | hc
          · decide
          · exact ih hmore c hc

/-- An object of plain fields is read up to its closing brace. -/
theorem readValue_object {fields : List (String × Json)} (hplain : ArePlain limits fields) (hne : fields ≠ [])
    {steps depth : Nat} (hsteps : fields.length < steps) (hdepth : depth < limits.depth) :
    readValue limits (steps + 1) depth
        (.char '\x7b' :: ((writeFields .dense (named fields)).map .char ++ .char '\x7d' :: rest))
      = .ok (.object (named fields), rest) := by
  have hfields := readFields_plain hplain hne hsteps (depth + 1) [] rest
  unfold readValue
  simp only [skipSpacing_writeFields hplain hne, if_neg (Nat.not_le_of_lt hdepth)]
  split
  · next heq =>
      -- The fields begin with a quote and not with the brace.
      cases fields with
      | nil => exact absurd rfl hne
      | cons field more =>
          rw [writeFields_cons (hplain field (by simp)).1] at heq
          exact absurd (CodePoint.char.inj (List.cons.inj heq).1) (by decide)
  · exact hfields

/-- An object of plain fields is read back from its text. -/
theorem parseBytes_write {fields : List (String × Json)} (hplain : ArePlain limits fields) (hne : fields ≠ [])
    (hdepth : 0 < limits.depth) :
    parseBytes limits (Text.utf8 ((ofFields fields).write .dense)) = .ok (ofFields fields) := by
  have hwrite : ((ofFields fields).write .dense).toList
      = '\x7b' :: (writeFields .dense (named fields) ++ ['\x7d']) := by
    rw [write, String.toList_ofList]
    rfl
  have hascii : ∀ c ∈ '\x7b' :: (writeFields .dense (named fields) ++ ['\x7d']), Text.IsAscii c := by
    simp only [List.forall_mem_cons, List.forall_mem_append, List.not_mem_nil, false_imp_iff, implies_true,
      and_true]
    exact ⟨by decide, isAscii_of_mem_writeFields hplain, by decide⟩
  have hread : ∀ steps, fields.length < steps →
      readValue limits (steps + 1) 0 (('\x7b' :: (writeFields .dense (named fields) ++ ['\x7d'])).map .char)
        = .ok (ofFields fields, []) := by
    intro steps hsteps
    rw [List.map_cons, List.map_append]
    exact readValue_object hplain hne hsteps hdepth
  have hlength := length_le_length_writeFields hplain
  have hskip : skipSpacing (('\x7b' :: (writeFields .dense (named fields) ++ ['\x7d'])).map .char)
      = ('\x7b' :: (writeFields .dense (named fields) ++ ['\x7d'])).map .char :=
    skipSpacing_cons (by decide) _
  rw [parseBytes, Text.utf8, hwrite, jsonText_utf8Chars hascii]
  simp only [parse, hskip]
  rw [hread _ (by simp; omega)]
  rfl

end Json
end Agenda
