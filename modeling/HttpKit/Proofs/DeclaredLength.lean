import HttpKit.Proofs.Text.Split
import HttpKit.Request

/-!
# Declared lengths

The length that a header value declares is said here by the digits that it is: `Declares` holds of
ASCII digits and their value in base ten, after a plus or without one, and of zero for anything
else. `declaredLength_eq_ok_iff` says that this is what is computed.

The decimal digits of a number declare the number (`declaredLength_toString`). They are not trimmed,
for no digit is a blank, and there are never too many of them for a number that can be counted.
-/

namespace HttpKit

/-! ## Decimal digits -/

namespace Numeral

theorem isAsciiDigit_eq_isDigit (c : Char) : isAsciiDigit c = c.isDigit := by
  simp [isAsciiDigit, Char.isDigit, Char.le_def]

theorem all_isAsciiDigit_toDigits (n : Nat) : (Nat.toDigits 10 n).all isAsciiDigit = true := by
  rw [List.all_eq_true]
  intro c hc
  rw [isAsciiDigit_eq_isDigit]
  exact Nat.isDigit_of_mem_toDigits (by decide) (by decide) hc

theorem toNat_of_isAsciiDigit {c : Char} (h : isAsciiDigit c = true) :
    48 ≤ c.toNat ∧ c.toNat ≤ 57 := by
  simpa [isAsciiDigit, Char.le_def, UInt32.le_iff_toNat_le] using h

theorem isBlank_of_isAsciiDigit {c : Char} (h : isAsciiDigit c = true) :
    Text.isBlank c = false := by
  have hc := toNat_of_isAsciiDigit h
  simp only [Text.isBlank, Text.inSpans, Text.blankSpans, List.any_eq_false, List.mem_cons,
    List.not_mem_nil, or_false, Bool.and_eq_true, decide_eq_true_eq]
  rintro s (rfl | rfl | rfl | rfl | rfl | rfl | rfl | rfl | rfl | rfl) <;> omega

/-- A character that is no digit is in no decimal number. -/
theorem not_mem_toString {c : Char} (hc : c.isDigit = false) (n : Nat) :
    c ∉ (toString n).toList := by
  intro hm
  have hdigits : c ∈ Nat.toDigits 10 n := by simpa using hm
  have hdigit : c.isDigit = true := Nat.isDigit_of_mem_toDigits (by decide) (by decide) hdigits
  exact Bool.false_ne_true (hc.symm.trans hdigit)

theorem not_mem_toString_int {c : Char} (hc : c.isDigit = false) (hm : c ≠ '-') (i : Int) :
    c ∉ (toString i).toList := by
  cases i with
  | ofNat n => exact not_mem_toString hc n
  | negSucc n =>
    have hs : (toString (Int.negSucc n)).toList = '-' :: (toString (n + 1)).toList := by
      show ("-" ++ toString (n + 1)).toList = _
      rw [String.toList_append]
      rfl
    rw [hs, List.mem_cons, not_or]
    exact ⟨hm, not_mem_toString hc _⟩

theorem trim_toString (n : Nat) : Text.trim (toString n) = toString n := by
  have hblank : ∀ c ∈ (toString n).toList, Text.isBlank c = false := by
    intro c hc
    have hdigits : c ∈ Nat.toDigits 10 n := by simpa using hc
    exact isBlank_of_isAsciiDigit (List.all_eq_true.mp (all_isAsciiDigit_toDigits n) c hdigits)
  rw [Text.trim, Text.trimBy_eq_self hblank, String.ofList_toList]

end Numeral

/-! ## What a value declares -/

/-- Whether a text is ASCII digits, after a plus or without one. -/
structure IsDigits (text digits : List Char) : Prop where
  spelled : text = digits ∨ text = '+' :: digits
  nonempty : digits ≠ []
  ascii : digits.all Numeral.isAsciiDigit = true

/-- The length that a header value declares, if it has not too many digits. -/
inductive Declares : Option String → Nat → Prop where
  | absent : Declares none 0
  /-- Digits declare the number that they are in base ten. -/
  | number {value : String} {digits : List Char} (h : IsDigits (Text.trim value).toList digits)
      (hfew : digits.length ≤ digitLimit) :
      Declares (some value) (Nat.ofDigitChars 10 digits 0)
  /-- Anything else declares no body. -/
  | other {value : String} (h : ∀ digits, ¬IsDigits (Text.trim value).toList digits) :
      Declares (some value) 0

theorem ne_plus_of_digits {digits : List Char} (h : digits.all Numeral.isAsciiDigit = true)
    (rest : List Char) : digits ≠ '+' :: rest := by
  rintro rfl
  simp [Numeral.isAsciiDigit] at h

/-- The text without a plus in front. Only it can be the digits that the text is. -/
def withoutPlus : List Char → List Char
  | '+' :: rest => rest
  | cs => cs

theorem IsDigits.eq_withoutPlus {text digits : List Char} (h : IsDigits text digits) :
    digits = withoutPlus text := by
  rcases h.spelled with rfl | rfl
  · unfold withoutPlus
    split
    · next rest => exact absurd rfl (ne_plus_of_digits h.ascii rest)
    · rfl
  · rfl

theorem isDigits_withoutPlus {text : List Char} (hne : withoutPlus text ≠ [])
    (hascii : (withoutPlus text).all Numeral.isAsciiDigit = true) :
    IsDigits text (withoutPlus text) := by
  refine ⟨?_, hne, hascii⟩
  unfold withoutPlus
  split
  · exact Or.inr rfl
  · exact Or.inl rfl

theorem declaredLength_some (value : String) :
    declaredLength (some value)
      = if (withoutPlus (Text.trim value).toList).isEmpty
            || !(withoutPlus (Text.trim value).toList).all Numeral.isAsciiDigit then .ok 0
        else if digitLimit < (withoutPlus (Text.trim value).toList).length then
          .error (.tooLong (withoutPlus (Text.trim value).toList).length)
        else .ok (Nat.ofDigitChars 10 (withoutPlus (Text.trim value).toList) 0) := by
  unfold declaredLength
  dsimp only
  generalize (Text.trim value).toList = text
  rfl

/-- A value is digits, and declares their number unless there are too many, or it is none, and
declares no body. -/
theorem declaredLength_cases (value : String) :
    (∃ digits, IsDigits (Text.trim value).toList digits
        ∧ declaredLength (some value)
          = if digitLimit < digits.length then .error (.tooLong digits.length)
            else .ok (Nat.ofDigitChars 10 digits 0))
      ∨ (∀ digits, ¬IsDigits (Text.trim value).toList digits)
        ∧ declaredLength (some value) = .ok 0 := by
  rw [declaredLength_some]
  generalize (Text.trim value).toList = text
  by_cases hd : IsDigits text (withoutPlus text)
  · refine Or.inl ⟨_, hd, ?_⟩
    rw [if_neg]
    simp [hd.nonempty, hd.ascii]
  · refine Or.inr ⟨fun digits h => hd (h.eq_withoutPlus ▸ h), ?_⟩
    rw [if_pos]
    by_contra hn
    simp only [Bool.or_eq_true, List.isEmpty_iff, Bool.not_eq_true', not_or,
      Bool.not_eq_false] at hn
    exact hd (isDigits_withoutPlus hn.1 hn.2)

/-- **The length computed is the one that is declared.** -/
theorem declaredLength_eq_ok_iff {value : Option String} {n : Nat} :
    declaredLength value = .ok n ↔ Declares value n := by
  cases value with
  | none =>
    constructor
    · rintro ⟨⟩
      exact .absent
    · rintro ⟨⟩
      rfl
  | some value =>
    rcases declaredLength_cases value with ⟨digits, hd, hrun⟩ | ⟨hnone, hrun⟩
    · rw [hrun]
      constructor
      · intro h
        split at h
        · simp at h
        · next hfew =>
          obtain rfl := Except.ok.inj h
          exact .number hd (by omega)
      · intro h
        cases h with
        | number h hfew =>
          rw [h.eq_withoutPlus, ← hd.eq_withoutPlus] at hfew ⊢
          rw [if_neg (by omega)]
        | other h => exact absurd hd (h digits)
    · rw [hrun]
      constructor
      · intro h
        obtain rfl := Except.ok.inj h
        exact .other hnone
      · intro h
        cases h with
        | number h _ => exact absurd h (hnone _)
        | other _ => rfl

/-- A length is refused for the number of its digits alone. -/
theorem declaredLength_eq_error_iff {value : Option String} {e : NumeralError} :
    declaredLength value = .error e ↔ ∃ text digits, value = some text
      ∧ IsDigits (Text.trim text).toList digits ∧ digitLimit < digits.length
      ∧ e = .tooLong digits.length := by
  cases value with
  | none => simp [declaredLength]
  | some value =>
    rcases declaredLength_cases value with ⟨digits, hd, hrun⟩ | ⟨hnone, hrun⟩
    · rw [hrun]
      constructor
      · intro h
        split at h
        · next hmany => exact ⟨value, digits, rfl, hd, hmany, (Except.error.inj h).symm⟩
        · simp at h
      · rintro ⟨text, digits', htext, hd', hmany, rfl⟩
        obtain rfl := Option.some.inj htext
        rw [hd'.eq_withoutPlus, ← hd.eq_withoutPlus] at hmany ⊢
        rw [if_pos hmany]
    · rw [hrun]
      constructor
      · simp
      · rintro ⟨text, digits, htext, hd, -⟩
        obtain rfl := Option.some.inj htext
        exact absurd hd (hnone digits)

/-- A number that can be counted is digits, and not too many of them. -/
theorem isDigits_toString {n : Nat} (h : n < 0x8000000000000000) {value : String}
    (hvalue : value = toString n ∨ value = "+" ++ toString n) :
    IsDigits value.toList (Nat.toDigits 10 n) ∧ (Nat.toDigits 10 n).length ≤ digitLimit := by
  have hlength : (Nat.toDigits 10 n).length ≤ 19 :=
    (Nat.length_toDigits_le_iff (by decide) (by decide)).mpr (by omega)
  have hspelled : value.toList = Nat.toDigits 10 n ∨ value.toList = '+' :: Nat.toDigits 10 n := by
    rcases hvalue with rfl | rfl
    · exact Or.inl (by simp)
    · exact Or.inr (by simp)
  exact ⟨⟨hspelled, Nat.toDigits_ne_nil, Numeral.all_isAsciiDigit_toDigits n⟩,
    Nat.le_trans hlength (by decide)⟩

theorem IsDigits.ne_nil {text digits : List Char} (h : IsDigits text digits) : text ≠ [] := by
  rintro rfl
  rcases h.spelled with hs | hs
  · exact h.nonempty hs.symm
  · cases hs

/-- Every character of digits is a digit or the plus in front of them. -/
theorem IsDigits.mem {text digits : List Char} (h : IsDigits text digits) {c : Char}
    (hc : c ∈ text) : c = '+' ∨ Numeral.isAsciiDigit c = true := by
  have hdigit : ∀ c ∈ digits, Numeral.isAsciiDigit c = true := List.all_eq_true.mp h.ascii
  rcases h.spelled with rfl | rfl
  · exact Or.inr (hdigit c hc)
  · rcases List.mem_cons.mp hc with rfl | hc
    · exact Or.inl rfl
    · exact Or.inr (hdigit c hc)

/-- **A number in decimal digits declares itself.** -/
theorem declaredLength_toString {n : Nat} (h : n < 0x8000000000000000) {value : String}
    (hvalue : value = toString n ∨ value = "+" ++ toString n) :
    declaredLength (some value) = .ok n := by
  obtain ⟨hdigits, hfew⟩ := isDigits_toString h hvalue
  have hblank : ∀ c ∈ value.toList, Text.isBlank c = false := by
    intro c hc
    rcases hdigits.mem hc with rfl | hdigit
    · decide
    · exact Numeral.isBlank_of_isAsciiDigit hdigit
  have htrim : (Text.trim value).toList = value.toList := by
    rw [Text.trim, String.toList_ofList, Text.trimBy_eq_self hblank]
  have hdeclares := Declares.number (htrim.symm ▸ hdigits) hfew
  rw [Nat.ofDigitChars_ten_toDigits] at hdeclares
  exact declaredLength_eq_ok_iff.mpr hdeclares

/-! ## The same digits as a whole number -/

namespace Numeral

theorem toNat_of_isDigits {text digits : List Char} (h : IsDigits text digits) {c : Char}
    (hc : c ∈ text) : 0x20 < c.toNat ∧ c.toNat < 0x7F := by
  rcases h.mem hc with rfl | hdigit
  · decide
  · have := toNat_of_isAsciiDigit hdigit
    omega

theorem map_normalChar_of_isDigits {text digits : List Char} (h : IsDigits text digits) :
    text.map normalChar = text :=
  (List.map_congr_left fun _ hc => if_pos (toNat_of_isDigits h hc).2).trans (List.map_id _)

theorem isPadding_eq_false {c : Char} (h : 0x20 < c.toNat) : isPadding c = false := by
  have hspace : c ≠ ' ' := by
    rintro rfl
    exact absurd h (by decide)
  have hcontrol : ¬c.toNat ≤ 0xD := by omega
  simp [isPadding, hspace, hcontrol]

/-- Digits are read as they are. -/
theorem normalise_of_isDigits {s : String} {digits : List Char} (h : IsDigits s.toList digits) :
    normalise s = s.toList := by
  rw [normalise, map_normalChar_of_isDigits h]
  exact Text.trimBy_eq_self fun c hc => isPadding_eq_false (toNat_of_isDigits h hc).1

theorem splitSign_of_isDigits {text digits : List Char} (h : IsDigits text digits) :
    splitSign text = (false, digits) := by
  rcases h.spelled with rfl | rfl
  · unfold splitSign
    split
    · next rest =>
      have hminus := h.ascii
      simp [isAsciiDigit] at hminus
    · next rest => exact absurd rfl (ne_plus_of_digits h.ascii rest)
    · rfl
  · rfl

theorem underscoresFit_of_digits {digits : List Char}
    (h : digits.all isAsciiDigit = true) : underscoresFit digits = true := by
  have hnone : '_' ∉ digits := fun hm => absurd (List.all_eq_true.mp h _ hm) (by decide)
  have hhead : digits.head? ≠ some '_' := fun e => hnone (List.mem_of_head? e)
  have hlast : digits.getLast? ≠ some '_' := fun e => hnone (List.mem_of_getLast? e)
  have hpairs : ∀ p ∈ digits.zip digits.tail, p ≠ ('_', '_') := by
    rintro p hp rfl
    exact hnone (List.of_mem_zip hp).1
  simpa [underscoresFit, hhead, hlast] using hpairs

/-- **Digits are read as the number that they are in base ten**, unless there are too many. -/
theorem whole_of_normalise {s : String} {text digits : List Char} (hs : normalise s = text)
    (h : IsDigits text digits) :
    whole s = if digitLimit < digits.length then .error (.tooLong digits.length)
      else .ok (Nat.ofDigitChars 10 digits 0 : Int) := by
  have hdigit : ∀ c ∈ digits, (isAsciiDigit c || decide (c = '_')) = true := fun c hc => by
    rw [List.all_eq_true.mp h.ascii c hc, Bool.true_or]
  have hspan : digits.span (fun c => isAsciiDigit c || c = '_') = (digits, []) := by
    rw [List.span_eq_takeWhile_dropWhile, List.takeWhile_eq_self_iff.mpr hdigit,
      List.dropWhile_eq_nil_iff.mpr hdigit]
  have hfilter : digits.filter isAsciiDigit = digits :=
    List.filter_eq_self.mpr (List.all_eq_true.mp h.ascii)
  have hempty : digits.isEmpty = false := by simpa using h.nonempty
  simp only [whole, hs, splitSign_of_isDigits h, hspan, hfilter, underscoresFit_of_digits h.ascii,
    hempty, Bool.not_true, Bool.or_self, Bool.false_eq_true, if_false, List.isEmpty_nil]
  rfl

theorem whole_of_isDigits {s : String} {digits : List Char} (h : IsDigits s.toList digits)
    (hfew : digits.length ≤ digitLimit) :
    whole s = .ok (Nat.ofDigitChars 10 digits 0 : Int) := by
  rw [whole_of_normalise (normalise_of_isDigits h) h, if_neg (Nat.not_lt.mpr hfew)]

theorem whole_toString {n : Nat} (h : n < 0x8000000000000000) {value : String}
    (hvalue : value = toString n ∨ value = "+" ++ toString n) : whole value = .ok (n : Int) := by
  obtain ⟨hdigits, hfew⟩ := isDigits_toString h hvalue
  rw [whole_of_isDigits hdigits hfew, Nat.ofDigitChars_ten_toDigits]

end Numeral

end HttpKit
