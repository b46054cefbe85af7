import HttpKit.Proofs.DeclaredLength

/-!
# Whole numbers and declared lengths

A text is read as a whole number in a loose way, and as a declared length in a strict one. Digits of
other scripts and underscores are read in numbers alone, and the separators U+001C to U+001F are
blanks around lengths alone. `Misread` says which texts are read as two lengths for that, and there
are no others (`eq_lengthOf_iff`).

## How the argument goes

* what is trimmed from numbers are the blanks but for the separators (`isPadding_normalChar`)
* a separator stays, and no number has one (`whole_of_separator`)
* without separators the same is trimmed (`normalise_of_no_separator`), and what is left is digits
  in both ways, or it has a character that is read in numbers alone (`isDigits_of_whole`)
-/

namespace HttpKit.Numeral

/-! ## Characters -/

/-- The separators of files, groups, records and units. They are blanks. -/
def IsSeparator (c : Char) : Prop := 0x1C ≤ c.toNat ∧ c.toNat ≤ 0x1F

/-- The characters that are read in numbers and in no declared length. -/
def IsLoose (c : Char) : Prop := c = '_' ∨ Text.isDigit c = true ∧ isAsciiDigit c = false

theorem digitValue?_lt {c : Char} {d : Nat} (h : Text.digitValue? c = some d) : d < 10 := by
  rw [Text.digitValue?, Option.map_eq_some_iff] at h
  obtain ⟨first, hfirst, rfl⟩ := h
  have hrow := List.find?_some hfirst
  simp only [Bool.and_eq_true, decide_eq_true_eq] at hrow
  omega

/-- A character is read as it is, or it is a blank, a digit of another script or in no number. -/
theorem normalChar_cases (c : Char) :
    (c.toNat < 0x7F ∧ normalChar c = c)
      ∨ (0x7F ≤ c.toNat ∧ Text.isBlank c = true ∧ normalChar c = ' ')
      ∨ (0x7F ≤ c.toNat ∧ Text.isBlank c = false ∧ Text.isDigit c = true
        ∧ isAsciiDigit (normalChar c) = true)
      ∨ (0x7F ≤ c.toNat ∧ Text.isBlank c = false ∧ normalChar c = '?') := by
  have hdigit : ∀ d < 10, isAsciiDigit (Char.ofNat ('0'.toNat + d)) = true := by decide
  unfold normalChar
  by_cases hascii : c.toNat < 0x7F
  · exact Or.inl ⟨hascii, if_pos hascii⟩
  refine Or.inr ?_
  rw [if_neg hascii]
  cases hblank : Text.isBlank c with
  | true => exact Or.inl ⟨by omega, rfl, rfl⟩
  | false =>
    refine Or.inr ?_
    cases hvalue : Text.digitValue? c with
    | none => exact Or.inr ⟨by omega, rfl, rfl⟩
    | some d =>
      refine Or.inl ⟨by omega, rfl, ?_, hdigit d (digitValue?_lt hvalue)⟩
      rw [Text.isDigit, hvalue]
      rfl

/-- **What is trimmed from numbers are the blanks but for the separators.** -/
theorem isPadding_normalChar (c : Char) :
    isPadding (normalChar c) = true ↔ Text.isBlank c = true ∧ ¬IsSeparator c := by
  rcases normalChar_cases c with ⟨hascii, hc⟩ | ⟨hwide, hblank, hc⟩ | ⟨-, hblank, -, hdigit⟩
    | ⟨-, hblank, hc⟩
  · have hspace : c = ' ' ↔ c.toNat = 0x20 := by rw [← Char.toNat_inj]; rfl
    rw [hc, isPadding, IsSeparator, Text.isBlank, Text.inSpans, Text.blankSpans]
    simp only [List.any_cons, List.any_nil, Bool.or_eq_true, Bool.and_eq_true, decide_eq_true_eq,
      Bool.or_false, hspace]
    omega
  · rw [hc, hblank]
    have hnone : ¬IsSeparator c := fun h => by unfold IsSeparator at h; omega
    simp [isPadding, hnone]
  · have hascii := toNat_of_isAsciiDigit hdigit
    rw [hblank, isPadding_eq_false (by omega)]
    simp
  · have hmark : isPadding '?' = false := by decide
    rw [hblank, hc, hmark]
    simp

/-! ## Numbers -/

theorem normalise_eq (s : String) :
    normalise s = (Text.trimBy (fun c => isPadding (normalChar c)) s.toList).map normalChar :=
  Text.trimBy_map isPadding normalChar s.toList

/-- Without separators the same is trimmed from numbers and lengths. -/
theorem normalise_of_no_separator {s : String} (h : ∀ c ∈ s.toList, ¬IsSeparator c) :
    normalise s = (Text.trim s).toList.map normalChar := by
  rw [normalise_eq, Text.trim, String.toList_ofList]
  refine congrArg (List.map normalChar) (Text.trimBy_congr fun c hc => ?_)
  rw [Bool.eq_iff_iff, isPadding_normalChar, and_iff_left (h c hc)]

/-- What is read as a whole number is a row of digits and underscores behind a sign, if there is
one. -/
theorem exists_row_of_whole {s : String} {n : Int} (h : whole s = .ok n) :
    ∃ row, (normalise s = row ∨ normalise s = '+' :: row
        ∨ normalise s = '-' :: row ∧ n ≤ 0)
      ∧ (∀ c ∈ row, isAsciiDigit c = true ∨ c = '_') ∧ row.filter isAsciiDigit ≠ [] := by
  obtain ⟨negative, body, hsplit⟩ : ∃ negative body, splitSign (normalise s) = (negative, body) :=
    ⟨_, _, rfl⟩
  have hspelled : normalise s = body ∧ negative = false
      ∨ normalise s = '+' :: body ∧ negative = false
      ∨ normalise s = '-' :: body ∧ negative = true := by
    unfold splitSign at hsplit
    split at hsplit
    · next rest he =>
      obtain ⟨rfl, rfl⟩ := Prod.mk.inj hsplit
      exact Or.inr (Or.inr ⟨he, rfl⟩)
    · next rest he =>
      obtain ⟨rfl, rfl⟩ := Prod.mk.inj hsplit
      exact Or.inr (Or.inl ⟨he, rfl⟩)
    · next cs _ _ =>
      obtain ⟨rfl, rfl⟩ := Prod.mk.inj hsplit
      exact Or.inl ⟨rfl, rfl⟩
  simp only [whole, hsplit, List.span_eq_takeWhile_dropWhile] at h
  split at h
  · cases h
  next hfit =>
  split at h
  · cases h
  split at h
  · cases h
  next hrest =>
  have hall : ∀ c ∈ body, isAsciiDigit c = true ∨ c = '_' := by
    simpa [List.dropWhile_eq_nil_iff, or_iff_not_imp_left] using hrest
  have hrow : body.takeWhile (fun c => isAsciiDigit c || decide (c = '_')) = body :=
    List.takeWhile_eq_self_iff.mpr (by simpa using hall)
  rw [hrow] at h hfit
  obtain rfl := Except.ok.inj h
  refine ⟨body, ?_, hall, by simp_all⟩
  rcases hspelled with ⟨hs, -⟩ | ⟨hs, -⟩ | ⟨hs, rfl⟩
  · exact Or.inl hs
  · exact Or.inr (Or.inl hs)
  · refine Or.inr (Or.inr ⟨hs, ?_⟩)
    rw [if_pos rfl]
    omega

/-- **No number has a separator.** -/
theorem whole_of_separator {s : String} {c : Char} (hc : c ∈ s.toList) (h : IsSeparator c) :
    ∃ e, whole s = .error e := by
  cases hwhole : whole s with
  | error e => exact ⟨e, rfl⟩
  | ok n =>
    obtain ⟨row, hspelled, hrow, -⟩ := exists_row_of_whole hwhole
    have hread : normalChar c = c := if_pos (by unfold IsSeparator at h; omega)
    have hkept : c ∈ normalise s := by
      have hpadding : isPadding (normalChar c) = false :=
        Bool.eq_false_iff.mpr fun hp => ((isPadding_normalChar c).mp hp).2 h
      rw [normalise_eq, List.mem_map]
      exact ⟨c, Text.mem_trimBy_of_not hc hpadding, hread⟩
    have hno : ∀ d, (isAsciiDigit d = true ∨ d = '_' ∨ d = '+' ∨ d = '-') → ¬IsSeparator d := by
      rintro d (hd | rfl | rfl | rfl) hsep
      · have := toNat_of_isAsciiDigit hd
        unfold IsSeparator at hsep
        omega
      all_goals exact absurd hsep (by unfold IsSeparator; decide)
    refine absurd h (hno c ?_)
    rcases hspelled with hs | hs | ⟨hs, -⟩ <;> rw [hs] at hkept
    · exact (hrow c hkept).imp_right Or.inl
    all_goals
      rcases List.mem_cons.mp hkept with rfl | hmem
      · simp
      · exact (hrow c hmem).imp_right Or.inl

/-- **A number above zero without separators and loose characters is digits.** -/
theorem isDigits_of_whole {s : String} {n : Int} (h : whole s = .ok n) (hpos : 0 < n)
    (hsep : ∀ c ∈ s.toList, ¬IsSeparator c) (hloose : ∀ c ∈ s.toList, ¬IsLoose c) :
    ∃ digits, IsDigits (Text.trim s).toList digits := by
  obtain ⟨row, hspelled, hrow, hnonempty⟩ := exists_row_of_whole h
  replace hspelled : normalise s = row ∨ normalise s = '+' :: row :=
    hspelled.imp_right fun h => h.resolve_right fun hminus => absurd hminus.2 (by omega)
  have hchars : ∀ c ∈ normalise s, isAsciiDigit c = true ∨ c = '_' ∨ c = '+' := by
    intro c hc
    rcases hspelled with hs | hs
    · exact (hrow c (hs ▸ hc)).imp_right Or.inl
    · rcases List.mem_cons.mp (hs ▸ hc) with rfl | hmem
      · exact Or.inr (Or.inr rfl)
      · exact (hrow c hmem).imp_right Or.inl
  -- Every character is read as it is, for only a digit of another script could be read as a digit.
  have hread : ∀ c ∈ (Text.trim s).toList, normalChar c = c := by
    intro c hc
    have hnormal : normalChar c ∈ normalise s := by
      rw [normalise_of_no_separator hsep]
      exact List.mem_map_of_mem hc
    rcases normalChar_cases c with ⟨-, hsame⟩ | ⟨-, -, hspace⟩ | ⟨hwide, -, hdigit, -⟩
      | ⟨-, -, hmark⟩
    · exact hsame
    · exact absurd (hspace ▸ hchars _ hnormal) (by decide)
    · refine absurd (Or.inr ⟨hdigit, Bool.eq_false_iff.mpr fun hascii => ?_⟩)
        (hloose c (Text.mem_of_mem_trim hc))
      have := toNat_of_isAsciiDigit hascii
      omega
    · exact absurd (hmark ▸ hchars _ hnormal) (by decide)
  have htrim : normalise s = (Text.trim s).toList := by
    rw [normalise_of_no_separator hsep]
    exact (List.map_congr_left hread).trans (List.map_id _)
  have hrowMem : ∀ c ∈ row, c ∈ (Text.trim s).toList := by
    intro c hc
    rcases hspelled with hs | hs
    · exact htrim ▸ hs ▸ hc
    · exact htrim ▸ hs ▸ List.mem_cons_of_mem _ hc
  refine ⟨row, htrim ▸ hspelled, ?_, List.all_eq_true.mpr fun c hc => ?_⟩
  · rintro rfl
    exact hnonempty rfl
  · exact (hrow c hc).resolve_right fun hunderscore =>
      hloose c (Text.mem_of_mem_trim (hrowMem c hc)) (Or.inl hunderscore)

/-! ## Lengths -/

/-- The length that a text is read as in the loose way: zero unless it is a number above zero. -/
def lengthOf (s : String) : Nat :=
  match whole s with
  | .ok n => n.toNat
  | .error _ => 0

/-- Whether a text is read as two lengths. -/
inductive Misread (s : String) : Prop where
  /-- It is a number above zero by a character that is in no declared length. -/
  | loose {n : Int} {c : Char} (h : whole s = .ok n) (hpos : 0 < n) (hc : c ∈ s.toList)
      (hloose : IsLoose c) : Misread s
  /-- It declares a length above zero, and has a separator around it. -/
  | separated {n : Nat} {c : Char} (h : declaredLength (some s) = .ok n) (hpos : 0 < n)
      (hc : c ∈ s.toList) (hsep : IsSeparator c) : Misread s

theorem isBlank_of_isLoose {c : Char} (h : IsLoose c) : Text.isBlank c = false := by
  have hapart : ∀ first ∈ Text.digitZeros, ∀ span ∈ Text.blankSpans,
      first + 10 ≤ span.1 ∨ span.2 < first := by decide
  rcases h with rfl | ⟨hdigit, -⟩
  · decide
  · rw [Text.isDigit, Text.digitValue?, Option.isSome_map, List.find?_isSome] at hdigit
    obtain ⟨first, hfirst, hrow⟩ := hdigit
    simp only [Bool.and_eq_true, decide_eq_true_eq] at hrow
    rw [Text.isBlank, Text.inSpans, List.any_eq_false]
    intro span hspan
    have := hapart first hfirst span hspan
    simp only [Bool.and_eq_true, decide_eq_true_eq]
    omega

/-- Digits have no loose character. -/
theorem not_isLoose_of_isDigits {s : String} {digits : List Char}
    (h : IsDigits (Text.trim s).toList digits) {c : Char} (hc : c ∈ s.toList) : ¬IsLoose c := by
  intro hloose
  rcases h.mem (Text.mem_trim hc (isBlank_of_isLoose hloose)) with rfl | hdigit
  · exact absurd hloose (by unfold IsLoose; decide)
  · rcases hloose with rfl | ⟨-, hno⟩
    · exact absurd hdigit (by decide)
    · exact Bool.false_ne_true (hno.symm.trans hdigit)

/-- Digits with blanks around them are read as the number that they are. -/
theorem whole_of_isDigits_trim {s : String} {digits : List Char}
    (hsep : ∀ c ∈ s.toList, ¬IsSeparator c) (h : IsDigits (Text.trim s).toList digits) :
    whole s = if digitLimit < digits.length then .error (.tooLong digits.length)
      else .ok (Nat.ofDigitChars 10 digits 0 : Int) := by
  refine whole_of_normalise ?_ h
  rw [normalise_of_no_separator hsep, map_normalChar_of_isDigits h]

/-- A text that declares too many digits is read as no number. -/
theorem lengthOf_of_declared_error {s : String} {e : NumeralError}
    (h : declaredLength (some s) = .error e) : lengthOf s = 0 := by
  by_cases hsep : ∃ c ∈ s.toList, IsSeparator c
  · obtain ⟨c, hc, hsep⟩ := hsep
    obtain ⟨fault, hwhole⟩ := whole_of_separator hc hsep
    rw [lengthOf, hwhole]
  · push Not at hsep
    obtain ⟨text, digits, htext, hdigits, hmany, rfl⟩ := declaredLength_eq_error_iff.mp h
    obtain rfl := Option.some.inj htext
    rw [lengthOf, whole_of_isDigits_trim hsep hdigits, if_pos hmany]

/-- **A text is read as the length that it declares unless it is misread.** -/
theorem eq_lengthOf_iff {s : String} {n : Nat} (h : declaredLength (some s) = .ok n) :
    n = lengthOf s ↔ ¬Misread s := by
  by_cases hsep : ∃ c ∈ s.toList, IsSeparator c
  · obtain ⟨c, hc, hsep⟩ := hsep
    obtain ⟨e, hwhole⟩ := whole_of_separator hc hsep
    rw [lengthOf, hwhole]
    constructor
    · rintro rfl hm
      cases hm with
      | loose hok => exact nomatch hok.symm.trans hwhole
      | separated hn hpos =>
        obtain rfl := Except.ok.inj (h.symm.trans hn)
        exact Nat.lt_irrefl 0 hpos
    · intro hm
      by_contra hn
      exact hm (.separated h (Nat.pos_of_ne_zero hn) hc hsep)
  push Not at hsep
  cases declaredLength_eq_ok_iff.mp h with
  | number hdigits hfew =>
    have hwhole := whole_of_isDigits_trim hsep hdigits
    rw [if_neg (Nat.not_lt.mpr hfew)] at hwhole
    rw [lengthOf, hwhole]
    refine iff_of_true (Int.toNat_natCast _).symm fun hm => ?_
    cases hm with
    | loose _ _ hc hloose => exact not_isLoose_of_isDigits hdigits hc hloose
    | separated _ _ hc hno => exact hsep _ hc hno
  | other hnone =>
    constructor
    · intro hlength hm
      cases hm with
      | loose hok hpos =>
        rw [lengthOf, hok] at hlength
        dsimp only at hlength
        omega
      | separated _ _ hc hno => exact hsep _ hc hno
    · intro hm
      by_contra hn
      cases hwhole : whole s with
      | error e => exact hn (by rw [lengthOf, hwhole])
      | ok m =>
        rw [lengthOf, hwhole] at hn
        obtain ⟨digits, hdigits⟩ := isDigits_of_whole hwhole (by dsimp only at hn; omega) hsep
          fun c hc hloose => hm (.loose hwhole (by dsimp only at hn; omega) hc hloose)
        exact hnone digits hdigits

end HttpKit.Numeral
