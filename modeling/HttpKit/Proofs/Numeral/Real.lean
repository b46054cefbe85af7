import HttpKit.Numeral.Real
import Mathlib

/-!
# Floating-point numbers that are none

A floating-point number may be no number. It is on neither side of zero, so that a check for one
side is not the negation of a check for the other. Of the texts that are read as floating-point
numbers, those that name no number are read as none, and no others (`isNaN_iff_of_real`).

## How the argument goes

* a comparison with zero is one of where a number lies (`compare_zero`)
* the operations go through packed bits. Packing keeps what is no number apart from what is one
  (`isNaN_pack`), so that it is enough to look at the operations on unpacked numbers
* decimals are rounded, multiplied by and divided by powers of ten, none of which leads out of the
  numbers (`isNaN_ofScientific`)
* underscores are dropped between digits only, so a name stays as it is
  (`isNan_iff_of_dropUnderscores`)
-/

namespace HttpKit.Numeral

open Float.Model (UnpackedFloat Format)
open Float.Model.UnpackedFloat

/-! ## Comparisons with zero -/

/-- A number lies on one side of zero and zero on the other side of it. No number lies on none. -/
theorem compare_zero (u : UnpackedFloat) :
    (u.isNaN = true ∧ u.compare (.zero .positive) = none
        ∧ UnpackedFloat.compare (.zero .positive) u = none)
      ∨ u.isNaN = false ∧ ∃ side, u.compare (.zero .positive) = some side
        ∧ UnpackedFloat.compare (.zero .positive) u = some side.swap := by
  rcases u with (_ | _) | _ | _ | ⟨_ | _, _, _, _⟩ <;>
    simp [UnpackedFloat.isNaN, UnpackedFloat.compare]

theorem unpack_zero : (0 : Float).toModel.unpack = .zero .positive := rfl

theorem le_iff (x y : Float) : x ≤ y ↔ x.toModel.unpack.le y.toModel.unpack = true :=
  decide_eq_true_iff

theorem lt_iff (x y : Float) : x < y ↔ x.toModel.unpack.lt y.toModel.unpack = true :=
  decide_eq_true_iff

theorem isNaN_eq (x : Float) : x.isNaN = x.toModel.unpack.isNaN := rfl

/-- **What is not at most zero is above it, or no number.** -/
theorem not_le_zero_iff (x : Float) : ¬x ≤ 0 ↔ 0 < x ∨ x.isNaN = true := by
  rw [le_iff, lt_iff, isNaN_eq, unpack_zero, UnpackedFloat.le, UnpackedFloat.lt]
  rcases compare_zero x.toModel.unpack with ⟨hn, h, h'⟩ | ⟨hn, side, h, h'⟩
  · simp [hn, h]
  · rw [hn, h, h']
    cases side <;> decide

/-- **What is not below zero is at least zero, or no number.** -/
theorem not_lt_zero_iff (x : Float) : ¬x < 0 ↔ 0 ≤ x ∨ x.isNaN = true := by
  rw [le_iff, lt_iff, isNaN_eq, unpack_zero, UnpackedFloat.le, UnpackedFloat.lt]
  rcases compare_zero x.toModel.unpack with ⟨hn, h, h'⟩ | ⟨hn, side, h, h'⟩
  · simp [hn, h]
  · rw [hn, h, h']
    cases side <;> decide

/-- No number is neither above zero nor zero. -/
theorem not_above_of_isNaN {x : Float} (h : x.isNaN = true) : ¬0 < x ∧ ¬0 ≤ x := by
  rw [isNaN_eq] at h
  rw [le_iff, lt_iff, unpack_zero, UnpackedFloat.le, UnpackedFloat.lt]
  rcases compare_zero x.toModel.unpack with ⟨-, -, hnone⟩ | ⟨hn, -⟩
  · rw [hnone]
    decide
  · rw [hn] at h
    cases h

/-! ## Packing -/

theorem packedInfinity_ne_packedNaN (sign : Sign) :
    packedInfinity Format.binary64 sign ≠ packedNaN Format.binary64 := by
  cases sign <;> decide

/-- **Packing makes no number of no number, and of no other.** -/
theorem isNaN_pack (u : UnpackedFloat) : (Float.Model.pack u).isNaN = u.isNaN := by
  rw [Bool.eq_iff_iff]
  change (unpack Format.binary64 (pack Format.binary64 u)).isNaN = true ↔ _
  rw [isNaN_unpack_iff_of_valid valid_pack, UnpackedFloat.isNaN_iff]
  refine ⟨fun h => ?_, fun h => h ▸ rfl⟩
  cases u with
  | notANumber => rfl
  | infinity sign => exact absurd h (packedInfinity_ne_packedNaN sign)
  | zero sign => cases sign <;> exact absurd h (by decide)
  | finite sign mantissa exponent hpos =>
    rw [pack] at h
    dsimp only at h
    split at h
    · exact absurd h (packedInfinity_ne_packedNaN sign)
    · next hsmall =>
      -- The exponent of no number is all ones, and that of a finite number is too small for it.
      have hones : unpackExponent (packedNaN Format.binary64) = 2047#11 := by decide
      split at h
      · have hexponent := congrArg (BitVec.toNat ∘ unpackExponent) h
        rw [Function.comp_apply, Function.comp_apply, hones, unpackExponent_packComponents,
          BitVec.toNat_ofNat] at hexponent
        generalize (exponent + _ + _).toNat = biased at hsmall hexponent
        change ¬2048 ≤ biased + 1 at hsmall
        change biased % 2048 = 2047 at hexponent
        omega
      · have hexponent := congrArg unpackExponent h
        rw [hones, unpackExponent_packComponents] at hexponent
        exact absurd hexponent (by decide)

/-! ## Arithmetic -/

theorem isNaN_roundWithAccuracy (spec : Format) (sign : Sign) (mantissa : Nat) (exponent : Int)
    (accuracy : Accuracy) :
    (roundWithAccuracy spec sign mantissa exponent accuracy).isNaN = false := by
  rw [roundWithAccuracy]
  dsimp only
  split <;> rfl

theorem isNaN_neg (x : Float) : (-x).isNaN = x.isNaN := by
  change (Float.Model.pack x.toModel.unpack.neg).isNaN = x.toModel.unpack.isNaN
  rw [isNaN_pack]
  cases x.toModel.unpack <;> rfl

/-- Whether a number is finite and not zero. -/
def IsProper : UnpackedFloat → Prop
  | .finite .. => True
  | _ => False

instance : DecidablePred IsProper
  | .finite .. => isTrue trivial
  | .infinity _ | .notANumber | .zero _ => isFalse not_false

/-- **What is divided or multiplied by a finite number other than zero is as much a number as
before.** -/
theorem isNaN_div {x y : Float} (hy : IsProper y.toModel.unpack) :
    (x / y).isNaN = x.isNaN := by
  change (Float.Model.pack (div _ x.toModel.unpack y.toModel.unpack)).isNaN = x.toModel.unpack.isNaN
  rw [isNaN_pack]
  generalize y.toModel.unpack = divisor at hy
  cases divisor with
  | finite sign mantissa exponent hpos =>
    cases x.toModel.unpack with
    | finite => exact isNaN_roundWithAccuracy ..
    | _ => rfl
  | _ => exact False.elim hy

theorem isNaN_mul {x y : Float} (hy : IsProper y.toModel.unpack) :
    (x * y).isNaN = x.isNaN := by
  change (Float.Model.pack (mul _ x.toModel.unpack y.toModel.unpack)).isNaN = x.toModel.unpack.isNaN
  rw [isNaN_pack]
  generalize y.toModel.unpack = factor at hy
  cases factor with
  | finite sign mantissa exponent hpos =>
    cases x.toModel.unpack with
    | finite => exact isNaN_roundWithAccuracy ..
    | _ => rfl
  | _ => exact False.elim hy

theorem isNaN_ofUInt64 (n : UInt64) : n.toFloat.isNaN = false := by
  change (Float.Model.pack (ofInt Format.binary64 n.toNat)).isNaN = false
  rw [isNaN_pack, ofInt, UnpackedFloat.normalize]
  split
  · exact isNaN_roundWithAccuracy ..
  · rfl
  · exact isNaN_roundWithAccuracy ..

theorem isProper_powerOfTen : ∀ i : Fin Float.exactlyRepresentablePowersOfTen.size,
    IsProper Float.exactlyRepresentablePowersOfTen[i].toModel.unpack := by
  decide

/-- **A decimal is rounded to a number.** -/
theorem isNaN_ofScientific (m : Nat) (s : Bool) (e : Nat) :
    (Float.ofScientific m s e).isNaN = false := by
  rw [Float.ofScientific]
  split
  · next h =>
    have he : e < Float.exactlyRepresentablePowersOfTen.size := Nat.lt_succ_of_le h.2
    dsimp only
    split
    · exact (isNaN_div (isProper_powerOfTen ⟨e, he⟩)).trans (isNaN_ofUInt64 _)
    · exact (isNaN_mul (isProper_powerOfTen ⟨e, he⟩)).trans (isNaN_ofUInt64 _)
  · change (Float.Model.pack (ofScientific Format.binary64 _ _)).isNaN = false
    generalize (if s then Int.negOfNat e else Int.ofNat e) = exponent
    rw [isNaN_pack, ofScientific]
    repeat' split
    · rfl
    · rfl
    · rfl
    · exact isNaN_roundWithAccuracy ..
    · exact isNaN_roundWithAccuracy ..

/-! ## Texts that are read as no number -/

theorem isNaN_toFloat (d : Scientific) : d.toFloat.isNaN = false := by
  rw [Scientific.toFloat]
  repeat' split
  · decide
  · decide
  · decide
  · exact isNaN_ofScientific ..

/-- A sign, or none. -/
def IsSign (sign : List Char) : Prop := sign = [] ∨ sign = ['-'] ∨ sign = ['+']

/-- The letters of the name of no number, in any case. -/
def IsNanName (word : List Char) : Prop := word.map Char.toLower = ['n', 'a', 'n']

/-- Whether a text is the name of no number, signed or not, with blanks around it. -/
def IsNan (text : String) : Prop :=
  ∃ sign word, normalise text = sign ++ word ∧ IsSign sign ∧ IsNanName word

theorem exists_splitSign (cs : List Char) :
    ∃ sign, cs = sign ++ (splitSign cs).2 ∧ IsSign sign := by
  rw [splitSign.eq_def]
  split
  · exact ⟨['-'], rfl, .inr (.inl rfl)⟩
  · exact ⟨['+'], rfl, .inr (.inr rfl)⟩
  · exact ⟨[], rfl, .inl rfl⟩

theorem splitSign_append {sign word : List Char} (hs : IsSign sign) (hw : IsNanName word) :
    (splitSign (sign ++ word)).2 = word := by
  rcases hs with rfl | rfl | rfl
  · rw [List.nil_append, splitSign.eq_def]
    split
    · exact absurd (List.head_eq_of_cons_eq hw) (by decide)
    · exact absurd (List.head_eq_of_cons_eq hw) (by decide)
    · rfl
  · rfl
  · rfl

theorem isNanName_iff {word : List Char} :
    IsNanName word ↔ String.ofList (word.map Char.toLower) = "nan" := by
  rw [IsNanName]
  constructor
  · intro h
    rw [h]
  · intro h
    simpa using congrArg String.toList h

theorem isNaN_of_named? {word : List Char} {x : Float} (h : named? word = some x) :
    x.isNaN = true ↔ IsNanName word := by
  rw [isNanName_iff]
  rw [named?] at h
  split at h
  · next hname =>
    obtain rfl := Option.some.inj h
    rw [hname]
    decide
  · next hname =>
    obtain rfl := Option.some.inj h
    rw [hname]
    decide
  · next hname =>
    obtain rfl := Option.some.inj h
    rw [hname]
    decide
  · cases h

theorem named?_of_isNanName {word : List Char} (h : IsNanName word) :
    named? word = some (0.0 / 0.0) := by
  rw [named?, isNanName_iff.mp h]
  rfl

/-! ### Underscores -/

/-- Each character between the ones beside it, with a point before the first and behind the last. -/
def neighbours (cs : List Char) : List (Char × Char × Char) :=
  ('.' :: cs).zip (cs.zip (cs.tail ++ ['.']))

theorem mem_of_mem_neighbours {cs : List Char} {left c right : Char}
    (h : (left, c, right) ∈ neighbours cs) : (left = '.' ∨ left ∈ cs) ∧ c ∈ cs :=
  ⟨List.mem_cons.mp (List.of_mem_zip h).1, (List.of_mem_zip (List.of_mem_zip h).2).1⟩

theorem exists_neighbours {cs : List Char} {c : Char} (h : c ∈ cs) :
    ∃ left right, (left, c, right) ∈ neighbours cs := by
  have hlength : cs.length ≤ (cs.tail ++ ['.']).length := by
    rw [List.length_append, List.length_tail, List.length_singleton]
    omega
  have hmiddle : (neighbours cs).map (fun triple => triple.2.1) = cs := by
    calc (neighbours cs).map (fun triple => triple.2.1)
        = ((neighbours cs).map Prod.snd).map Prod.fst := List.map_map.symm
      _ = (cs.zip (cs.tail ++ ['.'])).map Prod.fst := by
          rw [neighbours, List.map_snd_zip]
          rw [List.length_zip, Nat.min_eq_left hlength]
          exact Nat.le_succ _
      _ = cs := List.map_fst_zip hlength
  rw [← hmiddle, List.mem_map] at h
  obtain ⟨⟨left, c, right⟩, htriple, rfl⟩ := h
  exact ⟨left, right, htriple⟩

theorem dropUnderscores_eq_some_iff {cs rest : List Char} : dropUnderscores cs = some rest
    ↔ (∀ left right, (left, '_', right) ∈ neighbours cs →
        isAsciiDigit left = true ∧ isAsciiDigit right = true)
      ∧ cs.filter (· ≠ '_') = rest := by
  rw [dropUnderscores, ← neighbours]
  dsimp only
  split
  · next h =>
    rw [List.all_eq_true] at h
    constructor
    · intro hrest
      exact ⟨fun left right hmem => by simpa using h _ hmem, Option.some.inj hrest⟩
    · rintro ⟨-, rfl⟩
      rfl
  · next h =>
    refine ⟨nofun, fun ⟨hfits, _⟩ => absurd ?_ h⟩
    rw [List.all_eq_true]
    rintro ⟨left, c, right⟩ hmem
    by_cases hc : c = '_'
    · subst hc
      simpa using hfits left right hmem
    · simp [hc]

theorem dropUnderscores_of_not_mem {cs : List Char} (h : '_' ∉ cs) :
    dropUnderscores cs = some cs := by
  refine dropUnderscores_eq_some_iff.mpr ⟨fun left right hmem => ?_, ?_⟩
  · exact absurd (mem_of_mem_neighbours hmem).2 h
  · rw [List.filter_eq_self]
    intro c hc
    simpa using fun heq : c = '_' => h (heq ▸ hc)

/-- Where an underscore is dropped there is a digit. -/
theorem exists_digit_of_dropUnderscores {cs rest : List Char} (h : dropUnderscores cs = some rest)
    (hunderscore : '_' ∈ cs) : ∃ c ∈ rest, isAsciiDigit c = true := by
  obtain ⟨hfits, rfl⟩ := dropUnderscores_eq_some_iff.mp h
  obtain ⟨left, right, hmem⟩ := exists_neighbours hunderscore
  have hdigit := (hfits left right hmem).1
  have hne : left ≠ '.' ∧ left ≠ '_' := by
    constructor <;> rintro rfl <;> exact absurd hdigit (by decide)
  refine ⟨left, List.mem_filter.mpr ⟨?_, by simpa using hne.2⟩, hdigit⟩
  exact (mem_of_mem_neighbours hmem).1.resolve_left hne.1

/-! ### Reading -/

theorem toLower_of_isAsciiDigit {c : Char} (h : isAsciiDigit c = true) : c.toLower = c := by
  simp only [isAsciiDigit, Bool.and_eq_true, decide_eq_true_eq, Char.le_def] at h
  rw [Char.toLower, dif_neg]
  intro hupper
  exact absurd (UInt32.le_trans hupper.1 h.2) (by decide)

/-- A signed name of no number holds no digit and no underscore. -/
theorem plain_of_isNanName {sign word : List Char} (hs : IsSign sign) (hw : IsNanName word)
    {c : Char} (hc : c ∈ sign ++ word) : isAsciiDigit c = false ∧ c ≠ '_' := by
  rcases List.mem_append.mp hc with hsign | hword
  · rcases hs with rfl | rfl | rfl
    · exact absurd hsign List.not_mem_nil
    · rw [List.mem_singleton.mp hsign]
      decide
    · rw [List.mem_singleton.mp hsign]
      decide
  · have hlower : c.toLower ∈ ['n', 'a', 'n'] := hw ▸ List.mem_map_of_mem hword
    refine ⟨Bool.eq_false_iff.mpr fun hdigit => ?_, ?_⟩
    · rw [toLower_of_isAsciiDigit hdigit] at hlower
      rw [List.mem_cons, List.mem_cons, List.mem_singleton] at hlower
      rcases hlower with rfl | rfl | rfl <;> exact absurd hdigit (by decide)
    · rintro rfl
      exact absurd hlower (by decide)

/-- Dropping underscores neither makes a name of no number nor undoes one. -/
theorem isNan_iff_of_dropUnderscores {text : String} {cs : List Char}
    (h : dropUnderscores (normalise text) = some cs) :
    IsNan text ↔ IsNanName (splitSign cs).2 := by
  constructor
  · rintro ⟨sign, word, htext, hs, hw⟩
    have hnone : '_' ∉ normalise text := fun hmem => (plain_of_isNanName hs hw (htext ▸ hmem)).2 rfl
    obtain rfl := Option.some.inj ((dropUnderscores_of_not_mem hnone).symm.trans h)
    rwa [htext, splitSign_append hs hw]
  · intro hw
    obtain ⟨sign, hcs, hs⟩ := exists_splitSign cs
    have hnone : '_' ∉ normalise text := by
      intro hmem
      obtain ⟨c, hc, hdigit⟩ := exists_digit_of_dropUnderscores h hmem
      rw [hcs] at hc
      exact absurd hdigit (Bool.eq_false_iff.mp (plain_of_isNanName hs hw hc).1)
    obtain rfl := Option.some.inj ((dropUnderscores_of_not_mem hnone).symm.trans h)
    exact ⟨sign, _, hcs, hs, hw⟩

theorem isNaN_of_unsigned {body : List Char} {x : Float}
    (h : (named? body <|> (scientific? body).map Scientific.toFloat) = some x) :
    x.isNaN = true ↔ IsNanName body := by
  cases hnamed : named? body with
  | some y =>
    rw [hnamed] at h
    obtain rfl := Option.some.inj h
    exact isNaN_of_named? hnamed
  | none =>
    rw [hnamed] at h
    obtain ⟨d, -, rfl⟩ := Option.map_eq_some_iff.mp h
    rw [isNaN_toFloat]
    refine ⟨nofun, fun hname => ?_⟩
    rw [named?_of_isNanName hname] at hnamed
    cases hnamed

/-- **A text is read as no number exactly if it names it.** -/
theorem isNaN_iff_of_real {text : String} {x : Float} (h : real text = .ok x) :
    x.isNaN = true ↔ IsNan text := by
  rw [real] at h
  dsimp only at h
  split at h
  · next value hvalue =>
    cases h
    simp only [Option.bind_eq_bind, Option.bind_eq_some_iff, Option.pure_def] at hvalue
    obtain ⟨cs, hcs, y, hy, hx⟩ := hvalue
    have hsign : x.isNaN = y.isNaN := by
      rw [← Option.some.inj hx]
      split
      · exact isNaN_neg y
      · rfl
    rw [hsign, isNaN_of_unsigned hy, isNan_iff_of_dropUnderscores hcs]
  · cases h

end HttpKit.Numeral
