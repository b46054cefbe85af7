import HttpKit.Proofs.Bytes.Utf8
import HttpKit.Proofs.Text.Raw
import HttpKit.Wire.Stream
import Mathlib.Data.List.Infix

/-!
# Bytes cut at line breaks

A head that is written has a carriage return and a line feed after every line, and one such pair
more after the last. Here bytes are cut at these pairs alone, as by someone who takes the rules for
writing a head at their word, and not at every line feed as a reader of ours does.

Two breaks never overlap, so cutting is local: what stands before a break is cut without looking
beyond it (`splitBreaks_append`). Hence a line that holds no break stays whole, and the first empty
line is where it was put (`dropInfix?_endOfHead`).
-/

namespace HttpKit.Wire

/-- What is written after every line of a head. -/
def lineBreak : Bytes := [carriageReturn, lineFeed]

/-- What is written after the last line of a head. -/
def endOfHead : Bytes := lineBreak ++ lineBreak

/-- The bytes between line breaks. -/
def splitBreaks : Bytes → List Bytes
  | [] => [[]]
  | [b] => [[b]]
  | b :: c :: rest =>
    if b = carriageReturn ∧ c = lineFeed then [] :: splitBreaks rest
    else
      match splitBreaks (c :: rest) with
      | [] => [[b]]
      | piece :: more => (b :: piece) :: more

/-- Whether a text holds a line break. -/
def HoldsBreak (t : RawText) : Prop := [.char '\r', .char '\n'] <:+: t.points

instance (t : RawText) : Decidable (HoldsBreak t) :=
  inferInstanceAs (Decidable ([.char '\r', .char '\n'] <:+: t.points))

/-! ## Pieces -/

theorem lineBreak_append (rest : Bytes) :
    lineBreak ++ rest = carriageReturn :: lineFeed :: rest := rfl

theorem carriageReturn_ne_lineFeed : carriageReturn ≠ lineFeed := by decide

theorem splitBreaks_ne_nil : ∀ (bytes : Bytes), splitBreaks bytes ≠ []
  | [] => by simp [splitBreaks]
  | [b] => by simp [splitBreaks]
  | b :: c :: rest => by
    rw [splitBreaks]
    split
    · simp
    · split <;> simp

theorem splitBreaks_lineBreak (rest : Bytes) :
    splitBreaks (lineBreak ++ rest) = [] :: splitBreaks rest := by
  rw [lineBreak_append, splitBreaks, if_pos ⟨rfl, rfl⟩]

/-- A byte that begins no break belongs to the first piece. -/
theorem splitBreaks_cons {b : UInt8} {rest piece : Bytes} {more : List Bytes}
    (hb : ¬(b = carriageReturn ∧ rest.head? = some lineFeed))
    (h : splitBreaks rest = piece :: more) :
    splitBreaks (b :: rest) = (b :: piece) :: more := by
  cases rest with
  | nil =>
    simp only [splitBreaks, List.cons.injEq] at h
    obtain ⟨rfl, rfl⟩ := h
    rfl
  | cons c rest =>
    have hc : ¬(b = carriageReturn ∧ c = lineFeed) := by simpa using hb
    rw [splitBreaks, if_neg hc, h]

/-- **Cutting is local.** -/
theorem splitBreaks_append (line rest : Bytes) :
    splitBreaks (line ++ lineBreak ++ rest) = splitBreaks line ++ splitBreaks rest := by
  fun_induction splitBreaks line with
  | case1 => rw [List.nil_append, splitBreaks_lineBreak, List.singleton_append]
  | case2 b =>
    have hb : ¬(b = carriageReturn ∧ (lineBreak ++ rest).head? = some lineFeed) := by
      simp [lineBreak_append, carriageReturn_ne_lineFeed]
    rw [List.append_assoc, List.singleton_append,
      splitBreaks_cons hb (splitBreaks_lineBreak rest), List.singleton_append]
  | case3 b c line hbc ih =>
    obtain ⟨rfl, rfl⟩ := hbc
    rw [List.cons_append, List.cons_append, List.cons_append, List.cons_append, splitBreaks,
      if_pos ⟨rfl, rfl⟩, ih, List.cons_append]
  | case4 b c line hbc hnil ih => exact absurd hnil (splitBreaks_ne_nil _)
  | case5 b c line hbc piece more hpieces ih =>
    rw [hpieces, List.cons_append] at ih
    have hb : ¬(b = carriageReturn ∧ (c :: line ++ lineBreak ++ rest).head? = some lineFeed) := by
      simpa using hbc
    rw [List.cons_append, List.cons_append, splitBreaks_cons hb ih]
    rfl

/-- Bytes without a break are one piece. -/
theorem splitBreaks_of_not_infix {line : Bytes} (h : ¬lineBreak <:+: line) :
    splitBreaks line = [line] := by
  fun_induction splitBreaks line with
  | case1 => rfl
  | case2 b => rfl
  | case3 b c line hbc ih =>
    obtain ⟨rfl, rfl⟩ := hbc
    exact absurd ⟨[], line, rfl⟩ h
  | case4 b c line hbc hnil ih => exact absurd hnil (splitBreaks_ne_nil _)
  | case5 b c line hbc piece more hpieces ih =>
    have hline := ih fun hm => h (hm.trans (List.suffix_cons _ _).isInfix)
    rw [hpieces] at hline
    obtain ⟨rfl, rfl⟩ := List.cons.inj hline
    rfl

/-- Bytes with a break are more than one. -/
theorem not_infix_of_splitBreaks {line piece : Bytes} (h : splitBreaks line = [piece]) :
    ¬lineBreak <:+: line := by
  rintro ⟨before, after, rfl⟩
  rw [splitBreaks_append] at h
  have hlen := congrArg List.length h
  have hb := List.length_pos_of_ne_nil (splitBreaks_ne_nil before)
  have ha := List.length_pos_of_ne_nil (splitBreaks_ne_nil after)
  simp only [List.length_append, List.length_singleton] at hlen
  omega

/-! ## The first empty line -/

/-- A line without a break, and what follows the break after it: every break there is stands after
the line or further on. -/
theorem eq_or_exists_of_append_eq {line before after rest : Bytes} (h : ¬lineBreak <:+: line)
    (e : before ++ lineBreak ++ after = line ++ lineBreak ++ rest) :
    before = line ∧ after = rest
      ∨ ∃ more, before = line ++ lineBreak ++ more ∧ more ++ lineBreak ++ after = rest := by
  rw [List.append_assoc, List.append_assoc] at e
  rcases List.append_eq_append_iff.mp e with ⟨more, hline, hafter⟩ | ⟨more, hbefore, hrest⟩
  · match more with
    | [] => simp_all
    | [b] =>
      -- The two breaks would share a byte.
      simp only [lineBreak_append, List.cons_append, List.nil_append, List.cons.injEq] at hafter
      exact absurd hafter.2.1.symm carriageReturn_ne_lineFeed
    | b :: c :: more =>
      simp only [lineBreak_append, List.cons_append, List.cons.injEq] at hafter
      obtain ⟨rfl, rfl, _⟩ := hafter
      exact absurd ⟨before, more, by simp [hline, lineBreak]⟩ h
  · match more with
    | [] => simp_all
    | [b] =>
      simp only [lineBreak_append, List.cons_append, List.nil_append, List.cons.injEq] at hrest
      exact absurd hrest.2.1.symm carriageReturn_ne_lineFeed
    | b :: c :: more =>
      simp only [lineBreak_append, List.cons_append, List.cons.injEq] at hrest
      obtain ⟨rfl, rfl, hrest⟩ := hrest
      exact Or.inr ⟨more, by simp [hbefore, lineBreak], by simp [hrest, lineBreak]⟩

/-- Lines with a break between them. -/
def joinBreaks (lines : List Bytes) : Bytes := lineBreak.intercalate lines

theorem joinBreaks_cons_cons (line next : Bytes) (more : List Bytes) :
    joinBreaks (line :: next :: more) = line ++ lineBreak ++ joinBreaks (next :: more) :=
  List.intercalate_cons_cons

theorem flatMap_append_lineBreak (line : Bytes) (more : List Bytes) :
    (line :: more).flatMap (· ++ lineBreak) = joinBreaks (line :: more) ++ lineBreak := by
  induction more generalizing line with
  | nil => simp [joinBreaks]
  | cons next more ih =>
    rw [List.flatMap_cons, ih, joinBreaks_cons_cons, List.append_assoc _ (joinBreaks _)]

theorem splitBreaks_joinBreaks (line : Bytes) (more : List Bytes) :
    splitBreaks (joinBreaks (line :: more)) = (line :: more).flatMap splitBreaks := by
  induction more generalizing line with
  | nil => simp [joinBreaks]
  | cons next more ih => rw [joinBreaks_cons_cons, splitBreaks_append, ih, ← List.flatMap_cons]

/-- Lines joined begin with the first one and a break. -/
theorem exists_joinBreaks_append (line : Bytes) (more : List Bytes) (body : Bytes) :
    ∃ rest, joinBreaks (line :: more) ++ endOfHead ++ body = line ++ lineBreak ++ rest := by
  cases more with
  | nil => exact ⟨lineBreak ++ body, by simp [joinBreaks, endOfHead]⟩
  | cons next more =>
    exact ⟨joinBreaks (next :: more) ++ endOfHead ++ body, by simp [joinBreaks_cons_cons]⟩

/-- No empty line stands before the end of the lines. -/
theorem length_joinBreaks_le {line : Bytes} {more : List Bytes} {before after body : Bytes}
    (h : ∀ l ∈ line :: more, l ≠ [] ∧ ¬lineBreak <:+: l)
    (e : before ++ lineBreak ++ (lineBreak ++ after)
      = joinBreaks (line :: more) ++ endOfHead ++ body) :
    (joinBreaks (line :: more)).length ≤ before.length := by
  have hline : ¬lineBreak <:+: line := (h line List.mem_cons_self).2
  induction more generalizing line before with
  | nil =>
    have hjoin : joinBreaks [line] = line := by simp [joinBreaks]
    rw [hjoin, endOfHead, ← List.append_assoc line, List.append_assoc (line ++ lineBreak)] at e
    rw [hjoin]
    rcases eq_or_exists_of_append_eq hline e with ⟨rfl, -⟩ | ⟨rest, rfl, -⟩ <;> simp
  | cons next more ih =>
    obtain ⟨hne, hnext⟩ := h next (List.mem_cons_of_mem _ List.mem_cons_self)
    rw [joinBreaks_cons_cons, List.append_assoc _ (joinBreaks _),
      List.append_assoc _ (joinBreaks _ ++ _)] at e
    rcases eq_or_exists_of_append_eq hline e with ⟨-, hafter⟩ | ⟨rest, rfl, hrest⟩
    · -- The line would be followed by a break at once, but the next one is not empty.
      obtain ⟨tail, htail⟩ := exists_joinBreaks_append next more body
      have hbreak : [] ++ lineBreak ++ after = next ++ lineBreak ++ tail := hafter.trans htail
      rcases eq_or_exists_of_append_eq hnext hbreak with ⟨hnil, -⟩ | ⟨rest, hnil, -⟩
      · exact absurd hnil.symm hne
      · simp [lineBreak] at hnil
    · have hlater := ih (fun l hl => h l (List.mem_cons_of_mem _ hl)) hrest hnext
      rw [joinBreaks_cons_cons]
      simp only [List.length_append]
      omega

/-- **The first empty line is where it was put.** -/
theorem dropInfix?_endOfHead {line : Bytes} {more : List Bytes} (body : Bytes)
    (h : ∀ l ∈ line :: more, l ≠ [] ∧ ¬lineBreak <:+: l) :
    (joinBreaks (line :: more) ++ endOfHead ++ body).dropInfix? endOfHead
      = some (joinBreaks (line :: more), body) := by
  refine List.dropInfix?_eq_some_iff.mpr ⟨⟨endOfHead, rfl, beq_self_eq_true _⟩, ?_⟩
  intro before infix_ after e hinfix
  have hbreaks : before ++ infix_ ++ after = before ++ lineBreak ++ (lineBreak ++ after) := by
    rw [eq_of_beq hinfix]
    simp [endOfHead]
  exact length_joinBreaks_le h (hbreaks.symm.trans e.symm)

/-! ## As many pieces as lines -/

theorem length_le_length_flatMap (lines : List Bytes) :
    lines.length ≤ (lines.flatMap splitBreaks).length := by
  induction lines with
  | nil => simp
  | cons line lines ih =>
    have hline := List.length_pos_of_ne_nil (splitBreaks_ne_nil line)
    rw [List.flatMap_cons, List.length_append, List.length_cons]
    omega

/-- A line with a break adds a piece. -/
theorem not_infix_of_length_flatMap {lines : List Bytes}
    (h : (lines.flatMap splitBreaks).length = lines.length) :
    ∀ line ∈ lines, ¬lineBreak <:+: line := by
  induction lines with
  | nil => simp
  | cons line lines ih =>
    have hline := List.length_pos_of_ne_nil (splitBreaks_ne_nil line)
    have hrest := length_le_length_flatMap lines
    rw [List.flatMap_cons, List.length_append, List.length_cons] at h
    have hone : (splitBreaks line).length = 1 := by omega
    obtain ⟨piece, hpiece⟩ := List.length_eq_one_iff.mp hone
    intro l hl
    rcases List.mem_cons.mp hl with rfl | hl
    · exact not_infix_of_splitBreaks hpiece
    · exact ih (by omega) l hl

theorem flatMap_splitBreaks_eq {lines : List Bytes} (h : ∀ line ∈ lines, ¬lineBreak <:+: line) :
    lines.flatMap splitBreaks = lines := by
  have hpiece : ∀ line ∈ lines, splitBreaks line = [line] := fun line hline =>
    splitBreaks_of_not_infix (h line hline)
  rw [List.flatMap_congr hpiece]
  exact List.flatMap_singleton' lines

/-! ## Texts -/

theorem holdsBreak_ofString_iff {s : String} :
    HoldsBreak s ↔ ∃ front back, s.toList = front ++ '\r' :: '\n' :: back := by
  have hpoints : (RawText.ofString s).points = s.toList.map .char := rfl
  constructor
  · rintro ⟨front, back, h⟩
    rw [hpoints, List.append_assoc, eq_comm] at h
    obtain ⟨cs, rest, hs, -, hrest⟩ := List.map_eq_append_iff.mp h
    obtain ⟨c, rest, rfl, hc, hrest⟩ := List.map_eq_cons_iff.mp hrest
    obtain ⟨d, rest, rfl, hd, -⟩ := List.map_eq_cons_iff.mp hrest
    obtain rfl := CodePoint.char.inj hc
    obtain rfl := CodePoint.char.inj hd
    exact ⟨cs, rest, hs⟩
  · rintro ⟨front, back, h⟩
    exact ⟨front.map .char, back.map .char, by simp [hpoints, h]⟩

theorem not_holdsBreak_of_not_mem {t : RawText} (h : .char '\n' ∉ t.points) : ¬HoldsBreak t :=
  fun hbreak => h (hbreak.subset (by simp))

/-- **The bytes of a text hold a break where the text does.** -/
theorem lineBreak_infix_utf8_iff {s : String} : lineBreak <:+: utf8 s ↔ HoldsBreak s := by
  rw [holdsBreak_ofString_iff]
  constructor
  · rintro ⟨before, after, h⟩
    have hcr : Utf8.encode s.toList = before ++ carriageReturn :: (lineFeed :: after) := by
      rw [← utf8, ← h]
      simp [lineBreak]
    obtain ⟨front, c, rest, hs, hc, hrest⟩ := Utf8.exists_of_encode_eq_append (by decide) hcr
    obtain ⟨d, back, rfl, hd, -⟩ := Utf8.exists_of_encode_eq_cons (by decide) hrest
    obtain rfl : c = '\r' := Char.toNat_inj.mp hc
    obtain rfl : d = '\n' := Char.toNat_inj.mp hd
    exact ⟨front, back, hs⟩
  · rintro ⟨front, back, h⟩
    refine ⟨Utf8.encode front, Utf8.encode back, ?_⟩
    have hr : String.utf8EncodeChar '\r' = [carriageReturn] := by decide
    have hn : String.utf8EncodeChar '\n' = [lineFeed] := by decide
    rw [utf8, h]
    simp [Utf8.encode, lineBreak, hr, hn]

/-- A letter that a pattern lacks is not within it. -/
theorem infix_append_cons_iff {α : Type} {p before after : List α} {a : α} (ha : a ∉ p) :
    p <:+: before ++ a :: after ↔ p <:+: before ∨ p <:+: after := by
  constructor
  · rintro ⟨x, y, h⟩
    rw [List.append_assoc] at h
    rcases List.append_eq_append_iff.mp h with ⟨m, hbefore, hm⟩ | ⟨m, hx, hm⟩
    · rcases List.append_eq_append_iff.mp hm with ⟨n, hn, -⟩ | ⟨n, hp, hn⟩
      · exact Or.inl ⟨x, n, by simp [hbefore, hn]⟩
      · cases n with
        | nil => exact Or.inl ⟨x, [], by simp [hbefore, hp]⟩
        | cons b n =>
          obtain ⟨rfl, -⟩ := List.cons.inj hn
          exact absurd (hp ▸ by simp) ha
    · cases m with
      | nil =>
        cases p with
        | nil => exact Or.inl ⟨before, [], by simp⟩
        | cons b p =>
          obtain ⟨rfl, -⟩ := List.cons.inj hm
          exact absurd List.mem_cons_self ha
      | cons b m =>
        obtain ⟨rfl, hafter⟩ := List.cons.inj hm
        exact Or.inr ⟨m, y, by simp [hafter]⟩
  · rintro (h | h)
    · exact h.trans (List.prefix_append _ _).isInfix
    · exact h.trans ((List.suffix_cons _ _).trans (List.suffix_append _ _)).isInfix

end HttpKit.Wire
