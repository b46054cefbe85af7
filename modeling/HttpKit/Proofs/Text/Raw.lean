import HttpKit.Proofs.Text.Split
import HttpKit.Text.Raw

/-!
# Texts with and without surrogates

A text has bytes where it holds no surrogate (`bytes?_eq_none_iff`). Then it is a text of characters
(`exists_ofString`), and the bytes are those of its characters (`bytes?_ofString`). What is done to
a text of characters is done to its characters: `lower_ofString`, `trim_ofString`.
-/

namespace HttpKit.RawText

/-- Whether a text is of characters alone. -/
def Encodable (t : RawText) : Prop := ∀ p ∈ t.points, p.char?.isSome = true

instance (t : RawText) : Decidable t.Encodable :=
  inferInstanceAs (Decidable (∀ p ∈ t.points, p.char?.isSome = true))

/-- The text without the blanks at its ends. A surrogate is no blank. -/
def trim (t : RawText) : RawText := ⟨Text.trimBy (fun p => p.char?.any Text.isBlank) t.points⟩

variable {t : RawText}

/-! ## Texts of characters -/

theorem ofString_injective : Function.Injective ofString := by
  intro a b h
  have hchars : a.toList.map CodePoint.char = b.toList.map CodePoint.char := congrArg points h
  exact String.toList_inj.mp (List.map_injective_iff.mpr (fun _ _ => CodePoint.char.inj) hchars)

theorem points_append (a b : RawText) : (a ++ b).points = a.points ++ b.points := rfl

theorem append_assoc (a b c : RawText) : a ++ b ++ c = a ++ (b ++ c) :=
  congrArg RawText.mk (List.append_assoc a.points b.points c.points)

theorem ofString_append (a b : String) : ofString (a ++ b) = ofString a ++ ofString b := by
  have hpoints : (ofString (a ++ b)).points = (ofString a ++ ofString b).points := by
    simp [ofString, points_append]
  exact congrArg RawText.mk hpoints

theorem join_map_ofString (texts : List String) :
    join (texts.map ofString) = ofString (String.join texts) := by
  have hpoints : ∀ texts : List String, (texts.map ofString).flatMap points
      = (String.join texts).toList.map .char := by
    intro texts
    induction texts with
    | nil => rfl
    | cons text texts ih =>
      rw [List.map_cons, List.flatMap_cons, ih, String.join_cons, String.toList_append,
        List.map_append]
      rfl
  exact congrArg RawText.mk (hpoints texts)

theorem char_mem_ofString {c : Char} {s : String} :
    .char c ∈ (ofString s).points ↔ c ∈ s.toList := by
  simp [ofString]

/-! ## Bytes -/

theorem encodable_ofString (s : String) : (ofString s).Encodable := by
  intro p hp
  obtain ⟨c, -, rfl⟩ := List.mem_map.mp hp
  rfl

theorem encodable_append {a b : RawText} : (a ++ b).Encodable ↔ a.Encodable ∧ b.Encodable :=
  List.forall_mem_append

theorem encodable_join {texts : List RawText} :
    (join texts).Encodable ↔ ∀ text ∈ texts, text.Encodable := by
  simp only [Encodable, join, List.mem_flatMap]
  exact ⟨fun h text ht p hp => h p ⟨text, ht, hp⟩, fun h p ⟨text, ht, hp⟩ => h text ht p hp⟩

/-- A text without surrogates is one of characters. -/
theorem exists_ofString (h : t.Encodable) : ∃ s, t = ofString s := by
  have hpoints : ∀ points : List CodePoint, (∀ p ∈ points, p.char?.isSome = true) →
      ∃ cs : List Char, points = cs.map .char := by
    intro points hp
    induction points with
    | nil => exact ⟨[], rfl⟩
    | cons p points ih =>
      obtain ⟨cs, hcs⟩ := ih fun q hq => hp q (List.mem_cons_of_mem _ hq)
      cases p with
      | char c => exact ⟨c :: cs, by rw [hcs, List.map_cons]⟩
      | surrogate s => exact absurd (hp _ List.mem_cons_self) Bool.false_ne_true
  obtain ⟨cs, hcs⟩ := hpoints t.points h
  exact ⟨String.ofList cs, congrArg RawText.mk (by rw [hcs, String.toList_ofList])⟩

theorem exists_map_ofString {texts : List RawText} (h : ∀ text ∈ texts, text.Encodable) :
    ∃ lines : List String, texts = lines.map ofString := by
  induction texts with
  | nil => exact ⟨[], rfl⟩
  | cons text texts ih =>
    obtain ⟨line, rfl⟩ := exists_ofString (h text List.mem_cons_self)
    obtain ⟨lines, rfl⟩ := ih fun other ho => h other (List.mem_cons_of_mem _ ho)
    exact ⟨line :: lines, rfl⟩

/-- A pair of texts of characters. -/
def pair (p : String × String) : RawText × RawText := (p.1, p.2)

theorem exists_map_pair {ps : List (RawText × RawText)}
    (h : ∀ p ∈ ps, p.1.Encodable ∧ p.2.Encodable) :
    ∃ pairs : List (String × String), ps = pairs.map pair := by
  induction ps with
  | nil => exact ⟨[], rfl⟩
  | cons p ps ih =>
    obtain ⟨name, value⟩ := p
    obtain ⟨hname, hvalue⟩ := h _ List.mem_cons_self
    obtain ⟨name, rfl⟩ := exists_ofString hname
    obtain ⟨value, rfl⟩ := exists_ofString hvalue
    obtain ⟨pairs, rfl⟩ := ih fun q hq => h q (List.mem_cons_of_mem _ hq)
    exact ⟨(name, value) :: pairs, rfl⟩

theorem string?_ofString (s : String) : (ofString s).string? = some s := by
  have hchars : ∀ cs : List Char, (cs.map CodePoint.char).mapM CodePoint.char? = some cs := by
    intro cs
    induction cs with
    | nil => rfl
    | cons c cs ih =>
      rw [List.map_cons, List.mapM_cons, ih]
      rfl
  rw [string?, ofString, hchars, Option.map_some, String.ofList_toList]

theorem string?_eq_none (h : ¬t.Encodable) : t.string? = none := by
  have hpoints : ∀ points : List CodePoint, (∃ p ∈ points, ¬p.char?.isSome = true) →
      points.mapM CodePoint.char? = none := by
    intro points hp
    induction points with
    | nil => simp at hp
    | cons p points ih =>
      rw [List.mapM_cons]
      cases hc : p.char? with
      | none => rfl
      | some c =>
        have hrest : ∃ q ∈ points, ¬q.char?.isSome = true := by
          obtain ⟨q, hq, hnone⟩ := hp
          rcases List.mem_cons.mp hq with rfl | hq
          · simp [hc] at hnone
          · exact ⟨q, hq, hnone⟩
        rw [ih hrest]
        rfl
  rw [string?, hpoints t.points (by simpa [Encodable] using h)]
  rfl

theorem bytes?_ofString (s : String) : (ofString s).bytes? = some (utf8 s) := by
  rw [bytes?, string?_ofString, Option.map_some]

/-- **A text that holds a surrogate has no bytes.** -/
theorem bytes?_eq_none_iff : t.bytes? = none ↔ ¬t.Encodable := by
  constructor
  · intro h he
    obtain ⟨s, rfl⟩ := exists_ofString he
    simp [bytes?_ofString] at h
  · intro h
    rw [bytes?, string?_eq_none h, Option.map_none]

/-! ## Case and blanks -/

theorem lowerPoints_map_char (run cs : List Char) :
    lowerPoints run (cs.map .char) = (Text.lowerRest [] [] (run.reverse ++ cs)).map .char := by
  induction cs generalizing run with
  | nil => rw [List.map_nil, lowerPoints, List.append_nil]
  | cons c cs ih =>
    rw [List.map_cons, lowerPoints, ih, List.reverse_cons, List.append_assoc,
      List.singleton_append]

/-- **Lower case is that of the characters.** -/
theorem lower_ofString (s : String) : Text.lower (ofString s) = ofString (Text.lower s) := by
  have hpoints : (Text.lower (ofString s)).points = (ofString (Text.lower s)).points := by
    rw [Text.lower_string]
    simp only [ofString, String.toList_ofList]
    exact lowerPoints_map_char [] s.toList
  exact congrArg RawText.mk hpoints

theorem lower_ofString_eq_iff {a b : String} :
    Text.lower (ofString a) = Text.lower (ofString b) ↔ Text.lower a = Text.lower b := by
  rw [lower_ofString, lower_ofString, ofString_injective.eq_iff]

theorem trim_ofString (s : String) : (ofString s).trim = ofString (Text.trim s) := by
  rw [trim, ofString, ofString, Text.trimBy_map, Text.trim, String.toList_ofList]
  rfl

end HttpKit.RawText
