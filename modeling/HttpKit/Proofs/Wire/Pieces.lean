import HttpKit.Wire.Line

/-!
# Bytes cut at line feeds

A sequence of bytes is cut into pieces, each of which ends at a line feed; only the last one may
lack it. Reading a line asks for one byte more than the limit and then looks for a line feed at the
end, so it has to be shown that this accepts exactly the pieces that are not overlong. The argument
has two sides, as in `read_of_terminated` and `read_of_overlong`:

* the line feed of a piece that keeps to the limit is within the bytes asked for
* no line feed is among those bytes when the piece is overlong

`read_of_pieces` puts both together.
-/

namespace HttpKit.Wire

/-! ## Pieces -/

/-- The pieces of a sequence of bytes, each with the line feed that ends it. -/
def pieces : Bytes → List Bytes
  | [] => []
  | b :: rest =>
    if b = lineFeed then [b] :: pieces rest
    else
      match pieces rest with
      | [] => [[b]]
      | piece :: more => (b :: piece) :: more

/-- A piece without the line feed that ends it. -/
def unfed (piece : Bytes) : Bytes :=
  if piece.getLast? = some lineFeed then piece.dropLast else piece

/-- Whether a piece is longer than the limit, its line feed aside. -/
def isOverlong (limit : Nat) (piece : Bytes) : Bool := limit < (unfed piece).length

/-- The line that a piece is: without its line feed and without one carriage return before it. -/
def lineOf (piece : Bytes) : String :=
  let content := unfed piece
  ofUtf8 (if content.getLast? = some carriageReturn then content.dropLast else content)

theorem lineOf_eq_chomp (piece : Bytes) : lineOf piece = ofUtf8 (Line.chomp piece) := rfl

theorem pieces_append_cons {content : Bytes} (h : lineFeed ∉ content) (rest : Bytes) :
    pieces (content ++ lineFeed :: rest) = (content ++ [lineFeed]) :: pieces rest := by
  induction content with
  | nil => simp [pieces]
  | cons b content ih =>
    have hb : b ≠ lineFeed := fun e => h (e ▸ List.mem_cons_self)
    rw [List.cons_append, pieces, if_neg hb, ih fun hm => h (List.mem_cons_of_mem _ hm)]
    rfl

theorem pieces_of_not_mem {content : Bytes} (h : lineFeed ∉ content) (hne : content ≠ []) :
    pieces content = [content] := by
  induction content with
  | nil => exact absurd rfl hne
  | cons b content ih =>
    have hb : b ≠ lineFeed := fun e => h (e ▸ List.mem_cons_self)
    rw [pieces, if_neg hb]
    cases content with
    | nil => rfl
    | cons c content => rw [ih (fun hm => h (List.mem_cons_of_mem _ hm)) (by simp)]

/-- Bytes are none, or begin with a piece that a line feed ends, or are a piece without one. -/
theorem pieces_cases (bytes : Bytes) :
    bytes = [] ∨ (∃ content rest, lineFeed ∉ content ∧ bytes = content ++ lineFeed :: rest)
      ∨ (bytes ≠ [] ∧ lineFeed ∉ bytes) := by
  by_cases hm : lineFeed ∈ bytes
  · obtain ⟨content, rest, rfl, hc⟩ := List.eq_append_cons_of_mem hm
    exact Or.inr (Or.inl ⟨content, rest, hc, rfl⟩)
  · by_cases hb : bytes = []
    · exact Or.inl hb
    · exact Or.inr (Or.inr ⟨hb, hm⟩)

@[simp]
theorem pieces_eq_nil_iff {bytes : Bytes} : pieces bytes = [] ↔ bytes = [] := by
  rcases pieces_cases bytes with rfl | ⟨content, rest, hc, rfl⟩ | ⟨hb, hm⟩
  · simp [pieces]
  · simp [pieces_append_cons hc]
  · simp [pieces_of_not_mem hm hb, hb]

/-- What follows the first piece is cut into the other pieces. -/
theorem pieces_tail {bytes piece : Bytes} {more : List Bytes} (h : pieces bytes = piece :: more) :
    bytes = piece ++ more.flatten ∧ pieces more.flatten = more := by
  induction more generalizing bytes piece with
  | nil =>
    rcases pieces_cases bytes with rfl | ⟨content, rest, hc, rfl⟩ | ⟨hb, hm⟩
    · simp [pieces] at h
    · rw [pieces_append_cons hc] at h
      simp only [List.cons.injEq, pieces_eq_nil_iff] at h
      obtain ⟨rfl, rfl⟩ := h
      simp [pieces]
    · rw [pieces_of_not_mem hm hb] at h
      simp only [List.cons.injEq, and_true] at h
      simp [pieces, h]
  | cons next more ih =>
    rcases pieces_cases bytes with rfl | ⟨content, rest, hc, rfl⟩ | ⟨hb, hm⟩
    · simp [pieces] at h
    · rw [pieces_append_cons hc] at h
      simp only [List.cons.injEq] at h
      obtain ⟨rfl, hrest⟩ := h
      have hflat : rest = (next :: more).flatten := (ih hrest).1
      refine ⟨by simp [hflat], by rw [← hflat, hrest]⟩
    · rw [pieces_of_not_mem hm hb] at h
      simp at h

@[simp]
theorem unfed_append_lineFeed (content : Bytes) : unfed (content ++ [lineFeed]) = content := by
  simp [unfed]

theorem getLast?_ne_of_not_mem {content : Bytes} (h : lineFeed ∉ content) :
    content.getLast? ≠ some lineFeed :=
  fun hl => h (List.mem_of_getLast? hl)

theorem unfed_of_not_mem {content : Bytes} (h : lineFeed ∉ content) : unfed content = content := by
  rw [unfed, if_neg (getLast?_ne_of_not_mem h)]

/-- No line feed is within a piece. -/
theorem lineFeed_not_mem_unfed {ps : List Bytes} : ∀ {bytes : Bytes}, pieces bytes = ps →
    ∀ piece ∈ ps, lineFeed ∉ unfed piece := by
  induction ps with
  | nil => simp
  | cons first more ih =>
    intro bytes h
    refine List.forall_mem_cons.mpr ⟨?_, ih (pieces_tail h).2⟩
    rcases pieces_cases bytes with rfl | ⟨content, rest, hc, rfl⟩ | ⟨hb, hm⟩
    · simp [pieces] at h
    · rw [pieces_append_cons hc, List.cons.injEq] at h
      rw [← h.1, unfed_append_lineFeed]
      exact hc
    · rw [pieces_of_not_mem hm hb, List.cons.injEq] at h
      rw [← h.1, unfed_of_not_mem hm]
      exact hm

/-! ## Reading a line -/

theorem lineLength_append_cons {content : Bytes} (h : lineFeed ∉ content) (rest : Bytes) :
    lineLength (content ++ lineFeed :: rest) = content.length + 1 := by
  have hidx : (content ++ lineFeed :: rest).findIdx? (· = lineFeed) = some content.length := by
    rw [List.findIdx?_append, List.findIdx?_eq_none_iff.mpr]
    · simp [List.findIdx?_cons]
    · intro b hb
      simpa using fun e : b = lineFeed => h (e ▸ hb)
  simp [lineLength, hidx]

theorem lineLength_of_not_mem {content : Bytes} (h : lineFeed ∉ content) :
    lineLength content = content.length := by
  have hidx : content.findIdx? (· = lineFeed) = none := by
    rw [List.findIdx?_eq_none_iff]
    intro b hb
    simpa using fun e : b = lineFeed => h (e ▸ hb)
  simp [lineLength, hidx]

section Read

variable {limit : Nat} (hlimit : limit + 1 < countBound)
include hlimit

/-- A limit that can be counted bounds what is read. -/
theorem readLine_memory (bytes : Bytes) :
    Source.readLine ((limit : Int) + 1) (Memory.mk bytes)
      = (.data (bytes.take (min (limit + 1) (lineLength bytes))),
          ⟨bytes.drop (min (limit + 1) (lineLength bytes))⟩) := by
  show Memory.readLine _ _ = _
  rw [Memory.readLine, if_neg (by omega), if_neg (by omega)]
  rw [show ((limit : Int) + 1).toNat = limit + 1 by omega]
  rfl

theorem read_memory (bytes : Bytes) :
    Line.read (limit : Int) (Memory.mk bytes)
      = (Line.ofBytes limit (bytes.take (min (limit + 1) (lineLength bytes))),
          ⟨bytes.drop (min (limit + 1) (lineLength bytes))⟩) := by
  rw [Line.read, readLine_memory hlimit]
  rfl

theorem read_nil : Line.read (limit : Int) (Memory.mk []) = (.ended, ⟨[]⟩) := by
  rw [read_memory hlimit]
  simp [Line.ofBytes]

/-- A piece that a line feed ends is read when it keeps to the limit. -/
theorem read_of_terminated {content : Bytes} (hc : lineFeed ∉ content)
    (hl : content.length ≤ limit) (rest : Bytes) :
    Line.read (limit : Int) (Memory.mk (content ++ lineFeed :: rest))
      = (.text (lineOf (content ++ [lineFeed])), ⟨rest⟩) := by
  have hmin : min (limit + 1) (content.length + 1) = (content ++ [lineFeed]).length := by
    simp only [List.length_append, List.length_singleton]
    omega
  rw [read_memory hlimit, lineLength_append_cons hc, hmin,
    show content ++ lineFeed :: rest = (content ++ [lineFeed]) ++ rest by simp,
    List.take_left, List.drop_left]
  simp [Line.ofBytes, lineOf_eq_chomp]

/-- A piece at the end of the bytes is read when it keeps to the limit. -/
theorem read_of_last {content : Bytes} (hc : lineFeed ∉ content) (hne : content ≠ [])
    (hl : content.length ≤ limit) :
    Line.read (limit : Int) (Memory.mk content) = (.text (lineOf content), ⟨[]⟩) := by
  rw [read_memory hlimit, lineLength_of_not_mem hc, Nat.min_eq_right (by omega),
    List.take_length, List.drop_length, Line.ofBytes, if_neg (by simpa using hne),
    if_neg (by omega), lineOf_eq_chomp]

/-- Bytes that go beyond the limit without a line feed are too many. -/
theorem read_of_overlong {content : Bytes} (hc : lineFeed ∉ content)
    (hl : limit < content.length) (tail : Bytes)
    (hlen : content.length ≤ lineLength (content ++ tail)) :
    (Line.read (limit : Int) (Memory.mk (content ++ tail))).1
      = .failed (.malformed .lineTooLong) := by
  have htake : (content ++ tail).take (limit + 1) = content.take (limit + 1) :=
    List.take_append_of_le_length (by omega)
  have hlast : (content.take (limit + 1)).getLast? ≠ some lineFeed :=
    getLast?_ne_of_not_mem fun hm => hc (List.mem_of_mem_take hm)
  have hlong : (limit : Int) < ((content.take (limit + 1)).length : Nat) := by
    rw [List.length_take]
    omega
  have hne : (content.take (limit + 1)).isEmpty = false := by
    rw [List.isEmpty_eq_false_iff, ← List.length_pos_iff]
    omega
  rw [read_memory hlimit, Nat.min_eq_left (by omega), htake, Line.ofBytes]
  simp only [hne, Bool.false_eq_true, if_false]
  rw [if_pos ⟨hlong, hlast⟩]

/-- **Reading a line takes the first piece, unless the piece is overlong.** -/
theorem read_of_pieces {bytes piece : Bytes} {more : List Bytes}
    (h : pieces bytes = piece :: more) :
    if isOverlong limit piece then
      (Line.read (limit : Int) (Memory.mk bytes)).1 = .failed (.malformed .lineTooLong)
    else Line.read (limit : Int) (Memory.mk bytes) = (.text (lineOf piece), ⟨more.flatten⟩) := by
  rcases pieces_cases bytes with rfl | ⟨content, rest, hc, rfl⟩ | ⟨hb, hm⟩
  · simp [pieces] at h
  · rw [pieces_append_cons hc] at h
    simp only [List.cons.injEq] at h
    obtain ⟨rfl, rfl⟩ := h
    have hrest : (pieces rest).flatten = rest := by
      have htail := (pieces_tail (pieces_append_cons hc rest)).1
      simpa using htail.symm
    simp only [isOverlong, unfed_append_lineFeed, decide_eq_true_eq]
    split
    · next hl =>
      refine read_of_overlong hlimit hc hl _ ?_
      rw [lineLength_append_cons hc]
      omega
    · next hl => rw [read_of_terminated hlimit hc (by omega), hrest]
  · rw [pieces_of_not_mem hm hb] at h
    simp only [List.cons.injEq] at h
    obtain ⟨rfl, rfl⟩ := h
    simp only [isOverlong, unfed_of_not_mem hm, decide_eq_true_eq]
    split
    · next hl =>
      have hread := read_of_overlong hlimit hm hl [] (by simp [lineLength_of_not_mem hm])
      simpa using hread
    · next hl => simpa using read_of_last hlimit hm hb (by omega)

end Read

/-- A limit that cannot be counted makes every read fail. -/
theorem read_of_countBound_le {limit : Nat} (h : countBound ≤ limit + 1) (bytes : Bytes) :
    (Line.read (limit : Int) (Memory.mk bytes)).1 = .failed (.read .countTooLarge) := by
  rw [Line.read]
  show Line.ofDelivery _ (Memory.readLine _ _).1 = _
  rw [Memory.readLine, if_pos (Or.inr (by omega))]
  rfl

end HttpKit.Wire
