import HttpKit.Proofs.Wire.Body
import Mathlib.Data.List.Basic

/-!
# Bodies however their bytes arrive

A source may hand its bytes over in parts of any size, as long as every read gets at least one byte
while there are any and no more than were asked for. Behind the last byte it has ended, or it keeps
its reader waiting. `readBody_of_supplies` says that none of this matters for a body: it is as many
of the bytes as are declared, or all that there are, and what comes after it stays in the source.

## How the argument goes

* a read of such a source leaves one that supplies the bytes that were not read (`Supplies.read`),
  so that what is missing and what is left go down together
* the loop lemma is an induction on the number of bytes that are left, and counts the reads on the
  way (`readParts_counted`)
* the count changes nothing (`readParts_uncounted`)
-/

namespace HttpKit.Wire

variable {σ : Type}

/-! ## Reads that are counted -/

/-- A source with the number of reads that were made of it. -/
structure Counted (σ : Type) where
  source : σ
  reads : Nat

namespace Counted

/-- What a read comes to, counted. -/
def tally (s : Counted σ) (r : Delivery × σ) : Delivery × Counted σ := (r.1, ⟨r.2, s.reads + 1⟩)

theorem eq_of_tally {s s' : Counted σ} {r : Delivery × σ} {d : Delivery}
    (h : s.tally r = (d, s')) : r = (d, s'.source) := by
  simp only [tally, Prod.mk.injEq] at h
  obtain ⟨hd, rfl⟩ := h
  exact Prod.ext hd rfl

instance [Source σ] : Source (Counted σ) where
  readLine limit s := s.tally (Source.readLine limit s.source)
  read count s := s.tally (Source.read count s.source)
  size s := Source.size s.source
  size_readLine h hb := Source.size_readLine (eq_of_tally h) hb
  size_read h hb := Source.size_read (eq_of_tally h) hb

end Counted

variable [Source σ]

theorem Counted.read_eq {count : Nat} {s s' : σ} {d : Delivery}
    (h : Source.read count s = (d, s')) (reads : Nat) :
    Source.read count (Counted.mk s reads) = (d, ⟨s', reads + 1⟩) := by
  show Counted.tally _ _ = _
  rw [tally, h]

/-- **Counting the reads changes nothing.** -/
theorem readParts_uncounted (missing : Nat) (found : List Bytes) (s : σ) (reads : Nat) :
    readParts missing found s
      = ((readParts missing found (Counted.mk s reads)).1,
          (readParts missing found (Counted.mk s reads)).2.source) := by
  induction hn : Source.size s using Nat.strongRecOn generalizing missing found s reads with
  | _ n ih =>
    by_cases h0 : missing = 0
    · rw [h0, readParts_zero, readParts_zero]
    rcases hread : Source.read missing s with ⟨d, s'⟩
    have hcounted := Counted.read_eq hread reads
    cases d with
    | failed fault => rw [readParts_of_failed h0 hread, readParts_of_failed h0 hcounted]
    | timedOut => rw [readParts_of_timedOut h0 hread, readParts_of_timedOut h0 hcounted]
    | data part =>
      rw [readParts_of_data h0 hread, readParts_of_data h0 hcounted]
      split
      · rfl
      · next hpart => exact ih _ (hn ▸ Source.size_read hread hpart) _ _ _ _ rfl

/-! ## Sources that supply bytes -/

/-- What a read of a source may come to that has these bytes left, and what it has left then. -/
inductive Supplied (count : Nat) : Bytes → Delivery → Bytes → Prop where
  /-- Some of the bytes, at most as many as were asked for. -/
  | part {part rest : Bytes} (hne : part ≠ []) (hle : part.length ≤ count) :
    Supplied count (part ++ rest) (.data part) rest
  /-- Nothing, where nothing is left. -/
  | ended : Supplied count [] (.data []) []
  /-- A timeout, where nothing is left. -/
  | timedOut : Supplied count [] .timedOut []

/-- The first bytes may come, or nothing where there are none. -/
theorem Supplied.take {count n : Nat} (hpos : 0 < n) (hle : n ≤ count) (bytes : Bytes) :
    Supplied count bytes (.data (bytes.take n)) (bytes.drop n) := by
  by_cases hempty : bytes = []
  · subst hempty
    simpa using Supplied.ended
  · have hpart : Supplied count (bytes.take n ++ bytes.drop n) (.data (bytes.take n))
        (bytes.drop n) :=
      .part (by simp [hempty, Nat.ne_of_gt hpos]) (Nat.le_trans (List.length_take_le n bytes) hle)
    rwa [List.take_append_drop] at hpart

/-- Whether a source supplies these bytes in whatever parts, and nothing after them, as long as
never more than `most` are asked for at once: there is a way to say what sources have left that
every read agrees with. -/
def Supplies (most : Nat) (s : σ) (bytes : Bytes) : Prop :=
  ∃ left : σ → Bytes → Prop, left s bytes ∧
    ∀ s bytes, left s bytes → ∀ count, 0 < count → count ≤ most →
      ∃ rest, Supplied count bytes (Source.read count s).1 rest ∧ left (Source.read count s).2 rest

namespace Supplies

variable {most : Nat} {s : σ} {bytes : Bytes}

/-- A read gets some of the bytes, and the others are supplied after it. -/
theorem read (h : Supplies most s bytes) {count : Nat} (hpos : 0 < count) (hmost : count ≤ most) :
    ∃ rest, Supplied count bytes (Source.read count s).1 rest
      ∧ Supplies most (Source.read count s).2 rest := by
  obtain ⟨left, hleft, hread⟩ := h
  obtain ⟨rest, hsupplied, hrest⟩ := hread s bytes hleft count hpos hmost
  exact ⟨rest, hsupplied, left, hrest, hread⟩

/-- **A source supplies one sequence of bytes**, if any can be asked for. -/
theorem unique (hmost : 0 < most) {bytes' : Bytes} (h : Supplies most s bytes)
    (h' : Supplies most s bytes') : bytes = bytes' := by
  induction hn : bytes.length using Nat.strongRecOn generalizing s bytes bytes' with
  | _ n ih =>
    obtain ⟨rest, hsupplied, hrest⟩ := h.read Nat.one_pos hmost
    obtain ⟨rest', hsupplied', hrest'⟩ := h'.read Nat.one_pos hmost
    generalize Source.read 1 s = r at hsupplied hsupplied' hrest hrest'
    obtain ⟨d, next⟩ := r
    cases hsupplied with
    | @part part rest hne hle =>
      have hlt : rest.length < n := by
        have := List.length_pos_of_ne_nil hne
        rw [← hn, List.length_append]
        omega
      cases hsupplied' with
      | part _ _ => rw [ih _ hlt hrest hrest' rfl]
      | ended => exact absurd rfl hne
    | ended =>
      cases hsupplied' with
      | part hne _ => exact absurd rfl hne
      | ended => rfl
    | timedOut =>
      cases hsupplied' with
      | timedOut => rfl

/-- Sources that supply the same bytes have the same left. -/
theorem transfer {τ : Type} [Source τ] {t : τ} (hs : Supplies most s bytes)
    (ht : Supplies most t bytes) {left : Bytes} (h : Supplies most s left) :
    Supplies most t left := by
  rcases Nat.eq_zero_or_pos most with rfl | hmost
  · -- No byte can be asked for, so nothing is said of any bytes.
    exact ⟨fun _ _ => True, trivial, fun _ _ _ _ hpos hle => absurd hpos (by omega)⟩
  · exact h.unique hmost hs ▸ ht

end Supplies

/-- Memory supplies its bytes at once. -/
theorem supplies_memory {most : Nat} (h : most < countBound) (bytes : Bytes) :
    Supplies most (Memory.mk bytes) bytes := by
  refine ⟨fun m bytes => m.rest = bytes, rfl, ?_⟩
  rintro ⟨bytes⟩ _ rfl count hpos hmost
  rw [read_memory_body (by omega)]
  exact ⟨_, .take hpos (Nat.le_refl count) bytes, rfl⟩

/-! ## Bytes in parts -/

/-- Parts without the first bytes of them, and without empty parts before the next byte. -/
def dropBytes : Nat → List Bytes → List Bytes
  | _, [] => []
  | n, part :: more =>
    if n < part.length then part.drop n :: more else dropBytes (n - part.length) more

theorem flatten_dropBytes (n : Nat) (parts : List Bytes) :
    (dropBytes n parts).flatten = parts.flatten.drop n := by
  induction parts generalizing n with
  | nil => simp [dropBytes]
  | cons part more ih =>
    rw [dropBytes, List.flatten_cons, List.drop_append]
    split
    · next h => simp [Nat.sub_eq_zero_of_le (Nat.le_of_lt h)]
    · next h => rw [ih, List.drop_of_length_le (Nat.le_of_not_lt h), List.nil_append]

theorem ne_nil_of_dropBytes {n : Nat} {parts more : List Bytes} {part : Bytes}
    (h : dropBytes n parts = part :: more) : part ≠ [] := by
  induction parts generalizing n with
  | nil => cases h
  | cons first parts ih =>
    rw [dropBytes] at h
    split at h
    · next hn =>
      cases h
      simpa using hn
    · exact ih h

/-- Bytes that arrive in parts. Behind the last one the source has ended, or keeps its reader
waiting. -/
structure Parts where
  rest : List Bytes
  waits : Bool

namespace Parts

/-- The part that the next byte is in. -/
def first (p : Parts) : Bytes := (dropBytes 0 p.rest).headD []

/-- Delivers the first `n` bytes. -/
def deliver (n : Nat) (p : Parts) : Delivery × Parts :=
  if p.rest.flatten.take n = [] ∧ p.waits then (.timedOut, p)
  else (.data (p.rest.flatten.take n), ⟨dropBytes n p.rest, p.waits⟩)

theorem size_deliver {n : Nat} {p p' : Parts} {bytes : Bytes}
    (h : p.deliver n = (.data bytes, p')) (hb : bytes ≠ []) :
    p'.rest.flatten.length < p.rest.flatten.length := by
  unfold deliver at h
  split at h
  · cases h
  · cases h
    rw [flatten_dropBytes]
    exact Memory.size_take (m := ⟨p.rest.flatten⟩) rfl hb

/-- A line is put together from parts, other reads get no more than one. -/
instance : Source Parts where
  readLine limit p :=
    let line := lineLength p.rest.flatten
    p.deliver (if limit < 0 then line else min limit.toNat line)
  read count p := p.deliver (min count p.first.length)
  size p := p.rest.flatten.length
  size_readLine := size_deliver
  size_read := size_deliver

theorem read_eq (count : Nat) (p : Parts) :
    Source.read count p = p.deliver (min count p.first.length) := rfl

/-- Where bytes are left, the next one is in a part. -/
theorem first_ne_nil {p : Parts} (h : p.rest.flatten ≠ []) : p.first ≠ [] := by
  rw [← List.drop_zero (l := p.rest.flatten), ← flatten_dropBytes] at h
  rw [first]
  cases hparts : dropBytes 0 p.rest with
  | nil => simp [hparts] at h
  | cons part more => exact ne_nil_of_dropBytes hparts

/-- **Bytes in parts are supplied, however they are cut.** -/
theorem supplies (most : Nat) (p : Parts) : Supplies most p p.rest.flatten := by
  refine ⟨fun p bytes => p.rest.flatten = bytes, rfl, ?_⟩
  rintro p _ rfl count hpos _
  rw [read_eq]
  by_cases hempty : p.rest.flatten = []
  · refine ⟨[], ?_, ?_⟩ <;> unfold deliver <;> cases p.waits
    all_goals simp [hempty, flatten_dropBytes, Supplied.ended, Supplied.timedOut]
  · have hn : 0 < min count p.first.length :=
      Nat.lt_min.mpr ⟨hpos, List.length_pos_of_ne_nil (first_ne_nil hempty)⟩
    have htake : p.rest.flatten.take (min count p.first.length) ≠ [] := by
      simp [hempty, Nat.ne_of_gt hn]
    rw [deliver, if_neg fun h => htake h.1]
    exact ⟨_, .take hn (Nat.min_le_left _ _) _, flatten_dropBytes _ _⟩

end Parts

/-! ## The body loop -/

/-- **The loop takes as many bytes as are missing, or all that there are.** Every read but the last
gets a byte, and none is made when nothing is missing. -/
theorem readParts_counted {most : Nat} {s : σ} {bytes : Bytes} (h : Supplies most s bytes)
    {missing : Nat} (hmost : missing ≤ most) (found : List Bytes) (reads : Nat) :
    ∃ s' more, readParts missing found (Counted.mk s reads)
        = (.ok (found.reverse.flatten ++ bytes.take missing), ⟨s', reads + more⟩)
      ∧ Supplies most s' (bytes.drop missing) ∧ more ≤ min missing (bytes.length + 1) := by
  induction hn : bytes.length using Nat.strongRecOn
    generalizing s bytes missing found reads with
  | _ n ih =>
    by_cases h0 : missing = 0
    · subst h0
      refine ⟨s, 0, ?_, by simpa using h, by omega⟩
      rw [readParts_zero]
      simp
    obtain ⟨rest, hsupplied, hrest⟩ := h.read (Nat.pos_of_ne_zero h0) hmost
    rcases hread : Source.read missing s with ⟨d, next⟩
    have hcounted := Counted.read_eq hread reads
    rw [hread] at hsupplied hrest
    cases hsupplied with
    | @part part rest hne hle =>
      have hpos := List.length_pos_of_ne_nil hne
      have hlength : part.length + rest.length = n := by rw [← hn, List.length_append]
      have hmissing : missing - part.length ≤ most := by omega
      obtain ⟨s', more, heq, hleft, hmore⟩ :=
        ih rest.length (by omega) hrest hmissing (part :: found) (reads + 1) rfl
      refine ⟨s', more + 1, ?_, ?_, by omega⟩
      · rw [readParts_of_data h0 hcounted, if_neg hne, heq, List.take_append,
          List.take_of_length_le hle, Nat.add_right_comm reads 1 more]
        simp [Nat.add_assoc]
      · rwa [List.drop_append, List.drop_of_length_le hle, List.nil_append]
    | ended =>
      refine ⟨next, 1, ?_, by simpa using hrest, by omega⟩
      rw [readParts_of_data h0 hcounted, if_pos rfl]
      simp
    | timedOut =>
      refine ⟨next, 1, ?_, by simpa using hrest, by omega⟩
      rw [readParts_of_timedOut h0 hcounted]
      simp

/-! ## Bodies -/

/-- Whether a body of a length takes that many of the bytes that a source supplies, or all of them,
and leaves the others in the source, with at most one read for every byte that it takes and one for
the end. -/
structure TakesBody (most length : Nat) (s : σ) (bytes : Bytes) : Prop where
  body : (readBody length s).1 = .ok (bytes.take length)
  rest : Supplies most (readBody length s).2 (bytes.drop length)
  reads : (readBody length (Counted.mk s 0)).2.reads ≤ min length (bytes.length + 1)

theorem Supplies.takesBody {most length : Nat} {s : σ} {bytes : Bytes} (h : Supplies most s bytes)
    (hmost : length ≤ most) : TakesBody most length s bytes := by
  obtain ⟨s', more, heq, hleft, hmore⟩ := readParts_counted h hmost [] 0
  have hplain : readBody length s = (.ok (bytes.take length), s') := by
    rw [readBody, readParts_uncounted length [] s 0, heq]
    rfl
  refine ⟨by rw [hplain], by rwa [hplain], ?_⟩
  rw [readBody, heq]
  simpa using hmore

/-- **A body does not depend on how its bytes arrive.** From any source that supplies the bytes, in
whatever parts, the body of a length is as many of them as that, or all that there are, after no
more reads than that; the later bytes are left in the source. So two sources that supply the same
bytes give the same body, and are left with the same bytes to supply. -/
theorem readBody_of_supplies {τ : Type} [Source τ] {most length : Nat} {s : σ} {t : τ}
    {bytes : Bytes} (hs : Supplies most s bytes) (ht : Supplies most t bytes)
    (hmost : length ≤ most) :
    TakesBody most length s bytes ∧ TakesBody most length t bytes
      ∧ (readBody length s).1 = (readBody length t).1
      ∧ ∀ left, Supplies most (readBody length s).2 left
        ↔ Supplies most (readBody length t).2 left := by
  have hs := hs.takesBody hmost
  have ht := ht.takesBody hmost
  exact ⟨hs, ht, by rw [hs.body, ht.body],
    fun left => ⟨hs.rest.transfer ht.rest, ht.rest.transfer hs.rest⟩⟩

/-- Four bytes out of memory, and out of parts with a timeout behind them. -/
theorem readBody_cut :
    let bytes : Bytes := [1, 2, 3, 4, 5, 6]
    let m := Memory.mk bytes
    let p := Parts.mk [[1], [2, 3, 4, 5], [], [6]] true
    Supplies 9 m bytes ∧ Supplies 9 p bytes ∧ 4 ≤ 9
      ∧ TakesBody 9 4 m bytes ∧ TakesBody 9 4 p bytes ∧ (readBody 4 m).1 = (readBody 4 p).1
      ∧ ∀ left, Supplies 9 (readBody 4 m).2 left ↔ Supplies 9 (readBody 4 p).2 left := by
  intro bytes m p
  have hm : Supplies 9 m bytes := supplies_memory (by decide) bytes
  have hp : Supplies 9 p bytes := p.supplies 9
  exact ⟨hm, hp, by decide, readBody_of_supplies hm hp (by decide)⟩

end HttpKit.Wire
