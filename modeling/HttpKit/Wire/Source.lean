import HttpKit.Bytes.Utf8

/-!
# Where bytes come from

A source delivers the bytes of a peer: up to the end of a line, or up to a count. Two sources are
given, bytes in memory and a script of deliveries. Main statements: a delivery of bytes leaves
fewer of them, which is what ends every loop that reads.
-/

namespace HttpKit

/-- Why a read fails. -/
inductive ReadFault where
  /-- The connection broke. -/
  | broken
  /-- The count is beyond what can be asked for. -/
  | countTooLarge
  deriving DecidableEq, Repr

/-- What a read comes to. Empty data is the end of the source. -/
inductive Delivery where
  | data (bytes : Bytes)
  | timedOut
  | failed (fault : ReadFault)
  deriving DecidableEq

/-- A source of bytes. `size` bounds what it can still deliver. -/
class Source (σ : Type) where
  /-- Reads up to the end of a line, at most `limit` bytes. -/
  readLine (limit : Int) (s : σ) : Delivery × σ
  /-- Reads at most `count` bytes. -/
  read (count : Nat) (s : σ) : Delivery × σ
  size (s : σ) : Nat
  size_readLine {limit : Int} {s s' : σ} {bytes : Bytes} :
    readLine limit s = (.data bytes, s') → bytes ≠ [] → size s' < size s
  size_read {count : Nat} {s s' : σ} {bytes : Bytes} :
    read count s = (.data bytes, s') → bytes ≠ [] → size s' < size s

/-- The byte that ends a line. -/
def lineFeed : UInt8 := 0x0A

/-- The byte that may stand before the end of a line. -/
def carriageReturn : UInt8 := 0x0D

/-- The number of bytes up to the end of the first line, its line feed included. -/
def lineLength (bytes : Bytes) : Nat :=
  match bytes.findIdx? (· = lineFeed) with
  | some i => i + 1
  | none => bytes.length

/-- The first count that no read of a memory takes. -/
def countBound : Nat := 0x8000000000000000

/-- Bytes in memory that have not been read. -/
structure Memory where
  rest : Bytes
  deriving DecidableEq

namespace Memory

/-- Takes the first `n` bytes. -/
def take (n : Nat) (m : Memory) : Delivery × Memory := (.data (m.rest.take n), ⟨m.rest.drop n⟩)

/-- A count below zero is no limit. -/
def readLine (limit : Int) (m : Memory) : Delivery × Memory :=
  if limit < -countBound ∨ countBound ≤ limit then (.failed .countTooLarge, m)
  else if limit < 0 then m.take (lineLength m.rest)
  else m.take (min limit.toNat (lineLength m.rest))

/-- Reads as much as is asked for and there. -/
def read (count : Nat) (m : Memory) : Delivery × Memory :=
  if countBound ≤ count then (.failed .countTooLarge, m) else m.take count

/-- Bytes that were taken are gone. -/
theorem size_take {n : Nat} {m m' : Memory} {bytes : Bytes} (h : m.take n = (.data bytes, m'))
    (hb : bytes ≠ []) : m'.rest.length < m.rest.length := by
  simp only [take, Prod.mk.injEq, Delivery.data.injEq] at h
  obtain ⟨rfl, rfl⟩ := h
  have hn : 0 < n ∧ 0 < m.rest.length := by
    constructor <;> refine Nat.pos_of_ne_zero fun h0 => hb ?_
    · simp [h0]
    · simp [List.length_eq_zero_iff.1 h0]
  simp only [List.length_drop]
  omega

instance : Source Memory where
  readLine := readLine
  read := read
  size m := m.rest.length
  size_readLine := by
    intro limit s s' bytes h hb
    simp only [readLine] at h
    split at h
    · simp at h
    · split at h <;> exact size_take h hb
  size_read := by
    intro count s s' bytes h hb
    simp only [read] at h
    split at h
    · simp at h
    · exact size_take h hb

end Memory

/-- A source that delivers what is written down, one item for every read and whatever its limit.
When nothing is left it has ended. -/
structure Script where
  rest : List Delivery
  deriving DecidableEq

namespace Script

/-- Delivers the next item. -/
def next (s : Script) : Delivery × Script :=
  match s.rest with
  | [] => (.data [], s)
  | d :: rest => (d, ⟨rest⟩)

/-- An item that was delivered is gone. -/
theorem size_next {s s' : Script} {bytes : Bytes} (h : s.next = (.data bytes, s'))
    (hb : bytes ≠ []) : s'.rest.length < s.rest.length := by
  unfold next at h
  split at h
  · simp only [Prod.mk.injEq, Delivery.data.injEq] at h
    exact absurd h.1.symm hb
  · rename_i d rest hr
    simp only [Prod.mk.injEq] at h
    obtain ⟨_, rfl⟩ := h
    simp [hr]

instance : Source Script where
  readLine _ := next
  read _ := next
  size s := s.rest.length
  size_readLine := size_next
  size_read := size_next

end Script

end HttpKit
