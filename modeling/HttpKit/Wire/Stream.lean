import HttpKit.Wire.Source

/-!
# Streams of a peer

What a connection delivers: bytes that are all there, or a script.
-/

namespace HttpKit

/-- The stream of a connection. -/
inductive Stream where
  | memory (m : Memory)
  | script (s : Script)
  deriving DecidableEq

namespace Stream

/-- Reads up to the end of a line. -/
def readLine (limit : Int) : Stream → Delivery × Stream
  | memory m => let (d, m) := m.readLine limit; (d, memory m)
  | script s => let (d, s) := s.next; (d, script s)

/-- Reads up to a count. -/
def read (count : Nat) : Stream → Delivery × Stream
  | memory m => let (d, m) := m.read count; (d, memory m)
  | script s => let (d, s) := s.next; (d, script s)

/-- What bounds the reads to come. -/
def size : Stream → Nat
  | memory m => Source.size m
  | script s => Source.size s

instance : Source Stream where
  readLine := readLine
  read := read
  size := size
  size_readLine := by
    intro limit s s' bytes h hb
    cases s with
    | memory m =>
      simp only [readLine, Prod.mk.injEq] at h
      obtain ⟨hd, rfl⟩ := h
      exact Source.size_readLine (Prod.ext hd rfl) hb
    | script s =>
      simp only [readLine, Prod.mk.injEq] at h
      obtain ⟨hd, rfl⟩ := h
      exact Script.size_next (Prod.ext hd rfl) hb
  size_read := by
    intro count s s' bytes h hb
    cases s with
    | memory m =>
      simp only [read, Prod.mk.injEq] at h
      obtain ⟨hd, rfl⟩ := h
      exact Source.size_read (Prod.ext hd rfl) hb
    | script s =>
      simp only [read, Prod.mk.injEq] at h
      obtain ⟨hd, rfl⟩ := h
      exact Script.size_next (Prod.ext hd rfl) hb

end Stream

end HttpKit
