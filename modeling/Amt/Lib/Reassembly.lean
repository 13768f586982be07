import Mathlib

/-!
# Reassembly by offset

A sequence is cut into pieces that each know their offset, the pieces arrive in any order
and possibly more than once, and a receiver writes each of them into a buffer.

* `place` writes one piece; it reads like the piece inside its range and like the buffer
  outside (`getElem?_place`).
* `reassemble` sizes a buffer by the furthest end and writes all pieces into it.

`reassemble_eq`: pieces of one sequence that together cover it give that sequence back.
Nothing is asked of their order, and they may overlap.
-/

namespace Amt

/-- A part of a sequence, with its offset. -/
structure Piece (β : Type*) where
  offset : ℕ
  data : List β

variable {β : Type*}

namespace Piece

/-- The first position behind the piece. -/
def stop (piece : Piece β) : ℕ := piece.offset + piece.data.length

def Covers (piece : Piece β) (i : ℕ) : Prop := piece.offset ≤ i ∧ i < piece.stop

/-- The piece was cut from `whole`. -/
structure IsOf (piece : Piece β) (whole : List β) : Prop where
  stop_le : piece.stop ≤ whole.length
  data_eq : piece.data = (whole.take piece.stop).drop piece.offset

/-- Cutting a piece from a sequence. -/
def cut (whole : List β) (offset stop : ℕ) : Piece β :=
  ⟨offset, (whole.take stop).drop offset⟩

theorem stop_cut {whole : List β} {offset stop : ℕ} (hoffset : offset ≤ stop)
    (hstop : stop ≤ whole.length) : (cut whole offset stop).stop = stop := by
  simp only [Piece.stop, cut, List.length_drop, List.length_take]
  omega

theorem isOf_cut {whole : List β} {offset stop : ℕ} (hoffset : offset ≤ stop)
    (hstop : stop ≤ whole.length) : (cut whole offset stop).IsOf whole where
  stop_le := by rwa [stop_cut hoffset hstop]
  data_eq := by
    rw [stop_cut hoffset hstop]
    rfl

/-- What a piece holds is what the sequence holds there. -/
theorem IsOf.getElem?_data {piece : Piece β} {whole : List β} (h : piece.IsOf whole) {i : ℕ}
    (hi : piece.Covers i) : piece.data[i - piece.offset]? = whole[i]? := by
  rw [h.data_eq, List.getElem?_drop, List.getElem?_take_of_lt]
  · congr 1
    have := hi.1
    omega
  · have := hi.1
    have := hi.2
    omega

end Piece

/-! ## Writing pieces into a buffer -/

/-- Write the piece into the buffer. -/
def place (buffer : List β) (piece : Piece β) : List β :=
  buffer.take piece.offset ++ (piece.data ++ buffer.drop piece.stop)

theorem length_place {buffer : List β} {piece : Piece β} (h : piece.stop ≤ buffer.length) :
    (place buffer piece).length = buffer.length := by
  simp only [place, List.length_append, List.length_take, List.length_drop, Piece.stop] at h ⊢
  omega

/-- The buffer after a piece, byte by byte. -/
theorem getElem?_place {buffer : List β} {piece : Piece β} (h : piece.stop ≤ buffer.length)
    (i : ℕ) [Decidable (piece.Covers i)] :
    (place buffer piece)[i]? =
      if piece.Covers i then piece.data[i - piece.offset]? else buffer[i]? := by
  have hfront : (buffer.take piece.offset).length = piece.offset := by
    rw [List.length_take]
    have : piece.offset ≤ piece.stop := Nat.le_add_right _ _
    omega
  unfold place
  split
  · rename_i hcovers
    have hin : i - piece.offset < piece.data.length := by
      have := hcovers.1
      have : i < piece.offset + piece.data.length := hcovers.2
      omega
    rw [List.getElem?_append_right (by rw [hfront]; exact hcovers.1), hfront,
      List.getElem?_append_left hin]
  · rename_i houtside
    by_cases hbefore : i < piece.offset
    · rw [List.getElem?_append_left (by rw [hfront]; exact hbefore),
        List.getElem?_take_of_lt hbefore]
    · have hafter : piece.offset + piece.data.length ≤ i := by
        by_contra hlt
        exact houtside ⟨not_lt.mp hbefore, not_le.mp hlt⟩
      rw [List.getElem?_append_right (by rw [hfront]; omega), hfront,
        List.getElem?_append_right (by omega), List.getElem?_drop]
      congr 1
      simp only [Piece.stop]
      omega

/-- **The loop.**  A position that some piece covers, or that was right from the start,
reads as in the sequence. -/
theorem foldl_place {whole : List β} {pieces : List (Piece β)} {buffer : List β}
    (hpieces : ∀ piece ∈ pieces, piece.IsOf whole) (hlength : buffer.length = whole.length) :
    (pieces.foldl place buffer).length = whole.length ∧
      ∀ i, ((∃ piece ∈ pieces, piece.Covers i) ∨ buffer[i]? = whole[i]?) →
        (pieces.foldl place buffer)[i]? = whole[i]? := by
  classical
  induction pieces generalizing buffer with
  | nil => exact ⟨hlength, fun i hi => hi.resolve_left (by simp)⟩
  | cons piece pieces ih =>
      obtain ⟨hpiece, hpieces⟩ := List.forall_mem_cons.mp hpieces
      have hfits : piece.stop ≤ buffer.length := hlength ▸ hpiece.stop_le
      obtain ⟨ihlength, ihread⟩ := ih hpieces ((length_place hfits).trans hlength)
      refine ⟨ihlength, fun i hi => ihread i ?_⟩
      rw [getElem?_place hfits]
      by_cases hcovers : piece.Covers i
      · rw [if_pos hcovers]
        exact .inr (hpiece.getElem?_data hcovers)
      · rw [if_neg hcovers]
        refine hi.imp_left fun ⟨other, hother, hother'⟩ => ⟨other, ?_, hother'⟩
        exact (List.mem_cons.mp hother).resolve_left fun h => hcovers (h ▸ hother')

/-! ## Reassembly -/

/-- Where the furthest piece ends. -/
def extent (pieces : List (Piece β)) : ℕ := (pieces.map Piece.stop).foldr max 0

/-- Write all pieces into a buffer that just holds them. -/
def reassemble (blank : β) (pieces : List (Piece β)) : List β :=
  pieces.foldl place (List.replicate (extent pieces) blank)

theorem extent_le_iff {pieces : List (Piece β)} {n : ℕ} :
    extent pieces ≤ n ↔ ∀ piece ∈ pieces, piece.stop ≤ n := by
  induction pieces with
  | nil => simp [extent]
  | cons piece pieces ih =>
      rw [List.forall_mem_cons, ← ih]
      exact max_le_iff

/-- **Pieces that cover a sequence give it back**, in whatever order they come. -/
theorem reassemble_eq {whole : List β} {pieces : List (Piece β)}
    (hpieces : ∀ piece ∈ pieces, piece.IsOf whole)
    (hcovers : ∀ i < whole.length, ∃ piece ∈ pieces, piece.Covers i) (blank : β) :
    reassemble blank pieces = whole := by
  have hextent : extent pieces = whole.length := by
    refine le_antisymm (extent_le_iff.mpr fun piece h => (hpieces piece h).stop_le) ?_
    by_contra hshort
    obtain ⟨piece, hmem, hcover⟩ := hcovers (extent pieces) (not_le.mp hshort)
    exact absurd (extent_le_iff.mp le_rfl piece hmem) (not_le.mpr hcover.2)
  have hbuffer : (List.replicate (extent pieces) blank).length = whole.length := by
    rw [List.length_replicate, hextent]
  obtain ⟨hlength, hread⟩ := foldl_place hpieces hbuffer
  refine List.ext_getElem? fun i => ?_
  by_cases hi : i < whole.length
  · exact hread i (.inl (hcovers i hi))
  · rw [List.getElem?_eq_none (not_lt.mp hi), List.getElem?_eq_none]
    exact hlength.symm ▸ not_lt.mp hi

end Amt
