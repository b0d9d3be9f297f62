/-
This file proves that the pieces into which runs of registers are cut lose nothing.
-/

import Vscp.Register.Page

namespace Vscp.Page

/-- The pieces hold the values in order, and all but the last are full. -/
structure Cut {Value : Type} (width : Nat) (values : List Value) (pieces : List (List Value)) :
    Prop where
  count : pieces.length = (values.length + width - 1) / width
  whole : pieces.flatten = values
  filled : ∀ piece ∈ pieces, 0 < piece.length ∧ piece.length ≤ width
  full : ∀ piece ∈ pieces.dropLast, piece.length = width

/-- A piece is no longer than the width. -/
theorem length_le_of_mem_pieces {Value : Type} {width : Nat} (positive : 0 < width)
    {values piece : List Value} (mem : piece ∈ pieces width values) : piece.length ≤ width := by
  induction values using pieces.induct width with
  | case1 =>
      rw [pieces] at mem
      cases mem
  | case2 value rest ih =>
      rw [pieces] at mem
      rcases List.mem_cons.mp mem with rfl | later
      · rw [List.length_cons, List.length_take]
        omega
      · exact ih later

theorem length_positive_of_mem_pieces {Value : Type} {width : Nat} {values piece : List Value}
    (mem : piece ∈ pieces width values) : 0 < piece.length := by
  induction values using pieces.induct width with
  | case1 =>
      rw [pieces] at mem
      cases mem
  | case2 value rest ih =>
      rw [pieces] at mem
      rcases List.mem_cons.mp mem with rfl | later
      · exact Nat.succ_pos _
      · exact ih later

theorem flatten_pieces {Value : Type} (width : Nat) (values : List Value) :
    (pieces width values).flatten = values := by
  induction values using pieces.induct width with
  | case1 =>
      rw [pieces]
      rfl
  | case2 value rest ih =>
      rw [pieces, List.flatten_cons, ih, List.cons_append, List.take_append_drop]

/-- As many pieces are cut as the values need. -/
theorem length_pieces {Value : Type} {width : Nat} (positive : 0 < width) (values : List Value) :
    (pieces width values).length = (values.length + width - 1) / width := by
  induction values using pieces.induct width with
  | case1 =>
      rw [pieces, List.length_nil, List.length_nil]
      exact (Nat.div_eq_of_lt (by omega)).symm
  | case2 value rest ih =>
      rw [pieces, List.length_cons, List.length_cons, ih, List.length_drop]
      by_cases last : rest.length < width
      · have none : (rest.length - (width - 1) + width - 1) / width = 0 :=
          Nat.div_eq_of_lt (by omega)
        have one : rest.length + 1 + width - 1 = rest.length + width := by omega
        rw [none, one, Nat.add_div_right _ positive, Nat.div_eq_of_lt last]
      · have fewer : rest.length - (width - 1) + width - 1 = rest.length := by omega
        have more : rest.length + 1 + width - 1 = rest.length + width := by omega
        rw [fewer, more, Nat.add_div_right _ positive]

theorem length_pieces_le {Value : Type} (width : Nat) (values : List Value) :
    (pieces width values).length ≤ values.length := by
  induction values using pieces.induct width with
  | case1 =>
      rw [pieces]
      exact Nat.le_refl _
  | case2 value rest ih =>
      rw [List.length_drop] at ih
      rw [pieces, List.length_cons, List.length_cons]
      omega

/-- A piece before another one is full. -/
theorem length_of_mem_dropLast_pieces {Value : Type} {width : Nat} (positive : 0 < width)
    {values piece : List Value} (mem : piece ∈ (pieces width values).dropLast) :
    piece.length = width := by
  induction values using pieces.induct width with
  | case1 =>
      rw [pieces] at mem
      cases mem
  | case2 value rest ih =>
      rw [pieces] at mem
      cases later : pieces width (rest.drop (width - 1)) with
      | nil =>
          rw [later] at mem
          cases mem
      | cons next others =>
          have left : rest.drop (width - 1) ≠ [] := by
            intro empty
            rw [empty, pieces] at later
            cases later
          have enough := List.length_pos_iff.mpr left
          rw [List.length_drop] at enough
          rw [later, List.dropLast_cons_cons, ← later] at mem
          rcases List.mem_cons.mp mem with rfl | within
          · rw [List.length_cons, List.length_take]
            omega
          · exact ih within

theorem cut_pieces {Value : Type} {width : Nat} (positive : 0 < width) (values : List Value) :
    Cut width values (pieces width values) where
  count := length_pieces positive values
  whole := flatten_pieces width values
  filled _ mem := ⟨length_positive_of_mem_pieces mem, length_le_of_mem_pieces positive mem⟩
  full _ mem := length_of_mem_dropLast_pieces positive mem

/-- The frames of a run within a page leave out no piece. -/
theorem frames_eq (width : Nat) {values : List UInt8} (within : values.length ≤ length) :
    frames width values =
      (pieces width values).zipIdx.map fun (piece, index) => (UInt8.ofNat index, piece) := by
  have few := Nat.le_trans (length_pieces_le width values) within
  rw [frames, List.take_of_length_le few]

/-- A frame carries no more values than fit. -/
theorem length_le_of_mem_frames {width : Nat} (positive : 0 < width) {values : List UInt8}
    {frame : UInt8 × List UInt8} (mem : frame ∈ frames width values) :
    frame.2.length ≤ width := by
  obtain ⟨⟨piece, index⟩, place, rfl⟩ := List.mem_map.mp mem
  have taken := List.fst_mem_of_mem_zipIdx place
  exact length_le_of_mem_pieces positive (List.mem_of_mem_take taken)

/-- The registers of a run that lie on the page, each with its value. -/
def places (offset : UInt8) (values : List UInt8) : List (UInt8 × UInt8) :=
  (values.take (256 - offset.toNat)).zipIdx.map fun (value, index) =>
    (UInt8.ofNat (offset.toNat + index), value)

theorem length_places (offset : UInt8) (values : List UInt8) :
    (places offset values).length = clamp offset values.length := by
  rw [places, List.length_map, List.length_zipIdx, List.length_take, Nat.min_comm]
  rfl

theorem zip_span (offset : UInt8) (values : List UInt8) :
    ((span offset values.length).map (·.2)).zip values = places offset values := by
  have few : clamp offset values.length ≤ values.length := Nat.min_le_left ..
  apply List.ext_getElem
  · rw [length_places, List.length_zip, List.length_map, span, List.length_map, List.length_range,
      Nat.min_eq_left few]
  · intro index _ _
    simp [places, span]

/-- The registers of a run go upwards. -/
theorem ascending_places (offset : UInt8) (values : List UInt8) :
    (places offset values).Pairwise fun place later => place.1 < later.1 := by
  rw [List.pairwise_iff_getElem]
  intro first second before after order
  have bound : (places offset values).length ≤ 256 - offset.toNat := by
    rw [length_places]
    exact Nat.min_le_right ..
  have number (index : Nat) (within : index < (places offset values).length) :
      (places offset values)[index].1.toNat = offset.toNat + index := by
    have onPage : offset.toNat + index < 256 := by omega
    simp only [places, List.getElem_map, List.getElem_zipIdx]
    rw [Nat.zero_add]
    exact UInt8.toNat_ofNat_of_lt' onPage
  rw [UInt8.lt_iff_toNat_lt, number, number]
  omega

end Vscp.Page
