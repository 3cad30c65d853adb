import NplgMcp.Library.Segments
import NplgMcp.Pdf.Tiling

/-!
# The grid of the tiles

`tileBoxes_grid`: for every page and geometry that `_tile_layout` accepts, the boxes of `tile_boxes`
stand in row-major order, lie in the page, cover it, and are as many as `_tile_layout` says. A row and
a column are each an extent cut into overlapping segments (`Library.Segments`).
-/

open Library Segments

namespace NplgMcp.Pdf

/-! ## Ranges -/

section
variable {stop step x : ℤ}

/-- A forward range has the multiples of the step below the stop. -/
theorem mem_rangeTo (hstep : 0 < step) : x ∈ rangeTo stop step ↔ IsStart stop step x := by
  have hcount (i : ℕ) : i < ((stop + step - 1) / step).toNat ↔ i * step < stop := by
    rw [Int.lt_toNat, ← Int.add_one_le_iff, Int.le_ediv_iff_mul_le hstep, Int.add_mul, Int.one_mul]
    omega
  simp only [rangeTo, if_pos hstep, List.mem_map, List.mem_range, hcount]
  constructor
  · rintro ⟨i, hi, rfl⟩
    exact ⟨i, rfl, hi⟩
  · rintro ⟨i, rfl, hi⟩
    exact ⟨i, hi, rfl⟩

/-- A forward range ascends. -/
theorem pairwise_rangeTo (hstep : 0 < step) : (rangeTo stop step).Pairwise (· < ·) := by
  refine List.Pairwise.map _ (fun i j hij => ?_) List.pairwise_lt_range
  exact Int.mul_lt_mul_of_pos_right (Int.ofNat_lt.2 hij) hstep

/-- The length of a forward range, as `_tile_layout` computes it. -/
theorem length_rangeTo (hstop : 0 < stop) (hstep : 0 < step) :
    ((rangeTo stop step).length : ℤ) = (stop - 1) / step + 1 := by
  have hdiv : (stop + step - 1) / step = (stop - 1) / step + 1 := by
    rw [show stop + step - 1 = stop - 1 + 1 * step by omega, Int.add_mul_ediv_right _ _ hstep.ne']
  have hnonneg : 0 ≤ (stop - 1) / step := Int.ediv_nonneg (by omega) hstep.le
  simp only [rangeTo, if_pos hstep, List.length_map, List.length_range, hdiv]
  omega

end

section
variable {width height : ℤ} {geometry : TileGeometry} {box box' : TileBox} {boxes : List TileBox}

/-! ## What a layout says -/

theorem TileGeometry.Valid.strideX_pos (h : geometry.Valid) : 0 < geometry.strideX :=
  Int.sub_pos.2 h.overlap_lt_width

theorem TileGeometry.Valid.strideY_pos (h : geometry.Valid) : 0 < geometry.strideY :=
  Int.sub_pos.2 h.overlap_lt_height

/-- What `_tile_layout` accepts, and what it returns. -/
theorem tileLayout_eq_ok {layout : ℤ × ℤ × ℤ} (h : tileLayout width height geometry = .ok layout) :
    0 < width ∧ 0 < height ∧ geometry.Valid ∧ layout = (geometry.strideX, geometry.strideY,
      ((width - 1) / geometry.strideX + 1) * ((height - 1) / geometry.strideY + 1)) := by
  unfold tileLayout at h
  dsimp only at h
  split at h
  · cases h
  split at h
  · cases h
  split at h
  · cases h
  split at h
  · cases h
  · cases h
    refine ⟨by omega, by omega, ⟨?_, ?_, ?_, ?_, ?_, ?_, ?_, ?_⟩, rfl⟩ <;> omega

/-! ## The boxes -/

/-- A box is where a column and a row begin, and is cut off at the ends of the page. -/
theorem mem_boxesOf (h : geometry.Valid) : box ∈ boxesOf width height geometry ↔
    IsStart width geometry.strideX box.x ∧ IsStart height geometry.strideY box.y ∧
      box.width = min geometry.tileWidth (width - box.x) ∧
      box.height = min geometry.tileHeight (height - box.y) := by
  simp only [boxesOf, List.mem_flatMap, List.mem_map, mem_rangeTo h.strideX_pos,
    mem_rangeTo h.strideY_pos]
  constructor
  · rintro ⟨y, hy, x, hx, rfl⟩
    exact ⟨hx, hy, rfl, rfl⟩
  · rintro ⟨hx, hy, hwidth, hheight⟩
    refine ⟨box.y, hy, box.x, hx, ?_⟩
    rw [← hwidth, ← hheight]

/-- The order of the rows, and of the boxes of a row. -/
def RowMajor (box box' : TileBox) : Prop := box.y < box'.y ∨ box.y = box'.y ∧ box.x < box'.x

theorem pairwise_boxesOf (h : geometry.Valid) :
    (boxesOf width height geometry).Pairwise RowMajor := by
  refine List.pairwise_flatMap.2 ⟨fun y _ => ?_, ?_⟩
  · refine List.Pairwise.map _ (fun x x' hx => ?_) (pairwise_rangeTo h.strideX_pos)
    exact .inr ⟨rfl, hx⟩
  · refine (pairwise_rangeTo h.strideY_pos).imp fun {y y'} hy box hbox box' hbox' => ?_
    obtain ⟨x, -, rfl⟩ := List.mem_map.1 hbox
    obtain ⟨x', -, rfl⟩ := List.mem_map.1 hbox'
    exact .inl hy

/-- The corner of a box. -/
def TileBox.corner (box : TileBox) : ℤ × ℤ := (box.x, box.y)

theorem RowMajor.corner_ne (h : RowMajor box box') : box.corner ≠ box'.corner := by
  intro hcorner
  obtain ⟨hx, hy⟩ := Prod.mk.inj hcorner
  rcases h with h | ⟨-, h⟩ <;> omega

theorem length_boxesOf (hwidth : 0 < width) (hheight : 0 < height) (h : geometry.Valid) :
    ((boxesOf width height geometry).length : ℤ) =
      ((width - 1) / geometry.strideX + 1) * ((height - 1) / geometry.strideY + 1) := by
  rw [← length_rangeTo hwidth h.strideX_pos, ← length_rangeTo hheight h.strideY_pos, ← Nat.cast_mul,
    boxesOf, List.length_flatMap]
  simp only [List.length_map, List.map_const', List.sum_replicate_nat]
  rw [Nat.mul_comm]

/-! ## The grid -/

/-- The columns of a box. -/
def TileBox.columns (box : TileBox) : Set ℤ :=
  {column | box.x ≤ column ∧ column < box.x + box.width}

/-- The rows of a box. -/
def TileBox.rows (box : TileBox) : Set ℤ := {row | box.y ≤ row ∧ row < box.y + box.height}

/-- Two boxes of a row with no box of the row between them. -/
def NextInRow (boxes : List TileBox) (box box' : TileBox) : Prop :=
  box ∈ boxes ∧ box' ∈ boxes ∧ box.y = box'.y ∧ box.x < box'.x ∧
    ∀ other ∈ boxes, other.y = box.y → ¬(box.x < other.x ∧ other.x < box'.x)

/-- Two boxes of a column with no box of the column between them. -/
def NextInColumn (boxes : List TileBox) (box box' : TileBox) : Prop :=
  box ∈ boxes ∧ box' ∈ boxes ∧ box.x = box'.x ∧ box.y < box'.y ∧
    ∀ other ∈ boxes, other.x = box.x → ¬(box.y < other.y ∧ other.y < box'.y)

/-- What the boxes of a page are to be. The overlap of two boxes is the same where the first is cut
off at the end of the page, so that nothing is said of its size. -/
structure IsGrid (width height overlap : ℤ) (boxes : List TileBox) : Prop where
  rowMajor : boxes.Pairwise RowMajor
  corners : (boxes.map TileBox.corner).Nodup
  inside : ∀ box ∈ boxes, 0 ≤ box.x ∧ 0 ≤ box.y ∧ 0 < box.width ∧ 0 < box.height ∧
    box.x + box.width ≤ width ∧ box.y + box.height ≤ height
  covers : ∀ column row, 0 ≤ column → column < width → 0 ≤ row → row < height →
    ∃ box ∈ boxes, column ∈ box.columns ∧ row ∈ box.rows
  overlapX : ∀ box box', NextInRow boxes box box' →
    ((box.columns ∩ box'.columns).ncard : ℤ) = min overlap (width - box'.x)
  overlapY : ∀ box box', NextInColumn boxes box box' →
    ((box.rows ∩ box'.rows).ncard : ℤ) = min overlap (height - box'.y)

/-- The columns and rows of a box are segments of the page. -/
theorem segments_of_mem (h : geometry.Valid) (hbox : box ∈ boxesOf width height geometry) :
    box.columns = segment width geometry.tileWidth box.x ∧
      box.rows = segment height geometry.tileHeight box.y := by
  obtain ⟨-, -, hwidth, hheight⟩ := (mem_boxesOf h).1 hbox
  rw [TileBox.columns, TileBox.rows, hwidth, hheight]
  exact ⟨rfl, rfl⟩

/-- The box where a column and a row begin. -/
def boxAt (width height : ℤ) (geometry : TileGeometry) (x y : ℤ) : TileBox where
  x := x
  y := y
  width := min geometry.tileWidth (width - x)
  height := min geometry.tileHeight (height - y)

theorem boxAt_mem {x y : ℤ} (h : geometry.Valid) (hx : IsStart width geometry.strideX x)
    (hy : IsStart height geometry.strideY y) :
    boxAt width height geometry x y ∈ boxesOf width height geometry :=
  (mem_boxesOf h).2 ⟨hx, hy, rfl, rfl⟩

theorem ncard_columns (h : geometry.Valid)
    (hnext : NextInRow (boxesOf width height geometry) box box') :
    ((box.columns ∩ box'.columns).ncard : ℤ) = min geometry.overlap (width - box'.x) := by
  obtain ⟨hbox, hbox', hrow, hlt, hnone⟩ := hnext
  obtain ⟨hx, hy, -⟩ := (mem_boxesOf h).1 hbox
  obtain ⟨hx', -⟩ := (mem_boxesOf h).1 hbox'
  have hstart : box'.x = box.x + (geometry.tileWidth - geometry.overlap) :=
    hx.next h.strideX_pos hx' hlt fun x hbetween => hnone _ (boxAt_mem h hbetween hy) rfl
  obtain ⟨-, -, hin⟩ := hx'
  rw [hstart] at hin
  rw [(segments_of_mem h hbox).1, (segments_of_mem h hbox').1, hstart]
  exact ncard_inter_segment h.overlap_nonneg h.overlap_lt_width hin

theorem ncard_rows (h : geometry.Valid)
    (hnext : NextInColumn (boxesOf width height geometry) box box') :
    ((box.rows ∩ box'.rows).ncard : ℤ) = min geometry.overlap (height - box'.y) := by
  obtain ⟨hbox, hbox', hcolumn, hlt, hnone⟩ := hnext
  obtain ⟨hx, hy, -⟩ := (mem_boxesOf h).1 hbox
  obtain ⟨-, hy', -⟩ := (mem_boxesOf h).1 hbox'
  have hstart : box'.y = box.y + (geometry.tileHeight - geometry.overlap) :=
    hy.next h.strideY_pos hy' hlt fun y hbetween => hnone _ (boxAt_mem h hx hbetween) rfl
  obtain ⟨-, -, hin⟩ := hy'
  rw [hstart] at hin
  rw [(segments_of_mem h hbox).2, (segments_of_mem h hbox').2, hstart]
  exact ncard_inter_segment h.overlap_nonneg h.overlap_lt_height hin

/-- The boxes of a valid geometry are a grid. -/
theorem isGrid_boxesOf (h : geometry.Valid) :
    IsGrid width height geometry.overlap (boxesOf width height geometry) where
  rowMajor := pairwise_boxesOf h
  corners := List.Pairwise.map _ (fun _ _ hbox => hbox.corner_ne) (pairwise_boxesOf h)
  inside := by
    intro box hbox
    obtain ⟨hx, hy, hwidth, hheight⟩ := (mem_boxesOf h).1 hbox
    obtain ⟨-, -, hinX⟩ := id hx
    obtain ⟨-, -, hinY⟩ := id hy
    have hsegmentX := segment_inside h.tileWidth_pos hinX
    have hsegmentY := segment_inside h.tileHeight_pos hinY
    rw [hwidth, hheight]
    exact ⟨hx.nonneg h.strideX_pos, hy.nonneg h.strideY_pos, hsegmentX.1, hsegmentY.1, hsegmentX.2,
      hsegmentY.2⟩
  covers := by
    intro column row hcolumn hcolumnLt hrow hrowLt
    obtain ⟨x, hx, hinX⟩ := exists_mem_segment h.strideX_pos
      (Int.sub_le_self _ h.overlap_nonneg) hcolumn hcolumnLt
    obtain ⟨y, hy, hinY⟩ := exists_mem_segment h.strideY_pos
      (Int.sub_le_self _ h.overlap_nonneg) hrow hrowLt
    exact ⟨boxAt width height geometry x y, boxAt_mem h hx hy, hinX, hinY⟩
  overlapX := fun _ _ hnext => ncard_columns h hnext
  overlapY := fun _ _ hnext => ncard_rows h hnext

/-- Every geometry that `_tile_layout` accepts for a page tiles it with a grid of as many boxes as it
says. -/
theorem tileBoxes_grid {strideX strideY count : ℤ}
    (hlayout : tileLayout width height geometry = .ok (strideX, strideY, count)) :
    ∃ boxes, tileBoxes width height geometry = .ok boxes ∧
      IsGrid width height geometry.overlap boxes ∧ (boxes.length : ℤ) = count := by
  obtain ⟨hwidth, hheight, hvalid, hcount⟩ := tileLayout_eq_ok hlayout
  simp only [Prod.mk.injEq] at hcount
  refine ⟨boxesOf width height geometry, tileBoxes_eq hwidth hheight hvalid, isGrid_boxesOf hvalid, ?_⟩
  rw [length_boxesOf hwidth hheight hvalid, hcount.2.2]

/-- Two columns of which the second is narrower than the overlap, and a stride that divides the
height. -/
theorem tileBoxes_grid_narrow :
    ∃ boxes, tileBoxes 7 6 ⟨5, 3, 1⟩ = .ok boxes ∧ IsGrid 7 6 1 boxes ∧ (boxes.length : ℤ) = 6 :=
  @tileBoxes_grid 7 6 ⟨5, 3, 1⟩ 4 2 6 rfl

end

end NplgMcp.Pdf
