import Mathlib.Algebra.Order.Group.Int
import Mathlib.Data.Int.Notation
import NplgMcp.Errors

/-!
# Tiles of a page

`_tile_layout` and `tile_boxes` of `pdf.py`, which the worker tiles a page with. All values are
Python integers; the ranges are those of `range`, whatever the sign of the step.
-/

namespace NplgMcp.Pdf

/-- `HARD_MAX_TILE_DIMENSION`. -/
def hardMaxTileDimension : ℤ := 4096

/-- `HARD_MAX_TILE_OVERLAP`. -/
def hardMaxTileOverlap : ℤ := 512

/-- `range(0, stop, step)` for a step that is not zero. -/
def rangeTo (stop step : ℤ) : List ℤ :=
  let count : ℤ := if 0 < step then (stop + step - 1) / step else (-stop - step - 1) / -step
  (List.range count.toNat).map fun i : ℕ => (i : ℤ) * step

/-- A backward range to a positive stop is empty. -/
theorem rangeTo_of_neg {stop step : ℤ} (hstop : 0 < stop) (hstep : step < 0) :
    rangeTo stop step = [] := by
  unfold rangeTo
  have hcount : (-stop - step - 1) / -step ≤ 0 := by
    refine Int.lt_add_one_iff.1 (Int.ediv_lt_of_lt_mul (by omega) ?_)
    omega
  simp only [if_neg (not_lt.2 hstep.le), Int.toNat_of_nonpos hcount, List.range_zero,
    List.map_nil]

/-- `TileBox`. -/
structure TileBox where
  x : ℤ
  y : ℤ
  width : ℤ
  height : ℤ
  deriving DecidableEq, Repr

/-- The geometry of a tiling. -/
structure TileGeometry where
  tileWidth : ℤ
  tileHeight : ℤ
  overlap : ℤ
  deriving DecidableEq, Repr

/-- The distance between two tiles of a row. -/
def TileGeometry.strideX (geometry : TileGeometry) : ℤ := geometry.tileWidth - geometry.overlap

/-- The distance between two rows of tiles. -/
def TileGeometry.strideY (geometry : TileGeometry) : ℤ := geometry.tileHeight - geometry.overlap

/-- A refusal of `_tile_layout`. -/
def invalidGeometry (message : String) : AppError where
  code := .invalidInput
  message := message

/-- `_tile_layout`: the strides and the number of the tiles. -/
def tileLayout (width height : ℤ) (geometry : TileGeometry) : Except AppError (ℤ × ℤ × ℤ) := do
  if width ≤ 0 ∨ height ≤ 0 ∨ geometry.tileWidth ≤ 0 ∨ geometry.tileHeight ≤ 0 ∨
      geometry.overlap < 0 then
    throw (invalidGeometry "Tile geometry must be positive and overlap must be non-negative.")
  if geometry.tileWidth > hardMaxTileDimension ∨ geometry.tileHeight > hardMaxTileDimension then
    throw (invalidGeometry "Tile dimensions exceed the compiled safety ceiling.")
  if geometry.overlap > hardMaxTileOverlap then
    throw (invalidGeometry "Tile overlap exceeds the compiled safety ceiling.")
  if geometry.overlap ≥ geometry.tileWidth ∨ geometry.overlap ≥ geometry.tileHeight then
    throw (invalidGeometry "Tile overlap must be smaller than both tile dimensions.")
  let columns := (width - 1) / geometry.strideX + 1
  let rows := (height - 1) / geometry.strideY + 1
  return (geometry.strideX, geometry.strideY, columns * rows)

/-- The crop boxes of a page in row-major order. -/
def boxesOf (width height : ℤ) (geometry : TileGeometry) : List TileBox :=
  (rangeTo height geometry.strideY).flatMap fun y =>
    (rangeTo width geometry.strideX).map fun x =>
      { x := x
        y := y
        width := min geometry.tileWidth (width - x)
        height := min geometry.tileHeight (height - y) }

/-- `tile_boxes`. -/
def tileBoxes (width height : ℤ) (geometry : TileGeometry) : Except AppError (List TileBox) := do
  let _ ← tileLayout width height geometry
  return boxesOf width height geometry

section
variable {width height : ℤ} {geometry : TileGeometry}

/-- The geometries that are tiled with. -/
structure TileGeometry.Valid (geometry : TileGeometry) : Prop where
  tileWidth_pos : 0 < geometry.tileWidth
  tileHeight_pos : 0 < geometry.tileHeight
  tileWidth_le : geometry.tileWidth ≤ hardMaxTileDimension
  tileHeight_le : geometry.tileHeight ≤ hardMaxTileDimension
  overlap_nonneg : 0 ≤ geometry.overlap
  overlap_le : geometry.overlap ≤ hardMaxTileOverlap
  overlap_lt_width : geometry.overlap < geometry.tileWidth
  overlap_lt_height : geometry.overlap < geometry.tileHeight

/-- A valid geometry tiles every page. -/
theorem tileBoxes_eq (hwidth : 0 < width) (hheight : 0 < height) (h : geometry.Valid) :
    tileBoxes width height geometry = .ok (boxesOf width height geometry) := by
  obtain ⟨h1, h2, h3, h4, h5, h6, h7, h8⟩ := h
  have hlayout : ∃ strides, tileLayout width height geometry = .ok strides := by
    unfold tileLayout
    rw [if_neg (by omega), if_neg (by omega), if_neg (by omega), if_neg (by omega)]
    exact ⟨_, rfl⟩
  obtain ⟨strides, hstrides⟩ := hlayout
  unfold tileBoxes
  rw [hstrides]
  rfl

/-- A page has no box where a stride is negative. -/
theorem boxesOf_of_neg (hwidth : 0 < width) (hheight : 0 < height)
    (h : geometry.strideX < 0 ∨ geometry.strideY < 0) : boxesOf width height geometry = [] := by
  unfold boxesOf
  rcases h with hstride | hstride
  · rw [rangeTo_of_neg hwidth hstride]
    simp
  · rw [rangeTo_of_neg hheight hstride]
    rfl

end

end NplgMcp.Pdf
