import Mathlib
import Multibody.Analysis.Portrait

/-!
# What a drawn portrait is

A grid is read through its cells (`gridOf`, `setCell_gridOf`,
`foldl_setCell_gridOf`), so a portrait on a grid of at least two by two
cells is its picture cell by cell (`Frame.cell`).  The axis index is not
checked: when the spread overflows, the drawing stops with that fault
(`asciiPortrait_picture_or_axis_fault`, `overflowing_spread_faults_at_axis`).
-/

namespace Multibody.Analysis

/-- The grid of `h` rows of `w` cells whose cell at row `i` and column `j` is
`F i j`. -/
def gridOf (w h : ℕ) (F : ℕ → ℕ → Char) : Array (Array Char) :=
  (Array.range h).map fun i => (Array.range w).map fun j => F i j

section Grid

variable {w h : ℕ}

@[simp] theorem size_gridOf (F : ℕ → ℕ → Char) : (gridOf w h F).size = h := by
  simp [gridOf]

theorem getElem_gridOf (F : ℕ → ℕ → Char) {i : ℕ} (hi : i < (gridOf w h F).size) :
    (gridOf w h F)[i] = (Array.range w).map fun j => F i j := by
  simp [gridOf]

theorem gridOf_congr {F G : ℕ → ℕ → Char} (hFG : ∀ i < h, ∀ j < w, F i j = G i j) :
    gridOf w h F = gridOf w h G := by
  apply Array.ext (by simp)
  intro i hi _
  rw [getElem_gridOf, getElem_gridOf]
  apply Array.ext (by simp)
  intro j hj _
  simp only [size_gridOf] at hi
  simp only [Array.size_map, Array.size_range] at hj
  simp [hFG i hi j hj]

theorem replicate_eq_gridOf :
    Array.replicate h (Array.replicate w ' ') = gridOf w h fun _ _ => ' ' := by
  apply Array.ext (by simp)
  intro i hi _
  rw [getElem_gridOf]
  apply Array.ext (by simp)
  intro j hj _
  simp

theorem set_gridOf (F : ℕ → ℕ → Char) (a b : ℕ) (ch : Char) :
    (gridOf w h F).set! a (((Array.range w).map fun j => F a j).set! b ch) =
      gridOf w h fun i j => if a = i ∧ b = j then ch else F i j := by
  apply Array.ext (by simp)
  intro i hi _
  simp only [Array.set!_eq_setIfInBounds, Array.size_setIfInBounds, size_gridOf] at hi
  simp only [Array.set!_eq_setIfInBounds]
  rw [Array.getElem_setIfInBounds (by simpa using hi)]
  simp only [getElem_gridOf]
  apply Array.ext (by split_ifs <;> simp)
  intro j hj _
  split_ifs with hia
  · -- the row of the cell: that one cell changes
    subst hia
    rw [Array.getElem_setIfInBounds (by simpa using hj)]
    simp only [Array.getElem_map, Array.getElem_range]
    split_ifs <;> simp_all
  · simp [hia]

theorem setCell_gridOf (F : ℕ → ℕ → Char) (r c : ℤ) (ch : Char) (onlyBlank : Bool) :
    setCell (gridOf w h F) r c ch onlyBlank =
      gridOf w h fun i j =>
        if r = i ∧ c = j ∧ (onlyBlank = false ∨ F i j = ' ') then ch else F i j := by
  unfold setCell
  by_cases hout : r < 0 ∨ c < 0 ∨ h ≤ r
  · rw [if_pos (by simp; omega)]
    exact gridOf_congr fun i hi j hj => by rw [if_neg (by omega)]
  · rw [if_neg (by simp; omega)]
    obtain ⟨a, rfl⟩ : ∃ a : ℕ, r = a := ⟨r.toNat, by omega⟩
    obtain ⟨b, rfl⟩ : ∃ b : ℕ, c = b := ⟨c.toNat, by omega⟩
    have ha : a < h := by omega
    simp only [Int.toNat_natCast]
    have hrow : (gridOf w h F)[a]! = (Array.range w).map fun j => F a j := by
      rw [getElem!_pos _ a (by simp [ha]), getElem_gridOf]
    rw [hrow]
    simp only [Array.size_map, Array.size_range, ge_iff_le, Nat.cast_le]
    by_cases hb : w ≤ b
    · -- a column past the row
      rw [if_pos hb]
      exact gridOf_congr fun i hi j hj => by rw [if_neg (by omega)]
    rw [if_neg hb, getElem!_pos _ b (by simp; omega), Array.getElem_map, Array.getElem_range]
    by_cases hkeep : onlyBlank = true ∧ F a b ≠ ' '
    · -- a cell set only if blank, which is not
      rw [if_pos (by simp [hkeep.1, hkeep.2])]
      refine gridOf_congr fun i hi j hj => ?_
      rw [if_neg]
      rintro ⟨hai, hbj, hblank⟩
      have hi' : a = i := by exact_mod_cast hai
      have hj' : b = j := by exact_mod_cast hbj
      subst hi' hj'
      rcases hblank with h0 | h1
      · simp [h0] at hkeep
      · exact hkeep.2 h1
    · rw [if_neg (by simpa [not_and_or, Bool.not_eq_true] using hkeep), set_gridOf]
      refine gridOf_congr fun i _ j _ => ?_
      by_cases hij : a = i ∧ b = j
      · obtain ⟨rfl, rfl⟩ := hij
        have hblank : onlyBlank = false ∨ F a b = ' ' := by
          cases onlyBlank <;> simp_all
        simp [hblank]
      · rw [if_neg hij, if_neg (by omega)]

theorem foldl_setCell_gridOf {τ : Type} (ρ κ : τ → ℤ) (ch : Char) (onlyBlank : Bool)
    (l : List τ) (F : ℕ → ℕ → Char) :
    l.foldl (fun g t => setCell g (ρ t) (κ t) ch onlyBlank) (gridOf w h F) =
      gridOf w h fun i j =>
        if l.any (fun t => ρ t = i ∧ κ t = j) ∧ (onlyBlank = false ∨ F i j = ' ') then ch
        else F i j := by
  induction l generalizing F with
  | nil => simp
  | cons t l ih =>
    rw [List.foldl_cons, setCell_gridOf, ih]
    refine gridOf_congr fun i hi j hj => ?_
    -- the first step's cell, then the rest's, against all steps at once
    cases onlyBlank <;> simp only [List.any_cons, Bool.or_eq_true, decide_eq_true_eq] <;> grind

theorem verticalAxis_gridOf (F : ℕ → ℕ → Char) (c : ℤ) :
    verticalAxis (gridOf w h F) c w h =
      if 0 ≤ c ∧ c < w then .ok (gridOf w h fun i j => if c = j ∧ F i j = ' ' then '│' else F i j)
      else .error (.indexOutOfRange c w) := by
  unfold verticalAxis
  split_ifs
  · rw [foldl_setCell_gridOf]
    refine congrArg Except.ok (gridOf_congr fun i hi j hj => ?_)
    simp [hi]
  · rfl

theorem horizontalAxis_gridOf (F : ℕ → ℕ → Char) (r : ℤ) :
    horizontalAxis (gridOf w h F) r w h =
      if 0 ≤ r ∧ r < h then .ok (gridOf w h fun i j => if r = i ∧ F i j = ' ' then '─' else F i j)
      else .error (.indexOutOfRange r h) := by
  unfold horizontalAxis
  split_ifs
  · rw [foldl_setCell_gridOf]
    refine congrArg Except.ok (gridOf_congr fun i hi j hj => ?_)
    simp [hj]
  · rfl

end Grid

/-- Rows of characters as text, each row a line. -/
def render (rows : List (List Char)) : String :=
  String.join (rows.map fun row => String.ofList row ++ "\n")

theorem render_gridOf (w h : ℕ) (F : ℕ → ℕ → Char) :
    String.join ((gridOf w h F).toList.map fun line => String.ofList line.toList ++ "\n") =
      render ((List.range h).map fun i => (List.range w).map fun j => F i j) := by
  simp [gridOf, render, Function.comp_def]

namespace Frame

/-- Whether the vertical axis is drawn: zero lies between the frame's abscissae. -/
def hasVerticalAxis (f : Frame) : Bool := f.minX ≤ 0.0 && f.maxX ≥ 0.0

/-- Whether the horizontal axis is drawn: zero lies between the frame's ordinates. -/
def hasHorizontalAxis (f : Frame) : Bool := f.minY ≤ 0.0 && f.maxY ≥ 0.0

/-- The character of the cell at row `i` and column `j`: a point there first,
else the vertical axis, else the horizontal one, else blank. -/
def cell (f : Frame) (pts : Array Point) (i j : ℕ) : Char :=
  if pts.any (fun p => f.row p.y = i ∧ f.col p.x = j) then '•'
  else if f.hasVerticalAxis ∧ f.col 0.0 = j then '│'
  else if f.hasHorizontalAxis ∧ f.row 0.0 = i then '─'
  else ' '

/-- The portrait as `h` rows of `w` cells. -/
def picture (f : Frame) (pts : Array Point) (w h : ℕ) : List (List Char) :=
  (List.range h).map fun i => (List.range w).map fun j => f.cell pts i j

/-- The fault of drawing an axis whose cell lies outside the grid: the
vertical axis's column first, then the horizontal axis's row. -/
def axisFault (f : Frame) (w h : ℕ) : Option Fault :=
  if f.hasVerticalAxis ∧ ¬ (0 ≤ f.col 0.0 ∧ f.col 0.0 < w) then
    some (.indexOutOfRange (f.col 0.0) w)
  else if f.hasHorizontalAxis ∧ ¬ (0 ≤ f.row 0.0 ∧ f.row 0.0 < h) then
    some (.indexOutOfRange (f.row 0.0) h)
  else none

theorem picture_shape (f : Frame) (pts : Array Point) (w h : ℕ) :
    (f.picture pts w h).length = h ∧
      ∀ row ∈ f.picture pts w h, row.length = w ∧ ∀ ch ∈ row, ch ∈ [' ', '•', '│', '─'] := by
  refine ⟨by simp [picture], fun row hrow => ?_⟩
  obtain ⟨i, -, rfl⟩ := List.mem_map.mp hrow
  refine ⟨by simp, fun ch hch => ?_⟩
  obtain ⟨j, -, rfl⟩ := List.mem_map.mp hch
  unfold cell
  split_ifs <;> simp

theorem plot_blank (f : Frame) (pts : Array Point) (w h : ℕ) :
    f.plot pts (Array.replicate h (Array.replicate w ' ')) =
      gridOf w h fun i j =>
        if pts.any (fun p => f.row p.y = i ∧ f.col p.x = j) then '•' else ' ' := by
  rw [plot, replicate_eq_gridOf, ← Array.foldl_toList, foldl_setCell_gridOf]
  exact gridOf_congr fun i _ j _ => by simp

end Frame

theorem asciiPortrait_eq (pts : Array Point) (width height : ℤ) (hne : pts.size ≠ 0)
    (hw : 2 ≤ width) (hh : 2 ≤ height) :
    asciiPortrait pts width height =
      match (Frame.of pts width height).axisFault width.toNat height.toNat with
      | some e => .error e
      | none =>
        .ok (render ((Frame.of pts width height).picture pts width.toNat height.toNat)) := by
  have hempty : pts.isEmpty = false := by simpa [Array.isEmpty] using hne
  unfold asciiPortrait
  rw [if_neg (by simp [hempty]; omega)]
  simp only [Frame.plot_blank]
  generalize Frame.of pts width height = f
  generalize width.toNat = w
  generalize height.toNat = h
  unfold Frame.axisFault
  rw [show (decide (f.minX ≤ 0.0) && decide (f.maxX ≥ 0.0)) = f.hasVerticalAxis from rfl,
    show (decide (f.minY ≤ 0.0) && decide (f.maxY ≥ 0.0)) = f.hasHorizontalAxis from rfl]
  -- the rendered grid is the picture once its cells are the picture's
  have hrender : ∀ F : ℕ → ℕ → Char, (∀ i j, F i j = f.cell pts i j) →
      String.join ((gridOf w h F).toList.map fun line => String.ofList line.toList ++ "\n") =
        render (f.picture pts w h) := fun F hF => by
    rw [render_gridOf, Frame.picture]
    simp only [hF]
  cases hv : f.hasVerticalAxis <;> cases hz : f.hasHorizontalAxis <;>
    simp only [if_false, Bool.false_eq_true, false_and, if_true, true_and, pure_bind,
      verticalAxis_gridOf, horizontalAxis_gridOf]
  · -- no axis
    refine congrArg Except.ok (hrender _ fun i j => ?_)
    simp [Frame.cell, hv, hz]
  · -- the horizontal axis alone
    by_cases hr : 0 ≤ f.row 0.0 ∧ f.row 0.0 < h
    · rw [if_pos hr, if_neg (not_not.mpr hr)]
      refine congrArg Except.ok (hrender _ fun i j => ?_)
      simp only [Frame.cell, hv, hz]
      grind
    · rw [if_neg hr, if_pos hr]
      rfl
  · -- the vertical axis alone
    by_cases hc : 0 ≤ f.col 0.0 ∧ f.col 0.0 < w
    · rw [if_pos hc, if_neg (not_not.mpr hc)]
      refine congrArg Except.ok (hrender _ fun i j => ?_)
      simp only [Frame.cell, hv, hz]
      grind
    · rw [if_neg hc, if_pos hc]
      rfl
  · -- both axes, the vertical one first
    by_cases hc : 0 ≤ f.col 0.0 ∧ f.col 0.0 < w
    · rw [if_pos hc, if_neg (not_not.mpr hc)]
      simp only [bind, Except.bind, horizontalAxis_gridOf]
      by_cases hr : 0 ≤ f.row 0.0 ∧ f.row 0.0 < h
      · rw [if_pos hr, if_neg (not_not.mpr hr)]
        refine congrArg Except.ok (hrender _ fun i j => ?_)
        simp only [Frame.cell, hv, hz]
        grind
      · rw [if_neg hr, if_pos hr]
    · rw [if_neg hc, if_pos hc]
      rfl

/-- Drawing a portrait of points with any coordinates on a grid of at least two
by two cells either draws its picture, `h` lines of `w` characters with every
point whose cell lies in the grid a dot and the axes on blank cells only, or
stops with the index fault of an axis whose cell lies outside the grid. -/
theorem asciiPortrait_picture_or_axis_fault (pts : Array Point) (width height : ℤ)
    (hne : pts.size ≠ 0) (hw : 2 ≤ width) (hh : 2 ≤ height) :
    let f := Frame.of pts width height
    (asciiPortrait pts width height =
      match f.axisFault width.toNat height.toNat with
      | some e => .error e
      | none => .ok (render (f.picture pts width.toNat height.toNat))) ∧
    (f.picture pts width.toNat height.toNat).length = height.toNat ∧
    ∀ row ∈ f.picture pts width.toNat height.toNat,
      row.length = width.toNat ∧ ∀ ch ∈ row, ch ∈ [' ', '•', '│', '─'] :=
  ⟨asciiPortrait_eq pts width height hne hw hh, Frame.picture_shape _ _ _ _⟩

/-- Two points whose abscissae span the whole range of doubles: the frame's
range overflows, the axis column is the conversion of NaN, and drawing stops
at it. -/
theorem overflowing_spread_faults_at_axis :
    (#[⟨-1e308, 0.0⟩, ⟨1e308, 1.0⟩] : Array Point).size ≠ 0 ∧ (2 : ℤ) ≤ 10 ∧ (2 : ℤ) ≤ 4 ∧
      asciiPortrait #[⟨-1e308, 0.0⟩, ⟨1e308, 1.0⟩] 10 4 =
        .error (.indexOutOfRange (-9223372036854775808) 10) := by
  have hcol : (Frame.of #[⟨-1e308, 0.0⟩, ⟨1e308, 1.0⟩] 10 4).col 0.0 = -9223372036854775808 := by
    decide +kernel
  have hv : (Frame.of #[⟨-1e308, 0.0⟩, ⟨1e308, 1.0⟩] 10 4).hasVerticalAxis = true := by
    decide +kernel
  refine ⟨by decide, by decide, by decide, ?_⟩
  rw [(asciiPortrait_picture_or_axis_fault _ 10 4 (by decide) (by decide) (by decide)).1,
    Frame.axisFault, if_pos ⟨hv, by rw [hcol]; decide⟩, hcol]
  rfl

end Multibody.Analysis
