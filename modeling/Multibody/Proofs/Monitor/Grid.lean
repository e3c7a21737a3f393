import Multibody.Proofs.Loops
import Multibody.Proofs.Monitor.Drawing
import Mathlib

/-!
# The canvas stays in its grid

Every write goes through `Canvas.set`, which changes exactly the cell it is
given when that cell is on the grid and nothing otherwise (`Canvas.at?_set`),
so a grid of 20 rows of 70 characters (`Canvas.Shaped`) keeps its shape, and
the trail's clamped indices always find their cell
(`Canvas.Shaped.getD_getD`).  The monitor's canvas keeps the shape through
every tick, event and key (`Model.onTick_shaped`, `Model.onEvent_shaped`,
`Model.onKey_shaped`).
-/

namespace Multibody.Monitor

namespace Canvas

/-- The character in column `i` of row `j`, when the grid has that cell. -/
def at? (c : Canvas) (i j : Nat) : Option Char := c.cells[j]?.bind fun row => row[i]?

/-- A canvas whose grid has its rows and columns. -/
structure Shaped (c : Canvas) : Prop where
  rows : c.cells.size = canvasHeight
  cols : ∀ (j : Nat) (row : Array Char), c.cells[j]? = some row → row.size = canvasWidth

variable {c : Canvas}

theorem Shaped.at?_isSome (hc : c.Shaped) {i j : Nat} (hi : i < canvasWidth) (hj : j < canvasHeight) :
    (c.at? i j).isSome := by
  have hj' : j < c.cells.size := hc.rows ▸ hj
  have hrow : c.cells[j]? = some c.cells[j] := Array.getElem?_eq_getElem hj'
  have hsize := hc.cols j _ hrow
  simp only [at?, hrow, Option.bind_some]
  exact Option.isSome_iff_exists.2 ⟨_, Array.getElem?_eq_getElem (by omega)⟩

theorem at?_set (hc : c.Shaped) (p : Spot) (ch : Char) (i j : Nat) :
    (c.set p ch).at? i j = if p.x = i ∧ p.y = j ∧ i < canvasWidth ∧ j < canvasHeight then some ch else c.at? i j := by
  unfold set at?
  by_cases hg : (0 ≤ p.x && p.x < canvasWidth && 0 ≤ p.y && p.y < canvasHeight) = true
  · simp only [Bool.and_eq_true, decide_eq_true_eq] at hg
    rw [if_pos (by simpa using hg)]
    simp only [Array.getElem?_modify]
    by_cases hj : p.y.toNat = j
    · cases hrow : c.cells[j]? with
      | none =>
        have := hc.rows
        have : c.cells.size ≤ j := by simpa using hrow
        omega
      | some row =>
        have hsize := hc.cols j row hrow
        simp only [if_pos hj, Option.map_some, Option.bind_some, Array.getElem?_setIfInBounds, hsize]
        split_ifs <;> first | rfl | omega
    · simp only [if_neg hj]
      rw [if_neg (by omega)]
  · rw [if_neg (by simpa using hg), if_neg]
    simp only [Bool.and_eq_true, decide_eq_true_eq, not_and] at hg
    omega

theorem Shaped.of_cells {c' : Canvas} (hc : c.Shaped) (h : c'.cells = c.cells) : c'.Shaped :=
  ⟨h ▸ hc.rows, h ▸ hc.cols⟩

theorem set_shaped (hc : c.Shaped) (p : Spot) (ch : Char) : (c.set p ch).Shaped := by
  unfold set
  split
  · refine ⟨by rw [Array.size_modify]; exact hc.rows, fun j row h => ?_⟩
    rw [Array.getElem?_modify] at h
    split at h
    · obtain ⟨row0, h0, rfl⟩ := Option.map_eq_some_iff.1 h
      rw [Array.size_setIfInBounds]
      exact hc.cols j row0 h0
    · exact hc.cols j row h
  · exact hc

theorem Shaped.of_replicate (ch : Char) (h : c.cells = Array.replicate canvasHeight (Array.replicate canvasWidth ch)) :
    c.Shaped := by
  refine ⟨by rw [h, Array.size_replicate], fun j row hrow => ?_⟩
  rw [h, Array.getElem?_replicate] at hrow
  split at hrow
  · cases hrow
    exact Array.size_replicate
  · cases hrow

theorem clear_shaped (c : Canvas) : c.clear.Shaped := Shaped.of_replicate ' ' rfl

theorem new_shaped (s : Float) : ({ scale := s } : Canvas).Shaped := Shaped.of_replicate _ rfl

theorem walkLine_shaped (s : LineStride) (ch : Char) :
    ∀ (fuel : Nat) (c : Canvas) (w : LineWalk), c.Shaped → (walkLine s ch fuel c w).Shaped
  | 0, _, _, hc => hc
  | fuel + 1, c, w, hc => by
    unfold walkLine
    split
    · exact set_shaped hc _ _
    · exact walkLine_shaped s ch fuel _ _ (set_shaped hc _ _)

theorem line_shaped (hc : c.Shaped) (a b : Spot) (ch : Char) : (c.line a b ch).Shaped :=
  walkLine_shaped _ ch _ c _ hc

theorem drawBody_shaped (hc : c.Shaped) (s : Snapshot) (traced : Bool) : (c.drawBody s traced).Shaped := by
  unfold drawBody
  rw [Id.run_bind]
  dsimp only
  -- the two marks and the trail keep the shape the lines leave
  split <;> rw [Id.run_pure]
  · refine set_shaped ?_ _ _
    refine Shaped.of_cells (set_shaped ?_ _ _) rfl
    refine forIn_range_keeps Shaped _ _ (fun i b hb => ?_) c hc
    exact line_shaped hb _ _ _
  · refine set_shaped (set_shaped ?_ _ _) _ _
    refine forIn_range_keeps Shaped _ _ (fun i b hb => ?_) c hc
    exact line_shaped hb _ _ _

theorem drawTrail_shaped (hc : c.Shaped) : c.drawTrail.Shaped := by
  unfold drawTrail
  refine forIn_range_keeps Shaped _ _ (fun i b hb => ?_) c hc
  dsimp only
  split
  · exact hb
  · exact set_shaped hb _ _

theorem clampIndex_lt (v : Int) {n : Nat} (hn : 0 < n) : clampIndex v n < n := by
  unfold clampIndex
  split
  · exact hn
  · split <;> omega

theorem Shaped.getD_getD (hc : c.Shaped) {i j : Nat} (hi : i < canvasWidth) (hj : j < canvasHeight) (d : Char) :
    some ((c.cells.getD j #[]).getD i d) = c.at? i j := by
  have hj' : j < c.cells.size := hc.rows ▸ hj
  have hrow : c.cells[j]? = some c.cells[j] := Array.getElem?_eq_getElem hj'
  have hsize := hc.cols j _ hrow
  have hcell : c.cells[j][i]? = some c.cells[j][i] := Array.getElem?_eq_getElem (by omega)
  simp only [at?, Array.getD_eq_getD_getElem?, hrow, Option.getD_some, Option.bind_some, hcell]

end Canvas

namespace Model

open Sim

variable {τ σ : Type}

theorem sample_shaped (m : Model) (lab : Lab τ σ) : (m.sample lab).canvas.Shaped := by
  unfold sample
  dsimp only
  rw [Id.run_bind, Id.run_pure]
  refine Canvas.drawTrail_shaped ?_
  refine forIn_range_keeps (fun st : Canvas × Array Float => st.1.Shaped) _ _ (fun k st hst => ?_) _ (Canvas.clear_shaped _)
  split
  · -- every branch draws the body once, whatever it does to the history
    rename_i s _
    split
    · split <;> exact Canvas.drawBody_shaped hst s _
    · exact Canvas.drawBody_shaped hst s _
  · exact hst

theorem create_shaped (scale : Float) (state : SimState) : (create scale state).canvas.Shaped :=
  Canvas.new_shaped _

theorem onTick_shaped (m : Model) (lab : Lab τ σ) : (m.onTick lab).1.canvas.Shaped :=
  sample_shaped m lab

theorem onEvent_shaped {m : Model} (hm : m.canvas.Shaped) (ev : Event) (lab : Lab τ σ) :
    (m.onEvent ev lab).1.canvas.Shaped := by
  unfold onEvent
  -- only the end of the run redraws; the other events keep the canvas
  split <;> first | exact hm | exact sample_shaped _ lab

theorem onKey_cells (m : Model) (key : String) (lab : Lab τ σ) :
    (m.onKey key lab).1.canvas.cells = m.canvas.cells := by
  unfold onKey
  split <;> first | rfl | (dsimp only; split <;> rfl)

theorem onKey_shaped {m : Model} (hm : m.canvas.Shaped) (key : String) (lab : Lab τ σ) :
    (m.onKey key lab).1.canvas.Shaped :=
  Canvas.Shaped.of_cells hm (onKey_cells m key lab)

end Model

open LineStride in
/-- A line between 64-bit cells less than a third of `2⁶³` apart along each
axis sets a chain of touching cells from its first end to its far end, one
more than the longer distance; a set writes only the cell it is given, on the
grid; drawing bodies and the trail keeps the grid 20 rows of 70 cells and
reads it only inside; and the monitor's canvas keeps that grid through every
update, whatever the scale and the snapshots. -/
theorem drawing_ends_and_stays_in_grid (a b : Spot) (ha : IsWord a.x ∧ IsWord a.y) (hb : IsWord b.x ∧ IsWord b.y)
    (hx : 3 * (b.x - a.x).natAbs < 2 ^ 63) (hy : 3 * (b.y - a.y).natAbs < 2 ^ 63) :
    (let cs := (ofEnds a b).cells ((ofEnds a b).start a) (max (b.x - a.x).natAbs (b.y - a.y).natAbs)
     cs.length = max (b.x - a.x).natAbs (b.y - a.y).natAbs + 1 ∧ cs.head? = some a ∧ cs.getLast? = some b ∧
       cs.IsChain Spot.Touches ∧ ∀ (c : Canvas) (ch : Char), c.line a b ch = cs.foldl (fun c p => c.set p ch) c) ∧
    (∀ c : Canvas, c.Shaped →
      (∀ (p : Spot) (ch : Char) (i j : Nat), (c.set p ch).at? i j =
        if p.x = i ∧ p.y = j ∧ i < canvasWidth ∧ j < canvasHeight then some ch else c.at? i j) ∧
      (∀ (s : Snapshot) (traced : Bool), (c.drawBody s traced).Shaped) ∧ c.drawTrail.Shaped ∧
      (∀ i j, i < canvasWidth → j < canvasHeight → (c.at? i j).isSome) ∧
      ∀ p : Spot, some ((c.cells.getD (Canvas.clampIndex p.y canvasHeight) #[]).getD
        (Canvas.clampIndex p.x canvasWidth) ' ') =
          c.at? (Canvas.clampIndex p.x canvasWidth) (Canvas.clampIndex p.y canvasHeight)) ∧
    (∀ (scale : Float) (state : Sim.SimState), (Model.create scale state).canvas.Shaped) ∧
    ∀ {τ σ : Type} (m : Model) (lab : Sim.Lab τ σ), m.canvas.Shaped →
      (m.onTick lab).1.canvas.Shaped ∧ (∀ ev, (m.onEvent ev lab).1.canvas.Shaped) ∧
        ∀ key, (m.onKey key lab).1.canvas.Shaped := by
  refine ⟨line_sets_a_chain ha hb hx hy, fun c hc => ⟨fun p ch i j => Canvas.at?_set hc p ch i j,
    fun s traced => Canvas.drawBody_shaped hc s traced, Canvas.drawTrail_shaped hc,
    fun i j hi hj => hc.at?_isSome hi hj, fun p => ?_⟩, Model.create_shaped,
    fun m lab hm => ⟨Model.onTick_shaped m lab, fun ev => Model.onEvent_shaped hm ev lab,
      fun key => Model.onKey_shaped hm key lab⟩⟩
  -- the trail's indices are held inside the grid before it is read
  exact hc.getD_getD (Canvas.clampIndex_lt _ (by decide)) (Canvas.clampIndex_lt _ (by decide)) ' '

/-- The line from the origin to `(3, 1)` sets four touching cells, the last
on `(3, 1)`. -/
theorem three_by_one_line_sets_four_cells :
    let cs := (LineStride.ofEnds ⟨0, 0⟩ ⟨3, 1⟩).cells ((LineStride.ofEnds ⟨0, 0⟩ ⟨3, 1⟩).start ⟨0, 0⟩) 3
    cs.length = 4 ∧ cs.getLast? = some ⟨3, 1⟩ ∧ cs.IsChain Spot.Touches := by
  obtain ⟨⟨hlen, -, hlast, hchain, -⟩, -⟩ :=
    drawing_ends_and_stays_in_grid ⟨0, 0⟩ ⟨3, 1⟩ (by decide) (by decide) (by decide) (by decide)
  exact ⟨hlen, hlast, hchain⟩

end Multibody.Monitor
