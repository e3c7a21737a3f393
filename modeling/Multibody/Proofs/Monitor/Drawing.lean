import Multibody.Monitor.Model
import Mathlib

/-!
# Drawing on the canvas

A line is drawn by Bresenham's walk in 64-bit integers.  The doubled error
term stays within bounds (`Walking`) that move the longer axis at every step
and neither past its end (`Walking.step`), so below a third of `2⁶³` the
walk sets exactly `max dx dy + 1` neighbouring cells
(`line_walks_the_longer_axis`, `line_sets_a_chain`).  Further apart the
error term wraps and the walk never ends (`long_line_never_arrives`).
-/

namespace Multibody.Monitor

/-! ## 64-bit integers -/

/-- An integer a 64-bit word holds. -/
def IsWord (i : Int) : Prop := -2 ^ 63 ≤ i ∧ i < 2 ^ 63

instance : DecidablePred IsWord := fun i => inferInstanceAs (Decidable (-2 ^ 63 ≤ i ∧ i < 2 ^ 63))

theorem wrap64_of_isWord {i : Int} (h : IsWord i) : wrap64 i = i :=
  Int64.toInt_ofInt_of_le h.1 h.2

/-! ## The error term -/

section Walking

variable {dx dy X Y e : Int}

/-- Bresenham's invariant on the distances `X` and `Y` still to cover and the
error term `e` of a line of extent `dx` by `dy`. -/
structure Walking (dx dy X Y e : Int) : Prop where
  x_nonneg : 0 ≤ X
  x_le : X ≤ dx
  y_nonneg : 0 ≤ Y
  y_le : Y ≤ dy
  err_eq : e = dx - dy + dy * X - dx * Y
  lower : min (-dy) (dx - 2 * dy + 1) ≤ 2 * e - dx + dy
  upper : 2 * e - dx + dy ≤ max dx (2 * dx - dy - 1)

theorem Walking.dx_nonneg (h : Walking dx dy X Y e) : 0 ≤ dx := h.x_nonneg.trans h.x_le

theorem Walking.dy_nonneg (h : Walking dx dy X Y e) : 0 ≤ dy := h.y_nonneg.trans h.y_le

theorem walking_start (hdx : 0 ≤ dx) (hdy : 0 ≤ dy) : Walking dx dy dx dy (dx - dy) :=
  ⟨hdx, le_rfl, hdy, le_rfl, by ring, by omega, by omega⟩

theorem Walking.moves_x_within (h : Walking dx dy X Y e) (hn : ¬(X = 0 ∧ Y = 0)) (hm : -dy < 2 * e) :
    1 ≤ X := by
  by_contra hX
  have hX0 : X = 0 := by have := h.x_nonneg; omega
  have hY : 1 ≤ Y := by have := h.y_nonneg; omega
  have hprod : dx ≤ dx * Y := le_mul_of_one_le_right h.dx_nonneg hY
  have herr := h.err_eq
  rw [hX0, mul_zero] at herr
  have := h.dy_nonneg
  omega

theorem Walking.moves_x_of_lt (h : Walking dx dy X Y e) (hlt : Y < X) : -dy < 2 * e := by
  have hY := h.y_nonneg
  have h1 : dy * Y + dy ≤ dy * X := by
    have := mul_le_mul_of_nonneg_left (show Y + 1 ≤ X by omega) h.dy_nonneg
    rwa [mul_add, mul_one] at this
  by_contra hm
  -- standing still along x needs the y extent to lead
  have hle : dx ≤ dy := by have := h.lower; omega
  have h2 : dx * Y ≤ dy * Y := mul_le_mul_of_nonneg_right hle hY
  have := h.err_eq
  have := h.x_le
  have := h.dx_nonneg
  omega

theorem Walking.moves_x_of_eq (h : Walking dx dy X Y e) (hn : ¬(X = 0 ∧ Y = 0)) (heq : X = Y) :
    -dy < 2 * e := by
  subst heq
  have hX : 1 ≤ X := by have := h.x_nonneg; omega
  have := h.err_eq
  have := h.x_le
  have := h.dx_nonneg
  have := h.dy_nonneg
  by_contra hm
  have hle : dx ≤ dy := by have := h.lower; omega
  have h1 : dy - dx ≤ (dy - dx) * X := le_mul_of_one_le_right (by omega) hX
  rw [sub_mul] at h1
  omega

theorem Walking.swap (h : Walking dx dy X Y e) : Walking dy dx Y X (-e) :=
  ⟨h.y_nonneg, h.y_le, h.x_nonneg, h.x_le, by rw [h.err_eq]; ring, by have := h.upper; omega,
    by have := h.lower; omega⟩

theorem Walking.moves_y_within (h : Walking dx dy X Y e) (hn : ¬(X = 0 ∧ Y = 0)) (hm : 2 * e < dx) : 1 ≤ Y :=
  h.swap.moves_x_within (by omega) (by omega)

theorem Walking.moves_y_of_lt (h : Walking dx dy X Y e) (hlt : X < Y) : 2 * e < dx := by
  have := h.swap.moves_x_of_lt hlt
  omega

theorem Walking.step (h : Walking dx dy X Y e) (hn : ¬(X = 0 ∧ Y = 0)) :
    Walking dx dy (if -dy < 2 * e then X - 1 else X) (if 2 * e < dx then Y - 1 else Y)
        (e - (if -dy < 2 * e then dy else 0) + (if 2 * e < dx then dx else 0)) ∧
      max (if -dy < 2 * e then X - 1 else X) (if 2 * e < dx then Y - 1 else Y) + 1 = max X Y := by
  have hlo := h.lower
  have hup := h.upper
  have hx := h.moves_x_within hn
  have hy := h.moves_y_within hn
  have hxl := h.moves_x_of_lt
  have hyl := h.moves_y_of_lt
  have hxe := h.moves_x_of_eq hn
  -- the same along y, with the axes exchanged
  have hye : X = Y → 2 * e < dx := fun heq => by have := h.swap.moves_x_of_eq (by omega) heq.symm; omega
  have := h.x_nonneg
  have := h.x_le
  have := h.y_nonneg
  have := h.y_le
  have := h.dx_nonneg
  have := h.dy_nonneg
  -- the two decisions of the step, each closed by the bounds
  by_cases mx : -dy < 2 * e <;> by_cases my : 2 * e < dx <;> simp only [mx, my, if_true, if_false] <;>
    exact ⟨⟨by omega, by omega, by omega, by omega, by rw [h.err_eq]; ring, by omega, by omega⟩, by omega⟩

theorem Walking.sums_fit (h : Walking dx dy X Y e) (hdx : 3 * dx < 2 ^ 63) (hdy : 3 * dy < 2 ^ 63) :
    IsWord (2 * e) ∧ IsWord (-dy) ∧ IsWord (e - dy) ∧ IsWord (e + dx) ∧ IsWord (e - dy + dx) := by
  have := h.lower
  have := h.upper
  have := h.dx_nonneg
  have := h.dy_nonneg
  unfold IsWord
  omega

end Walking

section Axis

variable {σ t d p : Int}

theorem isWord_of_between (hσ : σ = 1 ∨ σ = -1) (ht : IsWord t) (hf : IsWord (t - σ * d))
    (h0 : 0 ≤ σ * (t - p)) (h1 : σ * (t - p) ≤ d) : IsWord p := by
  unfold IsWord at ht hf ⊢
  rcases hσ with rfl | rfl <;> omega

theorem rest_add_step (hσ : σ = 1 ∨ σ = -1) : σ * (t - (p + σ)) = σ * (t - p) - 1 := by
  rcases hσ with rfl | rfl <;> ring

end Axis

/-! ## The walk of a line -/

/-- Two cells touch: they differ, by at most one along each axis. -/
def Spot.Touches (p q : Spot) : Prop := max |p.x - q.x| |p.y - q.y| = 1

namespace LineStride

variable (s : LineStride)

/-- The distance a walk still has to cover along x. -/
def restX (w : LineWalk) : Int := s.sx * (s.target.x - w.x)

/-- The distance a walk still has to cover along y. -/
def restY (w : LineWalk) : Int := s.sy * (s.target.y - w.y)

/-- The walk's invariant, through the distances it still has to cover. -/
def Tracks (w : LineWalk) : Prop := Walking s.dx s.dy (s.restX w) (s.restY w) w.err

/-- A stride whose steps are units, whose extents are below a third of
`2⁶³`, and whose two ends are 64-bit cells. -/
structure Fits : Prop where
  sx : s.sx = 1 ∨ s.sx = -1
  sy : s.sy = 1 ∨ s.sy = -1
  dx_lt : 3 * s.dx < 2 ^ 63
  dy_lt : 3 * s.dy < 2 ^ 63
  target_x : IsWord s.target.x
  target_y : IsWord s.target.y
  from_x : IsWord (s.target.x - s.sx * s.dx)
  from_y : IsWord (s.target.y - s.sy * s.dy)

variable {s}

theorem arrived_iff (hs : s.Fits) (w : LineWalk) :
    s.arrived w = true ↔ s.restX w = 0 ∧ s.restY w = 0 := by
  simp only [arrived, restX, restY, Bool.and_eq_true, beq_iff_eq]
  rcases hs.sx with hx | hx <;> rcases hs.sy with hy | hy <;> rw [hx, hy] <;> omega

theorem isWord_x (hs : s.Fits) {w : LineWalk} (h0 : 0 ≤ s.restX w) (h1 : s.restX w ≤ s.dx) : IsWord w.x :=
  isWord_of_between hs.sx hs.target_x hs.from_x h0 h1

theorem isWord_y (hs : s.Fits) {w : LineWalk} (h0 : 0 ≤ s.restY w) (h1 : s.restY w ≤ s.dy) : IsWord w.y :=
  isWord_of_between hs.sy hs.target_y hs.from_y h0 h1

theorem restX_add (hs : s.Fits) (w : LineWalk) : s.restX { w with x := w.x + s.sx } = s.restX w - 1 :=
  rest_add_step hs.sx

theorem restY_add (hs : s.Fits) (w : LineWalk) : s.restY { w with y := w.y + s.sy } = s.restY w - 1 :=
  rest_add_step hs.sy

theorem step_of_tracks (hs : s.Fits) {w : LineWalk} (h : s.Tracks w) (hn : ¬(s.restX w = 0 ∧ s.restY w = 0)) :
    s.step w =
      { x := if -s.dy < 2 * w.err then w.x + s.sx else w.x,
        y := if 2 * w.err < s.dx then w.y + s.sy else w.y,
        err := w.err - (if -s.dy < 2 * w.err then s.dy else 0) + (if 2 * w.err < s.dx then s.dx else 0) } := by
  obtain ⟨h2e, hdy, hsub, hadd, hboth⟩ := Walking.sums_fit h hs.dx_lt hs.dy_lt
  -- a cell the step moves to is still between the ends
  have hx : -s.dy < 2 * w.err → IsWord (w.x + s.sx) := fun hm => by
    have h1 := h.moves_x_within hn hm
    have h0 := restX_add hs w
    exact isWord_x (w := { w with x := w.x + s.sx }) hs (by rw [h0]; omega) (by rw [h0]; have := h.x_le; omega)
  have hy : 2 * w.err < s.dx → IsWord (w.y + s.sy) := fun hm => by
    have h1 := h.moves_y_within hn hm
    have h0 := restY_add hs w
    exact isWord_y (w := { w with y := w.y + s.sy }) hs (by rw [h0]; omega) (by rw [h0]; have := h.y_le; omega)
  unfold step
  rw [wrap64_of_isWord h2e, wrap64_of_isWord hdy]
  by_cases mx : -s.dy < 2 * w.err <;> by_cases my : 2 * w.err < s.dx
  · simp only [gt_iff_lt, mx, my, if_true, wrap64_of_isWord hsub, wrap64_of_isWord (hx mx),
      wrap64_of_isWord hboth, wrap64_of_isWord (hy my)]
  · simp only [gt_iff_lt, mx, my, if_true, if_false, wrap64_of_isWord hsub, wrap64_of_isWord (hx mx), add_zero]
  · simp only [gt_iff_lt, mx, my, if_true, if_false, wrap64_of_isWord hadd, wrap64_of_isWord (hy my), sub_zero]
  · simp only [gt_iff_lt, mx, my, if_false, sub_zero, add_zero]

theorem Tracks.step (hs : s.Fits) {w : LineWalk} (h : s.Tracks w) (hn : s.arrived w = false) :
    s.Tracks (s.step w) ∧
      max (s.restX (s.step w)) (s.restY (s.step w)) + 1 = max (s.restX w) (s.restY w) ∧
      Spot.Touches w.spot (s.step w).spot := by
  have hn' : ¬(s.restX w = 0 ∧ s.restY w = 0) := by
    rw [← arrived_iff hs]
    simp [hn]
  obtain ⟨hw, hmax⟩ := Walking.step h hn'
  -- the distances the step leaves are those of the exact step
  have hrx : s.restX (s.step w) = if -s.dy < 2 * w.err then s.restX w - 1 else s.restX w := by
    rw [step_of_tracks hs h hn']
    by_cases mx : -s.dy < 2 * w.err
    · simp only [mx, if_true]
      exact restX_add hs w
    · simp only [mx, if_false]
      rfl
  have hry : s.restY (s.step w) = if 2 * w.err < s.dx then s.restY w - 1 else s.restY w := by
    rw [step_of_tracks hs h hn']
    by_cases my : 2 * w.err < s.dx
    · simp only [my, if_true]
      exact restY_add hs w
    · simp only [my, if_false]
      rfl
  refine ⟨?_, ?_, ?_⟩
  · unfold Tracks
    rw [hrx, hry, step_of_tracks hs h hn']
    exact hw
  · rw [hrx, hry]
    exact hmax
  · -- at least one axis moves, each by a unit
    have hsome : -s.dy < 2 * w.err ∨ 2 * w.err < s.dx := by
      rcases lt_trichotomy (s.restX w) (s.restY w) with hlt | heq | hgt
      · exact .inr (h.moves_y_of_lt hlt)
      · exact .inl (h.moves_x_of_eq hn' heq)
      · exact .inl (h.moves_x_of_lt hgt)
    rw [step_of_tracks hs h hn']
    simp only [Spot.Touches, LineWalk.spot]
    rcases hs.sx with hx | hx <;> rcases hs.sy with hy | hy <;> rw [hx, hy] <;>
      split <;> split <;> simp_all

theorem Tracks.iterate (hs : s.Fits) {w : LineWalk} (h : s.Tracks w) :
    ∀ k : Nat, (k : Int) ≤ max (s.restX w) (s.restY w) →
      s.Tracks (s.step^[k] w) ∧ max (s.restX (s.step^[k] w)) (s.restY (s.step^[k] w)) = max (s.restX w) (s.restY w) - k
  | 0, _ => ⟨h, by simp⟩
  | k + 1, hk => by
    obtain ⟨hk', hm⟩ := Tracks.iterate hs h k (by omega)
    -- not yet at the end: something is left to cover
    have hn : s.arrived (s.step^[k] w) = false := by
      rw [Bool.eq_false_iff, ne_eq, arrived_iff hs]
      have := hk'.x_nonneg
      have := hk'.y_nonneg
      omega
    obtain ⟨ht, hmax, -⟩ := hk'.step hs hn
    rw [Function.iterate_succ_apply']
    exact ⟨ht, by push_cast; omega⟩

/-- The cells a walk stands on in its first `n + 1` places. -/
def cells (s : LineStride) (w : LineWalk) (n : Nat) : List Spot :=
  (List.range (n + 1)).map fun k => (s.step^[k] w).spot

theorem cells_succ (w : LineWalk) (n : Nat) : s.cells w (n + 1) = w.spot :: s.cells (s.step w) n := by
  unfold cells
  rw [List.range_succ_eq_map, List.map_cons, List.map_map]
  rfl

theorem length_cells (w : LineWalk) (n : Nat) : (s.cells w n).length = n + 1 := by
  simp only [cells, List.length_map, List.length_range]

theorem head?_cells (w : LineWalk) (n : Nat) : (s.cells w n).head? = some w.spot := by
  simp only [cells, List.head?_map, List.head?_range, Nat.add_one_ne_zero, if_false, Option.map_some,
    Function.iterate_zero, id]

theorem getLast?_cells (w : LineWalk) (n : Nat) : (s.cells w n).getLast? = some (s.step^[n] w).spot := by
  simp only [cells, List.getLast?_map, List.getLast?_range, Nat.add_one_ne_zero, if_false, Option.map_some,
    Nat.add_sub_cancel]

theorem isChain_cells {R : Spot → Spot → Prop} (w : LineWalk) (n : Nat)
    (h : ∀ k < n, R (s.step^[k] w).spot (s.step^[k + 1] w).spot) : (s.cells w n).IsChain R := by
  unfold cells
  rw [List.isChain_map, List.isChain_range_succ]
  exact h

theorem walkLine_eq (hs : s.Fits) (ch : Char) :
    ∀ (fuel : Nat) (c : Canvas) (w : LineWalk), s.Tracks w → max (s.restX w) (s.restY w) < fuel →
      Canvas.walkLine s ch fuel c w = (s.cells w (max (s.restX w) (s.restY w)).toNat).foldl (fun c p => c.set p ch) c
  | 0, _, _, h, hf => absurd hf (by have := h.x_nonneg; omega)
  | fuel + 1, c, w, h, hf => by
    unfold Canvas.walkLine
    by_cases ha : s.arrived w = true
    · -- standing on the far end: that cell is the last
      obtain ⟨hx, hy⟩ := (arrived_iff hs w).1 ha
      rw [if_pos ha, hx, hy]
      rfl
    · have ha' : s.arrived w = false := by simpa using ha
      obtain ⟨ht, hmax, -⟩ := h.step hs ha'
      rw [if_neg ha, walkLine_eq hs ch fuel _ (s.step w) ht (by omega)]
      have hm : (max (s.restX w) (s.restY w)).toNat = (max (s.restX (s.step w)) (s.restY (s.step w))).toNat + 1 := by
        have := ht.x_nonneg
        omega
      rw [hm, cells_succ, List.foldl_cons]

theorem wrapAbs_wrap64 {d : Int} (h : 3 * d.natAbs < 2 ^ 63) : wrapAbs (wrap64 d) = d.natAbs := by
  rw [wrap64_of_isWord (by unfold IsWord; omega), wrapAbs]
  split
  · rw [wrap64_of_isWord (by unfold IsWord; omega)]
    omega
  · omega

theorem restX_start (a b : Spot) : (ofEnds a b).restX ((ofEnds a b).start a) = (b.x - a.x).natAbs := by
  simp only [restX, start, ofEnds]
  split <;> omega

theorem restY_start (a b : Spot) : (ofEnds a b).restY ((ofEnds a b).start a) = (b.y - a.y).natAbs := by
  simp only [restY, start, ofEnds]
  split <;> omega

theorem ofEnds_fits {a b : Spot} (ha : IsWord a.x ∧ IsWord a.y) (hb : IsWord b.x ∧ IsWord b.y)
    (hx : 3 * (b.x - a.x).natAbs < 2 ^ 63) (hy : 3 * (b.y - a.y).natAbs < 2 ^ 63) :
    (ofEnds a b).Fits ∧ (ofEnds a b).dx = (b.x - a.x).natAbs ∧ (ofEnds a b).dy = (b.y - a.y).natAbs ∧
      (ofEnds a b).Tracks ((ofEnds a b).start a) := by
  have hdx : (ofEnds a b).dx = (b.x - a.x).natAbs := wrapAbs_wrap64 hx
  have hdy : (ofEnds a b).dy = (b.y - a.y).natAbs := wrapAbs_wrap64 hy
  obtain ⟨hax, hay⟩ := ha
  obtain ⟨hbx, hby⟩ := hb
  -- the first end is the far end less the extent in the step's direction
  have hfx : b.x - (ofEnds a b).sx * (ofEnds a b).dx = a.x := by
    rw [hdx]
    simp only [ofEnds]
    split <;> omega
  have hfy : b.y - (ofEnds a b).sy * (ofEnds a b).dy = a.y := by
    rw [hdy]
    simp only [ofEnds]
    split <;> omega
  have hfits : (ofEnds a b).Fits :=
    { sx := by simp only [ofEnds]; split <;> simp
      sy := by simp only [ofEnds]; split <;> simp
      dx_lt := by rw [hdx]; omega
      dy_lt := by rw [hdy]; omega
      target_x := hbx
      target_y := hby
      from_x := by rw [show (ofEnds a b).target.x = b.x from rfl, hfx]; exact hax
      from_y := by rw [show (ofEnds a b).target.y = b.y from rfl, hfy]; exact hay }
  have herr : ((ofEnds a b).start a).err = (ofEnds a b).dx - (ofEnds a b).dy :=
    wrap64_of_isWord (by rw [hdx, hdy]; unfold IsWord; omega)
  refine ⟨hfits, hdx, hdy, ?_⟩
  unfold Tracks
  rw [restX_start, restY_start, herr, ← hdx, ← hdy]
  exact walking_start (by rw [hdx]; omega) (by rw [hdy]; omega)

end LineStride

open LineStride in
/-- A line between 64-bit cells less than a third of `2⁶³` apart along each
axis: its walk starts on the first end, stands on the far end after exactly
the longer of the two distances in steps and on no step before, and moves to
a touching cell at each step; drawing it sets exactly the cells of those
places, one after the other. -/
theorem line_walks_the_longer_axis {a b : Spot} (ha : IsWord a.x ∧ IsWord a.y) (hb : IsWord b.x ∧ IsWord b.y)
    (hx : 3 * (b.x - a.x).natAbs < 2 ^ 63) (hy : 3 * (b.y - a.y).natAbs < 2 ^ 63) :
    let s := ofEnds a b
    let n := max (b.x - a.x).natAbs (b.y - a.y).natAbs
    (s.start a).spot = a ∧ (s.step^[n] (s.start a)).spot = b ∧ s.arrived (s.step^[n] (s.start a)) = true ∧
      (∀ k < n, s.arrived (s.step^[k] (s.start a)) = false ∧
        Spot.Touches (s.step^[k] (s.start a)).spot (s.step^[k + 1] (s.start a)).spot) ∧
      ∀ (c : Canvas) (ch : Char), c.line a b ch = (s.cells (s.start a) n).foldl (fun c p => c.set p ch) c := by
  intro s n
  obtain ⟨hs, hdx, hdy, h0⟩ : s.Fits ∧ s.dx = (b.x - a.x).natAbs ∧ s.dy = (b.y - a.y).natAbs ∧
      s.Tracks (s.start a) := ofEnds_fits ha hb hx hy
  have hmax : max (s.restX (s.start a)) (s.restY (s.start a)) = n := by
    rw [restX_start, restY_start]
    omega
  -- the walk after `k` steps, for every `k` up to the longer distance
  have hwalk := fun k (hk : k ≤ n) => Tracks.iterate hs h0 k (by rw [hmax]; exact_mod_cast hk)
  obtain ⟨hn, hnmax⟩ := hwalk n le_rfl
  have hend : s.restX (s.step^[n] (s.start a)) = 0 ∧ s.restY (s.step^[n] (s.start a)) = 0 := by
    have := hn.x_nonneg
    have := hn.y_nonneg
    rw [hmax] at hnmax
    omega
  have harr := (arrived_iff hs _).2 hend
  refine ⟨rfl, ?_, harr, fun k hk => ?_, fun c ch => ?_⟩
  · -- nothing left to cover: the walk stands on the far end
    simp only [arrived, Bool.and_eq_true, beq_iff_eq] at harr
    exact congrArg₂ Spot.mk harr.1 harr.2
  · obtain ⟨hk', hkmax⟩ := hwalk k hk.le
    have hna : s.arrived (s.step^[k] (s.start a)) = false := by
      rw [Bool.eq_false_iff, ne_eq, arrived_iff hs]
      rw [hmax] at hkmax
      omega
    refine ⟨hna, ?_⟩
    rw [Function.iterate_succ_apply']
    exact (hk'.step hs hna).2.2
  · unfold Canvas.line
    rw [walkLine_eq hs ch _ c _ h0 (by rw [hmax, hdx, hdy]; omega), hmax]
    rfl

open LineStride in
theorem line_sets_a_chain {a b : Spot} (ha : IsWord a.x ∧ IsWord a.y) (hb : IsWord b.x ∧ IsWord b.y)
    (hx : 3 * (b.x - a.x).natAbs < 2 ^ 63) (hy : 3 * (b.y - a.y).natAbs < 2 ^ 63) :
    let cs := (ofEnds a b).cells ((ofEnds a b).start a) (max (b.x - a.x).natAbs (b.y - a.y).natAbs)
    cs.length = max (b.x - a.x).natAbs (b.y - a.y).natAbs + 1 ∧ cs.head? = some a ∧ cs.getLast? = some b ∧
      cs.IsChain Spot.Touches ∧ ∀ (c : Canvas) (ch : Char), c.line a b ch = cs.foldl (fun c p => c.set p ch) c := by
  obtain ⟨hstart, hend, -, hsteps, hline⟩ := line_walks_the_longer_axis ha hb hx hy
  refine ⟨length_cells _ _, ?_, ?_, isChain_cells _ _ fun k hk => (hsteps k hk).2, hline⟩
  · rw [head?_cells, hstart]
  · rw [getLast?_cells, hend]

/-- Past a third of `2⁶³` the doubled error term wraps: the walk from any
cell toward the cell `2⁶²` to its right cycles through four error terms
without ever moving along x, so it never reaches its far end and the line is
never done. -/
theorem long_line_never_arrives (a : Spot) (k : Nat) :
    let s := LineStride.ofEnds a ⟨a.x + 2 ^ 62, a.y⟩
    (s.step^[k] (s.start a)).x = a.x ∧ s.arrived (s.step^[k] (s.start a)) = false := by
  intro s
  have hdx : s.dx = 2 ^ 62 := by
    show wrapAbs (wrap64 (a.x + 2 ^ 62 - a.x)) = 2 ^ 62
    rw [add_sub_cancel_left]
    decide
  have hdy : s.dy = 0 := by
    show wrapAbs (wrap64 (a.y - a.y)) = 0
    rw [sub_self]
    decide
  -- the four error terms of the cycle; each doubles to at most zero, so x stays
  let Stuck (w : LineWalk) : Prop := w.x = a.x ∧ (w.err = 2 ^ 62 ∨ w.err = -2 ^ 63 ∨ w.err = -2 ^ 62 ∨ w.err = 0)
  have hmove : ∀ w : LineWalk, wrap64 (2 * w.err) ≤ 0 →
      s.step w = { w with err := wrap64 (w.err + 2 ^ 62), y := wrap64 (w.y + s.sy) } := by
    intro w hle
    have h1 : ¬ wrap64 (2 * w.err) > wrap64 (-s.dy) := by
      rw [hdy]
      exact not_lt.2 hle
    have h2 : wrap64 (2 * w.err) < s.dx := by
      rw [hdx]
      omega
    simp only [LineStride.step, h1, h2, if_false, if_true]
    rw [hdx]
  have hstep : ∀ w, Stuck w → Stuck (s.step w) := by
    rintro w ⟨hx, he⟩
    rcases he with he | he | he | he
    · rw [hmove w (by rw [he]; decide)]
      exact ⟨hx, .inr (.inl (show wrap64 (w.err + 2 ^ 62) = _ by rw [he]; decide))⟩
    · rw [hmove w (by rw [he]; decide)]
      exact ⟨hx, .inr (.inr (.inl (show wrap64 (w.err + 2 ^ 62) = _ by rw [he]; decide)))⟩
    · rw [hmove w (by rw [he]; decide)]
      exact ⟨hx, .inr (.inr (.inr (show wrap64 (w.err + 2 ^ 62) = _ by rw [he]; decide)))⟩
    · rw [hmove w (by rw [he]; decide)]
      exact ⟨hx, .inl (show wrap64 (w.err + 2 ^ 62) = _ by rw [he]; decide)⟩
  have hstart : Stuck (s.start a) := by
    refine ⟨rfl, .inl ?_⟩
    show wrap64 (s.dx - s.dy) = 2 ^ 62
    rw [hdx, hdy]
    decide
  have hk : Stuck (s.step^[k] (s.start a)) := Function.Iterate.rec Stuck hstart hstep k
  refine ⟨hk.1, ?_⟩
  simp only [LineStride.arrived, hk.1, Bool.and_eq_false_iff, beq_eq_false_iff_ne]
  exact .inl (show a.x ≠ a.x + 2 ^ 62 by omega)

end Multibody.Monitor
