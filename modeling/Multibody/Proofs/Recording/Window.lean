import Mathlib.Data.List.DropRight
import Multibody.Sim.Simulator

/-!
# Windows of the newest entries

Recordings and result buffers keep their newest entries.  Trimming early is
harmless by `rtake_append_rtake` and `rtake_rtake_append`, so buffer and
recording agree however the frames were split.  `window` and
`RecordingMode.retain` state what each holds.
-/

namespace Multibody.Sim

open List

variable {α β : Type}

/-! ## Newest entries of a list -/

theorem rtake_append_rtake (A B : List α) (k : Nat) :
    (A ++ B.rtake k).rtake k = (A ++ B).rtake k := by
  simp only [rtake_eq_reverse_take_reverse, reverse_append, reverse_reverse, take_append, take_take,
    length_take, length_reverse, Nat.min_self]
  congr 3
  omega

theorem rtake_rtake_append (A B : List α) (k : Nat) :
    (A.rtake k ++ B).rtake k = (A ++ B).rtake k := by
  simp only [rtake_eq_reverse_take_reverse, reverse_append, reverse_reverse, take_append, take_take]
  congr 3
  omega

theorem rtake_of_length_le (l : List α) {n : Nat} (h : l.length ≤ n) : l.rtake n = l := by
  simp [rtake, Nat.sub_eq_zero_of_le h]

theorem map_rtake (f : α → β) (l : List α) (n : Nat) : (l.rtake n).map f = (l.map f).rtake n := by
  simp [rtake, map_drop]

/-- The newest `c` entries of a list, or the whole list when `c` is zero:
what a result buffer of capacity `c` holds of the snapshots given to it. -/
def window (c : Nat) (l : List α) : List α := if c = 0 then l else l.rtake c

@[simp] theorem window_zero (l : List α) : window 0 l = l := rfl

theorem map_window (f : α → β) (c : Nat) (l : List α) : (window c l).map f = window c (l.map f) := by
  unfold window
  split <;> simp [map_rtake]

theorem window_append_window (c : Nat) (l m : List α) :
    window c (window c l ++ m) = window c (l ++ m) := by
  unfold window
  split
  · rfl
  · exact rtake_rtake_append l m c

theorem window_nil (c : Nat) : window c ([] : List α) = [] := by
  unfold window
  split <;> simp

theorem getLast?_window (c : Nat) (l : List α) (x : α) : (window c (l ++ [x])).getLast? = some x := by
  unfold window
  split
  · simp
  · rename_i hc
    obtain ⟨c', rfl⟩ := Nat.exists_eq_succ_of_ne_zero hc
    simp

/-- The frames a recording in mode `m`, with tail length `k`, holds when the
frames `new` are published after the frames `old`: all of them, the newest
`k` in tail mode, and only `old` when recording is off. -/
def RecordingMode.retain (m : RecordingMode) (k : Int) (old new : List α) : List α :=
  match m with
  | .tail => (old ++ new).rtake k.toNat
  | .off => old
  | _ => old ++ new

theorem toList_extract_to_size (xs : Array α) (i : Nat) :
    (xs.extract i xs.size).toList = xs.toList.drop i := by
  rw [Array.toList_extract, List.extract_eq_take_drop, List.take_of_length_le (by simp)]

/-! ## Recordings -/

namespace Recording

theorem frames_trim (r : Recording) :
    r.trim.frames.toList = if r.capacity ≤ 0 then r.frames.toList else r.frames.toList.rtake r.capacity.toNat := by
  unfold trim
  by_cases hc : r.capacity ≤ 0
  · simp [hc]
  · by_cases hs : r.frames.size ≤ r.capacity.toNat
    · simp only [hc, hs, or_true, ↓reduceIte]
      rw [rtake_of_length_le _ (by simpa using hs)]
    · simp only [hc, hs, or_self, ↓reduceIte, toList_extract_to_size, rtake, Array.length_toList]

@[simp] theorem capacity_trim (r : Recording) : r.trim.capacity = r.capacity := by
  unfold trim
  split <;> rfl

theorem frames_append (r : Recording) (fs : Array Snapshot) :
    (r.append fs).frames.toList =
      if r.capacity ≤ 0 then r.frames.toList ++ fs.toList
      else (r.frames.toList ++ fs.toList).rtake r.capacity.toNat := by
  simp [append, frames_trim]

@[simp] theorem capacity_append (r : Recording) (fs : Array Snapshot) :
    (r.append fs).capacity = r.capacity := by
  simp [append]

theorem frames_setCapacity (r : Recording) (c : Int) :
    (r.setCapacity c).frames.toList = if c ≤ 0 then r.frames.toList else r.frames.toList.rtake c.toNat := by
  simp [setCapacity, frames_trim]

@[simp] theorem capacity_setCapacity (r : Recording) (c : Int) : (r.setCapacity c).capacity = c := by
  simp [setCapacity]

end Recording

/-! ## Result buffers -/

theorem SimBody.buffer_pushResult (sb : SimBody) (snap : Snapshot) :
    (sb.pushResult snap).buffer.toList = window sb.capacity (sb.buffer.toList ++ [snap]) := by
  unfold pushResult window
  by_cases hc : sb.capacity = 0
  · simp [hc]
  · have hpos : 0 < sb.capacity := Nat.pos_of_ne_zero hc
    rw [if_neg hc]
    by_cases hfull : sb.buffer.size ≥ sb.capacity
    · -- the oldest snapshots go: both sides drop `size + 1 - capacity` of them
      simp only [hpos, hfull, decide_true, Bool.and_self, ↓reduceIte, Array.toList_push,
        toList_extract_to_size, rtake, List.length_append, Array.length_toList, List.length_singleton]
      rw [List.drop_append_of_le_length (by simp; omega),
        show sb.buffer.size + 1 - sb.capacity = sb.buffer.size - sb.capacity + 1 by omega]
    · simp only [hpos, decide_true, ge_iff_le, hfull, decide_false, Bool.and_false, Bool.false_eq_true,
        ↓reduceIte, Array.toList_push]
      rw [rtake_of_length_le _ (by simp; omega)]

end Multibody.Sim
