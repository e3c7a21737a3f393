import Mathlib
import Multibody.Store.Runs
import Multibody.Proofs.Decimal.RoundTrip
import Multibody.Proofs.Store.PlainRecords

/-!
# Tracks read back

A track is written as comma-separated records, a header and one row per frame,
every double with six decimals.  Reading it back gives one row per frame, in
order (`seriesOfText_trackText`): the frame numbers themselves while they are
within `2 ^ 53` of zero, and every double as six decimals keep it
(`Decimal.sixPlaces`), the joint columns as many as the first frame has joints,
zero where a frame has fewer.  No row is skipped, whatever its doubles: NaN and
the infinities are written as words that read back as themselves.

`keptSeries` states what a track keeps, column by column.
-/

namespace Multibody.Store

open Decimal

section Fields

theorem needsQuotes_eq_false {f : String}
    (h : ∀ c ∈ f.toList, 43 ≤ c.toNat ∧ c.toNat ≤ 122 ∧ c.toNat ≠ 44 ∧ c.toNat ≠ 92) :
    needsQuotes f = false := by
  unfold needsQuotes
  by_cases he : f = ""
  · simp [he]
  have hs : f ≠ "\\." := by
    rintro rfl
    exact (h '\\' (by simp)).2.2.2 rfl
  simp only [beq_iff_eq, he, hs, if_false, Bool.or_eq_false_iff]
  constructor
  · rw [String.any, String.contains_bool_eq, List.any_eq_false]
    intro c hc
    obtain ⟨hlo, hhi, hcomma, -⟩ := h c hc
    simp only [Bool.or_eq_true, beq_iff_eq, not_or, ← Char.toNat_inj, Char.reduceToNat]
    omega
  · -- the first character is no blank
    split
    · rename_i c cs hcs
      obtain ⟨hlo, hhi, -, -⟩ := h c (by rw [hcs]; simp)
      simp only [Bool.or_eq_false_iff, beq_eq_false_iff_ne, ne_eq, ← Char.toNat_inj,
        Char.reduceToNat, Bool.and_eq_false_iff, decide_eq_false_iff_not]
      omega
    · rfl

private theorem digit_bounds {c : Char} (h : c.isDigit = true) :
    43 ≤ c.toNat ∧ c.toNat ≤ 122 ∧ c.toNat ≠ 44 ∧ c.toNat ≠ 92 := by
  have := Char.isDigit_iff_toNat.mp h
  simp at this
  omega

private theorem needsQuotes_numeral (neg : Bool) (body : List Char)
    (hbody : ∀ c ∈ body, c.isDigit = true ∨ c = '.') :
    needsQuotes (String.ofList ((if neg then ['-'] else []) ++ body)) = false := by
  apply needsQuotes_eq_false
  intro c hc
  rw [String.toList_ofList] at hc
  rcases List.mem_append.mp hc with h | h
  · cases neg <;> simp at h
    subst h; decide
  · rcases hbody c h with h | rfl
    · exact digit_bounds h
    · decide

theorem needsQuotes_trackNumber (x : Float) : needsQuotes (trackNumber x) = false := by
  unfold trackNumber
  cases hb : Binary.ofFloat? x with
  | none =>
    -- the words of NaN and the infinities
    unfold fixed
    rw [hb]
    dsimp only
    unfold specialText?
    split
    · exact needsQuotes_eq_false (by simp)
    · split
      · split <;> exact needsQuotes_eq_false (by simp)
      · exact needsQuotes_eq_false (by simp)
  | some b =>
    obtain ⟨ds₁, ds₂, htext, -, hdig, -, -⟩ := fixed_eq_pointed hb (by norm_num : 0 < 6)
    rw [htext, List.append_assoc]
    apply needsQuotes_numeral
    intro c hc
    rcases List.mem_append.mp hc with h | h
    · exact .inl (hdig c (List.mem_append_left _ h))
    · rcases List.mem_cons.mp h with rfl | h
      · exact .inr rfl
      · exact .inl (hdig c (List.mem_append_right _ h))

theorem needsQuotes_intText (i : Int) : needsQuotes (toString i) = false := by
  rw [intText_eq]
  exact needsQuotes_numeral _ _ fun c hc => .inl (Nat.isDigit_of_mem_toDigits (by decide) (by decide) hc)

private theorem needsQuotes_columnName (p : String) (hp : p = "q" ∨ p = "dq" ∨ p = "u") (i : Nat) :
    needsQuotes (p ++ toString i) = false := by
  apply needsQuotes_eq_false
  intro c hc
  rw [String.toList_append, Nat.toString_eq_ofList_toDigits, String.toList_ofList] at hc
  rcases List.mem_append.mp hc with h | h
  · rcases hp with rfl | rfl | rfl <;> simp at h <;> rcases h with rfl | rfl <;> decide
  · exact digit_bounds (Nat.isDigit_of_mem_toDigits (by decide) (by decide) h)

end Fields

section Layout

/-- The joint count of a track: the first frame's, or none. -/
def trackJoints (frames : Array Snapshot) : Nat := (frames[0]?.map (·.q.size)).getD 0

/-- The entries a track writes of one joint array: as many as the track has joints,
zero where the array has none. -/
def jointColumn (joints : Nat) (vals : Array Float) : List Float :=
  (List.range joints).map fun i => vals.getD i 0.0

/-- The doubles of a frame's row after its number. -/
def rowDoubles (joints : Nat) (fr : Snapshot) : List Float :=
  [fr.time, fr.root.position.x, fr.root.position.y, fr.root.position.z] ++
    jointColumn joints fr.q ++ jointColumn joints fr.dq ++ jointColumn joints fr.u

@[simp] theorem length_jointColumn (joints : Nat) (vals : Array Float) :
    (jointColumn joints vals).length = joints := by
  simp [jointColumn]

@[simp] theorem length_rowDoubles (joints : Nat) (fr : Snapshot) :
    (rowDoubles joints fr).length = 4 + 3 * joints := by
  simp [rowDoubles]; omega

theorem trackText_eq (frames : Array Snapshot) :
    ∃ header : List String, header.length = 5 + 3 * trackJoints frames ∧
      (∀ f ∈ header, needsQuotes f = false) ∧
      trackText frames = String.join (recordLine header :: frames.toList.map fun fr =>
        recordLine (toString fr.frame :: (rowDoubles (trackJoints frames) fr).map trackNumber)) := by
  refine ⟨["frame", "time", "x", "y", "z"] ++
      ((List.range (trackJoints frames)).map fun i => "q" ++ toString i) ++
      ((List.range (trackJoints frames)).map fun i => "dq" ++ toString i) ++
      ((List.range (trackJoints frames)).map fun i => "u" ++ toString i), ?_, ?_, ?_⟩
  · simp; omega
  · intro f hf
    simp only [List.mem_append, List.mem_map] at hf
    rcases hf with ((hlit | ⟨i, -, rfl⟩) | ⟨i, -, rfl⟩) | ⟨i, -, rfl⟩
    · simp only [List.mem_cons, List.mem_nil_iff, or_false] at hlit
      rcases hlit with rfl | rfl | rfl | rfl | rfl <;> exact needsQuotes_eq_false (by simp)
    · exact needsQuotes_columnName "q" (.inl rfl) i
    · exact needsQuotes_columnName "dq" (.inr (.inl rfl)) i
    · exact needsQuotes_columnName "u" (.inr (.inr rfl)) i
  · simp [trackText, trackJoints, rowDoubles, jointColumn, List.map_append, Function.comp_def]

end Layout

section Reading

/-- What six decimals keep of a frame's root position. -/
def keptPosition (fr : Snapshot) : Vec3 :=
  ⟨sixPlaces fr.root.position.x, sixPlaces fr.root.position.y, sixPlaces fr.root.position.z⟩

/-- What a track keeps of one joint array. -/
def keptColumn (joints : Nat) (vals : Array Float) : Array Float :=
  ((jointColumn joints vals).map sixPlaces).toArray

/-- What a track keeps of a run of frames, column by column: the frame numbers, and
every double as six decimals keep it, with the first frame's count of joint
entries. -/
def keptSeries (frames : Array Snapshot) : Series :=
  { frames := frames.map (·.frame),
    times := frames.map fun fr => sixPlaces fr.time,
    root := frames.map keptPosition,
    q := frames.map fun fr => keptColumn (trackJoints frames) fr.q,
    dq := frames.map fun fr => keptColumn (trackJoints frames) fr.dq,
    u := frames.map fun fr => keptColumn (trackJoints frames) fr.u }

/-- A series with the kept rows of some frames appended. -/
def Series.appendKept (joints : Nat) (s : Series) (frs : List Snapshot) : Series :=
  { frames := s.frames ++ (frs.map (·.frame)).toArray,
    times := s.times ++ (frs.map fun fr => sixPlaces fr.time).toArray,
    root := s.root ++ (frs.map keptPosition).toArray,
    q := s.q ++ (frs.map fun fr => keptColumn joints fr.q).toArray,
    dq := s.dq ++ (frs.map fun fr => keptColumn joints fr.dq).toArray,
    u := s.u ++ (frs.map fun fr => keptColumn joints fr.u).toArray }

theorem Series.appendKept_nil (joints : Nat) (s : Series) : s.appendKept joints [] = s := by
  simp [Series.appendKept]

theorem Series.appendKept_append (joints : Nat) (s : Series) (a b : List Snapshot) :
    (s.appendKept joints a).appendKept joints b = s.appendKept joints (a ++ b) := by
  simp [Series.appendKept, Array.append_assoc]

theorem keptSeries_eq_appendKept (frames : Array Snapshot) :
    keptSeries frames = ({} : Series).appendKept (trackJoints frames) frames.toList := by
  simp only [keptSeries, Series.appendKept]
  congr 1 <;> apply Array.ext' <;> simp

theorem rowNumbers_row (joints : Nat) (fr : Snapshot) {y : Float}
    (hy : readFloat (toString fr.frame) = .ok y) :
    rowNumbers (toString fr.frame :: (rowDoubles joints fr).map trackNumber) =
      some (y :: (rowDoubles joints fr).map sixPlaces).toArray := by
  have hnum : ∀ v, (readFloat (trackNumber v)).toOption = some (sixPlaces v) := fun v => by
    rw [trackNumber, readFloat_fixed_six]; rfl
  have hrest : ∀ l : List Float,
      (l.map trackNumber).mapM (fun f => (readFloat f).toOption) = some (l.map sixPlaces) := by
    intro l
    induction l with
    | nil => rfl
    | cons v l ih => rw [List.map_cons, List.mapM_cons, hnum, ih]; rfl
  unfold rowNumbers
  rw [List.mapM_toArray, List.mapM_cons, hy, hrest]
  rfl

theorem addRow_row (joints : Nat) (s : Series) (y : Float) (fr : Snapshot) :
    addRow joints s (y :: (rowDoubles joints fr).map sixPlaces).toArray =
      .ok { frames := s.frames.push (truncInt y), times := s.times.push (sixPlaces fr.time),
            root := s.root.push (keptPosition fr), q := s.q.push (keptColumn joints fr.q),
            dq := s.dq.push (keptColumn joints fr.dq), u := s.u.push (keptColumn joints fr.u) } := by
  -- the row is the number, four doubles and three joint columns of `joints` entries
  set Q := (jointColumn joints fr.q).map sixPlaces with hQ
  set D := (jointColumn joints fr.dq).map sixPlaces with hD
  set U := (jointColumn joints fr.u).map sixPlaces with hU
  have hlen : Q.length = joints ∧ D.length = joints ∧ U.length = joints := by simp [hQ, hD, hU]
  have h1 : (5 + (joints : Int)).toNat = 5 + joints := by omega
  have h2 : (5 + 2 * (joints : Int)).toNat = 5 + 2 * joints := by omega
  have h3 : (5 + 3 * (joints : Int)).toNat = 5 + 3 * joints := by omega
  have hdrop : ∀ (n : Nat) (p₁ p₂ p₃ p₄ p₅ : Float) (l : List Float),
      List.drop (5 + n) (p₁ :: p₂ :: p₃ :: p₄ :: p₅ :: l) = List.drop n l := by
    intro n p₁ p₂ p₃ p₄ p₅ l
    rw [Nat.add_comm]
    rfl
  have hdq : List.drop joints (Q ++ (D ++ U)) = D ++ U := List.drop_left' hlen.1
  have hu : List.drop (2 * joints) (Q ++ (D ++ U)) = U := by
    rw [← List.append_assoc, List.drop_left' (by simp only [List.length_append, hlen.1, hlen.2.1]; omega)]
  have e1 : 5 + 2 * joints - (5 + joints) = joints := by omega
  have e2 : 5 + 3 * joints - (5 + 2 * joints) = joints := by omega
  have c0 : ¬(joints : Int) < 0 := by omega
  have c1 : ¬2 * (joints : Int) < joints := by omega
  have c2 : ¬3 * (joints : Int) < 2 * joints := by omega
  simp only [addRow, Fault.at, rowDoubles, keptColumn, keptPosition, List.map_append, List.map_cons,
    List.cons_append, List.nil_append, List.append_assoc, ← hQ, ← hD, ← hU]
  simp [h1, h2, h3, e1, e2, c0, c1, c2, hdrop, hdq, hu, List.take_left' hlen.1, List.take_left' hlen.2.1,
    List.take_of_length_le hlen.2.2.le]
  rfl

theorem foldlM_appendKept (joints : Nat) (row : Snapshot → List String)
    (step : Series → List String → Except TrackError Series) (frs : List Snapshot)
    (hstep : ∀ s, ∀ fr ∈ frs, step s (row fr) = .ok (s.appendKept joints [fr])) (s : Series) :
    (frs.map row).foldlM step s = .ok (s.appendKept joints frs) := by
  induction frs generalizing s with
  | nil => simp [Series.appendKept_nil]; rfl
  | cons fr frs ih =>
    rw [List.map_cons, List.foldlM_cons, hstep s fr List.mem_cons_self]
    show List.foldlM step (s.appendKept joints [fr]) (frs.map row) = _
    rw [ih (fun s fr' h => hstep s fr' (List.mem_cons_of_mem fr h)) (s.appendKept joints [fr]),
      Series.appendKept_append]
    rfl

theorem seriesOfText_trackText (frames : Array Snapshot)
    (hfr : ∀ fr ∈ frames, fr.frame.natAbs ≤ 2 ^ 53) :
    seriesOfText (trackText frames) = .ok (keptSeries frames) := by
  obtain ⟨header, hlen, hplain, htext⟩ := trackText_eq frames
  set n := trackJoints frames
  set row : Snapshot → List String := fun fr => toString fr.frame :: (rowDoubles n fr).map trackNumber
  have hrecords : readRecords (trackText frames) = .ok (header :: frames.toList.map row) := by
    rw [htext, show (frames.toList.map fun fr => recordLine (row fr)) =
      (frames.toList.map row).map recordLine by rw [List.map_map]; rfl, ← List.map_cons]
    apply readRecords_recordLines
    · -- the header's names, the frame numbers and the six-decimal numbers are plain
      intro r hr f hf
      rcases List.mem_cons.mp hr with rfl | hr
      · exact hplain f hf
      obtain ⟨fr, -, rfl⟩ := List.mem_map.mp hr
      rcases List.mem_cons.mp hf with rfl | hf
      · exact needsQuotes_intText _
      obtain ⟨v, -, rfl⟩ := List.mem_map.mp hf
      exact needsQuotes_trackNumber v
    · -- every record has at least five fields
      intro r hr
      rcases List.mem_cons.mp hr with rfl | hr
      · constructor <;> rintro rfl <;> simp at hlen <;> omega
      obtain ⟨fr, -, rfl⟩ := List.mem_map.mp hr
      refine ⟨List.cons_ne_nil _ _, fun h => ?_⟩
      have hl := congrArg List.length h
      simp [row] at hl
  unfold seriesOfText
  rw [hrecords, keptSeries_eq_appendKept]
  dsimp only
  cases hl : frames.toList with
  | nil => simp [Series.appendKept_nil]; rfl
  | cons fr frs =>
    have hj : ((header.length : Int) - 5).tdiv 3 = n := by
      rw [hlen, Int.tdiv_eq_ediv_of_nonneg (by omega)]
      omega
    rw [pure_bind, List.map_cons]
    dsimp only
    rw [hj, ← List.map_cons]
    refine foldlM_appendKept n row _ (fr :: frs) (fun s f hf => ?_) {}
    have hmem : f ∈ frames := by rw [Array.mem_def, hl]; exact hf
    obtain ⟨y, hy, hty⟩ := truncInt_readFloat_intText f.frame (hfr f hmem)
    have hrow : ¬((row f).length : Int) < 5 + 3 * n := by simp [row]; omega
    rw [if_neg hrow]
    simp only [row]
    rw [rowNumbers_row n f hy]
    dsimp only
    rw [addRow_row]
    simp [Except.mapError, Series.appendKept, hty, keptColumn]

/-- The frame a kept row stands for: its doubles as six decimals keep them and its
joint arrays of the track's width. -/
def keptFrame (joints : Nat) (fr : Snapshot) : Snapshot :=
  { fr with time := sixPlaces fr.time, root := { fr.root with position := keptPosition fr },
            q := keptColumn joints fr.q, dq := keptColumn joints fr.dq, u := keptColumn joints fr.u }

@[simp] theorem size_keptColumn (joints : Nat) (vals : Array Float) :
    (keptColumn joints vals).size = joints := by
  simp [keptColumn]

theorem jointColumn_keptColumn (joints : Nat) (vals : Array Float) :
    jointColumn joints (keptColumn joints vals) = (jointColumn joints vals).map sixPlaces := by
  unfold jointColumn
  rw [List.map_map]
  apply List.map_congr_left
  intro i hi
  have hi : i < joints := List.mem_range.mp hi
  simp [keptColumn, jointColumn, Array.getD, hi]

theorem keptColumn_keptColumn (joints : Nat) (vals : Array Float) :
    keptColumn joints (keptColumn joints vals) = keptColumn joints vals := by
  rw [keptColumn, jointColumn_keptColumn, List.map_map, keptColumn]
  congr 2
  funext v
  exact sixPlaces_sixPlaces v

theorem trackJoints_keptFrame (frames : Array Snapshot) :
    trackJoints (frames.map (keptFrame (trackJoints frames))) = trackJoints frames := by
  cases h : frames[0]? <;> simp [trackJoints, keptFrame, h]

theorem keptSeries_keptFrame (frames : Array Snapshot) :
    keptSeries (frames.map (keptFrame (trackJoints frames))) = keptSeries frames := by
  unfold keptSeries
  rw [trackJoints_keptFrame]
  simp [keptFrame, keptPosition, sixPlaces_sixPlaces, keptColumn_keptColumn, Function.comp_def]

/-- A track reads back as one row per frame, in order: the frame number itself and
every double as six decimals keep it, which is what reading a six-decimal number
gives.  Writing the frames that were read back and reading them again changes
nothing. -/
theorem trackText_reads_back (frames : Array Snapshot)
    (hfr : ∀ fr ∈ frames, fr.frame.natAbs ≤ 2 ^ 53) :
    seriesOfText (trackText frames) = .ok (keptSeries frames) ∧
      (∀ v, readFloat (trackNumber v) = .ok (sixPlaces v)) ∧
      seriesOfText (trackText (frames.map (keptFrame (trackJoints frames)))) =
        .ok (keptSeries frames) := by
  refine ⟨seriesOfText_trackText frames hfr, readFloat_fixed_six, ?_⟩
  have hkept : ∀ fr ∈ frames.map (keptFrame (trackJoints frames)), fr.frame.natAbs ≤ 2 ^ 53 := by
    intro fr hfr'
    obtain ⟨fr₀, h₀, rfl⟩ := Array.mem_map.mp hfr'
    exact hfr fr₀ h₀
  rw [seriesOfText_trackText _ hkept, keptSeries_keptFrame]

/-- A two-joint swing over three frames: the second frame lacks a rate and an
effort, the third has a third position, dropped from the track. -/
def swingTrack : Array Snapshot :=
  #[{ frame := 1, time := 0.01, root := { position := ⟨0.0, 0.5, 1.25⟩ },
      q := #[0.25, -1.5], dq := #[2.0, 0.125], u := #[1.0, 0.0] },
    { frame := 2, time := 0.02, q := #[0.3, -1.4375], dq := #[1.75], u := #[] },
    { frame := 3, time := 0.03, q := #[0.375, -1.375, 9.0], dq := #[1.5, 0.25], u := #[0.5, 0.5] }]

theorem trackText_reads_back_swing :
    (∀ fr ∈ swingTrack, fr.frame.natAbs ≤ 2 ^ 53) ∧
      seriesOfText (trackText swingTrack) = .ok (keptSeries swingTrack) ∧
      (∀ v, readFloat (trackNumber v) = .ok (sixPlaces v)) ∧
      seriesOfText (trackText (swingTrack.map (keptFrame (trackJoints swingTrack)))) =
        .ok (keptSeries swingTrack) := by
  have hfr : ∀ fr ∈ swingTrack, fr.frame.natAbs ≤ 2 ^ 53 := by decide
  exact ⟨hfr, trackText_reads_back swingTrack hfr⟩

end Reading

end Multibody.Store
