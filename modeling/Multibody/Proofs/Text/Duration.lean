import Mathlib
import Multibody.Text.Duration
import Multibody.Proofs.Decimal.Whole
import Multibody.Proofs.Decimal.ReadBack

/-!
# Durations read back from their text

The text of a duration (`durationText`) is a sequence of elements, each a
decimal number and a unit; reading it (`parseDuration`) gives back the
duration, for every duration that fits in 64 bits (`parseDuration_durationText`).

An element's number is the decimal text of a whole number, perhaps followed by
a point and fraction digits (`durationElement_text`).  The fraction is the
remainder below the unit with its trailing zeros dropped (`fractionText_spec`);
reading scales its digits back up through doubles, which is exact since every
number involved is a whole number below `2 ^ 53` (`fraction_nanos`).
-/

namespace Multibody.Text

/-! ## Decimal digits -/

/-- The value of decimal digits, as the readers accumulate it. -/
def digitValue (cs : List Char) : Nat := cs.foldl (fun acc c => acc * 10 + (c.toNat - '0'.toNat)) 0

theorem foldl_digits (cs : List Char) (v : Nat) :
    cs.foldl (fun acc c => acc * 10 + (c.toNat - '0'.toNat)) v = Nat.ofDigitChars 10 cs v := by
  induction cs generalizing v with
  | nil => rfl
  | cons c cs ih =>
    rw [List.foldl_cons, ih, Nat.ofDigitChars, Nat.ofDigitChars, List.foldl_cons, Nat.mul_comm]

@[simp] theorem digitValue_toDigits (k : Nat) : digitValue (Nat.toDigits 10 k) = k := by
  rw [digitValue, foldl_digits, Nat.ofDigitChars_ten_toDigits]

theorem digitValue_append (cs ds : List Char) :
    digitValue (cs ++ ds) = digitValue cs * 10 ^ ds.length + digitValue ds := by
  induction ds using List.reverseRecOn with
  | nil => simp [digitValue]
  | append_singleton ds d ih =>
    rw [← List.append_assoc, digitValue, List.foldl_append, ← digitValue, ih]
    simp only [digitValue, List.foldl_append, List.foldl_cons, List.foldl_nil, List.length_append,
      List.length_singleton, Nat.pow_succ]
    ring

theorem digitValue_replicate_zero (z : Nat) : digitValue (List.replicate z '0') = 0 := by
  induction z with
  | zero => rfl
  | succ z ih =>
    rw [List.replicate_succ', digitValue_append, ih]
    rfl

theorem isDigit_of_mem_toDigits {k : Nat} {c : Char} (h : c ∈ Nat.toDigits 10 k) : c.isDigit = true :=
  Nat.isDigit_of_mem_toDigits (by decide) (by decide) h

theorem toList_toString (k : Nat) : (toString k).toList = Nat.toDigits 10 k := by
  rw [Nat.toString_eq_ofList_toDigits, String.toList_ofList]

theorem takeWhile_append_of {p : Char → Bool} {ds rest : List Char} (hds : ∀ c ∈ ds, p c = true)
    (hrest : ∀ c ∈ rest.head?, p c = false) : (ds ++ rest).takeWhile p = ds := by
  induction ds with
  | nil =>
    cases rest with
    | nil => rfl
    | cons c rest => simp [hrest c rfl]
  | cons d ds ih =>
    rw [List.cons_append, List.takeWhile_cons, if_pos (hds d List.mem_cons_self),
      ih fun c hc => hds c (List.mem_cons_of_mem _ hc)]

/-! ## Fractions -/

/-- Digits with their trailing zeros dropped. -/
def dropTrailingZeros (ds : List Char) : List Char := (ds.reverse.dropWhile (· = '0')).reverse

theorem eq_dropTrailingZeros_append (ds : List Char) :
    ds = dropTrailingZeros ds ++ List.replicate (ds.length - (dropTrailingZeros ds).length) '0' := by
  have hsplit := @List.takeWhile_append_dropWhile _ (fun c => decide (c = '0')) ds.reverse
  set zs := ds.reverse.takeWhile fun c => decide (c = '0')
  have hzs : zs.reverse = List.replicate zs.length '0' :=
    List.eq_replicate_iff.2 ⟨by simp, fun c hc => by simpa using List.mem_takeWhile_imp (List.mem_reverse.1 hc)⟩
  have hds : ds = dropTrailingZeros ds ++ zs.reverse := by
    rw [dropTrailingZeros, ← List.reverse_append, hsplit, List.reverse_reverse]
  have hlen : ds.length = (dropTrailingZeros ds).length + zs.length := by
    conv_lhs => rw [hds]
    simp
  rw [show ds.length - (dropTrailingZeros ds).length = zs.length by omega, ← hzs]
  exact hds

theorem digitValue_append_zeros (ds : List Char) (z : Nat) :
    digitValue (ds ++ List.replicate z '0') = digitValue ds * 10 ^ z := by
  rw [digitValue_append, digitValue_replicate_zero, List.length_replicate, Nat.add_zero]

theorem fractionText_spec (v prec : Nat) :
    (fractionText v prec).2 = v / 10 ^ prec ∧
      ∃ ds : List Char, (∀ c ∈ ds, c.isDigit = true) ∧ ds.length ≤ prec ∧
        digitValue ds * 10 ^ (prec - ds.length) = v % 10 ^ prec ∧
        (fractionText v prec).1 = if ds = [] then "" else "." ++ String.ofList ds := by
  set r := v % 10 ^ prec with hr
  have hrlt : r < 10 ^ prec := Nat.mod_lt _ (by positivity)
  -- the remainder's digits padded with zeros in front
  set padded := List.replicate (prec - (Nat.toDigits 10 r).length) '0' ++ Nat.toDigits 10 r with hpadded
  have hpval : digitValue padded = r := by
    rw [hpadded, digitValue_append, digitValue_replicate_zero, Nat.zero_mul, Nat.zero_add, digitValue_toDigits]
  have hpdig : ∀ c ∈ padded, c.isDigit = true := by
    intro c hc
    rcases List.mem_append.1 hc with hc | hc
    · rw [(List.mem_replicate.1 hc).2]
      rfl
    · exact isDigit_of_mem_toDigits hc
  have hplen : padded.length ≤ max prec 1 := by
    rcases Nat.eq_zero_or_pos prec with h0 | hpos
    · have : r = 0 := by rw [h0] at hrlt; omega
      simp [hpadded, this, h0]
    · have := (Nat.length_toDigits_le_iff (by norm_num) hpos).2 hrlt
      simp [hpadded]
      omega
  set ds := dropTrailingZeros padded with hds
  have hsplit := eq_dropTrailingZeros_append padded
  rw [← hds] at hsplit
  have hval : digitValue ds * 10 ^ (padded.length - ds.length) = r := by
    rw [← digitValue_append_zeros, ← hsplit, hpval]
  -- a zero remainder leaves no digit; any other fills exactly `prec` places
  have hzero : r = 0 → ds = [] := by
    intro h0
    rw [hds, dropTrailingZeros, List.reverse_eq_nil_iff, List.dropWhile_eq_nil_iff]
    intro c hc
    rw [List.mem_reverse, hpadded, h0, Nat.toDigits_zero] at hc
    rcases List.mem_append.1 hc with hc | hc
    · simp [(List.mem_replicate.1 hc).2]
    · simp [List.mem_singleton.1 hc]
  have hfull : r ≠ 0 → padded.length = prec := by
    intro h0
    have hpos : 0 < prec := by
      rcases Nat.eq_zero_or_pos prec with h | h
      · rw [h] at hrlt
        omega
      · exact h
    have := (Nat.length_toDigits_le_iff (by norm_num) hpos).2 hrlt
    simp only [hpadded, List.length_append, List.length_replicate]
    omega
  have hfrac : (fractionText v prec).1 = if ds = [] then "" else "." ++ String.ofList ds := by
    simp only [fractionText, Nat.pow_eq, ← hr, toList_toString, ← hpadded]
    show (if (dropTrailingZeros padded).isEmpty = true then "" else "." ++ String.ofList (dropTrailingZeros padded)) = _
    rw [← hds]
    simp only [List.isEmpty_iff]
  refine ⟨by simp [fractionText, Nat.pow_eq], ds, fun c hc => hpdig c ?_, ?_, ?_, hfrac⟩
  · rw [hsplit]
    exact List.mem_append_left _ hc
  · by_cases h0 : r = 0
    · simp [hzero h0]
    · have := congrArg List.length hsplit
      simp only [List.length_append, List.length_replicate] at this
      rw [← hfull h0]
      omega
  · by_cases h0 : r = 0
    · rw [hzero h0, h0, digitValue, List.foldl_nil, Nat.zero_mul]
    · rw [← hfull h0]
      exact hval

/-! ## Reading a fraction -/

/-- One digit of a fraction read: appended to the value, the scale ten times
larger, unless the value would leave 64 bits. -/
def fractionStep (acc : Nat × Float × Bool) (c : Char) : Nat × Float × Bool :=
  match acc with
  | (v, scale, spilled) =>
    if spilled then (v, scale, spilled)
    else if v > (Nat.pow 2 63 - 1) / 10 then (v, scale, true)
    else
      let y := v * 10 + (c.toNat - '0'.toNat)
      if y > Nat.pow 2 63 then (v, scale, true) else (y, scale * 10.0, false)

theorem leadingFraction_eq (cs : List Char) :
    leadingFraction cs =
      (((cs.takeWhile Char.isDigit).foldl fractionStep (0, 1.0, false)).1,
        ((cs.takeWhile Char.isDigit).foldl fractionStep (0, 1.0, false)).2.1,
        cs.drop (cs.takeWhile Char.isDigit).length) := rfl

theorem ten_eq_ofNat : (10.0 : Float) = Float.ofNat 10 := Float.toBits_inj.1 (by decide +kernel)

theorem one_eq_ofNat : (1.0 : Float) = Float.ofNat 1 := Float.toBits_inj.1 (by decide +kernel)

theorem pow_ten_lt {q : Nat} (hq : q ≤ 15) : 10 ^ q < 2 ^ 53 :=
  lt_of_le_of_lt (Nat.pow_le_pow_right (by norm_num) hq) (by norm_num)

theorem foldl_fractionStep {ds : List Char} (hds : ∀ c ∈ ds, c.isDigit = true) :
    ∀ (v p : Nat), ds.length ≤ 9 → v < 10 ^ (9 - ds.length) → p + ds.length ≤ 15 →
      ds.foldl fractionStep (v, Float.ofNat (10 ^ p), false) =
        (Nat.ofDigitChars 10 ds v, Float.ofNat (10 ^ (p + ds.length)), false) := by
  induction ds with
  | nil => intro v p _ _ _; rfl
  | cons c ds ih =>
    intro v p hlen hv hp
    simp only [List.length_cons] at hlen hv hp
    have hd : c.toNat - '0'.toNat < 10 := Decimal.digit_lt_ten (hds c List.mem_cons_self)
    have hv' : v * 10 + (c.toNat - '0'.toNat) < 10 ^ (9 - ds.length) := by
      have : 10 ^ (9 - ds.length) = 10 ^ (9 - (ds.length + 1)) * 10 := by
        rw [← Nat.pow_succ]
        congr 1
        omega
      rw [this]
      omega
    have hsmall : v * 10 + (c.toNat - '0'.toNat) < 10 ^ 9 :=
      lt_of_lt_of_le hv' (Nat.pow_le_pow_right (by norm_num) (by omega))
    -- the digit is taken: no spill, and the scale grows by ten exactly
    have hstep : fractionStep (v, Float.ofNat (10 ^ p), false) c =
        (v * 10 + (c.toNat - '0'.toNat), Float.ofNat (10 ^ (p + 1)), false) := by
      have hscale : Float.ofNat (10 ^ p) * 10.0 = Float.ofNat (10 ^ (p + 1)) := by
        rw [ten_eq_ofNat, Decimal.ofNat_mul_ofNat (pow_ten_lt (by omega)) (by norm_num)
          (by rw [← Nat.pow_succ]; exact pow_ten_lt (by omega)), Nat.pow_succ]
      simp only [fractionStep, Bool.false_eq_true, if_false, Nat.pow_eq]
      rw [if_neg (by omega), if_neg (by omega), hscale]
    rw [List.foldl_cons, hstep, ih (fun c hc => hds c (List.mem_cons_of_mem _ hc)) _ _ (by omega) hv' (by omega)]
    simp only [Nat.ofDigitChars, List.foldl_cons, List.length_cons]
    rw [Nat.mul_comm v 10, Nat.add_assoc p 1, Nat.add_comm 1 ds.length]

theorem leadingFraction_digits {ds rest : List Char} (hds : ∀ c ∈ ds, c.isDigit = true) (hlen : ds.length ≤ 9)
    (hrest : ∀ c ∈ rest.head?, c.isDigit = false) :
    leadingFraction (ds ++ rest) = (digitValue ds, Float.ofNat (10 ^ ds.length), rest) := by
  have hfold := foldl_fractionStep hds 0 0 hlen (by positivity) (by omega)
  rw [Nat.pow_zero, ← one_eq_ofNat] at hfold
  rw [leadingFraction_eq, takeWhile_append_of hds hrest, hfold, List.drop_left, Nat.zero_add, digitValue,
    foldl_digits]

theorem fraction_nanos {t L prec : Nat} (ht : t < 10 ^ L) (hL : L ≤ prec) (hprec : prec ≤ 9) :
    (t.toFloat * ((10 ^ prec : Nat).toFloat / Float.ofNat (10 ^ L))).toUInt64.toNat = t * 10 ^ (prec - L) := by
  -- the ratio of two powers of ten is the power of ten of their difference
  have hdiv : Float.ofNat (10 ^ prec) / Float.ofNat (10 ^ L) = Float.ofNat (10 ^ (prec - L)) := by
    apply Float.toBits_inj.1
    interval_cases prec <;> interval_cases L <;> decide +kernel
  have hprod : t * 10 ^ (prec - L) < 10 ^ prec := by
    calc t * 10 ^ (prec - L) < 10 ^ L * 10 ^ (prec - L) := Nat.mul_lt_mul_of_pos_right ht (by positivity)
      _ = 10 ^ prec := by rw [← Nat.pow_add, Nat.add_sub_cancel' hL]
  have hbig : 10 ^ prec < 2 ^ 53 := pow_ten_lt (by omega)
  have ht' : t < 2 ^ 53 := lt_trans ht (pow_ten_lt (by omega))
  show (Float.ofNat t * (Float.ofNat (10 ^ prec) / Float.ofNat (10 ^ L))).toUInt64.toNat = _
  rw [hdiv, Decimal.ofNat_mul_ofNat (by omega) (pow_ten_lt (by omega)) (by omega), Decimal.toUInt64_ofNat (by omega)]

theorem digitValue_lt {ds : List Char} (hds : ∀ c ∈ ds, c.isDigit = true) : digitValue ds < 10 ^ ds.length := by
  induction ds using List.reverseRecOn with
  | nil => simp [digitValue]
  | append_singleton ds d ih =>
    have hd := Decimal.digit_lt_ten (hds d (List.mem_append_right _ (List.mem_singleton_self d)))
    have hlt := ih fun c hc => hds c (List.mem_append_left _ hc)
    have hdv : digitValue [d] = d.toNat - '0'.toNat := by simp [digitValue]
    rw [digitValue_append, hdv, List.length_append, List.length_singleton, pow_one, pow_succ]
    omega

/-- The nanoseconds the digits of a fraction add to an element whose unit is
`unit` nanoseconds, scaled through doubles as the reader scales them. -/
def fractionNanos (fs : List Char) (unit : Nat) : Nat :=
  if digitValue fs > 0 then (Nat.toFloat (digitValue fs) * (unit.toFloat / Float.ofNat (10 ^ fs.length))).toUInt64.toNat
  else 0

@[simp] theorem fractionNanos_nil (unit : Nat) : fractionNanos [] unit = 0 := rfl

theorem fractionNanos_pow {fs : List Char} {prec : Nat} (hfs : ∀ c ∈ fs, c.isDigit = true)
    (hlen : fs.length ≤ prec) (hprec : prec ≤ 9) :
    fractionNanos fs (10 ^ prec) = digitValue fs * 10 ^ (prec - fs.length) := by
  unfold fractionNanos
  split
  · exact fraction_nanos (digitValue_lt hfs) hlen hprec
  · rename_i h
    rw [Nat.eq_zero_of_not_pos h, Nat.zero_mul]

/-! ## One element -/

theorem unitNanos_pos {ut : String} {unit : Nat} (h : unitNanos ut = some unit) : 0 < unit := by
  unfold unitNanos at h
  split_ifs at h <;> (cases h; norm_num)

/-- The characters of a fraction: none for no digits, otherwise a point and
the digits. -/
def fractionChars (fs : List Char) : List Char := if fs = [] then [] else '.' :: fs

theorem leadingDigits_toDigits {w : Nat} {r : List Char} (hw : w ≤ 2 ^ 63) (hr : ∀ c ∈ r.head?, c.isDigit = false) :
    leadingDigits (Nat.toDigits 10 w ++ r) = some (w, r) := by
  unfold leadingDigits
  rw [takeWhile_append_of (fun _ hc => isDigit_of_mem_toDigits hc) hr]
  have hv : (Nat.toDigits 10 w).foldl (fun acc c => acc * 10 + (c.toNat - '0'.toNat)) 0 = w :=
    digitValue_toDigits w
  simp only [hv, Nat.pow_eq, List.drop_left]
  rw [if_neg (by omega)]

theorem fractionPart_fractionChars {fs rest : List Char} (hfs : ∀ c ∈ fs, c.isDigit = true) (hlen : fs.length ≤ 9)
    (hrest : ∀ c ∈ rest.head?, c ≠ '.' ∧ c.isDigit = false) :
    fractionPart (fractionChars fs ++ rest) = (digitValue fs, Float.ofNat (10 ^ fs.length), !fs.isEmpty, rest) := by
  by_cases h : fs = []
  · subst h
    cases rest with
    | nil => rfl
    | cons c rest =>
      obtain ⟨hc, -⟩ := hrest c rfl
      simp only [fractionChars, if_true, List.nil_append, fractionPart]
      split
      · rename_i r heq
        cases heq
        exact absurd rfl hc
      · simp [digitValue, one_eq_ofNat]
  · simp only [fractionChars, h, if_false, List.cons_append, fractionPart]
    rw [leadingFraction_digits hfs hlen fun c hc => (hrest c hc).2]
    have hne : rest.length ≠ fs.length + rest.length := by
      have := List.length_pos_of_ne_nil h
      omega
    simp only [List.length_append]
    rw [bne_iff_ne.2 hne, (List.isEmpty_eq_false_iff).2 h]
    rfl

theorem durationElement_text (s : String) {w unit : Nat} {fs rest : List Char} {ut : String}
    (hfs : ∀ c ∈ fs, c.isDigit = true) (hlen : fs.length ≤ 9) (hut : unitNanos ut = some unit)
    (hne : ut.toList ≠ []) (hchars : (ut.toList.all fun c => !(c == '.' || c.isDigit)) = true)
    (hrest : ∀ c ∈ rest.head?, (c == '.' || c.isDigit) = true)
    (hbound : w * unit + fractionNanos fs unit ≤ 2 ^ 63) :
    durationElement s (Nat.toDigits 10 w ++ (fractionChars fs ++ (ut.toList ++ rest))) =
      .ok (w * unit + fractionNanos fs unit, rest) := by
  have hpos := unitNanos_pos hut
  have hw : w ≤ w * unit := Nat.le_mul_of_pos_right w hpos
  obtain ⟨u, us, hu⟩ := List.exists_cons_of_ne_nil hne
  have hu' : u ≠ '.' ∧ u.isDigit = false := by
    simpa using List.all_eq_true.1 hchars u (by rw [hu]; exact List.mem_cons_self)
  obtain ⟨d, ds, hd⟩ := List.exists_cons_of_ne_nil (@Nat.toDigits_ne_nil w 10)
  have hdd : d.isDigit = true := isDigit_of_mem_toDigits (by rw [hd]; exact List.mem_cons_self)
  -- the number starts with a digit and stops at the point or at the unit
  have hhead : ((Nat.toDigits 10 w ++ (fractionChars fs ++ (ut.toList ++ rest))).head?.any
      fun c => !(c == '.' || c.isDigit)) = false := by
    rw [hd]
    simp [hdd]
  have hnum : ∀ c ∈ (fractionChars fs ++ (ut.toList ++ rest)).head?, c.isDigit = false := by
    by_cases h : fs = []
    · simp [fractionChars, h, hu, hu'.2]
    · simp [fractionChars, h]
  have hfrac : ∀ c ∈ (ut.toList ++ rest).head?, c ≠ '.' ∧ c.isDigit = false := by
    simp [hu, hu']
  have hshort : ((fractionChars fs ++ (ut.toList ++ rest)).length ==
      (Nat.toDigits 10 w ++ (fractionChars fs ++ (ut.toList ++ rest))).length) = false := by
    rw [hd]
    simp
    omega
  -- the unit is the letters up to the next number
  have hunit : (ut.toList ++ rest).takeWhile (fun c => !(c == '.' || c.isDigit)) = ut.toList :=
    takeWhile_append_of (List.all_eq_true.1 hchars) (fun c hc => by rw [hrest c hc]; rfl)
  have hval : (if digitValue fs > 0 then
      w * unit + (Nat.toFloat (digitValue fs) * (unit.toFloat / Float.ofNat (10 ^ fs.length))).toUInt64.toNat
      else w * unit) = w * unit + fractionNanos fs unit := by
    unfold fractionNanos
    split <;> rfl
  unfold durationElement
  simp only [hhead, Bool.false_eq_true, ↓reduceIte]
  rw [leadingDigits_toDigits (by omega) hnum]
  dsimp only
  rw [fractionPart_fractionChars hfs hlen hfrac]
  dsimp only
  simp only [hshort, Bool.false_and, Bool.false_eq_true, ↓reduceIte, hunit, (List.isEmpty_eq_false_iff).2 hne,
    String.ofList_toList, hut]
  rw [if_neg (by rw [gt_iff_lt, Nat.not_lt, Nat.le_div_iff_mul_le hpos, Nat.pow_eq]; omega)]
  rw [hval, if_neg (by rw [Nat.pow_eq]; omega), List.drop_left]

theorem durationElement_whole (s : String) {q unit : Nat} {ut : String} {rest : List Char}
    (hut : unitNanos ut = some unit) (hne : ut.toList ≠ []) (hchars : (ut.toList.all fun c => !(c == '.' || c.isDigit)) = true)
    (hrest : ∀ c ∈ rest.head?, (c == '.' || c.isDigit) = true) (hb : q * unit ≤ 2 ^ 63) :
    durationElement s (Nat.toDigits 10 q ++ (ut.toList ++ rest)) = .ok (q * unit, rest) := by
  have h := @durationElement_text s q unit [] rest ut (by simp) (by simp) hut hne hchars hrest (by simpa using hb)
  simpa [fractionChars] using h

theorem durationElement_fractionText (s : String) {q v prec : Nat} {ut : String} {rest : List Char}
    (hprec : prec ≤ 9) (hut : unitNanos ut = some (10 ^ prec)) (hne : ut.toList ≠ [])
    (hchars : (ut.toList.all fun c => !(c == '.' || c.isDigit)) = true)
    (hrest : ∀ c ∈ rest.head?, (c == '.' || c.isDigit) = true) (hb : q * 10 ^ prec + v % 10 ^ prec ≤ 2 ^ 63) :
    durationElement s (Nat.toDigits 10 q ++ ((fractionText v prec).1.toList ++ (ut.toList ++ rest))) =
      .ok (q * 10 ^ prec + v % 10 ^ prec, rest) := by
  obtain ⟨-, ds, hds, hlen, hval, htext⟩ := fractionText_spec v prec
  have hfrac : (fractionText v prec).1.toList = fractionChars ds := by
    rw [htext, fractionChars]
    split <;> simp
  have hnanos : fractionNanos ds (10 ^ prec) = v % 10 ^ prec := by rw [fractionNanos_pow hds hlen hprec, hval]
  rw [hfrac, ← hnanos]
  exact durationElement_text s hds (by omega) hut hne hchars hrest (by rw [hnanos]; exact hb)

/-! ## Elements one after another -/

theorem durationElements_nil (s : String) (fuel total : Nat) : durationElements s fuel [] total = .ok total := by
  cases fuel <;> rfl

theorem durationElements_step (s : String) {fuel total w : Nat} {cs rest : List Char} (hcs : cs ≠ [])
    (he : durationElement s cs = .ok (w, rest)) (hb : total + w ≤ 2 ^ 63) :
    durationElements s (fuel + 1) cs total = durationElements s fuel rest (total + w) := by
  rw [durationElements, if_neg (by simpa using hcs), he]
  dsimp only
  rw [if_neg (by rw [Nat.pow_eq]; omega)]

theorem head_toDigits_append (q : Nat) (xs : List Char) : ∀ c ∈ (Nat.toDigits 10 q ++ xs).head?, c.isDigit = true := by
  obtain ⟨d, ds, hd⟩ := List.exists_cons_of_ne_nil (@Nat.toDigits_ne_nil q 10)
  have hdd : d.isDigit = true := isDigit_of_mem_toDigits (by rw [hd]; exact List.mem_cons_self)
  simp [hd, hdd]

theorem next_toDigits_append (q : Nat) (xs : List Char) :
    ∀ c ∈ (Nat.toDigits 10 q ++ xs).head?, (c == '.' || c.isDigit) = true :=
  fun c hc => by simp [head_toDigits_append q xs c hc]

theorem splitSign_of_isDigit {c : Char} {r : List Char} (hc : c.isDigit = true) : splitSign (c :: r) = (false, c :: r) := by
  have hm : c ≠ '-' := by rintro rfl; exact absurd hc (by decide)
  have hp : c ≠ '+' := by rintro rfl; exact absurd hc (by decide)
  unfold splitSign
  split
  · rename_i heq
    exact absurd (List.cons.inj heq).1 hm
  · rename_i heq
    exact absurd (List.cons.inj heq).1 hp
  · rfl

/-! ## Whole texts -/

/-- A text is the sign of `n` and then elements, starting with a digit, that
read as the size of `n`. -/
def SignedElements (t : List Char) (n : Int) : Prop :=
  ∃ body : List Char, t = (if n < 0 then ['-'] else []) ++ body ∧ (∀ c ∈ body.head?, c.isDigit = true) ∧
    2 ≤ body.length ∧ ∀ s, durationElements s body.length body 0 = .ok n.natAbs

theorem toList_sign (n : Int) : (if n < 0 then "-" else "").toList = if n < 0 then ['-'] else [] := by
  split <;> rfl

theorem durationText_small {n : Int} (hu0 : n.natAbs ≠ 0) (hsmall : n.natAbs < 1000000000) :
    SignedElements (durationText n).toList n := by
  unfold durationText
  simp only [if_neg hu0, if_pos hsmall]
  generalize hP : (if n.natAbs < 1000 then ("ns", 0) else if n.natAbs < 1000000 then ("µs", 3) else ("ms", 6)) = P
  obtain ⟨hut, hprec, hne, hchars⟩ : unitNanos P.1 = some (10 ^ P.2) ∧ P.2 ≤ 9 ∧ P.1.toList ≠ [] ∧
      (P.1.toList.all fun c => !(c == '.' || c.isDigit)) = true := by
    rw [← hP]
    split_ifs <;> decide +kernel
  obtain ⟨hwhole, -⟩ := fractionText_spec n.natAbs P.2
  have hsum := Nat.div_add_mod' n.natAbs (10 ^ P.2)
  set body := Nat.toDigits 10 (n.natAbs / 10 ^ P.2) ++ ((fractionText n.natAbs P.2).1.toList ++ P.1.toList) with hbody
  have hlen : 2 ≤ body.length := by
    have h₁ := @Nat.length_toDigits_pos 10 (n.natAbs / 10 ^ P.2)
    have h₂ := List.length_pos_of_ne_nil hne
    simp only [hbody, List.length_append]
    omega
  refine ⟨body, ?_, head_toDigits_append _ _, hlen, fun s => ?_⟩
  · simp only [String.toList_append, toList_sign, hwhole, toList_toString, List.append_assoc, hbody]
  · have he := @durationElement_fractionText s (n.natAbs / 10 ^ P.2) n.natAbs P.2 P.1 [] hprec hut hne hchars
      (by simp) (by rw [hsum]; omega)
    rw [List.append_nil, ← hbody] at he
    obtain ⟨k, hk⟩ : ∃ k, body.length = k + 1 := ⟨body.length - 1, by omega⟩
    rw [hk, durationElements_step s (by rintro h; simp [h] at hlen) he (by omega), durationElements_nil, Nat.zero_add,
      hsum]

theorem durationText_large {n : Int} (hbig : ¬ n.natAbs < 1000000000) (hb : n.natAbs ≤ 2 ^ 63) :
    SignedElements (durationText n).toList n := by
  obtain ⟨hsecs, -⟩ := fractionText_spec n.natAbs 9
  unfold durationText
  simp only [if_neg (show n.natAbs ≠ 0 by omega), if_neg hbig, hsecs]
  set u := n.natAbs with hu
  -- the elements of the seconds, the minutes and the hours
  set S := Nat.toDigits 10 (u / 10 ^ 9 % 60) ++ ((fractionText u 9).1.toList ++ "s".toList) with hS
  have hSread : ∀ s, durationElement s S = .ok (u / 10 ^ 9 % 60 * 10 ^ 9 + u % 10 ^ 9, []) := by
    intro s
    have h := @durationElement_fractionText s (u / 10 ^ 9 % 60) u 9 "s" [] le_rfl (by decide +kernel)
      (by decide +kernel) (by decide +kernel) (by simp) (by omega)
    rwa [List.append_nil] at h
  have hMread : ∀ s rest, (∀ c ∈ rest.head?, (c == '.' || c.isDigit) = true) →
      durationElement s (Nat.toDigits 10 (u / 10 ^ 9 / 60 % 60) ++ ("m".toList ++ rest)) =
        .ok (u / 10 ^ 9 / 60 % 60 * 60000000000, rest) :=
    fun s rest hr => durationElement_whole s (by decide +kernel) (by decide +kernel) (by decide +kernel) hr (by omega)
  have hHread : ∀ s rest, (∀ c ∈ rest.head?, (c == '.' || c.isDigit) = true) →
      durationElement s (Nat.toDigits 10 (u / 10 ^ 9 / 60 / 60) ++ ("h".toList ++ rest)) =
        .ok (u / 10 ^ 9 / 60 / 60 * 3600000000000, rest) :=
    fun s rest hr => durationElement_whole s (by decide +kernel) (by decide +kernel) (by decide +kernel) hr (by omega)
  have hSlen : 2 ≤ S.length := by
    have := @Nat.length_toDigits_pos 10 (u / 10 ^ 9 % 60)
    simp only [hS, List.length_append]
    have : "s".toList.length = 1 := rfl
    omega
  have hS0 : S ≠ [] := by
    rintro h
    simp [h] at hSlen
  by_cases hm : u / 10 ^ 9 / 60 = 0
  · rw [if_pos hm]
    refine ⟨S, ?_, head_toDigits_append _ _, hSlen, fun s => ?_⟩
    · simp only [String.toList_append, toList_sign, toList_toString, List.append_assoc, hS]
    · obtain ⟨k, hk⟩ : ∃ k, S.length = k + 1 := ⟨S.length - 1, by omega⟩
      rw [hk, durationElements_step s hS0 (hSread s) (by omega), durationElements_nil]
      congr 1
      omega
  rw [if_neg hm]
  set M := Nat.toDigits 10 (u / 10 ^ 9 / 60 % 60) ++ ("m".toList ++ S) with hM
  have hMlen : S.length + 2 ≤ M.length := by
    have := @Nat.length_toDigits_pos 10 (u / 10 ^ 9 / 60 % 60)
    simp only [hM, List.length_append]
    have : "m".toList.length = 1 := rfl
    omega
  have hM0 : M ≠ [] := by
    rintro h
    simp [h] at hMlen
  by_cases hh : u / 10 ^ 9 / 60 / 60 = 0
  · rw [if_pos hh]
    refine ⟨M, ?_, head_toDigits_append _ _, by omega, fun s => ?_⟩
    · simp only [String.toList_append, toList_sign, toList_toString, List.append_assoc, hM, hS]
    · obtain ⟨k, hk⟩ : ∃ k, M.length = k + 2 := ⟨M.length - 2, by omega⟩
      rw [hk, durationElements_step s hM0 (hMread s S (next_toDigits_append _ _)) (by omega),
        durationElements_step s hS0 (hSread s) (by omega), durationElements_nil]
      congr 1
      omega
  rw [if_neg hh]
  set H := Nat.toDigits 10 (u / 10 ^ 9 / 60 / 60) ++ ("h".toList ++ M) with hH
  have hHlen : M.length + 2 ≤ H.length := by
    have := @Nat.length_toDigits_pos 10 (u / 10 ^ 9 / 60 / 60)
    simp only [hH, List.length_append]
    have : "h".toList.length = 1 := rfl
    omega
  have hH0 : H ≠ [] := by
    rintro h
    simp [h] at hHlen
  refine ⟨H, ?_, head_toDigits_append _ _, by omega, fun s => ?_⟩
  · simp only [String.toList_append, toList_sign, toList_toString, List.append_assoc, hH, hM, hS]
  · obtain ⟨k, hk⟩ : ∃ k, H.length = k + 3 := ⟨H.length - 3, by omega⟩
    rw [hk, durationElements_step s hH0 (hHread s M (next_toDigits_append _ _)) (by omega),
      durationElements_step s hM0 (hMread s S (next_toDigits_append _ _)) (by omega),
      durationElements_step s hS0 (hSread s) (by omega), durationElements_nil]
    congr 1
    omega

theorem parseDuration_of_signedElements {s : String} {n : Int} (h : SignedElements s.toList n) (hn : n < 2 ^ 63) :
    parseDuration s = .ok n := by
  obtain ⟨body, hs, hhead, hlen, hread⟩ := h
  obtain ⟨c, r, rfl⟩ : ∃ c r, body = c :: r := List.exists_cons_of_ne_nil (by rintro rfl; simp at hlen)
  have hsign : splitSign ((if n < 0 then ['-'] else []) ++ c :: r) = (decide (n < 0), c :: r) := by
    by_cases h : n < 0
    · simp [h, splitSign]
    · simp [h, splitSign_of_isDigit (hhead c rfl)]
  have hzero : (c :: r == ['0']) = false := by
    rw [beq_eq_false_iff_ne]
    rintro ⟨-, rfl⟩
    simp at hlen
  unfold parseDuration
  rw [hs, hsign]
  dsimp only
  rw [hzero, hread s]
  simp only [Bool.false_eq_true, ↓reduceIte, List.isEmpty_cons]
  by_cases h : n < 0
  · simp only [h, decide_true, ↓reduceIte]
    congr 1
    omega
  · simp only [h, decide_false, Bool.false_eq_true, ↓reduceIte]
    rw [if_neg (by rw [Nat.pow_eq]; omega)]
    congr 1
    omega

theorem parseDuration_durationText {n : Int} (hlo : -2 ^ 63 ≤ n) (hhi : n < 2 ^ 63) :
    parseDuration (durationText n) = .ok n := by
  by_cases h0 : n = 0
  · subst h0
    decide +kernel
  have hu0 : n.natAbs ≠ 0 := Int.natAbs_ne_zero.2 h0
  refine parseDuration_of_signedElements ?_ hhi
  by_cases hsmall : n.natAbs < 1000000000
  · exact durationText_small hu0 hsmall
  · exact durationText_large hsmall (by omega)

theorem durationText_ne_empty {n : Int} (hlo : -2 ^ 63 ≤ n) (hhi : n < 2 ^ 63) : durationText n ≠ "" := by
  intro h
  have hread := parseDuration_durationText hlo hhi
  have hempty : parseDuration "" = .error (invalidDuration "") := by decide +kernel
  rw [h, hempty] at hread
  cases hread

end Multibody.Text