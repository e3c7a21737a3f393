import Mathlib
import Multibody.Decimal.Format
import Multibody.Proofs.Decimal.Words

/-!
# Reading printed numbers back

A numeral of digits with at most one point reads as `ofDecimal` of its
digits scaled down (`readFloat_decimal`).  So an integer's text reads back
(`readFloat_intText`), the fixed-point text of a finite double reads as its
rounded magnitude (`fixed_eq_pointed`, `readFloat_fixed`), and the
non-finite texts read as themselves (`readFloat_fixed_of_ofFloat?_none`).
-/

namespace Multibody.Decimal

section Characters

theorem toLower_of_isDigit {c : Char} (h : c.isDigit = true) : c.toLower = c := by
  have hd := Char.isDigit_iff_toNat.mp h
  unfold Char.toLower
  rw [dif_neg]
  rintro ⟨hA, -⟩
  have : 65 ≤ c.toNat := by simpa [UInt32.le_iff_toNat_le] using hA
  simp at hd
  omega

private theorem toLower_of_numeral {c : Char} (h : c.isDigit = true ∨ c = '.') :
    c.toLower = c := by
  rcases h with h | rfl
  · exact toLower_of_isDigit h
  · decide

private theorem ne_of_numeral {c : Char} (h : c.isDigit = true ∨ c = '.') (l : Char)
    (hl : (l.isDigit = true ∨ l = '.') = False) : l ≠ c := by
  rintro rfl
  rw [hl] at h
  exact h

theorem hexValue?_of_isDigit {c : Char} (h : c.isDigit = true) :
    hexValue? c = some (c.toNat - '0'.toNat) := by
  have hd := Char.isDigit_iff_toNat.mp h
  unfold hexValue?
  rw [if_pos]
  simp only [Char.le_def, UInt32.le_iff_toNat_le, Char.toNat_val]
  simpa using hd

theorem digit_lt_ten {c : Char} (h : c.isDigit = true) : c.toNat - '0'.toNat < 10 := by
  have hd := Char.isDigit_iff_toNat.mp h
  simp at hd ⊢
  omega

end Characters

section Significands

theorem readSignificand_digits (ds rest : List Char) (hds : ∀ c ∈ ds, c.isDigit = true)
    (acc : Significand) :
    readSignificand 10 (ds ++ rest) acc =
      readSignificand 10 rest
        { acc with value := Nat.ofDigitChars 10 ds acc.value,
                   anyDigit := acc.anyDigit || !ds.isEmpty,
                   afterPoint := if acc.sawPoint then acc.afterPoint + ds.length
                     else acc.afterPoint } := by
  induction ds generalizing acc with
  | nil => simp
  | cons c ds ih =>
    have hc := hds c (List.mem_cons_self ..)
    have hu : c ≠ '_' := by rintro rfl; simp at hc
    have hp : c ≠ '.' := by rintro rfl; simp at hc
    rw [List.cons_append, readSignificand, if_neg hu, if_neg hp, hexValue?_of_isDigit hc]
    dsimp only
    rw [if_pos (digit_lt_ten hc), ih (fun d hd => hds d (List.mem_cons_of_mem c hd))]
    congr 2
    · rw [Nat.ofDigitChars_cons, Nat.mul_comm]
    · split <;> simp; omega
    · simp

theorem readSignificand_pointed (ds₁ ds₂ : List Char) (hds : ∀ c ∈ ds₁ ++ ds₂, c.isDigit = true)
    (hne : ds₁ ≠ []) :
    readSignificand 10 (ds₁ ++ '.' :: ds₂) {} =
      ({ value := Nat.ofDigitChars 10 (ds₁ ++ ds₂) 0, afterPoint := ds₂.length, anyDigit := true,
         sawPoint := true }, []) := by
  rw [readSignificand_digits ds₁ _ (fun c hc => hds c (List.mem_append_left _ hc)), readSignificand,
    if_neg (by decide), if_pos rfl]
  dsimp only
  rw [if_neg (by simp), ← List.append_nil ds₂,
    readSignificand_digits ds₂ [] (fun c hc => hds c (List.mem_append_right _ hc))]
  simp [readSignificand, Nat.ofDigitChars_append, hne]

end Significands

section Numerals

/-- A numeral of digits and points that reads to the significand `sig` with
nothing left reads as the double nearest to `sig.value` scaled down by the digits
after the point, signed by a leading minus. -/
theorem readFloat_decimal (neg : Bool) (body : List Char) (sig : Significand)
    (hbody : ∀ c ∈ body, c.isDigit = true ∨ c = '.')
    (hsig : readSignificand 10 body {} = (sig, [])) (hany : sig.anyDigit = true) :
    readFloat (String.ofList ((if neg then ['-'] else []) ++ body)) =
      let y := ofDecimal neg sig.value (-(sig.afterPoint : Int))
      if isInf y then .error .outOfRange else .ok y := by
  obtain ⟨c, r, rfl⟩ : ∃ c r, body = c :: r := by
    cases body with
    | nil => simp [readSignificand] at hsig; subst hsig; cases hany
    | cons c r => exact ⟨c, r, rfl⟩
  have hc := hbody c (List.mem_cons_self ..)
  -- no letter of the special words, no sign, no base mark and no underscore occurs
  have hlower : (c :: r).map Char.toLower = c :: r :=
    (List.map_congr_left fun d hd => toLower_of_numeral (hbody d hd)).trans (List.map_id' _)
  have hword : ∀ w : String, w.toList.head? ≠ some c → String.ofList (c :: r) ≠ w := by
    rintro w hw rfl
    simp at hw
  have hinf : ¬(String.ofList (c :: r) = "inf" ∨ String.ofList (c :: r) = "infinity") := by
    have hi := ne_of_numeral hc 'i' (by decide)
    rintro (h | h)
    · exact hword "inf" (by simpa using hi) h
    · exact hword "infinity" (by simpa using hi) h
  have hnan : ¬String.ofList (c :: r) = "nan" :=
    hword "nan" (by simpa using ne_of_numeral hc 'n' (by decide))
  have hunder : '_' ∉ c :: r := fun h => absurd (hbody '_' h) (by decide)
  unfold readFloat
  simp only [String.toList_ofList]
  cases neg
  case' false =>
    -- an unsigned numeral starts with neither sign
    have h1 := ne_of_numeral hc '+' (by decide)
    have h2 := ne_of_numeral hc '-' (by decide)
    simp only [Bool.false_eq_true, if_false, List.nil_append]
    split
    · rename_i heq; cases heq; exact absurd rfl h1
    · rename_i heq; cases heq; exact absurd rfl h2
    simp only [hlower]
    rw [if_neg hinf, if_neg hnan]
  case' true =>
    simp only [if_true, List.cons_append, List.nil_append, hlower]
    rw [if_neg hinf, if_neg hnan]
  -- the base split has to see the numeral as a variable
  all_goals
    generalize hb : c :: r = body at *
    split
    · exact absurd (hbody 'x' (by simp)) (by decide)
    · exact absurd (hbody 'X' (by simp)) (by decide)
    simp [hsig, hany, hunder]

theorem intText_eq (i : Int) :
    toString i = String.ofList ((if decide (i < 0) then ['-'] else []) ++ Nat.toDigits 10 i.natAbs) := by
  apply String.toList_injective
  cases i with
  | ofNat n => simp [toString, Int.repr, Nat.toList_repr]
  | negSucc n =>
    simp [toString, Int.repr, String.toList_append, Nat.toList_repr, Int.negSucc_lt_zero]

theorem readFloat_intText (i : Int) :
    readFloat (toString i) =
      let y := ofDecimal (decide (i < 0)) i.natAbs 0
      if isInf y then .error .outOfRange else .ok y := by
  have hdig : ∀ c ∈ Nat.toDigits 10 i.natAbs, c.isDigit = true :=
    fun c hc => Nat.isDigit_of_mem_toDigits (by decide) (by decide) hc
  have hsig := readSignificand_digits _ [] hdig {}
  rw [List.append_nil] at hsig
  rw [intText_eq, readFloat_decimal _ _ _ (fun c hc => .inl (hdig c hc)) (by rw [hsig]; rfl)
    (by simp [Nat.toDigits_ne_nil])]
  simp [Nat.ofDigitChars_ten_toDigits]

theorem fixed_eq_pointed {x : Float} {b : Binary} (hb : Binary.ofFloat? x = some b)
    {places : Nat} (hp : 0 < places) :
    ∃ ds₁ ds₂ : List Char, fixed places x =
        String.ofList ((if signOf x then ['-'] else []) ++ ds₁ ++ '.' :: ds₂) ∧
      ds₁ ≠ [] ∧ (∀ c ∈ ds₁ ++ ds₂, c.isDigit = true) ∧ ds₂.length = places ∧
      Nat.ofDigitChars 10 (ds₁ ++ ds₂) 0 = scaledRound b places := by
  set ds := Nat.toDigits 10 (scaledRound b places) with hds
  set padded := if ds.length ≤ places then List.replicate (places + 1 - ds.length) '0' ++ ds
    else ds with hpadded
  have hlen : places < padded.length := by
    rw [hpadded]; split
    · simp only [List.length_append, List.length_replicate]; omega
    · omega
  have hdig : ∀ c ∈ padded, c.isDigit = true := by
    have hds : ∀ c ∈ ds, c.isDigit = true :=
      fun c hc => Nat.isDigit_of_mem_toDigits (by decide) (by decide) hc
    rw [hpadded]; split
    · intro c hc
      rcases List.mem_append.mp hc with h | h
      · rw [List.eq_of_mem_replicate h]; rfl
      · exact hds c h
    · exact hds
  have hval : Nat.ofDigitChars 10 padded 0 = scaledRound b places := by
    rw [hpadded]; split
    · rw [Nat.ofDigitChars_append, Nat.ofDigitChars_replicate_zero, Nat.mul_zero, hds,
        Nat.ofDigitChars_ten_toDigits]
    · exact Nat.ofDigitChars_ten_toDigits
  refine ⟨padded.take (padded.length - places), padded.drop (padded.length - places), ?_, ?_, ?_,
    ?_, ?_⟩
  · apply String.toList_injective
    unfold fixed
    rw [hb]
    simp only [Nat.toString_eq_ofList_toDigits, String.length_ofList, zeros, ← hds]
    have hs : (if ds.length ≤ places then
        String.ofList (List.replicate (places + 1 - ds.length) '0') ++ String.ofList ds
        else String.ofList ds) = String.ofList padded := by
      rw [hpadded]; split <;> simp [String.ofList_append]
    rw [hs, if_neg hp.ne']
    cases hsx : signOf x <;> simp [signText, hsx, String.toList_append]
  · exact List.ne_nil_of_length_pos (by simp; omega)
  · rw [List.take_append_drop]; exact hdig
  · simp; omega
  · rw [List.take_append_drop]; exact hval

theorem readFloat_fixed {x : Float} {b : Binary} (hb : Binary.ofFloat? x = some b)
    {places : Nat} (hp : 0 < places) :
    readFloat (fixed places x) =
      let y := ofDecimal (signOf x) (scaledRound b places) (-(places : Int))
      if isInf y then .error .outOfRange else .ok y := by
  obtain ⟨ds₁, ds₂, htext, hne, hdig, hlen, hval⟩ := fixed_eq_pointed hb hp
  rw [htext, List.append_assoc, readFloat_decimal (signOf x) _ _ ?_
    (readSignificand_pointed ds₁ ds₂ hdig hne) rfl]
  · simp only [hval, hlen]
  · intro c hc
    rcases List.mem_append.mp hc with h | h
    · exact .inl (hdig c (List.mem_append_left _ h))
    · rcases List.mem_cons.mp h with rfl | h
      · exact .inr rfl
      · exact .inl (hdig c (List.mem_append_right _ h))

theorem readFloat_fixed_of_ofFloat?_none {x : Float} (h : Binary.ofFloat? x = none)
    (places : Nat) : readFloat (fixed places x) = .ok x := by
  unfold fixed
  rw [h]
  dsimp only
  by_cases hnan : isNaN x = true
  · have hquiet : isNaN (Float.ofBits 0x7FF8000000000001) = true := by decide
    simp only [specialText?, hnan, if_true, Option.getD_some]
    rw [show readFloat "NaN" = .ok (Float.ofBits 0x7FF8000000000001) by decide,
      eq_of_isNaN hquiet hnan]
  · have hinf : isInf x = true := (isNaN_or_isInf_of_ofFloat? h).resolve_left hnan
    simp only [specialText?, hnan, hinf, Bool.false_eq_true, if_false, if_true, Option.getD_some]
    conv => rhs; rw [eq_wordOf_of_isInf hinf]
    cases signOf x
    · decide
    · decide

end Numerals

end Multibody.Decimal
