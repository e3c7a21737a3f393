import Mathlib
import Multibody.Store.Csv

/-!
# Plain records read back

A field that needs no quotes is written as it is: it holds no separator, quote
or line break.  Records of such fields, one per line, read back as they were
written (`readRecords_recordLines`), as long as no record is written as an empty
line, which the reader skips: the empty record and the record of one empty
field.

The proof follows the reader's three stages: the text splits into the written
lines (`splitLines_lines`), each line splits at its commas into the written
fields (`readRecord_plain`), and the loop over the lines collects one record per
line (`readRecords_go_plain`).
-/

namespace Multibody.Store

section Fields

theorem plain_chars {f : String} (h : needsQuotes f = false) {c : Char} (hc : c ∈ f.toList) :
    c ≠ ',' ∧ c ≠ '"' ∧ c ≠ '\r' ∧ c ≠ '\n' := by
  unfold needsQuotes at h
  by_cases he : f = ""
  · subst he; simp at hc
  by_cases hs : f = "\\."
  · subst hs; simp at h
  simp only [beq_iff_eq, he, hs, if_false, Bool.or_eq_false_iff] at h
  have hany := h.1
  rw [String.any, String.contains_bool_eq, List.any_eq_false] at hany
  have := hany c hc
  simp only [Bool.or_eq_true, beq_iff_eq, not_or] at this
  exact ⟨this.1.1.1, this.1.1.2, this.1.2, this.2⟩

theorem fieldText_of_plain {f : String} (h : needsQuotes f = false) : fieldText f = f := by
  simp [fieldText, h]

private theorem mem_joined {r : List String} {c : Char}
    (hc : c ∈ [','].intercalate (r.map String.toList)) : c = ',' ∨ ∃ f ∈ r, c ∈ f.toList := by
  induction r with
  | nil => simp at hc
  | cons f gs ih =>
    cases gs with
    | nil => exact .inr ⟨f, by simp, by simpa using hc⟩
    | cons g gs =>
      rw [List.map_cons, List.map_cons, List.intercalate_cons_cons, ← List.map_cons] at hc
      rcases List.mem_append.mp hc with h | h
      · rcases List.mem_append.mp h with h | h
        · exact .inr ⟨f, by simp, h⟩
        · exact .inl (by simpa using h)
      · rcases ih h with h | ⟨f', hf', h⟩
        · exact .inl h
        · exact .inr ⟨f', List.mem_cons_of_mem f hf', h⟩

private theorem length_le_joined (r : List String) :
    r.length ≤ ([','].intercalate (r.map String.toList)).length + 1 := by
  induction r with
  | nil => simp
  | cons f gs ih =>
    cases gs with
    | nil => simp
    | cons g gs =>
      rw [List.map_cons, List.map_cons, List.intercalate_cons_cons, ← List.map_cons]
      simp only [List.length_append, List.length_cons] at ih ⊢
      omega

private theorem joined_ne_nil {r : List String} (hr : r ≠ [] ∧ r ≠ [""]) :
    [','].intercalate (r.map String.toList) ≠ [] := by
  match r, hr with
  | [f], hr =>
    simp only [List.map_cons, List.map_nil, List.intercalate_singleton, ne_eq,
      String.toList_eq_nil_iff]
    exact fun h => hr.2 (by rw [h])
  | f :: g :: gs, _ =>
    rw [List.map_cons, List.map_cons, List.intercalate_cons_cons]
    simp

end Fields

section Lines

private theorem splitLines_go_chars (l rest cur : List Char) (acc : List (List Char))
    (hl : '\n' ∉ l) : splitLines.go (l ++ rest) cur acc = splitLines.go rest (l.reverse ++ cur) acc := by
  induction l generalizing cur with
  | nil => rfl
  | cons c l ih =>
    have hc : c ≠ '\n' := fun h => hl (h ▸ List.mem_cons_self ..)
    rw [List.cons_append, splitLines.go.eq_5 _ _ _ _ hc,
      ih _ (fun h => hl (List.mem_cons_of_mem c h))]
    simp

private theorem splitLines_go_line (l rest : List Char) (acc : List (List Char)) (hl : '\n' ∉ l)
    (hr : l.getLast? ≠ some '\r') :
    splitLines.go (l ++ '\n' :: rest) [] acc = splitLines.go rest [] ((l ++ ['\n']) :: acc) := by
  rw [splitLines_go_chars l _ [] acc hl, List.append_nil, splitLines.go.eq_4]
  · simp
  · intro c hc
    apply hr
    rw [← List.reverse_reverse l, hc, List.getLast?_reverse]
    rfl

theorem splitLines_lines (ls : List (List Char))
    (h : ∀ l ∈ ls, '\n' ∉ l ∧ l.getLast? ≠ some '\r') :
    splitLines (String.ofList (ls.map (· ++ ['\n'])).flatten) = ls.map (· ++ ['\n']) := by
  unfold splitLines
  rw [String.toList_ofList]
  -- the lines already split off are kept, reversed, in the accumulator
  suffices ∀ acc, splitLines.go (ls.map (· ++ ['\n'])).flatten [] acc =
      acc.reverse ++ ls.map (· ++ ['\n']) by simpa using this []
  induction ls with
  | nil => intro acc; simp [splitLines.go.eq_1]
  | cons l ls ih =>
    intro acc
    obtain ⟨hl, hr⟩ := h l (List.mem_cons_self ..)
    rw [List.map_cons, List.flatten_cons, List.append_assoc, List.singleton_append,
      splitLines_go_line l _ acc hl hr, ih (fun l' hl' => h l' (List.mem_cons_of_mem l hl'))]
    simp

end Lines

section Records

theorem readRecord_fields_plain (startLine : Nat) (fs : List String) (hne : fs ≠ [])
    (hplain : ∀ f ∈ fs, needsQuotes f = false) (fuel col : Nat) (rd : CsvReader)
    (acc : List String) (hfuel : fs.length ≤ fuel) :
    readRecord.fields startLine fuel ([','].intercalate (fs.map String.toList) ++ ['\n']) col rd acc =
      .ok (acc.reverse ++ fs, rd) := by
  induction fs generalizing fuel col acc with
  | nil => exact absurd rfl hne
  | cons f gs ih =>
    obtain ⟨k, rfl⟩ : ∃ k, fuel = k + 1 := ⟨fuel - 1, by simp at hfuel; omega⟩
    have hf := fun c (hc : c ∈ f.toList) => plain_chars (hplain f (List.mem_cons_self ..)) hc
    -- no quote anywhere on the line
    have hquote : ∀ rest, [','].intercalate ((f :: gs).map String.toList) ++ ['\n'] ≠ '"' :: rest := by
      intro rest heq
      have hmem : '"' ∈ [','].intercalate ((f :: gs).map String.toList) ++ ['\n'] := by
        rw [heq]; exact List.mem_cons_self ..
      rcases List.mem_append.mp hmem with h | h
      · rcases mem_joined h with h | ⟨f', hf', h⟩
        · exact absurd h (by decide)
        · exact (plain_chars (hplain f' hf') h).2.1 rfl
      · exact absurd h (by decide)
    rw [readRecord.fields.eq_3 _ _ _ _ _ _ hquote]
    have hfq : List.findIdx? (fun x => x == '"') f.toList = none :=
      List.findIdx?_eq_none_iff.mpr fun c hc => by simpa using (hf c hc).2.1
    have hfc : List.findIdx? (fun x => x == ',') f.toList = none :=
      List.findIdx?_eq_none_iff.mpr fun c hc => by simpa using (hf c hc).1
    cases gs with
    | nil =>
      -- the last field runs to the line break
      simp only [List.map_cons, List.map_nil, List.intercalate_singleton]
      rw [List.findIdx?_append, hfc]
      simp [withoutBreak, hfq]
    | cons g gs =>
      -- the first field runs to the first comma
      rw [List.map_cons, List.map_cons, List.intercalate_cons_cons, ← List.map_cons]
      have hidx : List.findIdx? (fun x => x == ',')
          (f.toList ++ [','] ++ [','].intercalate ((g :: gs).map String.toList) ++ ['\n']) =
          some f.toList.length := by
        rw [List.append_assoc, List.append_assoc, List.findIdx?_append, hfc]
        simp [List.findIdx?_cons]
      rw [hidx]
      dsimp only
      have htake : List.take f.toList.length
          (f.toList ++ [','] ++ [','].intercalate ((g :: gs).map String.toList) ++ ['\n']) =
          f.toList := by simp
      have hdrop : List.drop (f.toList.length + 1)
          (f.toList ++ [','] ++ [','].intercalate ((g :: gs).map String.toList) ++ ['\n']) =
          [','].intercalate ((g :: gs).map String.toList) ++ ['\n'] := by simp
      rw [htake, hfq, hdrop]
      dsimp only
      rw [ih (by simp) (fun f' hf' => hplain f' (List.mem_cons_of_mem f hf')) k _ _
        (by simp at hfuel ⊢; omega)]
      simp

theorem readRecords_go_plain (fuel : Nat) (rs : List (List String))
    (hrs : ∀ r ∈ rs, (r ≠ [] ∧ r ≠ [""]) ∧ (∀ f ∈ r, needsQuotes f = false) ∧ r.length ≤ fuel)
    (n lineNo : Nat) (acc : List (List String)) (hn : rs.length < n) :
    readRecords.go fuel n
        { lines := rs.map fun r => [','].intercalate (r.map String.toList) ++ ['\n'], lineNo } acc =
      .ok (acc.reverse ++ rs) := by
  induction rs generalizing n lineNo acc with
  | nil =>
    obtain ⟨m, rfl⟩ : ∃ m, n = m + 1 := ⟨n - 1, by simp at hn; omega⟩
    rw [readRecords.go.eq_2]
    simp [CsvReader.next]
  | cons r rs ih =>
    obtain ⟨m, rfl⟩ : ∃ m, n = m + 1 := ⟨n - 1, by simp at hn; omega⟩
    obtain ⟨hne, hplain, hlen⟩ := hrs r (List.mem_cons_self ..)
    have hbreak : isBreakOnly ([','].intercalate (r.map String.toList) ++ ['\n']) = false := by
      have := joined_ne_nil hne
      simp [isBreakOnly, this]
    rw [readRecords.go.eq_2]
    simp only [List.map_cons, CsvReader.next, hbreak, Bool.false_eq_true, if_false, readRecord]
    rw [readRecord_fields_plain _ r (fun h => hne.1 h) hplain _ _ _ _ hlen]
    dsimp only
    rw [ih (fun r' hr' => hrs r' (List.mem_cons_of_mem r hr')) m _ _ (by simp at hn; omega)]
    simp

theorem readRecords_recordLines (rs : List (List String))
    (hplain : ∀ r ∈ rs, ∀ f ∈ r, needsQuotes f = false)
    (hline : ∀ r ∈ rs, r ≠ [] ∧ r ≠ [""]) :
    readRecords (String.join (rs.map recordLine)) = .ok rs := by
  -- the text is the joined fields of each record with a line break after each
  have hline_chars : ∀ r ∈ rs, (recordLine r).toList =
      [','].intercalate (r.map String.toList) ++ ['\n'] := by
    intro r hr
    have hfields : r.map fieldText = r :=
      (List.map_congr_left fun f hf => fieldText_of_plain (hplain r hr f hf)).trans (List.map_id' r)
    rw [recordLine, hfields, String.toList_append, String.toList_intercalate]
    rfl
  have htext : String.join (rs.map recordLine) = String.ofList
      ((rs.map fun r => [','].intercalate (r.map String.toList)).map (· ++ ['\n'])).flatten := by
    apply String.toList_injective
    rw [String.toList_join, String.toList_ofList, List.map_map, List.flatMap_map, List.flatMap_def]
    congr 1
    exact List.map_congr_left fun r hr => hline_chars r hr
  -- no joined line holds a break or ends in a carriage return
  have hclean : ∀ l ∈ rs.map fun r => [','].intercalate (r.map String.toList),
      '\n' ∉ l ∧ l.getLast? ≠ some '\r' := by
    intro l hl
    obtain ⟨r, hr, rfl⟩ := List.mem_map.mp hl
    have hchar : ∀ c ∈ [','].intercalate (r.map String.toList), c ≠ '\r' ∧ c ≠ '\n' := by
      intro c hc
      rcases mem_joined hc with rfl | ⟨f, hf, hc⟩
      · decide
      · exact (plain_chars (hplain r hr f hf) hc).2.2
    refine ⟨fun h => (hchar _ h).2 rfl, fun h => (hchar _ (List.mem_of_getLast? h)).1 rfl⟩
  -- a record is no longer than its line, which is part of the text
  have hlen : ∀ r ∈ rs, r.length ≤ (String.join (rs.map recordLine)).length + 2 := by
    intro r hr
    have hmem : [','].intercalate (r.map String.toList) ++ ['\n'] ∈
        (rs.map fun r => [','].intercalate (r.map String.toList)).map (· ++ ['\n']) := by
      simp only [List.map_map, List.mem_map]; exact ⟨r, hr, rfl⟩
    have hsub := (List.sublist_flatten_of_mem hmem).length_le
    have := length_le_joined r
    rw [htext, String.length_ofList]
    simp only [List.length_append, List.length_singleton] at hsub
    omega
  unfold readRecords
  generalize (String.join (rs.map recordLine)).length + 2 = F at hlen
  rw [htext, splitLines_lines _ hclean]
  simp only [List.map_map, Function.comp_def, List.length_map]
  simpa using readRecords_go_plain F rs (fun r hr => ⟨hline r hr, hplain r hr, hlen r hr⟩)
    (rs.length + 1) 0 [] (by omega)

end Records

end Multibody.Store
