import Mathlib

/-!
# Invariants of loops

The program's `for` loops run in `Id`: each pass either goes on with a new
state or stops with one.  A property that every pass keeps, whichever it
does, holds of what the whole loop returns (`forIn_keeps`), over a list or
over a range of numbers (`forIn_range_keeps`).  Two folds whose steps agree
on the states a property picks out, a property the second keeps, agree
(`foldl_congr_of_keeps`).
-/

namespace Multibody

theorem forIn_keeps {α β : Type} (P : β → Prop) (f : α → β → Id (ForInStep β))
    (hf : ∀ a b, P b → P (f a b).run.value) : ∀ (l : List α) (b : β), P b → P (forIn l b f).run
  | [], _, hb => hb
  | a :: l, b, hb => by
    have ha := hf a b hb
    rw [List.forIn_cons]
    cases h : f a b with
    | done b' =>
      rw [h] at ha
      exact ha
    | yield b' =>
      rw [h] at ha
      exact forIn_keeps P f hf l b' ha

theorem forIn_range_keeps {β : Type} (P : β → Prop) (r : Std.Legacy.Range) (f : Nat → β → Id (ForInStep β))
    (hf : ∀ i b, P b → P (f i b).run.value) (b : β) (hb : P b) : P (forIn r b f).run := by
  rw [Std.Legacy.Range.forIn_eq_forIn_range']
  exact forIn_keeps P f hf _ b hb

theorem foldl_congr_of_keeps {α β : Type} (P : β → Prop) {f g : β → α → β}
    (h : ∀ b a, P b → f b a = g b a ∧ P (g b a)) :
    ∀ (l : List α) (b : β), P b → l.foldl f b = l.foldl g b ∧ P (l.foldl g b)
  | [], _, hb => ⟨rfl, hb⟩
  | a :: l, b, hb => by
    obtain ⟨heq, ha⟩ := h b a hb
    rw [List.foldl_cons, List.foldl_cons, heq]
    exact foldl_congr_of_keeps P h l _ ha

end Multibody
