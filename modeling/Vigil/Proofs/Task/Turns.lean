import Vigil.Task.Agenda

/-!
# What turns preserve

What every turn of every task preserves, at whatever time it is taken, holds however the turns
fall and however far the clock goes.

* `Agenda.settle_keeps`: of what runs at one instant.
* `Agenda.advance_keeps`: **of all that runs up to a time.**
-/

namespace Vigil.Agenda

variable {ε ω : Type} {poll : (now task : Nat) → ω → Polled ε ω} {K : ω → List ε → Prop}

/-- Every turn preserves what holds of the world and of what was seen. -/
def TurnKeeps (poll : (now task : Nat) → ω → Polled ε ω) (K : ω → List ε → Prop) : Prop :=
  ∀ now task w seen, K w seen → K (poll now task w).world (seen ++ (poll now task w).seen)

theorem settle_keeps (hK : TurnKeeps poll K) (fuel : Nat) (a : Agenda) (w : ω) (seen : List ε)
    (h : K w seen) : K (settle poll fuel a w).2.2 (seen ++ (settle poll fuel a w).2.1) := by
  induction fuel generalizing a w seen with
  | zero =>
    unfold settle
    rw [List.append_nil]
    exact h
  | succ fuel ih =>
    unfold settle
    cases a.ready with
    | cons task ready =>
      simp only
      rw [← List.append_assoc]
      exact ih _ _ _ (hK _ _ _ _ h)
    | nil =>
      simp only
      cases a.yielded with
      | nil =>
        rw [List.append_nil]
        exact h
      | cons task tasks => exact ih _ _ _ h

/-- **However far the clock goes.** -/
theorem advance_keeps (hK : TurnKeeps poll K) (fuel target : Nat) (a : Agenda) (w : ω)
    (seen : List ε) (h : K w seen) :
    K (advance poll fuel target a w).2.2 (seen ++ (advance poll fuel target a w).2.1) := by
  induction a, w using advance.induct poll fuel target generalizing seen with
  | case1 a w millis hnext hle b now w' hsettle hlt c later w'' hadvance ih =>
    have hnow := settle_keeps hK fuel (a.reach millis) w seen h
    rw [hsettle] at hnow
    have hlater := ih _ hnow
    rw [hadvance] at hlater
    unfold advance
    simp only [hnext, hle, and_self, dif_pos, hsettle, hlt, hadvance]
    rw [← List.append_assoc]
    exact hlater
  | case2 a w millis hnext hle b now w' hsettle hge =>
    have hnow := settle_keeps hK fuel (a.reach millis) w seen h
    rw [hsettle] at hnow
    unfold advance
    simp only [hnext, hle, and_self, dif_pos, hsettle, hge, dif_neg, not_false_eq_true]
    exact hnow
  | case3 a w millis hnext hfar =>
    unfold advance
    simp only [hnext, hfar, dif_neg, not_false_eq_true, List.append_nil]
    exact h
  | case4 a w hnext =>
    unfold advance
    simp only [hnext, List.append_nil]
    exact h

end Vigil.Agenda
