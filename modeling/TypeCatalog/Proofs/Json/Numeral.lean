import Mathlib.Tactic.IntervalCases
import TypeCatalog.Json.Printer
import TypeCatalog.Proofs.Json.Run

/-! # Reading integers back

A number goes on with digits and marks only (`Numeral.step_ne_some`).  The decimal digits of a
whole number are taken one by one, and none of them is dropped while the number fits 64 bits
(`passes_toDigits`).  So an integer of the exact range is read back from its text
(`exists_passes_intText`); the reader is then still inside the number. -/

namespace TypeCatalog.Json

/-! ### Characters that no number has -/

namespace Numeral

/-- The characters of a number other than its digits. -/
def marks : List Char := ['.', 'e', 'E', '+', '-']

theorem afterWhole_eq_none {n : Numeral} {c : Char} (hm : c ∉ marks) : n.afterWhole c = none := by
  simp only [marks, List.mem_cons, List.not_mem_nil, or_false, not_or] at hm
  obtain ⟨point, lower, upper, -, -⟩ := hm
  simp [afterWhole, point, lower, upper]

theorem step_ne_some {n n' : Numeral} {c : Char} (hd : digit? c = none) (hm : c ∉ marks) :
    n.step c ≠ .ok (some n') := by
  have whole := afterWhole_eq_none (n := n) hm
  simp only [marks, List.mem_cons, List.not_mem_nil, or_false, not_or] at hm
  obtain ⟨-, lower, upper, plus, minus⟩ := hm
  cases hp : n.phase <;> simp [step, hp, hd, whole, afterFraction, lower, upper, plus, minus]

end Numeral

namespace Reader

variable {limit : Nat}

/-! ### Digits -/

theorem digit?_digitChar : ∀ d < 10, Numeral.digit? (Nat.digitChar d) = some d := by
  decide

theorem step_whole {negative : Bool} {n d : Nat} (stack : List Frame) (hd : d < 10)
    (fits : n * 10 + d < Numeral.significandBound) :
    step limit ⟨.numeral ⟨negative, n, 0, .whole⟩, stack⟩ (Nat.digitChar d) =
      .ok ⟨.numeral ⟨negative, n * 10 + d, 0, .whole⟩, stack⟩ := by
  simp [step, Numeral.step, digit?_digitChar d hd, Numeral.keep?, fits]

/-- The digits of a number other than zero are read from any state that takes a first digit. -/
theorem passes_toDigits {negative : Bool} {s : State} {stack : List Frame}
    (first : ∀ d, 0 < d → d < 10 → step limit s (Nat.digitChar d) =
      .ok ⟨.numeral ⟨negative, d, 0, .whole⟩, stack⟩)
    (n : Nat) (pos : 0 < n) (fits : n < Numeral.significandBound) :
    Passes limit s (Nat.toDigits 10 n) ⟨.numeral ⟨negative, n, 0, .whole⟩, stack⟩ := by
  -- all digits but the last one are those of `n / 10`
  induction n using Nat.strongRecOn with
  | ind n ih =>
      by_cases hn : n < 10
      · rw [Nat.toDigits_of_lt_base hn]
        exact .single (first n pos hn)
      · have split : n / 10 * 10 + n % 10 = n := by omega
        rw [Nat.toDigits_of_base_le (by decide) (by omega)]
        refine (ih (n / 10) (by omega) (by omega) (by omega)).append (.single ?_)
        rw [step_whole stack (by omega) (by omega), split]

/-! ### The end of a number -/

/-- What may follow a value is no part of a number. -/
theorem foreign_of_follows {c : Char} (h : Follows c) :
    Numeral.digit? c = none ∧ c ∉ Numeral.marks := by
  rcases h with h | rfl | rfl | rfl
  · simp only [isBlank, Bool.or_eq_true, beq_iff_eq] at h
    rcases h with ((rfl | rfl) | rfl) | rfl <;> exact ⟨rfl, by decide⟩
  all_goals exact ⟨rfl, by decide⟩

theorem completes_whole {n : Numeral} {v : Json} {stack : List Frame}
    (hp : n.phase = .zero ∨ n.phase = .whole) (hv : n.wholeValue = v) :
    Completes v stack ⟨.numeral n, stack⟩ := by
  refine .numeral (fun c hc => ?_) ?_
  · obtain ⟨hd, hm⟩ := foreign_of_follows hc
    rcases hp with hp | hp <;> simp [Numeral.step, hp, hd, Numeral.afterWhole_eq_none hm]
  · rcases hp with hp | hp <;> simp [Numeral.finish, hp, hv]

/-! ### Integers -/

theorem step_firstDigit (stack : List Frame) {d : Nat} (pos : 0 < d) (hd : d < 10) :
    step limit ⟨.value, stack⟩ (Nat.digitChar d) =
      .ok ⟨.numeral ⟨false, d, 0, .whole⟩, stack⟩ := by
  interval_cases d <;> rfl

theorem step_digitBehindSign (stack : List Frame) {d : Nat} (pos : 0 < d) (hd : d < 10) :
    step limit ⟨.numeral ⟨true, 0, 0, .sign⟩, stack⟩ (Nat.digitChar d) =
      .ok ⟨.numeral ⟨true, d, 0, .whole⟩, stack⟩ := by
  simp [step, Numeral.step, digit?_digitChar d hd, Nat.pos_iff_ne_zero.mp pos]

theorem exists_passes_intText (stack : List Frame) {n : Int} (least : minInt ≤ n)
    (bound : n < intBound) :
    ∃ s, Passes limit ⟨.value, stack⟩ (intText n) s ∧ Completes (.int n) stack s := by
  have bits : (Numeral.significandBound : Int) = intBound := rfl
  have half : -minInt < intBound := by decide
  cases n with
  | ofNat n =>
      rw [Int.ofNat_eq_natCast] at bound ⊢
      rcases Nat.eq_zero_or_pos n with rfl | pos
      · exact ⟨_, .single rfl, completes_whole (.inl rfl) rfl⟩
      · exact ⟨_, passes_toDigits (fun d => step_firstDigit stack) n pos (by omega),
          completes_whole (.inr rfl) rfl⟩
  | negSucc n =>
      rw [Int.negSucc_eq] at least
      refine ⟨_, .cons rfl (passes_toDigits (fun d => step_digitBehindSign stack) (n + 1)
        (by omega) (by omega)), completes_whole (.inr rfl) ?_⟩
      have least : minInt ≤ -((n + 1 : Nat) : Int) := by omega
      rw [Numeral.wholeValue, if_pos rfl, if_pos ⟨Nat.succ_ne_zero n, least⟩]
      rfl

end Reader
end TypeCatalog.Json
