import Mathlib.Data.List.Induction
import UptimeFlow.Js

/-!
# UptimeFlow.Numerals

Digits, and the numbers they are read as, in any radix.

The digits of a number are read back as it (`digits_toDigits`), given what each
digit is worth, and a text of `k` digits is worth less than the `k`-th power of
the radix (`digits_lt`).
-/

namespace UptimeFlow.Js

variable {radix : Nat} {value : Char → Nat}

theorem digits_concat (cs : List Char) (c : Char) :
    digits radix value (cs ++ [c]) = radix * digits radix value cs + value c := by
  simp [digits, List.foldl_append]

theorem digits_lt {cs : List Char} (h : ∀ c ∈ cs, value c < radix) :
    digits radix value cs < radix ^ cs.length := by
  induction cs using List.reverseRecOn with
  | nil => exact Nat.one_pos
  | append_singleton cs c ih =>
      have hcs := ih fun d hd => h d (List.mem_append_left _ hd)
      have hc := h c (List.mem_append_right _ List.mem_cons_self)
      rw [digits_concat, List.length_append, List.length_singleton, Nat.pow_succ, Nat.mul_comm]
      calc digits radix value cs * radix + value c
          < digits radix value cs * radix + radix := by omega
        _ = (digits radix value cs + 1) * radix := by rw [Nat.succ_mul]
        _ ≤ radix ^ cs.length * radix := Nat.mul_le_mul_right radix hcs

/-- **What a number is written as** is read back. -/
theorem digits_toDigits (hradix : 1 < radix) (hvalue : ∀ d < radix, value d.digitChar = d)
    (n : Nat) : digits radix value (Nat.toDigits radix n) = n := by
  induction n using Nat.strongRecOn with
  | _ n ih =>
      rw [Nat.toDigits_eq_if hradix]
      split
      · next hsmall => simp [digits, hvalue n hsmall]
      · next hlarge =>
        have hdiv : n / radix < n := Nat.div_lt_self (by omega) hradix
        rw [digits_concat, ih _ hdiv, hvalue _ (Nat.mod_lt n (by omega)), Nat.div_add_mod]

theorem mem_toDigits {P : Char → Prop} (hradix : 1 < radix) (hP : ∀ d < radix, P d.digitChar)
    (n : Nat) : ∀ c ∈ Nat.toDigits radix n, P c := by
  induction n using Nat.strongRecOn with
  | _ n ih =>
      rw [Nat.toDigits_eq_if hradix]
      split
      · next hsmall => simpa using hP n hsmall
      · next hlarge =>
        have hdiv : n / radix < n := Nat.div_lt_self (by omega) hradix
        intro c hc
        obtain hc | hc := List.mem_append.1 hc
        · exact ih _ hdiv c hc
        · rw [List.mem_singleton.1 hc]
          exact hP _ (Nat.mod_lt n (by omega))

end UptimeFlow.Js
