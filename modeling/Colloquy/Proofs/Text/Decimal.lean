import Mathlib.Logic.Basic
import Colloquy.Text.Decimal

/-!
# Reading back decimal integers

The decimal text of a signed 64-bit integer is read as that integer (`readInt64_ofInt`). Reading
checks the range after every digit, so the proof follows the digits: no part of a number is further
from zero than the whole.
-/

namespace Colloquy.Decimal

/-- Zero is a signed 64-bit integer. -/
lemma inInt64_zero : InInt64 0 := by decide

/-- The integer of a magnitude and a sign. -/
def signed (negative : Bool) (m : Nat) : Int := if negative then -m else m

/-- Digits that follow only make a number larger. -/
lemma le_ofDigitChars (cs : List Char) (m : Nat) : m ≤ Nat.ofDigitChars 10 cs m := by
  induction cs generalizing m with
  | nil => simp
  | cons c rest ih =>
    rw [Nat.ofDigitChars_cons]
    exact Nat.le_trans (by omega) (ih _)

/-- Zero lies between a number and its sign, and so does every smaller magnitude. -/
lemma inInt64_signed_of_le {negative : Bool} {m n : Nat} (h : m ≤ n)
    (hn : InInt64 (signed negative n)) : InInt64 (signed negative m) := by
  unfold signed InInt64 at *
  split at hn <;> simp_all <;> omega

/-- Digits are added to a magnitude without leaving the range, if the result lies in it. -/
lemma accumulate_signed {negative : Bool} {cs : List Char} (hcs : ∀ c ∈ cs, c.isDigit) {m : Nat}
    (h : InInt64 (signed negative (Nat.ofDigitChars 10 cs m))) {acc : Int64}
    (hacc : acc.1 = signed negative m) :
    accumulate negative acc cs = .ok ⟨signed negative (Nat.ofDigitChars 10 cs m), h⟩ := by
  induction cs generalizing m acc with
  | nil => exact congrArg Except.ok (Subtype.ext (by simpa using hacc))
  | cons c rest ih =>
    have hc : c.isDigit := hcs c List.mem_cons_self
    have hnext : (if negative then acc.1 * 10 - ((c.toNat - '0'.toNat : Nat) : Int)
        else acc.1 * 10 + ((c.toNat - '0'.toNat : Nat) : Int)) =
        signed negative (10 * m + (c.toNat - '0'.toNat)) := by
      rw [hacc]
      unfold signed
      split <;> omega
    rw [Nat.ofDigitChars_cons] at h
    have hrange := inInt64_signed_of_le (le_ofDigitChars rest _) h
    simp only [accumulate, digit?, hc, if_true, hnext, dif_pos hrange, Nat.ofDigitChars_cons]
    exact ih (fun c hc => hcs c (List.mem_cons_of_mem _ hc)) h rfl

/-- The digits of a magnitude are read as the integer with that magnitude and sign. -/
lemma readMagnitude_ofNat {negative : Bool} {m : Nat} (h : InInt64 (signed negative m)) :
    readMagnitude negative (ofNat m) = .ok ⟨signed negative m, h⟩ := by
  have hdigits : ∀ c ∈ Nat.toDigits 10 m, c.isDigit := fun c hc =>
    Nat.isDigit_of_mem_toDigits (by decide) (by decide) hc
  have hzero : (0 : Int) = signed negative 0 := by simp [signed]
  have h' : InInt64 (signed negative (Nat.ofDigitChars 10 (Nat.toDigits 10 m) 0)) := by
    rwa [Nat.ofDigitChars_ten_toDigits]
  have hread : accumulate negative ⟨0, by decide⟩ (Nat.toDigits 10 m) = _ :=
    accumulate_signed hdigits h' hzero
  simpa [readMagnitude, ofNat, Nat.toDigits_ne_nil] using hread

/-- Digits are not mistaken for a sign. -/
lemma readInt64_of_isDigit {cs : List Char} (hne : cs ≠ []) (hcs : ∀ c ∈ cs, c.isDigit) :
    readInt64 cs = readMagnitude false cs := by
  unfold readInt64
  split
  · contradiction
  · simp at hcs
  · simp at hcs
  · rfl

/-- The text of an integer is read as that integer. -/
theorem readInt64_ofInt (n : Int64) : readInt64 (ofInt n.1) = .ok n := by
  obtain ⟨n, hn⟩ := n
  cases n with
  | ofNat m =>
    have hdigits : ∀ c ∈ ofNat m, c.isDigit := fun c hc =>
      Nat.isDigit_of_mem_toDigits (by decide) (by decide) hc
    exact (readInt64_of_isDigit Nat.toDigits_ne_nil hdigits).trans 
      (readMagnitude_ofNat (show InInt64 (signed false m) from hn))
  | negSucc m => exact readMagnitude_ofNat (show InInt64 (signed true (m + 1)) from hn)

/-- The text of an integer has digits, and one sign at most. -/
lemma mem_ofInt {n : Int} {c : Char} (h : c ∈ ofInt n) : c = '-' ∨ c.isDigit := by
  have hdigit : ∀ m, c ∈ ofNat m → c.isDigit := fun m hc =>
    Nat.isDigit_of_mem_toDigits (by decide) (by decide) hc
  cases n with
  | ofNat m => exact .inr (hdigit m h)
  | negSucc m =>
    rcases List.mem_cons.mp h with rfl | h
    · exact .inl rfl
    · exact .inr (hdigit _ h)

end Colloquy.Decimal
