import Mathlib.Data.List.Basic
import SvmCourse.Core.Number

/-!
# Integers Written as Texts

Decimal digits and what they are worth. Digits are read from the left, so a list
is worth what its front is worth, moved up by the length of the rest, and the
rest. Bringing a fraction to a fixed number of digits, by zeros or by cutting
off, is therefore multiplication and division by powers of ten, rounded down.

`bigInt` is the conversion of a text to an integer of any size. It takes spaces
around the number and a sign, or a prefix that gives the base, and refuses
everything else. A text without digits is zero.

## Main definitions

* `worth`: What a list of decimal digits is worth.
* `fit`: A fraction brought to so many digits.
* `padded`: A number with so many digits.
* `bigInt`: The integer a text is.

## Theorems

* `worth_append`, `worth_lt`: The worth of digits.
* `worth_fit`: The worth of a fraction that is brought to so many digits.
* `bigInt_digits`: Digits alone are read as what they are worth.
-/

namespace Core

namespace BigInt

/-! ### Digits -/

/-- Decimal digits and nothing else. -/
def AllDigits (cs : List Char) : Prop := ∀ c ∈ cs, c.isDigit = true

instance (cs : List Char) : Decidable (AllDigits cs) :=
  inferInstanceAs (Decidable (∀ c ∈ cs, c.isDigit = true))

/-- The number that the digits are worth. -/
def worth (cs : List Char) : Nat := Nat.ofDigitChars 10 cs 0

/-- Zeros at the end, or cut off at the end. -/
def fit (n : Nat) (cs : List Char) : List Char := (cs ++ List.replicate (n - cs.length) '0').take n

/-- The digits of a number, with zeros at the front. -/
def padded (n m : Nat) : List Char :=
  List.replicate (n - (Nat.toDigits 10 m).length) '0' ++ Nat.toDigits 10 m

theorem worth_append (cs ds : List Char) :
    worth (cs ++ ds) = worth cs * 10 ^ ds.length + worth ds := by
  rw [worth, Nat.ofDigitChars_append, Nat.ofDigitChars_eq_ofDigitChars_zero, Nat.mul_comm]
  rfl

theorem worth_replicate (n : Nat) : worth (List.replicate n '0') = 0 := by
  rw [worth, Nat.ofDigitChars_replicate_zero, Nat.mul_zero]

theorem digit_lt {c : Char} (h : c.isDigit = true) : c.toNat - '0'.toNat < 10 := by
  have hrange : 48 ≤ c.toNat ∧ c.toNat ≤ 57 := by
    simpa [Char.isDigit, UInt32.le_iff_toNat_le] using h
  have hzero : '0'.toNat = 48 := rfl
  omega

theorem worth_lt {cs : List Char} (h : AllDigits cs) : worth cs < 10 ^ cs.length := by
  induction cs with
  | nil => exact Nat.one_pos
  | cons c cs ih =>
      -- At most nine times the power, and less than the power for the rest.
      have hrest := ih fun d hd => h d (List.mem_cons_of_mem _ hd)
      have hone : worth [c] < 10 := by
        have hdigit := digit_lt (h c List.mem_cons_self)
        simpa [worth, Nat.ofDigitChars_cons] using hdigit
      have hsplit := worth_append [c] cs
      rw [List.singleton_append] at hsplit
      rw [hsplit, List.length_cons, Nat.pow_succ]
      have hle : worth [c] * 10 ^ cs.length ≤ 9 * 10 ^ cs.length :=
        Nat.mul_le_mul_right _ (Nat.le_of_lt_succ hone)
      omega

theorem allDigits_replicate (n : Nat) : AllDigits (List.replicate n '0') := by
  intro c hc
  rw [(List.mem_replicate.mp hc).2]
  decide

theorem allDigits_toDigits (n : Nat) : AllDigits (Nat.toDigits 10 n) :=
  fun _ hc => Nat.isDigit_of_mem_toDigits (by omega) (by omega) hc

theorem fit_of_le {cs : List Char} {n : Nat} (h : n ≤ cs.length) : fit n cs = cs.take n := by
  have hzeros : n - cs.length = 0 := by omega
  rw [fit, hzeros, List.replicate_zero, List.append_nil]

/-- Bringing a fraction to `n` digits is rounding it down. -/
theorem worth_fit {cs : List Char} (h : AllDigits cs) (n : Nat) :
    worth (fit n cs) = worth cs * 10 ^ n / 10 ^ cs.length := by
  by_cases hlong : n ≤ cs.length
  · -- What is cut off is worth less than one in the last digit that stays.
    have hdigits : AllDigits (cs.drop n) := fun c hc => h c (List.mem_of_mem_drop hc)
    have hdrop := worth_lt hdigits
    have hlength : (cs.drop n).length = cs.length - n := List.length_drop
    have hpow : 10 ^ cs.length = 10 ^ (cs.length - n) * 10 ^ n :=
      (Nat.pow_sub_mul_pow 10 hlong).symm
    have hsplit := worth_append (cs.take n) (cs.drop n)
    rw [List.take_append_drop] at hsplit
    rw [hlength] at hsplit hdrop
    rw [fit_of_le hlong, hpow, Nat.mul_div_mul_right _ _ (Nat.pow_pos (by omega)), hsplit,
      Nat.mul_comm, Nat.mul_add_div (Nat.pow_pos (by omega)), Nat.div_eq_of_lt hdrop, Nat.add_zero]
  · -- The zeros move the digits up, and the division undoes the rest.
    have hfit : fit n cs = cs ++ List.replicate (n - cs.length) '0' := by
      rw [fit, List.take_of_length_le]
      rw [List.length_append, List.length_replicate]
      omega
    have hpow : 10 ^ n = 10 ^ (n - cs.length) * 10 ^ cs.length :=
      (Nat.pow_sub_mul_pow 10 (by omega)).symm
    rw [hfit, worth_append, worth_replicate, List.length_replicate, Nat.add_zero, hpow,
      ← Nat.mul_assoc, Nat.mul_div_cancel _ (Nat.pow_pos (by omega))]

theorem allDigits_fit {cs : List Char} (h : AllDigits cs) (n : Nat) : AllDigits (fit n cs) := by
  intro c hc
  rcases List.mem_append.mp (List.mem_of_mem_take hc) with hold | hnew
  · exact h c hold
  · exact allDigits_replicate _ c hnew

theorem length_fit (cs : List Char) (n : Nat) : (fit n cs).length = n := by
  rw [fit, List.length_take, List.length_append, List.length_replicate]
  omega

theorem worth_padded (n m : Nat) : worth (padded n m) = m := by
  rw [padded, worth_append, worth_replicate, Nat.zero_mul, Nat.zero_add, worth,
    Nat.ofDigitChars_ten_toDigits]

theorem length_padded {n m : Nat} (hn : 0 < n) (h : m < 10 ^ n) : (padded n m).length = n := by
  have hle := (Nat.length_toDigits_le_iff (b := 10) (by omega) hn).mpr h
  rw [padded, List.length_append, List.length_replicate]
  omega

theorem allDigits_padded (n m : Nat) : AllDigits (padded n m) := by
  intro c hc
  rcases List.mem_append.mp hc with hzero | hdigit
  · exact allDigits_replicate _ c hzero
  · exact allDigits_toDigits m c hdigit

/-- The first digits of a number with so many digits. -/
theorem worth_take_padded {n m k : Nat} (hn : 0 < n) (h : m < 10 ^ n) (hk : k ≤ n) :
    worth ((padded n m).take k) = m / 10 ^ (n - k) := by
  have hlength := length_padded hn h
  have hpow : 10 ^ n = 10 ^ (n - k) * 10 ^ k := (Nat.pow_sub_mul_pow 10 hk).symm
  rw [← fit_of_le (by rw [hlength]; exact hk), worth_fit (allDigits_padded n m), worth_padded,
    hlength, hpow, Nat.mul_div_mul_right _ _ (Nat.pow_pos (by omega))]

/-! ### Reading -/

/-- What a digit is worth, letters of either case going on after nine. -/
def digitWorth (c : Char) : Option Nat :=
  if c.isDigit then some (c.toNat - '0'.toNat)
  else if 'a' ≤ c ∧ c ≤ 'f' then some (c.toNat - 'a'.toNat + 10)
  else if 'A' ≤ c ∧ c ≤ 'F' then some (c.toNat - 'A'.toNat + 10)
  else none

/-- What digits of a base are worth. There has to be one. -/
def readDigits (base : Nat) (cs : List Char) : Option Nat :=
  if cs = [] then none
  else cs.foldlM (fun n c => ((digitWorth c).filter (· < base)).map (base * n + ·)) 0

/-- The text without the blanks before and behind it. -/
def trim (cs : List Char) : List Char :=
  ((cs.dropWhile Number.isSpace).reverse.dropWhile Number.isSpace).reverse

/-- `BigInt(text)`. A sign does not go with a base, and no digits are zero. -/
def bigInt (text : String) : Option Int :=
  match trim text.toList with
  | [] => some 0
  | '0' :: 'x' :: cs | '0' :: 'X' :: cs => (readDigits 16 cs).map Int.ofNat
  | '0' :: 'o' :: cs | '0' :: 'O' :: cs => (readDigits 8 cs).map Int.ofNat
  | '0' :: 'b' :: cs | '0' :: 'B' :: cs => (readDigits 2 cs).map Int.ofNat
  | '-' :: cs => (readDigits 10 cs).map fun n => -Int.ofNat n
  | '+' :: cs => (readDigits 10 cs).map Int.ofNat
  | cs => (readDigits 10 cs).map Int.ofNat

theorem readDigits_ten {cs : List Char} (hne : cs ≠ []) (h : AllDigits cs) :
    readDigits 10 cs = some (worth cs) := by
  rw [readDigits, if_neg hne, worth]
  -- The induction is over any number of digits read before.
  generalize 0 = n
  clear hne
  induction cs generalizing n with
  | nil => rfl
  | cons c cs ih =>
      have hc := h c List.mem_cons_self
      have hone : digitWorth c = some (c.toNat - '0'.toNat) := by rw [digitWorth, if_pos hc]
      rw [List.foldlM_cons, hone, Option.filter_some, decide_eq_true (digit_lt hc), if_pos rfl]
      rw [Nat.ofDigitChars_cons]
      exact ih (fun d hd => h d (List.mem_cons_of_mem _ hd)) _

theorem trim_digits {cs : List Char} (h : AllDigits cs) : trim cs = cs := by
  have hkeep : ∀ ds : List Char, AllDigits ds → ds.dropWhile Number.isSpace = ds := by
    intro ds hds
    cases ds with
    | nil => rfl
    | cons d ds =>
        rw [List.dropWhile_cons_of_neg]
        rw [(Number.isDigit_cases (hds d List.mem_cons_self)).1]
        exact Bool.false_ne_true
  rw [trim, hkeep cs h, hkeep cs.reverse fun c hc => h c (List.mem_reverse.mp hc),
    List.reverse_reverse]

/-- Digits alone are no prefix and no sign, whatever zeros they begin with. -/
theorem bigInt_digits {cs : List Char} (h : AllDigits cs) :
    bigInt (String.ofList cs) = some (worth cs : Int) := by
  have hletter : ∀ c d : Char, ∀ ds, cs = d :: c :: ds → c.isDigit = true :=
    fun c d ds hcs => h c (by rw [hcs]; simp)
  have hfirst : ∀ c : Char, ∀ ds, cs = c :: ds → c.isDigit = true :=
    fun c ds hcs => h c (by rw [hcs]; simp)
  unfold bigInt
  rw [String.toList_ofList, trim_digits h]
  split
  · -- No digits are worth nothing.
    rfl
  -- A base would have a letter in second place, and a sign is no digit.
  all_goals first
    | exact absurd (hletter _ _ _ rfl) (by decide)
    | exact absurd (hfirst _ _ rfl) (by decide)
    | skip
  · next hne _ _ _ _ _ _ _ _ => rw [readDigits_ten (fun hnil => hne hnil) h]; rfl

end BigInt

end Core
