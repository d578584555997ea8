import Mathlib.Data.List.Basic
import Mathlib.Tactic.Common

/-!
# Texts in JSON

A list of texts as JSON, each in quotes, with the quote, the backslash and the
control characters escaped. What a character is escaped to is read back without
looking further, and a quote that is not escaped ends the text. So different
lists of texts are different in JSON.

## Main definitions

* `escape`: What stands for a character within quotes.
* `stringify`: A list of texts.

## Theorems

* `read_escape`: A character is read back.
* `stringify_inj`: Different lists are different in JSON.
-/

namespace Core

namespace Json

/-- The character that encloses a text. -/
def quote : Char := Char.ofNat 34

/-- The character that escapes another. -/
def backslash : Char := Char.ofNat 92

/-- The characters that are escaped by one letter. -/
def letters : List (Char × Char) :=
  [(quote, quote), (backslash, backslash), (Char.ofNat 8, 'b'), (Char.ofNat 12, 'f'),
    (Char.ofNat 10, 'n'), (Char.ofNat 13, 'r'), (Char.ofNat 9, 't')]

/-- The digits of an escaped character. -/
def hexDigits : List Char := "0123456789abcdef".toList

/-- The digit of a value below 16. -/
def hexDigit (n : Nat) : Char := hexDigits.getD n '0'

/-- A character inside a text: a letter for some, four digits for other control
    characters. -/
def escape (c : Char) : List Char :=
  match letters.lookup c with
  | some letter => [backslash, letter]
  | none =>
    if c.toNat < 32 then
      [backslash, 'u', '0', '0', hexDigit (c.toNat / 16), hexDigit (c.toNat % 16)]
    else [c]

/-- A text between its quotes. -/
def quoted (text : String) : List Char := quote :: (text.toList.flatMap escape ++ [quote])

/-- Texts with commas between them. -/
def items : List String → List Char
  | [] => []
  | [text] => quoted text
  | text :: text' :: texts => quoted text ++ ',' :: items (text' :: texts)

/-- The texts as an array. -/
def stringify (texts : List String) : String := String.ofList ('[' :: (items texts ++ [']']))

/-! ### Reading back -/

/-- The character of two hexadecimal digits, after two that are zero. -/
def readCode : List Char → Option (Char × List Char)
  | _ :: _ :: high :: low :: rest => do
    let m ← hexDigits.idxOf? high
    let n ← hexDigits.idxOf? low
    some (Char.ofNat (16 * m + n), rest)
  | _ => none

/-- The first character of an escaped text. -/
def read : List Char → Option (Char × List Char)
  | [] => none
  | c :: rest =>
    if c = backslash then
      match rest with
      | [] => none
      | letter :: rest =>
        -- A code of four digits, or one of the letters that stand for a character.
        if letter = 'u' then readCode rest
        else (letters.find? fun pair => pair.2 = letter).map fun pair => (pair.1, rest)
    else some (c, rest)

theorem idxOf_hexDigit {n : Nat} (h : n < 16) : hexDigits.idxOf? (hexDigit n) = some n := by
  revert n
  decide

theorem readCode_hexDigit {n : Nat} (h : n < 32) (rest : List Char) :
    readCode ('0' :: '0' :: hexDigit (n / 16) :: hexDigit (n % 16) :: rest) =
      some (Char.ofNat n, rest) := by
  have hhigh : n / 16 < 16 := by omega
  have hlow : n % 16 < 16 := by omega
  have hread : readCode ('0' :: '0' :: hexDigit (n / 16) :: hexDigit (n % 16) :: rest) =
      some (Char.ofNat (16 * (n / 16) + n % 16), rest) := by
    rw [readCode, idxOf_hexDigit hhigh, idxOf_hexDigit hlow]
    rfl
  rw [hread, Nat.div_add_mod]

theorem read_letter (rest : List Char) :
    ∀ pair ∈ letters, read (backslash :: pair.2 :: rest) = some (pair.1, rest) := by
  simp [letters, read, quote, backslash]

/-- What a character is escaped to is read back, whatever comes after it. -/
theorem read_escape (c : Char) (rest : List Char) : read (escape c ++ rest) = some (c, rest) := by
  rw [escape]
  cases hletter : letters.lookup c with
  | some letter =>
      obtain ⟨before, after, hsplit, -⟩ := List.lookup_eq_some_iff.mp hletter
      have hmem : (c, letter) ∈ letters := by
        rw [hsplit]
        exact List.mem_append_right _ (List.mem_cons_self ..)
      exact read_letter rest (c, letter) hmem
  | none =>
      dsimp only
      split
      · next hcontrol =>
          refine (readCode_hexDigit hcontrol rest).trans ?_
          rw [Char.ofNat_toNat]
      · -- A backslash has a letter of its own, so this is none.
        have hne : c ≠ backslash := by
          rintro rfl
          exact absurd hletter (by decide)
        exact if_neg hne

theorem escape_append_inj {c d : Char} {rest rest' : List Char}
    (h : escape c ++ rest = escape d ++ rest') : c = d ∧ rest = rest' := by
  have hread := congrArg read h
  rw [read_escape, read_escape] at hread
  exact Prod.mk.inj (Option.some_inj.mp hread)

/-- No character is escaped to something that begins with a quote. -/
theorem escape_append_ne_quote (c : Char) (rest rest' : List Char) :
    escape c ++ rest ≠ quote :: rest' := by
  intro h
  rw [escape] at h
  split at h
  · exact absurd (List.cons.inj h).1 (by decide)
  · -- The quote itself is escaped.
    next hletter =>
      split at h
      · exact absurd (List.cons.inj h).1 (by decide)
      · obtain rfl := (List.cons.inj h).1
        exact absurd hletter (by decide)

theorem flatMap_escape_inj {text text' : List Char} {rest rest' : List Char}
    (h : text.flatMap escape ++ quote :: rest = text'.flatMap escape ++ quote :: rest') :
    text = text' ∧ rest = rest' := by
  induction text generalizing text' with
  | nil =>
      cases text' with
      | nil => exact ⟨rfl, (List.cons.inj h).2⟩
      | cons d text' =>
          rw [List.flatMap_cons, List.append_assoc] at h
          exact absurd h.symm (escape_append_ne_quote _ _ _)
  | cons c text ih =>
      rw [List.flatMap_cons, List.append_assoc] at h
      cases text' with
      -- One text goes on where the other has ended.
      | nil => exact absurd h (escape_append_ne_quote _ _ _)
      | cons d text' =>
          rw [List.flatMap_cons, List.append_assoc] at h
          obtain ⟨rfl, hrest⟩ := escape_append_inj h
          obtain ⟨rfl, hsame⟩ := ih hrest
          exact ⟨rfl, hsame⟩

theorem quoted_append_inj {text text' : String} {rest rest' : List Char}
    (h : quoted text ++ rest = quoted text' ++ rest') : text = text' ∧ rest = rest' := by
  have hinner : text.toList.flatMap escape ++ [quote] ++ rest =
      text'.toList.flatMap escape ++ [quote] ++ rest' := (List.cons.inj h).2
  rw [List.append_assoc, List.append_assoc] at hinner
  obtain ⟨htext, hrest⟩ := flatMap_escape_inj hinner
  exact ⟨String.toList_inj.mp htext, hrest⟩

theorem items_inj {texts texts' : List String}
    (h : items texts ++ [']'] = items texts' ++ [']']) : texts = texts' := by
  induction texts using items.induct generalizing texts' with
  | case1 =>
      cases texts' with
      | nil => rfl
      | cons text texts =>
          cases texts with
          | nil => exact absurd (List.cons.inj h).1 (by decide)
          | cons text' texts => exact absurd (List.cons.inj h).1 (by decide)
  | case2 text =>
      match texts' with
      | [] => exact absurd (List.cons.inj h).1 (by decide)
      | [text'] => rw [(quoted_append_inj h).1]
      | text' :: text'' :: texts =>
          rw [items, items, List.append_assoc] at h
          -- A comma follows in one list, and a bracket in the other.
          exact absurd (List.cons.inj (quoted_append_inj h).2).1 (by decide)
  | case3 text next texts ih =>
      match texts' with
      | [] => exact absurd (List.cons.inj h).1 (by decide)
      | [text'] =>
          rw [items, items, List.append_assoc] at h
          exact absurd (List.cons.inj (quoted_append_inj h).2).1 (by decide)
      | text' :: next' :: texts' =>
          rw [items, items, List.append_assoc, List.append_assoc] at h
          obtain ⟨rfl, hrest⟩ := quoted_append_inj h
          rw [ih (List.cons.inj hrest).2]

/-- Different lists of texts are different in JSON. -/
theorem stringify_inj {texts texts' : List String} (h : stringify texts = stringify texts') :
    texts = texts' := by
  have hlists := String.ofList_inj.mp h
  exact items_inj (List.cons.inj hlists).2

end Json

end Core
