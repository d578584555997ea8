import Mathlib.Data.List.Infix
import Mathlib.Tactic.Common

/-!
# Glob Patterns

Patterns over bytes: `*` stands for any bytes, `?` for one, `[..]` for one of a set
and `[^..]` for one that is not in it, with ranges in sets, and a backslash takes
away the meaning of what comes after it. A set that is not closed ends with the
pattern, and a range may be given from its greater end.

A pattern that ends in its only special byte, a star, matches what begins with the
rest of it.

## Main definitions

* `Item`: What a part of a pattern stands for.
* `Place`, `parse`: The items of a pattern, read byte by byte.
* `stringmatch`: Matching a pattern with bytes.
* `Plain`: Bytes none of which is special.

## Theorems

* `run_append`: Bytes at the beginning of a pattern.
* `stringmatch_star`: A plain beginning and a star.
-/

namespace Core

namespace Glob

/-! ### Patterns -/

/-- The byte that matches any string. -/
def star : UInt8 := 42

/-- The byte that stands in a range. -/
def dash : UInt8 := 45

/-- The byte that matches one byte. -/
def question : UInt8 := 63

/-- The byte that opens a set. -/
def opening : UInt8 := 91

/-- The byte that escapes the next one. -/
def backslash : UInt8 := 92

/-- The byte that closes a set. -/
def closing : UInt8 := 93

/-- The byte that negates a set. -/
def caret : UInt8 := 94

/-- What a pattern consists of: a byte, any one byte, any string, or a set of
    ranges. -/
inductive Item where
  | byte (b : UInt8)
  | one
  | many
  | set (negated : Bool) (ranges : List (UInt8 × UInt8))
  deriving DecidableEq, Repr

/-- A single byte that an item stands for. -/
def Item.accepts : Item → UInt8 → Bool
  | .byte b, c => b = c
  | .one, _ => true
  | .many, _ => false
  | .set negated ranges, c =>
    (ranges.any fun range => min range.1 range.2 ≤ c && c ≤ max range.1 range.2) ^^ negated

/-- Where in a pattern the next byte stands, with what has been read of a set. -/
inductive Place where
  | outside
  | escaped
  | opened
  | inside (negated : Bool) (ranges : List (UInt8 × UInt8))
  | insideEscaped (negated : Bool) (ranges : List (UInt8 × UInt8))
  | insideAfter (negated : Bool) (ranges : List (UInt8 × UInt8)) (b : UInt8)
  | insideRange (negated : Bool) (ranges : List (UInt8 × UInt8)) (b : UInt8)

/-- A byte within a set. -/
def within (negated : Bool) (ranges : List (UInt8 × UInt8)) (b : UInt8) : Place × List Item :=
  if b = closing then (.outside, [.set negated ranges])
  else if b = backslash then (.insideEscaped negated ranges, [])
  else (.insideAfter negated ranges b, [])

/-- The place after a byte, and the items that it completes. -/
def Place.next : Place → UInt8 → Place × List Item
  | outside, b =>
    if b = star then (outside, [.many])
    else if b = question then (outside, [.one])
    else if b = opening then (opened, [])
    else if b = backslash then (escaped, [])
    else (outside, [.byte b])
  | escaped, b => (outside, [.byte b])
  | opened, b => if b = caret then (inside true [], []) else within false [] b
  | inside negated ranges, b => within negated ranges b
  | insideEscaped negated ranges, b => (inside negated ((b, b) :: ranges), [])
  | insideAfter negated ranges b, c =>
    if c = dash then (insideRange negated ranges b, []) else within negated ((b, b) :: ranges) c
  -- Also a closing bracket can end a range.
  | insideRange negated ranges b, c => (inside negated ((b, c) :: ranges), [])

/-- What is open at the end of the pattern ends there. -/
def Place.finish : Place → List Item
  | outside => []
  | escaped => [.byte backslash]
  | opened => [.set false []]
  | inside negated ranges => [.set negated ranges]
  | insideEscaped negated ranges => [.set negated ((backslash, backslash) :: ranges)]
  | insideAfter negated ranges b => [.set negated ((b, b) :: ranges)]
  | insideRange negated ranges b => [.set negated ((dash, dash) :: (b, b) :: ranges)]

/-- Read the items of a pattern, from a place in it. -/
def parse : Place → List UInt8 → List Item
  | place, [] => place.finish
  | place, b :: rest => (place.next b).2 ++ parse (place.next b).1 rest

/-- Whether the items match the string. -/
def run : List Item → List UInt8 → Bool
  | [], string => string.isEmpty
  | .many :: items, string => string.tails.any fun rest => run items rest
  | _ :: _, [] => false
  | item :: items, b :: rest => item.accepts b && run items rest

/-- Whether the pattern matches the string. -/
def stringmatch (pattern string : List UInt8) : Bool := run (parse .outside pattern) string

/-- No byte means anything but itself. -/
def Plain (pattern : List UInt8) : Prop :=
  ∀ b ∈ pattern, b ≠ star ∧ b ≠ question ∧ b ≠ opening ∧ b ≠ backslash

instance (pattern : List UInt8) : Decidable (Plain pattern) :=
  inferInstanceAs (Decidable (∀ b ∈ pattern, _ ∧ _))

/-! ### Plain beginnings -/

variable {pattern string : List UInt8}

theorem parse_append (h : Plain pattern) (rest : List UInt8) :
    parse .outside (pattern ++ rest) = pattern.map .byte ++ parse .outside rest := by
  induction pattern with
  | nil => rfl
  | cons b pattern ih =>
      rcases h b (List.mem_cons_self ..) with ⟨hstar, hquestion, hopening, hbackslash⟩
      have hnext : Place.outside.next b = (.outside, [.byte b]) := by
        rw [Place.next, if_neg hstar, if_neg hquestion, if_neg hopening, if_neg hbackslash]
      rw [List.cons_append, parse, hnext, ih fun c hc => h c (List.mem_cons_of_mem _ hc)]
      rfl

/-- Bytes at the beginning of a pattern stand for themselves. -/
theorem run_append (items : List Item) :
    run (pattern.map .byte ++ items) string = true ↔
      ∃ rest, string = pattern ++ rest ∧ run items rest = true := by
  induction pattern generalizing string with
  | nil => simp
  | cons b pattern ih =>
      cases string with
      | nil => simp [run]
      | cons c string =>
          -- The first byte is compared, and the rest is the induction hypothesis.
          change (decide (b = c) && run (pattern.map .byte ++ items) string) = true ↔ _
          rw [Bool.and_eq_true, decide_eq_true_eq, ih]
          simp only [List.cons_append, List.cons.injEq]
          constructor
          · rintro ⟨rfl, rest, rfl, hrest⟩
            exact ⟨rest, ⟨rfl, rfl⟩, hrest⟩
          · rintro ⟨rest, ⟨rfl, rfl⟩, hrest⟩
            exact ⟨rfl, rest, rfl, hrest⟩

/-- A star alone stands for everything. -/
theorem run_many (string : List UInt8) : run [.many] string = true := by
  have hempty : [] ∈ string.tails := (List.mem_tails _ _).mpr List.nil_suffix
  exact List.any_eq_true.mpr ⟨[], hempty, rfl⟩

theorem stringmatch_star (h : Plain pattern) :
    stringmatch (pattern ++ [star]) string = true ↔ pattern <+: string := by
  have hparse : parse .outside (pattern ++ [star]) = pattern.map .byte ++ [.many] :=
    parse_append h [star]
  rw [stringmatch, hparse, run_append]
  constructor
  · rintro ⟨rest, rfl, -⟩
    exact List.prefix_append ..
  · rintro ⟨rest, rfl⟩
    exact ⟨rest, rfl, run_many rest⟩

end Glob

end Core
