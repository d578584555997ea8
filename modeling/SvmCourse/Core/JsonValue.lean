import Mathlib.Data.List.Infix
import SvmCourse.Core.Json

/-!
# Values in JSON

Any value as JSON without blanks, its numbers as they are written. What a text
begins with says which kind of value it is, and lists go on with a comma or end
with a bracket. So the text says where it ends, and different values are different
texts, also where something follows them.

## Main definitions

* `Value`, `Value.text`: A value, and its text.
* `Distinct`: The text of something is told from the texts of others.

## Theorems

* `Value.induct`: Induction over the parts of a value.
* `listed_inj`: Lists of texts that are told apart are told apart.
* `text_distinct`, `text_inj`: Different values are different texts.
-/

namespace Core

namespace Json

/-! ### Values -/

/-- The characters of a number. -/
def numeralChars : List Char := "+-.0123456789Ee".toList

/-- A number as it is written. -/
@[ext]
structure Numeral where
  chars : List Char
  nonempty : chars ≠ []
  plain : ∀ c ∈ chars, c ∈ numeralChars

/-- A value: null, a truth value, a number, a text, an array or an object. -/
inductive Value where
  | null
  | bool (b : Bool)
  | number (n : Numeral)
  | string (text : String)
  | array (items : List Value)
  | object (members : List (String × Value))

/-- What comes after the first text of a list: the others, each after a comma, and
    the bracket that closes the list. -/
def further (close : Char) : List (List Char) → List Char
  | [] => [close]
  | text :: texts => ',' :: (text ++ further close texts)

/-- Texts with commas between them, and a bracket after them. -/
def listed (close : Char) : List (List Char) → List Char
  | [] => [close]
  | text :: texts => text ++ further close texts

mutual

/-- The text of a value. -/
def Value.text : Value → List Char
  | .null => "null".toList
  | .bool true => "true".toList
  | .bool false => "false".toList
  | .number n => n.chars
  | .string text => quoted text
  | .array items => '[' :: listed ']' (Value.texts items)
  | .object members => '{' :: listed '}' (Value.memberTexts members)

/-- The texts of the items of an array. -/
def Value.texts : List Value → List (List Char)
  | [] => []
  | item :: items => item.text :: Value.texts items

/-- The texts of the members of an object. -/
def Value.memberTexts : List (String × Value) → List (List Char)
  | [] => []
  | (key, value) :: members => (quoted key ++ ':' :: value.text) :: Value.memberTexts members

end

theorem texts_eq (items : List Value) : Value.texts items = items.map Value.text := by
  induction items with
  | nil => rfl
  | cons item items ih => rw [Value.texts, ih, List.map_cons]

/-- The text of a member of an object. -/
def memberText (member : String × Value) : List Char := quoted member.1 ++ ':' :: member.2.text

theorem memberTexts_eq (members : List (String × Value)) :
    Value.memberTexts members = members.map memberText := by
  induction members with
  | nil => rfl
  | cons member members ih =>
      rcases member with ⟨key, value⟩
      rw [Value.memberTexts, ih, List.map_cons, memberText]

/-- What holds of a value if it holds of its parts. -/
@[elab_as_elim]
theorem Value.induct {motive : Value → Prop} (null : motive .null)
    (bool : ∀ b, motive (.bool b)) (number : ∀ n, motive (.number n))
    (string : ∀ text, motive (.string text))
    (array : ∀ items, (∀ item ∈ items, motive item) → motive (.array items))
    (object : ∀ members, (∀ member ∈ members, motive member.2) → motive (.object members))
    (value : Value) : motive value :=
  @Value.rec motive (fun items => ∀ item ∈ items, motive item)
    (fun members => ∀ member ∈ members, motive member.2) (fun member => motive member.2)
    null bool number string array object
    (fun _ h => absurd h List.not_mem_nil)
    (fun _ _ hhead htail => List.forall_mem_cons.mpr ⟨hhead, htail⟩)
    (fun _ h => absurd h List.not_mem_nil)
    (fun _ _ hhead htail => List.forall_mem_cons.mpr ⟨hhead, htail⟩) (fun _ _ h => h) value

/-- To be decided for the characters of a list, and not for all there are. -/
theorem forall_mem_of_all {l : List Char} {p : Char → Prop} [DecidablePred p]
    (h : (l.all fun c => decide (p c)) = true) : ∀ c ∈ l, p c :=
  fun c hc => of_decide_eq_true (List.all_eq_true.mp h c hc)

/-! ### Different values are different texts -/

/-- What may follow a value. -/
def delimiters : List Char := [',', ':', ']', '}']

/-- Nothing follows, or a delimiter does. -/
def Delimited (rest : List Char) : Prop := ∀ c ∈ rest.head?, c ∈ delimiters

theorem numeral_append_inj {n n' : Numeral} {rest rest' : List Char} (hrest : Delimited rest)
    (hrest' : Delimited rest') (h : n.chars ++ rest = n'.chars ++ rest') :
    n = n' ∧ rest = rest' := by
  have hapart : ∀ c ∈ delimiters, c ∉ numeralChars := forall_mem_of_all (by decide)
  have hsame : n.chars = n'.chars ∧ rest = rest' := by
    rcases List.append_eq_append_iff.mp h with ⟨more, hn', hr⟩ | ⟨more, hn, hr⟩
    · cases more with
      | nil => exact ⟨by rw [hn', List.append_nil], by rw [hr, List.nil_append]⟩
      | cons c more =>
          -- One number goes on where a delimiter follows the other.
          exact absurd (n'.plain c (by simp [hn'])) (hapart c (hrest c (by simp [hr])))
    · cases more with
      | nil => exact ⟨by rw [hn, List.append_nil], by rw [hr, List.nil_append]⟩
      | cons c more => exact absurd (n.plain c (by simp [hn])) (hapart c (hrest' c (by simp [hr])))
  exact ⟨Numeral.ext hsame.1, hsame.2⟩

section

variable {α : Type} {text : α → List Char} {close : Char}

/-- The text of the first is told from that of anything else, whatever follows. -/
def Distinct (text : α → List Char) (item : α) : Prop :=
  ∀ item' rest rest', Delimited rest → Delimited rest' → text item ++ rest = text item' ++ rest' →
    item = item' ∧ rest = rest'

theorem delimited_cons {c : Char} (h : c ∈ delimiters) (rest : List Char) : Delimited (c :: rest) :=
  fun _ hc => Option.some.inj hc ▸ h

theorem delimited_further (hclose : close ∈ delimiters) (texts : List (List Char))
    (rest : List Char) : Delimited (further close texts ++ rest) := by
  cases texts with
  | nil => exact delimited_cons hclose _
  | cons text texts => exact delimited_cons (by decide) _

theorem further_inj (hclose : close ∈ delimiters) (hcomma : close ≠ ',') {items items' : List α}
    {rest rest' : List Char} (hitems : ∀ item ∈ items, Distinct text item)
    (h : further close (items.map text) ++ rest = further close (items'.map text) ++ rest') :
    items = items' ∧ rest = rest' := by
  -- On the items: the comma or the closing bracket tells whether there is another
  -- one.
  induction items generalizing items' with
  | nil =>
      cases items' with
      | nil => exact ⟨rfl, (List.cons.inj h).2⟩
      | cons item' items' => exact absurd (List.cons.inj h).1 hcomma
  | cons item items ih =>
      cases items' with
      | nil => exact absurd (List.cons.inj h).1.symm hcomma
      | cons item' items' =>
          have hrest : text item ++ further close (items.map text) ++ rest =
              text item' ++ further close (items'.map text) ++ rest' := (List.cons.inj h).2
          rw [List.append_assoc, List.append_assoc] at hrest
          obtain ⟨hitem, hothers⟩ := List.forall_mem_cons.mp hitems
          obtain ⟨rfl, hmore⟩ := hitem item' _ _ (delimited_further hclose _ _)
            (delimited_further hclose _ _) hrest
          obtain ⟨rfl, hend⟩ := ih hothers hmore
          exact ⟨rfl, hend⟩

/-- Lists of texts that are told apart are told apart. -/
theorem listed_inj (hclose : close ∈ delimiters) (hcomma : close ≠ ',') {items items' : List α}
    {rest rest' : List Char} (hopen : ∀ item rest rest', text item ++ rest ≠ close :: rest')
    (hitems : ∀ item ∈ items, Distinct text item)
    (h : listed close (items.map text) ++ rest = listed close (items'.map text) ++ rest') :
    items = items' ∧ rest = rest' := by
  -- The first item stands without a comma, and the rest is `further_inj`.
  cases items with
  | nil =>
      cases items' with
      | nil => exact ⟨rfl, (List.cons.inj h).2⟩
      | cons item' items' =>
          rw [List.map_cons, listed, List.append_assoc] at h
          exact absurd h.symm (hopen _ _ _)
  | cons item items =>
      cases items' with
      | nil =>
          rw [List.map_cons, listed, List.append_assoc] at h
          exact absurd h (hopen _ _ _)
      | cons item' items' =>
          rw [List.map_cons, List.map_cons, listed, listed, List.append_assoc,
            List.append_assoc] at h
          obtain ⟨hitem, hothers⟩ := List.forall_mem_cons.mp hitems
          obtain ⟨rfl, hmore⟩ := hitem item' _ _ (delimited_further hclose _ _)
            (delimited_further hclose _ _) h
          obtain ⟨rfl, hend⟩ := further_inj hclose hcomma hothers hmore
          exact ⟨rfl, hend⟩

end

/-- The kinds of values, which their first characters tell apart. -/
inductive Kind where
  | null | yes | no | number | string | array | object
  deriving DecidableEq

/-- The kind of a value. -/
def Value.kind : Value → Kind
  | .null => .null
  | .bool true => .yes
  | .bool false => .no
  | .number _ => .number
  | .string _ => .string
  | .array _ => .array
  | .object _ => .object

/-- What a text begins with says of which kind its value is. -/
def kindOf (c : Char) : Option Kind :=
  if c ∈ numeralChars then some .number
  else [('n', Kind.null), ('t', .yes), ('f', .no), (quote, .string), ('[', .array),
    ('{', .object)].lookup c

theorem text_head (value : Value) :
    ∃ c rest, value.text = c :: rest ∧ kindOf c = some value.kind := by
  -- The first character tells the kinds apart.
  cases value with
  | null => exact ⟨'n', _, rfl, by decide⟩
  | bool b =>
      cases b with
      | true => exact ⟨'t', _, rfl, by decide⟩
      | false => exact ⟨'f', _, rfl, by decide⟩
  | number n =>
      obtain ⟨c, rest, hchars⟩ := List.exists_cons_of_ne_nil n.nonempty
      exact ⟨c, rest, hchars, if_pos (n.plain c (by simp [hchars]))⟩
  | string text => exact ⟨quote, _, rfl, rfl⟩
  | array items => exact ⟨'[', _, rfl, rfl⟩
  | object members => exact ⟨'{', _, rfl, rfl⟩

theorem text_ne_delimiter (value : Value) (rest rest' : List Char) {c : Char}
    (hc : c ∈ delimiters) : value.text ++ rest ≠ c :: rest' := by
  obtain ⟨c', tail, htext, hkind⟩ := text_head value
  rw [htext]
  intro h
  obtain rfl := (List.cons.inj h).1
  -- No value begins with a delimiter.
  have hnone : ∀ c ∈ delimiters, kindOf c = none := forall_mem_of_all (by decide)
  rw [hnone c' hc] at hkind
  exact absurd hkind (by simp)

/-- Values of which the texts begin in the same way are of one kind. -/
theorem kind_eq {value value' : Value} {rest rest' : List Char}
    (h : value.text ++ rest = value'.text ++ rest') : value.kind = value'.kind := by
  obtain ⟨c, tail, htext, hkind⟩ := text_head value
  obtain ⟨c', tail', htext', hkind'⟩ := text_head value'
  rw [htext, htext'] at h
  obtain rfl := (List.cons.inj h).1
  exact Option.some.inj (hkind.symm.trans hkind')

theorem memberText_ne (member : String × Value) (rest rest' : List Char) :
    memberText member ++ rest ≠ '}' :: rest' :=
  fun h => absurd (List.cons.inj h).1 (by decide)

theorem memberText_distinct {member : String × Value} (h : Distinct Value.text member.2) :
    Distinct memberText member := by
  intro member' rest rest' hrest hrest' heq
  rw [memberText, memberText, List.append_assoc, List.append_assoc] at heq
  obtain ⟨hkey, hvalues⟩ := quoted_append_inj heq
  obtain ⟨hvalue, hend⟩ := h member'.2 rest rest' hrest hrest' (List.cons.inj hvalues).2
  exact ⟨Prod.ext hkey hvalue, hend⟩

/-- Different values are different texts, whatever follows them. -/
theorem text_distinct (value : Value) : Distinct Value.text value := by
  -- On the value: the first character tells the kind, and then the two are of one
  -- form.
  induction value using Value.induct with
  | null =>
      intro value' rest rest' _ _ h
      have hkind := kind_eq h
      obtain rfl : value' = .null := by
        rcases value' with _ | ⟨_ | _⟩ | _ | _ | _ | _ <;>
          first | rfl | exact absurd hkind (by simp [Value.kind])
      exact ⟨rfl, List.append_cancel_left h⟩
  | bool b =>
      intro value' rest rest' _ _ h
      have hkind := kind_eq h
      obtain rfl : value' = .bool b := by
        rcases b with _ | _ <;> rcases value' with _ | ⟨_ | _⟩ | _ | _ | _ | _ <;>
          first | rfl | exact absurd hkind (by simp [Value.kind])
      exact ⟨rfl, List.append_cancel_left h⟩
  | number n =>
      intro value' rest rest' hrest hrest' h
      have hkind := kind_eq h
      obtain ⟨n', rfl⟩ : ∃ n', value' = .number n' := by
        rcases value' with _ | ⟨_ | _⟩ | _ | _ | _ | _ <;>
          first | exact ⟨_, rfl⟩ | exact absurd hkind (by simp [Value.kind])
      obtain ⟨rfl, hend⟩ := numeral_append_inj hrest hrest' h
      exact ⟨rfl, hend⟩
  | string text =>
      intro value' rest rest' _ _ h
      have hkind := kind_eq h
      obtain ⟨text', rfl⟩ : ∃ text', value' = .string text' := by
        rcases value' with _ | ⟨_ | _⟩ | _ | _ | _ | _ <;>
          first | exact ⟨_, rfl⟩ | exact absurd hkind (by simp [Value.kind])
      obtain ⟨rfl, hend⟩ := quoted_append_inj h
      exact ⟨rfl, hend⟩
  | array items ih =>
      intro value' rest rest' _ _ h
      have hkind := kind_eq h
      obtain ⟨items', rfl⟩ : ∃ items', value' = .array items' := by
        rcases value' with _ | ⟨_ | _⟩ | _ | _ | _ | _ <;>
          first | exact ⟨_, rfl⟩ | exact absurd hkind (by simp [Value.kind])
      have hitems := (List.cons.inj h).2
      rw [texts_eq, texts_eq] at hitems
      obtain ⟨rfl, hend⟩ := listed_inj (by decide) (by decide)
        (fun item rest rest' => text_ne_delimiter item rest rest' (by decide)) ih hitems
      exact ⟨rfl, hend⟩
  | object members ih =>
      intro value' rest rest' _ _ h
      have hkind := kind_eq h
      obtain ⟨members', rfl⟩ : ∃ members', value' = .object members' := by
        rcases value' with _ | ⟨_ | _⟩ | _ | _ | _ | _ <;>
          first | exact ⟨_, rfl⟩ | exact absurd hkind (by simp [Value.kind])
      have hmembers := (List.cons.inj h).2
      rw [memberTexts_eq, memberTexts_eq] at hmembers
      obtain ⟨rfl, hend⟩ := listed_inj (by decide) (by decide) memberText_ne
        (fun member hmember => memberText_distinct (ih member hmember)) hmembers
      exact ⟨rfl, hend⟩

/-- Different values are different texts. -/
theorem text_inj {value value' : Value} (h : value.text = value'.text) : value = value' := by
  have hend := congrArg (· ++ []) h
  exact (text_distinct value value' [] [] (fun _ hc => by cases hc) (fun _ hc => by cases hc)
    hend).1

end Json

end Core
