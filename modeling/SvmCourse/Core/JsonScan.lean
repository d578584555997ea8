import SvmCourse.Core.JsonValue

/-!
# Where a Value in JSON Begins

Texts that are joined by colons can be taken apart from the end, if the last one
is the text of a value: it has many colons, but what follows one of them is never
the text of a value itself.

Read from the left, quotes are open or not, and so many brackets are. The text of
a value leaves nothing open. A colon in it stands between quotes or within
brackets. Within brackets, what follows closes one that it has not opened. Between
quotes, what follows takes for quoted what is not and the other way around, and at
the end of the text only one of the two can be right.

## Main definitions

* `Scan`, `scan`: Quotes and brackets that are open.
* `Balanced`: The text leaves open what was open, and closes nothing before.
* `Whole`: The text leaves nothing open, and what follows a colon in it does.

## Theorems

* `balanced_text`: The text of a value is balanced.
* `whole_text`: The text of a value is whole.
* `Whole.split_inj`: What is before a colon and a whole text.
-/

namespace Core

namespace Json

/-! ### Scanning -/

/-- Where a scan is: outside of a text, inside, or behind a backslash. -/
inductive Place where
  | outside | inside | escaped
  deriving DecidableEq

/-- Where a scan is, and how many brackets are open there. -/
structure Scan where
  place : Place
  depth : Int
  deriving DecidableEq

/-- Where a character leads, and how many brackets it opens. A backslash outside of
    quotes is an error. -/
def turn (place : Place) (c : Char) : Option (Place × Int) :=
  match place with
  | .outside =>
    -- Outside a string brackets count.
    if c = quote then some (.inside, 0)
    else if c = backslash then none
    else if c = '[' ∨ c = '{' then some (.outside, 1)
    else if c = ']' ∨ c = '}' then some (.outside, -1)
    else some (.outside, 0)
  | .inside =>
    -- Inside nothing counts but the quote that ends it.
    if c = quote then some (.outside, 0)
    else if c = backslash then some (.escaped, 0)
    else some (.inside, 0)
  | .escaped => some (.inside, 0)

/-- The scan after one character. -/
def Scan.next (s : Scan) (c : Char) : Option Scan :=
  (turn s.place c).map fun t => ⟨t.1, s.depth + t.2⟩

/-- The scan after a text. -/
def scan : List Char → Scan → Option Scan
  | [], s => some s
  | c :: text, s => (s.next c).bind (scan text)

theorem scan_append (text text' : List Char) (s : Scan) :
    scan (text ++ text') s = (scan text s).bind (scan text') := by
  induction text generalizing s with
  | nil => rfl
  | cons c text ih =>
      rw [List.cons_append, scan, scan]
      cases s.next c with
      | none => rfl
      | some t => exact ih t

/-- What is deeper at first is deeper in the end. -/
theorem scan_deeper (text : List Char) (place : Place) (depth more : Int) :
    scan text ⟨place, depth + more⟩ =
      (scan text ⟨place, depth⟩).map fun s => ⟨s.place, s.depth + more⟩ := by
  induction text generalizing place depth with
  | nil => rfl
  | cons c text ih =>
      rw [scan, scan, Scan.next, Scan.next]
      cases turn place c with
      | none => rfl
      | some t =>
          change scan text ⟨t.1, depth + more + t.2⟩ = _
          rw [Int.add_right_comm]
          exact ih t.1 (depth + t.2)

/-- A text does not end outside of quotes both if it begins there and if it begins
    between them. -/
theorem scan_outside_ne {text : List Char} {depth depth' bottom bottom' : Int}
    (h : scan text ⟨.outside, depth⟩ = some ⟨.outside, bottom⟩) :
    scan text ⟨.inside, depth'⟩ ≠ some ⟨.outside, bottom'⟩ := by
  induction text generalizing depth depth' bottom bottom' with
  | nil => exact fun h' => absurd (Option.some.inj h') (by simp)
  | cons c text ih =>
      intro h'
      by_cases hquote : c = quote
      · -- The two change their places.
        subst hquote
        exact ih h' h
      · by_cases hbackslash : c = backslash
        · subst hbackslash
          exact absurd h (by simp [scan, Scan.next, turn, quote, backslash])
        · have hturn : ∃ more, turn .outside c = some (.outside, more) := by
            simp only [turn, if_neg hquote, if_neg hbackslash]
            split
            · exact ⟨1, rfl⟩
            · split
              · exact ⟨-1, rfl⟩
              · exact ⟨0, rfl⟩
          obtain ⟨more, hmore⟩ := hturn
          have hstay : turn .inside c = some (.inside, 0) := by
            simp only [turn, if_neg hquote, if_neg hbackslash]
          rw [scan, Scan.next, hmore] at h
          rw [scan, Scan.next, hstay] at h'
          exact ih h h'

/-! ### Texts that come back -/

/-- The text leads back to where it began, and on the way there things stay as
    stated. -/
structure Steady (place : Place) (ok : Int → Scan → Prop) (text : List Char) : Prop where
  ends : ∀ depth, scan text ⟨place, depth⟩ = some ⟨place, depth⟩
  within : ∀ depth before after, text = before ++ after →
    ∃ s, scan before ⟨place, depth⟩ = some s ∧ ok depth s

/-- The text leaves open what was open, and closes nothing that was open before. -/
abbrev Balanced (text : List Char) : Prop := Steady .outside (fun depth s => depth ≤ s.depth) text

/-- The text may stand between quotes. -/
abbrev Quotable (text : List Char) : Prop :=
  Steady .inside (fun depth s => s.place ≠ .outside ∧ s.depth = depth) text

section

variable {place : Place} {ok : Int → Scan → Prop} {text text' : List Char}

theorem steady_nil (hok : ∀ depth, ok depth ⟨place, depth⟩) : Steady place ok [] where
  ends _ := rfl
  within depth before after h := by
    obtain ⟨rfl, -⟩ := List.append_eq_nil_iff.mp h.symm
    exact ⟨_, rfl, hok depth⟩

theorem steady_append (h : Steady place ok text) (h' : Steady place ok text') :
    Steady place ok (text ++ text') where
  ends depth := by
    rw [scan_append, h.ends]
    exact h'.ends depth
  within depth before after hsplit := by
    rcases List.append_eq_append_iff.mp hsplit with ⟨middle, hbefore, htext'⟩ |
      ⟨middle, htext, -⟩
    · -- It goes on into the second text.
      obtain ⟨s, hscan, hs⟩ := h'.within depth middle after htext'
      refine ⟨s, ?_, hs⟩
      rw [hbefore, scan_append, h.ends]
      exact hscan
    · exact h.within depth before middle htext

/-- A character that changes nothing. -/
theorem steady_plain (hok : ∀ depth, ok depth ⟨place, depth⟩)
    (h : ∀ c ∈ text, turn place c = some (place, 0)) : Steady place ok text := by
  induction text with
  | nil => exact steady_nil hok
  | cons c text ih =>
      obtain ⟨hc, htext⟩ := List.forall_mem_cons.mp h
      have hscan : ∀ depth, scan [c] ⟨place, depth⟩ = some ⟨place, depth⟩ := by
        intro depth
        rw [scan, Scan.next, hc]
        exact congrArg (fun d => some (Scan.mk place d)) (Int.add_zero depth)
      -- A single character is in one piece, before or after a cut.
      have hsingle : Steady place ok [c] := by
        refine ⟨hscan, fun depth before after hsplit => ?_⟩
        rcases List.append_eq_singleton_iff.mp hsplit.symm with ⟨rfl, -⟩ | ⟨rfl, -⟩
        · exact ⟨_, rfl, hok depth⟩
        · exact ⟨_, hscan depth, hok depth⟩
      exact steady_append hsingle (ih htext)

end

/-! ### Quotes -/

theorem quotable_plain {text : List Char} (h : ∀ c ∈ text, c ≠ quote ∧ c ≠ backslash) :
    Quotable text :=
  steady_plain (fun _ => ⟨by simp, rfl⟩) fun c hc => by
    simp only [turn, if_neg (h c hc).1, if_neg (h c hc).2]

theorem quotable_pair (c : Char) : Quotable [backslash, c] where
  ends depth := by simp [scan, Scan.next, turn, quote, backslash]
  within depth before after hsplit := by
    cases before with
    | nil => exact ⟨_, rfl, by simp, rfl⟩
    | cons b before =>
        obtain ⟨rfl, hrest⟩ := List.cons.inj hsplit
        rcases List.append_eq_singleton_iff.mp hrest.symm with ⟨rfl, -⟩ | ⟨rfl, -⟩
        · exact ⟨⟨.escaped, depth⟩, by simp [scan, Scan.next, turn, quote, backslash], by simp, rfl⟩
        · exact ⟨⟨.inside, depth⟩, by simp [scan, Scan.next, turn, quote, backslash], by simp, rfl⟩

theorem hexDigit_plain (n : Nat) : hexDigit n ≠ quote ∧ hexDigit n ≠ backslash := by
  have hall : ∀ c ∈ '0' :: hexDigits, c ≠ quote ∧ c ≠ backslash := forall_mem_of_all (by decide)
  refine hall _ ?_
  rw [hexDigit, List.getD_eq_getElem?_getD]
  cases hget : hexDigits[n]? with
  | none => exact List.mem_cons_self ..
  | some c => exact List.mem_cons_of_mem _ (List.mem_of_getElem? hget)

theorem quotable_escape (c : Char) : Quotable (escape c) := by
  rw [escape]
  cases hletter : letters.lookup c with
  | some letter => exact quotable_pair letter
  | none =>
      dsimp only
      split
      · refine steady_append (quotable_pair 'u') (quotable_plain ?_)
        simp only [List.forall_mem_cons, List.not_mem_nil, false_implies, implies_true, and_true]
        exact ⟨by decide, by decide, hexDigit_plain _, hexDigit_plain _⟩
      · -- Quotes and backslashes have letters.
        refine quotable_plain (List.forall_mem_singleton.mpr ⟨?_, ?_⟩)
        · rintro rfl
          exact absurd hletter (by decide)
        · rintro rfl
          exact absurd hletter (by decide)

theorem quotable_flatMap (text : List Char) : Quotable (text.flatMap escape) := by
  induction text with
  | nil => exact steady_nil fun _ => ⟨by simp, rfl⟩
  | cons c text ih =>
      rw [List.flatMap_cons]
      exact steady_append (quotable_escape c) ih

/-! ### What is open until the end -/

/-- Something is open until the end. -/
def Open (text : List Char) : Prop :=
  ∀ before after, text = before ++ after → before ≠ [] → after ≠ [] →
    ∃ s, scan before ⟨.outside, 0⟩ = some s ∧ (s.place ≠ .outside ∨ 1 ≤ s.depth)

/-- What begins with the first of two ends and stops before the last. -/
theorem enclosed_split {c c' : Char} {text before after : List Char}
    (h : c :: (text ++ [c']) = before ++ after) (hbefore : before ≠ []) (hafter : after ≠ []) :
    ∃ front back, before = c :: front ∧ text = front ++ back := by
  obtain ⟨b, front, rfl⟩ := List.exists_cons_of_ne_nil hbefore
  obtain ⟨rfl, hrest⟩ := List.cons.inj h
  rcases List.append_eq_append_iff.mp hrest with ⟨middle, hfront, hlast⟩ | ⟨middle, htext, -⟩
  · -- All of the text, since something is left.
    rcases List.append_eq_singleton_iff.mp hlast.symm with ⟨rfl, -⟩ | ⟨-, hnone⟩
    · exact ⟨front, [], rfl, by rw [hfront, List.append_nil, List.append_nil]⟩
    · exact absurd hnone hafter
  · exact ⟨front, middle, rfl, htext⟩

theorem steady_of_open {text : List Char}
    (hends : ∀ depth, scan text ⟨.outside, depth⟩ = some ⟨.outside, depth⟩)
    (hopen : ∀ depth before after, text = before ++ after → before ≠ [] → after ≠ [] →
      ∃ s, scan before ⟨.outside, depth⟩ = some s ∧ depth ≤ s.depth) : Balanced text where
  ends := hends
  within depth before after hsplit := by
    by_cases hbefore : before = []
    · subst hbefore
      exact ⟨_, rfl, Int.le_refl _⟩
    · by_cases hafter : after = []
      · subst hafter
        rw [List.append_nil] at hsplit
        subst hsplit
        exact ⟨_, hends depth, Int.le_refl _⟩
      · exact hopen depth before after hsplit hbefore hafter

section

variable {text : List Char} {first last : Char}

/-- Within brackets one more is open. -/
theorem enclosed_within (h : Balanced text) (hfirst : turn .outside first = some (.outside, 1))
    (depth : Int) (before after : List Char) (hsplit : first :: (text ++ [last]) = before ++ after)
    (hbefore : before ≠ []) (hafter : after ≠ []) :
    ∃ s, scan before ⟨.outside, depth⟩ = some s ∧ depth + 1 ≤ s.depth := by
  obtain ⟨front, back, rfl, htext⟩ := enclosed_split hsplit hbefore hafter
  rw [scan, Scan.next, hfirst]
  exact h.within (depth + 1) front back htext

theorem balanced_enclosed (h : Balanced text) (hfirst : turn .outside first = some (.outside, 1))
    (hlast : turn .outside last = some (.outside, -1)) :
    Balanced (first :: (text ++ [last])) := by
  refine steady_of_open (fun depth => ?_)
    fun depth before after hsplit hbefore hafter => ?_
  · rw [scan, Scan.next, hfirst]
    change scan (text ++ [last]) ⟨.outside, depth + 1⟩ = _
    rw [scan_append, h.ends, Option.bind_some, scan, Scan.next, hlast]
    refine congrArg (fun d => some (Scan.mk .outside d)) ?_
    change depth + 1 + -1 = depth
    omega
  · obtain ⟨s, hscan, hdepth⟩ := enclosed_within h hfirst depth before after hsplit hbefore hafter
    exact ⟨s, hscan, by omega⟩

theorem open_enclosed (h : Balanced text) (hfirst : turn .outside first = some (.outside, 1)) :
    Open (first :: (text ++ [last])) := by
  intro before after hsplit hbefore hafter
  obtain ⟨s, hscan, hdepth⟩ := enclosed_within h hfirst 0 before after hsplit hbefore hafter
  exact ⟨s, hscan, Or.inr hdepth⟩

end

section

variable (text : String)

/-- Between quotes the place is not outside. -/
theorem quoted_within (depth : Int) (before after : List Char)
    (hsplit : quoted text = before ++ after) (hbefore : before ≠ []) (hafter : after ≠ []) :
    ∃ s, scan before ⟨.outside, depth⟩ = some s ∧ s.place ≠ .outside ∧ s.depth = depth := by
  obtain ⟨front, back, rfl, htext⟩ := enclosed_split hsplit hbefore hafter
  have hquote : turn .outside quote = some (.inside, 0) := rfl
  rw [scan, Scan.next, hquote]
  obtain ⟨s, hscan, hs⟩ := (quotable_flatMap text.toList).within (depth + 0) front back htext
  rw [Int.add_zero] at hs
  exact ⟨s, hscan, hs⟩

theorem balanced_quoted : Balanced (quoted text) := by
  refine steady_of_open (fun depth => ?_)
    fun depth before after hsplit hbefore hafter => ?_
  · have hquote : turn .outside quote = some (.inside, 0) := rfl
    rw [quoted, scan, Scan.next, hquote]
    change scan (text.toList.flatMap escape ++ [quote]) ⟨.inside, depth + 0⟩ = _
    rw [scan_append, (quotable_flatMap text.toList).ends]
    refine congrArg (fun d => some (Scan.mk .outside d)) ?_
    change depth + 0 + 0 = depth
    omega
  · obtain ⟨s, hscan, -, hdepth⟩ := quoted_within text depth before after hsplit hbefore hafter
    exact ⟨s, hscan, by omega⟩

theorem open_quoted : Open (quoted text) := by
  intro before after hsplit hbefore hafter
  obtain ⟨s, hscan, hplace, -⟩ := quoted_within text 0 before after hsplit hbefore hafter
  exact ⟨s, hscan, Or.inl hplace⟩

end

/-! ### Values -/

theorem balanced_of_plain {text : List Char}
    (h : ∀ c ∈ text, turn .outside c = some (.outside, 0)) : Balanced text :=
  steady_plain (fun _ => Int.le_refl _) h

/-- A list without the bracket that closes it. -/
theorem listed_eq (close : Char) (texts : List (List Char)) :
    ∃ text, listed close texts = text ++ [close] ∧
      ((∀ text ∈ texts, Balanced text) → Balanced text) := by
  -- After the first item each one follows a comma.
  have hfurther : ∀ texts, ∃ text, further close texts = text ++ [close] ∧
      ((∀ text ∈ texts, Balanced text) → Balanced text) := by
    intro texts
    induction texts with
    | nil => exact ⟨[], rfl, fun _ => steady_nil fun _ => Int.le_refl _⟩
    | cons first texts ih =>
        obtain ⟨text, htext, hbalanced⟩ := ih
        refine ⟨',' :: (first ++ text), by rw [further, htext]; simp, fun hall => ?_⟩
        obtain ⟨hfirst, hrest⟩ := List.forall_mem_cons.mp hall
        have hcomma : Balanced [','] := balanced_of_plain (forall_mem_of_all (by decide))
        exact steady_append hcomma (steady_append hfirst (hbalanced hrest))
  cases texts with
  | nil => exact ⟨[], rfl, fun _ => steady_nil fun _ => Int.le_refl _⟩
  | cons first texts =>
      obtain ⟨text, htext, hbalanced⟩ := hfurther texts
      refine ⟨first ++ text, by rw [listed, htext, List.append_assoc], fun hall => ?_⟩
      obtain ⟨hfirst, hrest⟩ := List.forall_mem_cons.mp hall
      exact steady_append hfirst (hbalanced hrest)

theorem balanced_member {member : String × Value} (h : Balanced member.2.text) :
    Balanced (memberText member) := by
  have hcolon : Balanced [':'] := balanced_of_plain (forall_mem_of_all (by decide))
  exact steady_append (balanced_quoted member.1) (steady_append hcolon h)

/-- The text of a value leaves open what was open. -/
theorem balanced_text (value : Value) : Balanced value.text := by
  -- On the value: the brackets of an array and of an object are each closed by the
  -- list.
  induction value using Value.induct with
  | null => exact balanced_of_plain (forall_mem_of_all (by decide))
  | bool b => cases b <;> exact balanced_of_plain (forall_mem_of_all (by decide))
  | number n =>
      -- A numeral has neither a bracket nor a quote.
      have hall : ∀ c ∈ numeralChars, turn .outside c = some (.outside, 0) :=
        forall_mem_of_all (by decide)
      exact balanced_of_plain fun c hc => hall c (n.plain c hc)
  | string text => exact balanced_quoted text
  | array items ih =>
      obtain ⟨text, htext, hbalanced⟩ := listed_eq ']' (Value.texts items)
      rw [Value.text, htext]
      rw [texts_eq] at hbalanced
      exact balanced_enclosed (hbalanced (List.forall_mem_map.mpr ih)) (by decide) (by decide)
  | object members ih =>
      obtain ⟨text, htext, hbalanced⟩ := listed_eq '}' (Value.memberTexts members)
      rw [Value.text, htext]
      rw [memberTexts_eq] at hbalanced
      refine balanced_enclosed (hbalanced (List.forall_mem_map.mpr fun member hmember => ?_))
        (by decide) (by decide)
      exact balanced_member (ih member hmember)


/-! ### Whole texts -/

/-- The text leaves nothing open, and no text after a colon in it leaves nothing
    open. -/
structure Whole (text : List Char) : Prop where
  ends : scan text ⟨.outside, 0⟩ = some ⟨.outside, 0⟩
  colon : ∀ before after, text = before ++ ':' :: after →
    scan after ⟨.outside, 0⟩ ≠ some ⟨.outside, 0⟩

/-- After a colon the next character is not escaped. -/
theorem scan_colon_ne {text : List Char} {s t : Scan} (h : scan (text ++ [':']) s = some t) :
    t.place ≠ .escaped := by
  rw [scan_append] at h
  obtain ⟨u, -, hu⟩ := Option.bind_eq_some_iff.mp h
  rcases u with ⟨place, depth⟩
  cases place <;> simp [scan, Scan.next, turn, quote, backslash] at hu <;> simp [← hu]

theorem whole_of_open {text : List Char} (h : Balanced text) (hopen : Open text)
    (hlast : ∀ before, text ≠ before ++ [':']) : Whole text where
  ends := h.ends 0
  colon before after hsplit hafter := by
    have hne : after ≠ [] := by
      rintro rfl
      exact hlast before hsplit
    rw [List.append_cons] at hsplit
    obtain ⟨⟨place, depth⟩, hscan, hstate⟩ := hopen (before ++ [':']) after hsplit (by simp) hne
    have hends := h.ends 0
    rw [hsplit, scan_append, hscan, Option.bind_some] at hends
    cases place with
    | outside =>
        -- The same text would end deeper, since it begins deeper.
        have hdeeper := scan_deeper after .outside 0 depth
        rw [hafter, Int.zero_add, hends] at hdeeper
        have hdepth := congrArg Scan.depth (Option.some.inj hdeeper)
        simp at hstate hdepth
        omega
    | inside => exact scan_outside_ne hafter hends
    | escaped => exact scan_colon_ne hscan rfl

theorem whole_of_colonless {text : List Char} (h : Balanced text) (hcolon : ':' ∉ text) :
    Whole text where
  ends := h.ends 0
  colon before after hsplit := by
    rw [hsplit] at hcolon
    exact absurd (List.mem_append_right before (List.mem_cons_self ..)) hcolon

/-- The text of a value is whole. -/
theorem whole_text (value : Value) : Whole value.text := by
  -- A text does not end with a colon if its last character is another one.
  have hlast : ∀ {first last : Char} {text : List Char}, last ≠ ':' → ∀ before,
      first :: (text ++ [last]) ≠ before ++ [':'] := by
    intro first last text hne before heq
    rw [← List.cons_append] at heq
    exact hne (List.cons.inj (List.append_inj_right' heq rfl)).1
  cases value with
  | null => exact whole_of_colonless (balanced_text _) (by decide)
  | bool b => cases b <;> exact whole_of_colonless (balanced_text _) (by decide)
  | number n =>
      -- And these have none at all.
      refine whole_of_colonless (balanced_text _) fun hcolon => ?_
      exact absurd (n.plain ':' hcolon) (by decide)
  | string text => exact whole_of_open (balanced_quoted text) (open_quoted text) (hlast (by decide))
  | array items =>
      have hbalanced := balanced_text (.array items)
      obtain ⟨text, htext, hinner⟩ := listed_eq ']' (Value.texts items)
      rw [Value.text, htext] at hbalanced ⊢
      rw [texts_eq] at hinner
      refine whole_of_open hbalanced (open_enclosed (hinner ?_) (by decide)) (hlast (by decide))
      exact List.forall_mem_map.mpr fun item _ => balanced_text item
  | object members =>
      have hbalanced := balanced_text (.object members)
      obtain ⟨text, htext, hinner⟩ := listed_eq '}' (Value.memberTexts members)
      rw [Value.text, htext] at hbalanced ⊢
      rw [memberTexts_eq] at hinner
      refine whole_of_open hbalanced (open_enclosed (hinner ?_) (by decide)) (hlast (by decide))
      exact List.forall_mem_map.mpr fun member _ => balanced_member (balanced_text member.2)

/-- A whole text after a colon is told from what is before the colon. -/
theorem Whole.split_inj {before before' text text' : List Char} (h : Whole text)
    (h' : Whole text') (heq : before ++ ':' :: text = before' ++ ':' :: text') :
    before = before' ∧ text = text' := by
  rcases List.append_eq_append_iff.mp heq with ⟨middle, hbefore, hrest⟩ | ⟨middle, hbefore, hrest⟩
  · cases middle with
    | nil => exact ⟨by rw [hbefore, List.append_nil], (List.cons.inj hrest).2⟩
    | cons c middle => exact absurd h'.ends (h.colon middle text' (List.cons.inj hrest).2)
  · cases middle with
    | nil => exact ⟨by rw [hbefore, List.append_nil], (List.cons.inj hrest).2.symm⟩
    | cons c middle => exact absurd h.ends (h'.colon middle text (List.cons.inj hrest).2)

end Json

end Core
