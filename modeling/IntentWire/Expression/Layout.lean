import IntentWire.Expression.Lemmas

/-!
# Layouts of clauses

How a clause is written: with blanks in front of its type, between the type and the
argument, and behind it (`Clause.Layout`). The clause says nothing of these blanks, and
everything of the argument.

* `Clause.parse_eq_ok_iff`: a clause is parsed of its layouts, and of nothing else.
* `Clause.Layout.eq_of_chars_eq`: no two layouts are written alike.
* `Clause.Layout.IsValid.parse_of_prefix`: a layout that breaks off within the argument is
  not parsed.
-/

namespace IntentWire.Clause

open Text

/-- A clause with the blanks around its type and behind its argument. -/
@[ext]
structure Layout where
  front : List Char
  tag : List Char
  gap : List Char
  argument : List Char
  back : List Char
  deriving DecidableEq

namespace Layout

/-- A layout as it is written. -/
def chars (l : Layout) : List Char :=
  l.front ++ (l.tag ++ (l.gap ++ '(' :: (l.argument ++ ')' :: l.back)))

/-- The clause that is laid out. -/
def clause (l : Layout) : Clause :=
  ⟨.ofList l.tag, .ofList l.argument⟩

/-- The blanks of a layout are blank, the type has some characters, the first and the last
    of which are not, and no parenthesis is open before the argument or after it. -/
structure IsValid (l : Layout) : Prop where
  blank_front : ∀ c ∈ l.front, isBlank c
  blank_gap : ∀ c ∈ l.gap, isBlank c
  blank_back : ∀ c ∈ l.back, isBlank c
  tag_ne_nil : l.tag ≠ []
  isTrimmed_tag : IsTrimmed l.tag
  open_notMem_tag : '(' ∉ l.tag
  isBalanced_argument : IsBalanced 0 l.argument

variable {l l' : Layout}

theorem chars_eq_append (l : Layout) : l.chars =
    (l.front ++ (l.tag ++ l.gap)) ++ '(' :: (l.argument ++ ')' :: l.back) := by
  rw [chars, List.append_assoc, List.append_assoc]

namespace IsValid

/-- The first parenthesis that is open is the one in front of the argument. -/
theorem open_notMem (h : l.IsValid) : '(' ∉ l.front ++ (l.tag ++ l.gap) := by
  have hblank : ¬isBlank '(' := by decide
  rw [List.mem_append, List.mem_append]
  rintro (hc | hc | hc)
  · exact hblank (h.blank_front _ hc)
  · exact h.open_notMem_tag hc
  · exact hblank (h.blank_gap _ hc)

theorem takeWhile_chars (h : l.IsValid) :
    l.chars.takeWhile (· != '(') = l.front ++ (l.tag ++ l.gap) := by
  rw [chars_eq_append, takeWhile_bne_append h.open_notMem]

theorem dropWhile_chars (h : l.IsValid) :
    l.chars.dropWhile (· != '(') = '(' :: (l.argument ++ ')' :: l.back) := by
  rw [chars_eq_append, dropWhile_bne_append h.open_notMem]

theorem splitClose_argument (h : l.IsValid) :
    splitClose (l.argument ++ ')' :: l.back) = some (l.argument, l.back) :=
  splitClose_eq_some_iff.2 ⟨rfl, h.isBalanced_argument⟩

theorem trim_takeWhile_chars (h : l.IsValid) :
    trim (l.chars.takeWhile (· != '(')) = l.tag := by
  rw [h.takeWhile_chars, trim_append_append h.blank_front h.isTrimmed_tag h.blank_gap]

/-- A layout ends in a parenthesis or in a blank. -/
theorem getLast?_chars_ne (h : l.IsValid) : l.chars.getLast? ≠ some '&' := by
  rw [chars_eq_append, List.append_cons, ← List.append_assoc, List.append_cons,
    List.getLast?_append]
  intro hl
  cases hb : l.back.getLast? with
  | none =>
    rw [hb, Option.none_or, List.getLast?_concat] at hl
    exact absurd hl (by decide)
  | some c =>
    rw [hb] at hl
    obtain rfl := Option.some.inj hl
    exact absurd (h.blank_back _ (List.mem_of_getLast? hb)) (by decide)

end IsValid

/-- No two layouts are written alike. -/
theorem eq_of_chars_eq (h : l.IsValid) (h' : l'.IsValid) (he : l.chars = l'.chars) : l = l' := by
  have ht := h.takeWhile_chars
  rw [he, h'.takeWhile_chars] at ht
  obtain ⟨hfront, htag, hgap⟩ := append_append_inj_of_isTrimmed h'.blank_front h.blank_front
    h'.isTrimmed_tag h.isTrimmed_tag h'.tag_ne_nil h'.blank_gap h.blank_gap ht
  have hd := h.dropWhile_chars
  rw [he, h'.dropWhile_chars] at hd
  have hs := h.splitClose_argument
  rw [← (List.cons.inj hd).2, h'.splitClose_argument] at hs
  obtain ⟨hargument, hback⟩ := Prod.mk.inj (Option.some.inj hs)
  exact Layout.ext hfront.symm htag.symm hgap.symm hargument.symm hback.symm

end Layout

/-- A clause is parsed of its layouts. -/
theorem parse_eq_ok_iff {index : Nat} {piece : List Char} {c : Clause} :
    parse index piece = .ok c ↔ ∃ l : Layout, l.IsValid ∧ piece = l.chars ∧ l.clause = c := by
  constructor
  · intro h
    rw [parse] at h
    split at h
    · cases h
    · next _ body hd =>
      dsimp only at h
      split at h
      · cases h
      next ht =>
      split at h
      · cases h
      next argument behind hs =>
      split at h
      · next hr =>
        cases h
        obtain ⟨hbody, hbal⟩ := splitClose_eq_some_iff.1 hs
        obtain ⟨front, gap, hfront, hgap, hpiece⟩ :=
          exists_eq_append_trim (piece.takeWhile (· != '('))
        have hmem : '(' ∉ trim (piece.takeWhile (· != '(')) := fun hm =>
          notMem_takeWhile_bne '(' piece
            (hpiece ▸ List.mem_append_right _ (List.mem_append_left _ hm))
        refine ⟨⟨front, trim (piece.takeWhile (· != '(')), gap, argument, behind⟩,
          ⟨hfront, hgap, trim_eq_nil_iff.1 (List.isEmpty_iff.1 hr), ?_, isTrimmed_trim _, hmem,
            hbal⟩, ?_, rfl⟩
        · exact fun h => ht (List.isEmpty_iff.2 h)
        · rw [Layout.chars_eq_append]
          dsimp only
          rw [← hpiece, ← hbody]
          exact eq_takeWhile_bne_append hd
      · cases h
  · rintro ⟨l, h, rfl, rfl⟩
    have hne : ¬ l.tag.isEmpty = true := fun he => h.tag_ne_nil (List.isEmpty_iff.1 he)
    rw [parse, h.dropWhile_chars, h.trim_takeWhile_chars]
    dsimp only
    rw [if_neg hne, h.splitClose_argument]
    dsimp only
    rw [trim_eq_nil_iff.2 h.blank_back]
    rfl

namespace Layout.IsValid

variable {l : Layout}

theorem notMem_of_blank {s : List Char} (h : ∀ c ∈ s, isBlank c) : '&' ∉ s :=
  fun hc => absurd (h _ hc) (by decide)

/-- Up to the end of the argument, a delimiter stands in the type or in the argument. -/
theorem not_infix_open (h : l.IsValid) (ht : ¬delimiter.toList <:+: l.tag) {s : List Char}
    (hs : ¬delimiter.toList <:+: s) :
    ¬delimiter.toList <:+: (l.front ++ (l.tag ++ l.gap)) ++ '(' :: s := by
  have hfront := notMem_of_blank h.blank_front
  have hgap := notMem_of_blank h.blank_gap
  refine not_infix_append_cons (by decide) (not_infix_append (not_infix_of_notMem hfront)
    (not_infix_append ht (not_infix_of_notMem hgap) fun _ hg => ?_) fun hf => ?_) hs
  · exact hgap (List.mem_of_head? hg)
  · exact absurd (List.mem_of_getLast? hf) hfront

/-- In a clause, a delimiter stands in the type or in the argument. -/
theorem not_infix_chars (h : l.IsValid) (ht : ¬delimiter.toList <:+: l.tag)
    (ha : ¬delimiter.toList <:+: l.argument) : ¬delimiter.toList <:+: l.chars := by
  rw [chars_eq_append]
  exact h.not_infix_open ht (not_infix_append_cons (by decide) ha
    (not_infix_of_notMem (notMem_of_blank h.blank_back)))

/-- A clause whose argument breaks off is not parsed. -/
theorem parse_of_prefix (h : l.IsValid) {s : List Char} (hs : s <+: l.argument) (index : Nat) :
    parse index ((l.front ++ (l.tag ++ l.gap)) ++ '(' :: s) = .error (.unbalancedParens index) := by
  have hne : ¬ l.tag.isEmpty = true := fun he => h.tag_ne_nil (List.isEmpty_iff.1 he)
  rw [parse, dropWhile_bne_append h.open_notMem, takeWhile_bne_append h.open_notMem,
    trim_append_append h.blank_front h.isTrimmed_tag h.blank_gap]
  dsimp only
  rw [if_neg hne, h.isBalanced_argument.splitClose_eq_none hs]

end Layout.IsValid

end IntentWire.Clause
