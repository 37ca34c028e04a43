import IntentWire.Proofs.Grammar

/-!
# Delimiters in arguments

An expression is taken apart at its delimiters before anything is known of its clauses. A
delimiter that stands in an argument cuts the clause in two there, and what is behind it may
well look like a clause. But what is in front of it never does: in the start of a text whose
parentheses match, nothing closes the one in front of it. So an expression with a delimiter
in an argument fails, in the first clause that has one.

* `Expression.parse_of_not_infix_argument`, `Expression.parse_of_infix_argument`: without a
  delimiter in the arguments, and with one.
* `Expression.parse_of_delimiters`: what comes of clauses with delimiters between them.
-/

namespace IntentWire.Expression

open Clause

variable {s : String} {ls : List Layout}

/-- Clauses without a delimiter in their arguments are parsed as they are. -/
theorem parse_of_not_infix_argument (hne : ls ≠ [])
    (h : ∀ l ∈ ls, l.IsValid ∧ ¬delimiter.toList <:+: l.tag)
    (ha : ∀ l ∈ ls, ¬delimiter.toList <:+: l.argument)
    (hs : s.toList = delimiter.toList.intercalate (ls.map Layout.chars)) :
    parse s = .ok (ls.map Layout.clause) := by
  refine parse_eq_ok_iff_split.2 ⟨ls, fun l hl => (h l hl).1, ?_, rfl⟩
  rw [hs, Layout.split_intercalate_chars hne fun l hl => ⟨(h l hl).1, ?_⟩]
  exact (h l hl).1.not_infix_chars (h l hl).2 (ha l hl)

/-- The first clause with a delimiter in its argument is the first that is not parsed. -/
theorem parse_of_infix_argument {ls₁ ls₂ : List Layout} {l : Layout}
    (h : ∀ l' ∈ ls₁ ++ l :: ls₂, l'.IsValid ∧ ¬delimiter.toList <:+: l'.tag)
    (ha : ∀ l' ∈ ls₁, ¬delimiter.toList <:+: l'.argument)
    (hl : delimiter.toList <:+: l.argument)
    (hs : s.toList = delimiter.toList.intercalate ((ls₁ ++ l :: ls₂).map Layout.chars)) :
    parse s = .error (.unbalancedParens ls₁.length) := by
  obtain ⟨hv, ht⟩ := h l (List.mem_append_right _ (List.mem_cons_self ..))
  have h₁ := fun l' hl' => h l' (List.mem_append_left _ hl')
  -- The piece of the clause is what stands in front of the first delimiter in its argument.
  obtain ⟨a, t, hat, hna, hla⟩ := exists_eq_append_delimiter hl
  have hchars : l.chars = ((l.front ++ (l.tag ++ l.gap)) ++ '(' :: a) ++
      '&' :: '&' :: (t ++ ')' :: l.back) := by
    rw [Layout.chars_eq_append, hat]
    simp
  have hpieces : ∀ q ∈ ls₁.map Layout.chars ++ [(l.front ++ (l.tag ++ l.gap)) ++ '(' :: a],
      ¬delimiter.toList <:+: q ∧ q.getLast? ≠ some '&' := by
    refine List.forall_mem_append.2 ⟨fun q hq => ?_, List.forall_mem_singleton.2
      ⟨hv.not_infix_open ht hna, ?_⟩⟩
    · obtain ⟨l', hl', rfl⟩ := List.mem_map.1 hq
      obtain ⟨hv', ht'⟩ := h₁ l' hl'
      exact ⟨hv'.not_infix_chars ht' (ha l' hl'), hv'.getLast?_chars_ne⟩
    · rw [List.getLast?_append_cons]
      cases a with
      | nil => exact fun he => absurd (Option.some.inj he) (by decide)
      | cons c a => rwa [List.getLast?_cons_cons]
  obtain ⟨rest, hsplit⟩ := exists_split_intercalate_append hpieces
  rw [List.map_append, List.map_cons, hchars] at hs
  rw [parse, hs, hsplit, List.zipIdx_append, List.zipIdx_cons, mapM_eq_error_iff]
  refine ⟨_, _, _, rfl, fun piece hp => ?_, ?_⟩
  · obtain ⟨l', hl', hc⟩ := List.mem_map.1 (List.fst_mem_of_mem_zipIdx hp)
    exact ⟨l'.clause, Clause.parse_eq_ok_iff.2 ⟨l', (h₁ l' hl').1, hc.symm, rfl⟩⟩
  · dsimp only
    rw [List.length_map, Nat.zero_add]
    exact hv.parse_of_prefix ⟨_, hat.symm⟩ ls₁.length

/-- Of the members of a list that has some of a kind, one is the first. -/
theorem exists_first {α : Type} {P : α → Prop} {l : List α} (h : ∃ a ∈ l, P a) :
    ∃ l₁ a l₂, l = l₁ ++ a :: l₂ ∧ (∀ b ∈ l₁, ¬P b) ∧ P a := by
  induction l with
  | nil => simp at h
  | cons a l ih =>
    by_cases ha : P a
    · exact ⟨[], a, l, rfl, nofun, ha⟩
    · obtain ⟨b, hb, hP⟩ := h
      rcases List.mem_cons.1 hb with rfl | hb
      · exact absurd hP ha
      · obtain ⟨l₁, c, l₂, rfl, hno, hc⟩ := ih ⟨b, hb, hP⟩
        exact ⟨a :: l₁, c, l₂, rfl, List.forall_mem_cons.2 ⟨ha, hno⟩, hc⟩

/-- Clauses are written with delimiters between them, none in their types, and blanks
    anywhere around the delimiters.

    * They are parsed as they are if there is none in their arguments either.
    * Otherwise the parentheses are not balanced in the first with one in its argument.
    * They are never parsed as other clauses. -/
theorem parse_of_delimiters (hne : ls ≠ [])
    (h : ∀ l ∈ ls, l.IsValid ∧ ¬delimiter.toList <:+: l.tag)
    (hs : s.toList = delimiter.toList.intercalate (ls.map Layout.chars)) :
    ((∀ l ∈ ls, ¬delimiter.toList <:+: l.argument) → parse s = .ok (ls.map Layout.clause)) ∧
      (∀ ls₁ l ls₂, ls = ls₁ ++ l :: ls₂ → (∀ l' ∈ ls₁, ¬delimiter.toList <:+: l'.argument) →
        delimiter.toList <:+: l.argument → parse s = .error (.unbalancedParens ls₁.length)) ∧
      ∀ clauses, parse s = .ok clauses → clauses = ls.map Layout.clause := by
  refine ⟨fun ha => parse_of_not_infix_argument hne h ha hs, ?_, fun clauses hp => ?_⟩
  · rintro ls₁ l ls₂ rfl ha hl
    exact parse_of_infix_argument h ha hl hs
  · by_cases hi : ∃ l ∈ ls, delimiter.toList <:+: l.argument
    · obtain ⟨ls₁, l, ls₂, rfl, ha, hl⟩ := exists_first hi
      rw [parse_of_infix_argument h ha hl hs] at hp
      cases hp
    · have ha : ∀ l ∈ ls, ¬delimiter.toList <:+: l.argument := fun l hl hd => hi ⟨l, hl, hd⟩
      rw [parse_of_not_infix_argument hne h ha hs] at hp
      exact (Except.ok.inj hp).symm

/-- Behind the delimiter in the second argument stands what would be a clause, but for a
    parenthesis. -/
theorem parse_of_delimiters_clause :
    parse "Note((a)) && Note(x && Note(y))" = .error (.unbalancedParens 1) := by
  have ha : splitClose "(a))".toList = some ("(a)".toList, []) := rfl
  have hx : splitClose "x && Note(y))".toList = some ("x && Note(y)".toList, []) := rfl
  have hfirst : Layout.IsValid ⟨[], "Note".toList, [], "(a)".toList, [' ']⟩ := by
    refine ⟨?_, ?_, ?_, ?_, ⟨?_, ?_⟩, ?_, (splitClose_eq_some_iff.1 ha).2⟩
    all_goals simp [Text.isBlank]
  have hsecond : Layout.IsValid ⟨[' '], "Note".toList, [], "x && Note(y)".toList, []⟩ := by
    refine ⟨?_, ?_, ?_, ?_, ⟨?_, ?_⟩, ?_, (splitClose_eq_some_iff.1 hx).2⟩
    all_goals simp [Text.isBlank]
  have hnote : ¬delimiter.toList <:+: "Note".toList := not_infix_of_notMem (by decide)
  exact (parse_of_delimiters (List.cons_ne_nil _ _) (List.forall_mem_cons.2
      ⟨⟨hfirst, hnote⟩, List.forall_mem_singleton.2 ⟨hsecond, hnote⟩⟩) rfl).2.1
    [_] _ [] rfl (List.forall_mem_singleton.2 (not_infix_of_notMem (by decide)))
    ⟨"x ".toList, " Note(y)".toList, rfl⟩

end IntentWire.Expression
