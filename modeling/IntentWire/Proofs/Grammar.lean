import IntentWire.Expression.Layout

/-!
# The grammar of expressions

An expression is parsed if it is made up of layouts of clauses, with the delimiter between
them and none within them, and then it is parsed as these clauses. There is one way at
most to take a text apart like this: a layout ends in a parenthesis or in a blank, and so
no delimiter stands across the end of one.

* `Expression.parse_eq_ok_iff_split`: the pieces of an expression are layouts.
* `Expression.ConsistsOf`, `Expression.ConsistsOf.unique`: how a text is taken apart.
* `Expression.parse_ok_iff_consistsOf`: the grammar.
-/

namespace IntentWire

open Clause

namespace Clause.Layout

/-- Layouts are told apart by how they are written one by one. -/
theorem eq_of_map_chars_eq {ls ls' : List Layout} (h : ∀ l ∈ ls, l.IsValid)
    (h' : ∀ l ∈ ls', l.IsValid) (he : ls.map chars = ls'.map chars) : ls = ls' := by
  induction ls generalizing ls' with
  | nil => exact (List.map_eq_nil_iff.1 he.symm).symm
  | cons l ls ih =>
    cases ls' with
    | nil => cases he
    | cons l' ls' =>
      obtain ⟨hl, hls⟩ := List.forall_mem_cons.1 h
      obtain ⟨hl', hls'⟩ := List.forall_mem_cons.1 h'
      obtain ⟨hc, hcs⟩ := List.cons.inj he
      rw [eq_of_chars_eq hl hl' hc, ih hls hls' hcs]

/-- Layouts without a delimiter in them are the pieces of the text that they make up. -/
theorem split_intercalate_chars {ls : List Layout} (hne : ls ≠ [])
    (h : ∀ l ∈ ls, l.IsValid ∧ ¬delimiter.toList <:+: l.chars) :
    split (delimiter.toList.intercalate (ls.map chars)) = ls.map chars := by
  refine split_intercalate (fun he => hne (List.map_eq_nil_iff.1 he)) fun p hp => ?_
  obtain ⟨l, hl, rfl⟩ := List.mem_map.1 hp
  exact ⟨(h l hl).2, (h l hl).1.getLast?_chars_ne⟩

end Clause.Layout

namespace Expression

/-- Pieces are parsed if they are layouts, wherever they stand. -/
theorem forall₂_parse_iff {pieces : List (List Char)} {start : Nat} {clauses : List Clause} :
    List.Forall₂ (fun piece clause => Clause.parse piece.2 piece.1 = .ok clause)
        (pieces.zipIdx start) clauses ↔
      ∃ ls : List Layout, (∀ l ∈ ls, l.IsValid) ∧ pieces = ls.map Layout.chars ∧
        ls.map Layout.clause = clauses := by
  induction pieces generalizing start clauses with
  | nil =>
    rw [List.zipIdx_nil, List.forall₂_nil_left_iff]
    constructor
    · rintro rfl
      exact ⟨[], nofun, rfl, rfl⟩
    · rintro ⟨ls, -, hp, rfl⟩
      rw [List.map_eq_nil_iff.1 hp.symm]
      rfl
  | cons piece pieces ih =>
    rw [List.zipIdx_cons, List.forall₂_cons_left_iff]
    constructor
    · rintro ⟨c, clauses, hc, hcs, rfl⟩
      obtain ⟨l, hl, rfl, rfl⟩ := Clause.parse_eq_ok_iff.1 hc
      obtain ⟨ls, hls, rfl, rfl⟩ := ih.1 hcs
      exact ⟨l :: ls, List.forall_mem_cons.2 ⟨hl, hls⟩, rfl, rfl⟩
    · rintro ⟨ls, hls, hp, rfl⟩
      cases ls with
      | nil => cases hp
      | cons l ls =>
        obtain ⟨hl, hls⟩ := List.forall_mem_cons.1 hls
        obtain ⟨rfl, rfl⟩ := List.cons.inj hp
        exact ⟨l.clause, ls.map Layout.clause, Clause.parse_eq_ok_iff.2 ⟨l, hl, rfl, rfl⟩,
          ih.2 ⟨ls, hls, rfl, rfl⟩, rfl⟩

/-- An expression is parsed if its pieces are layouts. -/
theorem parse_eq_ok_iff_split {s : String} {clauses : List Clause} :
    parse s = .ok clauses ↔
      ∃ ls : List Layout, (∀ l ∈ ls, l.IsValid) ∧ split s.toList = ls.map Layout.chars ∧
        ls.map Layout.clause = clauses := by
  rw [parse, mapM_eq_ok_iff]
  exact forall₂_parse_iff

/-- Whether a text consists of layouts, with the delimiter between them and not in them. -/
structure ConsistsOf (s : String) (ls : List Layout) : Prop where
  isValid : ∀ l ∈ ls, l.IsValid
  not_infix : ∀ l ∈ ls, ¬delimiter.toList <:+: l.chars
  toList_eq : s.toList = delimiter.toList.intercalate (ls.map Layout.chars)

namespace ConsistsOf

variable {s : String} {ls ls' : List Layout}

theorem split_eq (h : ConsistsOf s ls) (hne : ls ≠ []) : split s.toList = ls.map Layout.chars := by
  rw [h.toList_eq]
  exact Layout.split_intercalate_chars hne fun l hl => ⟨h.isValid l hl, h.not_infix l hl⟩

/-- The empty text consists of no layouts, as each has a parenthesis. -/
theorem eq_nil (h : ConsistsOf s ls) (hs : s.toList = []) : ls = [] := by
  by_contra hne
  have hsplit := h.split_eq hne
  rw [hs, split_nil] at hsplit
  obtain ⟨l, _, rfl, hl, -⟩ := List.map_eq_cons_iff.1 hsplit.symm
  rw [Layout.chars_eq_append] at hl
  exact absurd hl (by simp)

/-- There is one way at most to take a text apart. -/
theorem unique (h : ConsistsOf s ls) (h' : ConsistsOf s ls') : ls = ls' := by
  by_cases hne : ls = []
  · subst hne
    exact (h'.eq_nil h.toList_eq).symm
  by_cases hne' : ls' = []
  · subst hne'
    exact h.eq_nil h'.toList_eq
  -- Both make up the text, and so both are its pieces.
  exact Layout.eq_of_map_chars_eq h.isValid h'.isValid
    ((h.split_eq hne).symm.trans (h'.split_eq hne'))

end ConsistsOf

/-- A text consists of layouts if they are its pieces. -/
theorem consistsOf_iff_split {s : String} {ls : List Layout} :
    ((∀ l ∈ ls, l.IsValid) ∧ split s.toList = ls.map Layout.chars) ↔
      ls ≠ [] ∧ ConsistsOf s ls := by
  constructor
  · rintro ⟨hls, hs⟩
    refine ⟨?_, hls, fun l hl => ?_, ?_⟩
    · rintro rfl
      obtain ⟨p, ps, hp, -⟩ := exists_split_eq_cons s.toList
      rw [hs] at hp
      cases hp
    · exact not_infix_of_mem_split s.toList l.chars (hs ▸ List.mem_map_of_mem hl)
    · rw [← hs, intercalate_split]
  · rintro ⟨hne, h⟩
    exact ⟨h.isValid, h.split_eq hne⟩

/-- The grammar of expressions.

    * An expression is parsed as some clauses if it consists of layouts of them, and there is a
      clause at all.
    * There is one way at most to take a text apart into layouts. -/
theorem parse_ok_iff_consistsOf (s : String) :
    (∀ clauses, parse s = .ok clauses ↔
        clauses ≠ [] ∧ ∃ ls, ConsistsOf s ls ∧ ls.map Layout.clause = clauses) ∧
      ∀ ls ls', ConsistsOf s ls → ConsistsOf s ls' → ls = ls' := by
  refine ⟨fun clauses => ?_, fun _ _ h h' => h.unique h'⟩
  rw [parse_eq_ok_iff_split]
  constructor
  · rintro ⟨ls, hls, hs, rfl⟩
    obtain ⟨hne, h⟩ := consistsOf_iff_split.1 ⟨hls, hs⟩
    exact ⟨fun he => hne (List.map_eq_nil_iff.1 he), ls, h, rfl⟩
  · rintro ⟨hne, ls, h, rfl⟩
    obtain ⟨hls, hs⟩ := consistsOf_iff_split.2 ⟨fun he => hne (List.map_eq_nil_iff.2 he), h⟩
    exact ⟨ls, hls, hs, rfl⟩

/-- Of three ampersands, the last belongs to the type behind them. -/
example : parse "a(b)&&&c (( )) " = .ok [⟨"a", "b"⟩, ⟨"&c", "( )"⟩] := rfl

end Expression

end IntentWire
