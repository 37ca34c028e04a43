import IntentWire.Expression.Layout

/-!
# Faults of clauses

What is amiss with a piece of an expression that should be a clause, told from its
characters alone. It is checked one after the other, and the first check that fails is the
*fault*, whatever would fail after it:

* there is a parenthesis that opens the argument;
* a type stands in front of the first one;
* a parenthesis closes the argument;
* nothing but blanks stands behind that one.

A piece that is no layout of a clause has just one fault, and is parsed with that error
(`Clause.parse_eq_error_iff`). What the pieces of an expression are is told without the
function that finds them (`Clause.Pieces`).
-/

namespace IntentWire.Clause

open Text

/-! ### Pieces -/

/-- Texts are the pieces of a text between its delimiters. Each delimiter is the leftmost one
    behind the piece before: none stands in the piece, and none starts at its last character. -/
inductive Pieces : List Char → List (List Char) → Prop
  | last {s : List Char} : ¬delimiter.toList <:+: s → Pieces s [s]
  | next {p s : List Char} {ps : List (List Char)} :
    ¬delimiter.toList <:+: p → p.getLast? ≠ some '&' → Pieces s ps →
      Pieces (p ++ '&' :: '&' :: s) (p :: ps)

theorem not_infix_cons {c : Char} {s : List Char} (hs : ¬delimiter.toList <:+: s)
    (h : c = '&' → s.head? ≠ some '&') : ¬delimiter.toList <:+: c :: s :=
  not_infix_append (s := [c]) (fun hi => Nat.not_succ_le_self 1 hi.length_le) hs
    fun hc => h (Option.some.inj hc)

/-- What stands in front of a text, and makes no delimiter with it, belongs to its first
    piece. -/
theorem Pieces.cons {c : Char} {s p : List Char} {ps : List (List Char)} (h : Pieces s (p :: ps))
    (hc : c = '&' → s.head? ≠ some '&') : Pieces (c :: s) ((c :: p) :: ps) := by
  cases h with
  | last hs => exact .last (not_infix_cons hs hc)
  | next hp hl hps =>
    refine .next (not_infix_cons hp fun he hh => hc he ?_) (fun he => ?_) hps
    · rw [List.head?_append, hh, Option.some_or]
    · cases p with
      | nil => exact hc (Option.some.inj he) rfl
      | cons d p => exact hl (by rwa [List.getLast?_cons_cons] at he)

theorem pieces_split (s : List Char) : Pieces s (split s) := by
  induction s using split_induction with
  | nil => exact .last (not_infix_of_notMem List.not_mem_nil)
  | delimiter s ih =>
    rw [split_delimiter]
    exact .next (p := []) (not_infix_of_notMem List.not_mem_nil) nofun ih
  | cons c s h ih =>
    obtain ⟨p, ps, hs, -, -⟩ := exists_split_eq_cons s
    rw [hs] at ih
    rw [split_cons h, hs]
    exact ih.cons h

/-- A text is split into its pieces, of which it has none else. -/
theorem pieces_iff {s : List Char} {ps : List (List Char)} : Pieces s ps ↔ split s = ps := by
  constructor
  · intro h
    induction h with
    | last hs => exact split_of_not_infix hs
    | next hp hl _ ih => rw [split_append_delimiter hp hl, ih]
  · rintro rfl
    exact pieces_split s

/-! ### The start of the argument -/

/-- A piece is what stands in front of its first parenthesis that is open, and what stands
    behind it. -/
structure Opens (piece front body : List Char) : Prop where
  eq_append : piece = front ++ '(' :: body
  open_notMem : '(' ∉ front

variable {index : Nat} {piece front body : List Char} {e : ExpressionError}

theorem exists_opens (h : '(' ∈ piece) : ∃ front body, Opens piece front body := by
  obtain ⟨front, body, hp, hf⟩ := List.eq_append_cons_of_mem h
  exact ⟨front, body, hp, hf⟩

theorem parse_of_notMem (h : '(' ∉ piece) :
    parse index piece = .error (.missingOpenParen index) := by
  rw [parse, dropWhile_bne_of_notMem h]

/-- Past its first parenthesis, a piece is told by what stands around it. -/
theorem Opens.parse_eq (h : Opens piece front body) (index : Nat) : parse index piece =
    if (trim front).isEmpty then .error (.emptyTag index)
    else match splitClose body with
      | none => .error (.unbalancedParens index)
      | some (argument, behind) =>
        if (trim behind).isEmpty then .ok ⟨.ofList (trim front), .ofList argument⟩
        else .error (.trailingInput index (.ofList (trim behind))) := by
  have hd := dropWhile_bne_append h.open_notMem body
  rw [parse, h.eq_append, takeWhile_bne_append h.open_notMem]
  split
  · next hnil => cases hnil.symm.trans hd
  · next hcons =>
    cases hcons.symm.trans hd
    rfl

/-! ### Faults -/

/-- The first check that a piece fails as the clause of the given index. -/
inductive Fault (index : Nat) (piece : List Char) : ExpressionError → Prop
  /-- No parenthesis opens the argument. -/
  | missingOpenParen : '(' ∉ piece → Fault index piece (.missingOpenParen index)
  /-- Only blanks stand in front of the argument, whatever comes after them. -/
  | emptyTag {front body : List Char} :
    Opens piece front body → (∀ c ∈ front, isBlank c) → Fault index piece (.emptyTag index)
  /-- There is a type, and its argument is not closed. -/
  | unbalancedParens {front body : List Char} :
    Opens piece front body → (∃ c ∈ front, ¬isBlank c) →
      (∀ p, p <+: body → p.count ')' ≤ p.count '(') → Fault index piece (.unbalancedParens index)
  /-- There are a type and an argument, and something behind them. -/
  | trailingInput {front argument behind : List Char} :
    Opens piece front (argument ++ ')' :: behind) → (∃ c ∈ front, ¬isBlank c) →
      IsBalanced 0 argument → trim behind ≠ [] →
      Fault index piece (.trailingInput index (.ofList (trim behind)))

theorem not_isEmpty_trim_iff {s : List Char} :
    ¬(trim s).isEmpty = true ↔ ∃ c ∈ s, ¬isBlank c := by
  rw [List.isEmpty_iff, trim_eq_nil_iff]
  simp only [not_forall, exists_prop]

/-- A piece is parsed with its fault. -/
theorem parse_eq_error_iff : parse index piece = .error e ↔ Fault index piece e := by
  constructor
  · intro h
    by_cases hm : '(' ∈ piece
    · obtain ⟨front, body, ho⟩ := exists_opens hm
      rw [ho.parse_eq] at h
      split at h
      · next ht =>
        cases h
        exact .emptyTag ho (trim_eq_nil_iff.1 (List.isEmpty_iff.1 ht))
      next ht =>
      split at h
      · next hs =>
        cases h
        exact .unbalancedParens ho (not_isEmpty_trim_iff.1 ht) (splitClose_eq_none_iff.1 hs)
      next argument behind hs =>
      obtain ⟨rfl, hb⟩ := splitClose_eq_some_iff.1 hs
      split at h
      · cases h
      · next hr =>
        cases h
        exact .trailingInput ho (not_isEmpty_trim_iff.1 ht) hb fun he =>
          hr (List.isEmpty_iff.2 he)
    · rw [parse_of_notMem hm] at h
      cases h
      exact .missingOpenParen hm
  · intro h
    cases h with
    | missingOpenParen hm => exact parse_of_notMem hm
    | emptyTag ho hf => rw [ho.parse_eq, if_pos (List.isEmpty_iff.2 (trim_eq_nil_iff.2 hf))]
    | unbalancedParens ho hf hb =>
      rw [ho.parse_eq, if_neg (not_isEmpty_trim_iff.2 hf), splitClose_eq_none_iff.2 hb]
    | trailingInput ho hf hb hr =>
      rw [ho.parse_eq, if_neg (not_isEmpty_trim_iff.2 hf), splitClose_eq_some_iff.2 ⟨rfl, hb⟩]
      exact if_neg fun he => hr (List.isEmpty_iff.1 he)

/-- Whether a piece is a clause, laid out in some way. -/
def IsClause (piece : List Char) : Prop :=
  ∃ l : Layout, l.IsValid ∧ piece = l.chars

theorem isClause_iff (index : Nat) : IsClause piece ↔ ∃ c, parse index piece = .ok c := by
  constructor
  · rintro ⟨l, hl, hc⟩
    exact ⟨l.clause, parse_eq_ok_iff.2 ⟨l, hl, hc, rfl⟩⟩
  · rintro ⟨c, hp⟩
    obtain ⟨l, hl, hc, -⟩ := parse_eq_ok_iff.1 hp
    exact ⟨l, hl, hc⟩

/-- A piece is a clause, or it has a fault. -/
theorem exists_fault_of_not_isClause (h : ¬IsClause piece) (index : Nat) :
    ∃ e, Fault index piece e := by
  cases hp : parse index piece with
  | error e => exact ⟨e, parse_eq_error_iff.1 hp⟩
  | ok c => exact absurd ((isClause_iff index).2 ⟨c, hp⟩) h

/-- A piece has one fault at most. -/
theorem Fault.unique {e' : ExpressionError} (h : Fault index piece e)
    (h' : Fault index piece e') : e = e' := by
  have hp := parse_eq_error_iff.2 h
  rw [parse_eq_error_iff.2 h'] at hp
  exact (Except.error.inj hp).symm

/-! ### By kind -/

theorem fault_missingOpenParen_iff :
    Fault index piece (.missingOpenParen index) ↔ '(' ∉ piece := by
  constructor
  · rintro (h | _)
    exact h
  · exact .missingOpenParen

theorem fault_emptyTag_iff : Fault index piece (.emptyTag index) ↔
    ∃ front body, Opens piece front body ∧ ∀ c ∈ front, isBlank c := by
  constructor
  · rintro (_ | ⟨ho, hf⟩)
    exact ⟨_, _, ho, hf⟩
  · rintro ⟨front, body, ho, hf⟩
    exact .emptyTag ho hf

theorem fault_unbalancedParens_iff : Fault index piece (.unbalancedParens index) ↔
    ∃ front body, Opens piece front body ∧ (∃ c ∈ front, ¬isBlank c) ∧
      ∀ p, p <+: body → p.count ')' ≤ p.count '(' := by
  constructor
  · rintro (_ | _ | ⟨ho, hf, hb⟩)
    exact ⟨_, _, ho, hf, hb⟩
  · rintro ⟨front, body, ho, hf, hb⟩
    exact .unbalancedParens ho hf hb

theorem fault_trailingInput_iff {rest : String} : Fault index piece (.trailingInput index rest) ↔
    ∃ front argument behind, Opens piece front (argument ++ ')' :: behind) ∧
      (∃ c ∈ front, ¬isBlank c) ∧ IsBalanced 0 argument ∧ rest.toList = trim behind ∧
        rest ≠ "" := by
  constructor
  · intro h
    cases h with
    | trailingInput ho hf hb hr =>
      refine ⟨_, _, _, ho, hf, hb, String.toList_ofList, fun he => hr ?_⟩
      rw [← String.toList_ofList (l := trim _), he]
      rfl
  · rintro ⟨front, argument, behind, ho, hf, hb, ht, hr⟩
    rw [← String.ofList_toList (s := rest), ht]
    refine .trailingInput ho hf hb fun he => hr ?_
    rw [← String.ofList_toList (s := rest), ht, he]

end IntentWire.Clause
