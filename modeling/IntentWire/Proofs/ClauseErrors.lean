import IntentWire.Expression.Fault
import IntentWire.Proofs.Grammar

/-!
# The first bad clause

The pieces of an expression are all gone through before anything is built. So a piece that is
no clause fails the expression, whatever the arguments in front of it are, and the first such
piece fails it for its own fault (`Clause.Fault`). Only if all pieces are clauses does an
argument count that makes no payload, and then it is the first. If there is none, the
collection has a record for every clause.

* `Expression.parse_eq_error_iff_of_pieces`: the first piece that is no clause.
* `Expression.build_first_fault`: what comes of an expression, by its pieces.
-/

namespace IntentWire.Expression

open Clause Text

variable {s : String} {e : ExpressionError}

/-- An expression fails for the first piece that is no clause, as this piece does. -/
theorem parse_eq_error_iff_of_pieces {before behind : List (List Char)} {piece : List Char}
    (hs : Pieces s.toList (before ++ piece :: behind)) (hb : ∀ p ∈ before, IsClause p)
    (hp : ¬IsClause piece) : parse s = .error e ↔ Fault before.length piece e := by
  obtain ⟨e₀, h₀⟩ := exists_fault_of_not_isClause hp before.length
  have hparse : parse s = .error e₀ := by
    rw [parse, pieces_iff.1 hs, List.zipIdx_append, List.zipIdx_cons, mapM_eq_error_iff]
    refine ⟨_, _, _, rfl, fun p hm => (isClause_iff p.2).1 (hb p.1 ?_), ?_⟩
    · exact List.fst_mem_of_mem_zipIdx hm
    · dsimp only
      rw [Nat.zero_add]
      exact Clause.parse_eq_error_iff.2 h₀
  rw [hparse]
  constructor
  · rintro ⟨⟩
    exact h₀
  · intro h
    rw [h₀.unique h]

/-- If the pieces of an expression are clauses, it is parsed as these. -/
theorem parse_of_pieces {ls : List Layout} (hl : ∀ l ∈ ls, l.IsValid)
    (hs : Pieces s.toList (ls.map Layout.chars)) : parse s = .ok (ls.map Layout.clause) :=
  parse_eq_ok_iff_split.2 ⟨ls, hl, pieces_iff.1 hs, rfl⟩

/-- The pieces of an expression that is parsed are clauses, as many as there are. -/
theorem isClause_of_parse {clauses : List Clause} {pieces : List (List Char)}
    (hp : parse s = .ok clauses) (hs : Pieces s.toList pieces) :
    (∀ p ∈ pieces, IsClause p) ∧ clauses.length = pieces.length := by
  obtain ⟨ls, hl, hsplit, rfl⟩ := parse_eq_ok_iff_split.1 hp
  obtain rfl := (pieces_iff.1 hs).symm.trans hsplit
  refine ⟨fun p hm => ?_, by rw [List.length_map, List.length_map]⟩
  obtain ⟨l, hmem, rfl⟩ := List.mem_map.1 hm
  exact ⟨l, hl l hmem, rfl⟩

/-- What comes of an expression, by its pieces.

    * The first piece that is no clause fails it, whether a collection is to be built or not:
      for the parenthesis that is missing, for the type, for the argument that does not end, or
      for what is behind it. A piece without a type fails for that, whatever its argument is.
    * If all are clauses, the first argument that makes no payload fails the collection, and
      otherwise it has the record of each clause, in order.
    * A collection is built only if all pieces are clauses, and has as many records. -/
theorem build_first_fault (s : String) :
    (∀ before piece behind, Pieces s.toList (before ++ piece :: behind) →
      (∀ p ∈ before, IsClause p) → ¬IsClause piece →
      ∃ e, parse s = .error e ∧ build s = .error e ∧ Fault before.length piece e ∧
        (e = .missingOpenParen before.length ↔ '(' ∉ piece) ∧
        (e = .emptyTag before.length ↔
          ∃ front body, Opens piece front body ∧ ∀ c ∈ front, isBlank c) ∧
        (e = .unbalancedParens before.length ↔
          ∃ front body, Opens piece front body ∧ (∃ c ∈ front, ¬isBlank c) ∧
            ∀ p, p <+: body → p.count ')' ≤ p.count '(') ∧
        ∀ rest, e = .trailingInput before.length rest ↔
          ∃ front argument behind, Opens piece front (argument ++ ')' :: behind) ∧
            (∃ c ∈ front, ¬isBlank c) ∧ IsBalanced 0 argument ∧ rest.toList = trim behind ∧
              rest ≠ "") ∧
      (∀ ls : List Layout, (∀ l ∈ ls, l.IsValid) → Pieces s.toList (ls.map Layout.chars) →
        parse s = .ok (ls.map Layout.clause) ∧
          (∀ e, build s = .error e ↔
            ∃ before clause behind reason, ls.map Layout.clause = before ++ clause :: behind ∧
              (∀ c ∈ before, ∃ payload, Payload.build c.tag c.argument = .ok payload) ∧
                Payload.build clause.tag clause.argument = .error reason ∧
                  e = .invalidArgument clause.tag reason) ∧
          ∀ c, build s = .ok c ↔ List.Forall₂ (fun clause record => record.tag = clause.tag ∧
            Payload.build clause.tag clause.argument = .ok record.payload)
              (ls.map Layout.clause) c) ∧
      ∀ c pieces, build s = .ok c → Pieces s.toList pieces →
        (∀ p ∈ pieces, IsClause p) ∧ c.length = pieces.length := by
  refine ⟨fun before piece behind hs hb hp => ?_, fun ls hl hs => ?_, fun c pieces hc hs => ?_⟩
  · obtain ⟨e, hf⟩ := exists_fault_of_not_isClause hp before.length
    have hparse := (parse_eq_error_iff_of_pieces hs hb hp).2 hf
    -- Whether the piece has some other error is whether it is its only fault.
    have heq : ∀ e', e = e' ↔ Fault before.length piece e' := fun e' =>
      ⟨fun h => h ▸ hf, hf.unique⟩
    refine ⟨e, hparse, build_of_parse_eq_error hparse, hf, ?_, ?_, ?_, fun rest => ?_⟩
    · rw [heq, fault_missingOpenParen_iff]
    · rw [heq, fault_emptyTag_iff]
    · rw [heq, fault_unbalancedParens_iff]
    · rw [heq, fault_trailingInput_iff]
  · have hparse := parse_of_pieces hl hs
    refine ⟨hparse, fun e => ?_, fun c => ?_⟩
    · rw [build_eq_error_iff hparse]
      simp only [exists_toRecord_iff, toRecord_eq_error_iff, exists_and_left]
    · rw [build_eq_ok_iff hparse]
      simp only [toRecord_eq_ok_iff]
  · cases hparse : parse s with
    | error e =>
      rw [build_of_parse_eq_error hparse] at hc
      cases hc
    | ok clauses =>
      obtain ⟨hclause, hlength⟩ := isClause_of_parse hparse hs
      exact ⟨hclause, ((build_eq_ok_iff hparse).1 hc).length_eq.symm.trans hlength⟩

/-- The argument of the first clause makes no payload, but the second piece is no clause; and
    the same argument behind a clause that makes one. -/
theorem build_first_fault_late :
    build "Psp22(x) && Note(b) c" = .error (.trailingInput 1 "c") ∧
      build "Note(b)&&Psp22(x)" = .error (.invalidArgument "Psp22" .missingComma) := by
  constructor
  · have hb : splitClose "b) c".toList = some (['b'], [' ', 'c']) := rfl
    obtain ⟨h, -, -⟩ := build_first_fault "Psp22(x) && Note(b) c"
    obtain ⟨e, -, hbuild, -, -, -, -, hrest⟩ := h ["Psp22(x) ".toList] " Note(b) c".toList []
      (pieces_iff.2 (by rfl)) (List.forall_mem_singleton.2 ((isClause_iff 0).2 ⟨_, rfl⟩))
      (fun hc => by obtain ⟨c, hc⟩ := (isClause_iff 0).1 hc; cases hc)
    rw [hbuild, (hrest "c").2 ⟨" Note".toList, ['b'], [' ', 'c'], ⟨rfl, by decide⟩,
      ⟨'N', by decide, by decide⟩, (splitClose_eq_some_iff.1 hb).2, rfl, by decide⟩]
    rfl
  · obtain ⟨-, h, -⟩ := build_first_fault "Note(b)&&Psp22(x)"
    obtain ⟨ls, hl, hs, -⟩ := parse_eq_ok_iff_split.1
      (show parse "Note(b)&&Psp22(x)" = .ok [⟨"Note", "b"⟩, ⟨"Psp22", "x"⟩] from rfl)
    obtain ⟨hparse, hbuild, -⟩ := h ls hl (pieces_iff.2 hs)
    exact (hbuild _).2 ⟨[⟨"Note", "b"⟩], ⟨"Psp22", "x"⟩, [], .missingComma,
      (Except.ok.inj hparse).symm, List.forall_mem_singleton.2 ⟨_, rfl⟩, rfl, rfl⟩

/-- A type that is missing fails a piece even if something is behind its argument. -/
theorem parse_untyped_trailing :
    Pieces "(x) y".toList ["(x) y".toList] ∧ ¬IsClause "(x) y".toList ∧
      (∃ front argument behind, Opens "(x) y".toList front (argument ++ ')' :: behind) ∧
        IsBalanced 0 argument ∧ "y".toList = trim behind ∧ "y" ≠ "") ∧
      parse "(x) y" ≠ .error (.trailingInput 0 "y") ∧
      build "(x) y" ≠ .error (.trailingInput 0 "y") := by
  have hparse : parse "(x) y" = .error (.emptyTag 0) := rfl
  have hs : splitClose "x) y".toList = some (['x'], [' ', 'y']) := rfl
  refine ⟨pieces_iff.2 (by rfl), fun hc => ?_, ⟨[], ['x'], [' ', 'y'], ⟨rfl, by decide⟩,
    (splitClose_eq_some_iff.1 hs).2, rfl, by decide⟩, ?_, ?_⟩
  · obtain ⟨c, hc⟩ := (isClause_iff 0).1 hc
    cases hc
  · rw [hparse]
    nofun
  · rw [build_of_parse_eq_error hparse]
    nofun

end IntentWire.Expression
