import IntentWire.Expression
import Mathlib.Data.List.Forall2
import Mathlib.Data.List.TakeWhile

/-!
# Laws of clauses

The pieces of an expression and the end of an argument are found going from left to
right, with what is behind gathered up. Here they are without it.

* `Text.eq_takeWhile_bne_append`: a text is cut in two at the first of a character.
* `split_nil`, `split_delimiter`, `split_cons`: the pieces of a text are those of what
  follows a delimiter and an empty one in front, and otherwise those of what follows
  its first character, which goes to the first of them.
* `intercalate_split`, `not_infix_of_mem_split`, `split_intercalate`: the pieces of a text
  make it up, and are those that hold no delimiter.
* `exists_eq_append_delimiter`: a text with a delimiter in it is cut in two at the first.
* `splitClose_eq_some_iff`: the text up to the parenthesis that closes it is balanced
  (`IsBalanced`).
* `splitClose_eq_none_iff`: a text that nothing closes opens at least as many parentheses as
  it closes, however far it is read.

What is done with every clause of an expression succeeds if it does with each, and fails as
it does with the first with which it fails (`Expression.mapM_eq_ok_iff`,
`Expression.mapM_eq_error_iff`). So it is with the records that are built of the clauses
(`Expression.build_eq_ok_iff`, `Expression.build_eq_error_iff`).
-/

namespace IntentWire

/-! ### The first of a character -/

namespace Text

variable {d : Char} {s t : List Char}

theorem forall_mem_bne (h : d ∉ s) : ∀ c ∈ s, (c != d) = true :=
  fun _ hc => bne_iff_ne.2 (ne_of_mem_of_not_mem hc h)

theorem takeWhile_bne_append (h : d ∉ s) (t : List Char) :
    (s ++ d :: t).takeWhile (· != d) = s := by
  rw [List.takeWhile_append_of_pos (forall_mem_bne h), List.takeWhile_cons_of_neg (by simp),
    List.append_nil]

theorem dropWhile_bne_append (h : d ∉ s) (t : List Char) :
    (s ++ d :: t).dropWhile (· != d) = d :: t := by
  rw [List.dropWhile_append_of_pos (forall_mem_bne h), List.dropWhile_cons_of_neg (by simp)]

theorem dropWhile_bne_of_notMem (h : d ∉ s) : s.dropWhile (· != d) = [] :=
  List.dropWhile_eq_nil_iff.2 (forall_mem_bne h)

theorem notMem_takeWhile_bne (d : Char) (s : List Char) : d ∉ s.takeWhile (· != d) := by
  intro h
  have hd := List.all_eq_true.1 (List.all_takeWhile (p := (· != d)) (l := s)) d h
  exact bne_iff_ne.1 hd rfl

/-- A text with a character in it is what is in front of the first one and behind it. -/
theorem eq_takeWhile_bne_append {c : Char} (h : s.dropWhile (· != d) = c :: t) :
    s = s.takeWhile (· != d) ++ d :: t := by
  have hc := List.head?_dropWhile_not (· != d) s
  rw [h] at hc
  obtain rfl : c = d := by simpa using hc
  rw [← h, List.takeWhile_append_dropWhile]

end Text

namespace Clause

/-! ### Pieces -/

theorem splitOnto_cons {c : Char} {s : List Char} (h : c = '&' → s.head? ≠ some '&')
    (done : Array (List Char)) (current : List Char) :
    splitOnto done current (c :: s) = splitOnto done (c :: current) s := by
  refine splitOnto.eq_3 done current c s fun t hc hs => h hc ?_
  rw [hs, List.head?_cons]

theorem splitOnto_of_length_le {n : Nat} {s : List Char} (hs : s.length ≤ n)
    (done : Array (List Char)) (current : List Char) :
    splitOnto done current s =
      done.toList ++ (splitOnto #[] [] s).modifyHead (current.reverse ++ ·) := by
  induction n generalizing s done current with
  | zero =>
    obtain rfl := List.eq_nil_of_length_eq_zero (Nat.le_zero.1 hs)
    simp [splitOnto]
  | succ n ih =>
    cases s with
    | nil => simp [splitOnto]
    | cons c s =>
      rw [List.length_cons] at hs
      by_cases hd : c = '&' ∧ s.head? = some '&'
      · obtain ⟨rfl, hd⟩ := hd
        obtain ⟨s, rfl⟩ := List.head?_eq_some_iff.1 hd
        rw [List.length_cons] at hs
        rw [splitOnto, splitOnto, ih (by omega), ih (by omega) (#[].push _) []]
        simp
      · have hd : c = '&' → s.head? ≠ some '&' := fun hc hh => hd ⟨hc, hh⟩
        rw [splitOnto_cons hd, splitOnto_cons hd, ih (by omega), ih (by omega) #[] [c]]
        cases splitOnto #[] [] s <;> simp

/-- What is gathered so far goes in front of what is found. -/
theorem splitOnto_eq (done : Array (List Char)) (current s : List Char) :
    splitOnto done current s = done.toList ++ (split s).modifyHead (current.reverse ++ ·) :=
  splitOnto_of_length_le (Nat.le_refl s.length) done current

theorem split_nil : split [] = [[]] := rfl

theorem split_delimiter (s : List Char) : split ('&' :: '&' :: s) = [] :: split s := by
  rw [split, splitOnto, splitOnto_eq]
  cases split s <;> rfl

theorem split_cons {c : Char} {s : List Char} (h : c = '&' → s.head? ≠ some '&') :
    split (c :: s) = (split s).modifyHead (c :: ·) := by
  rw [split, splitOnto_cons h, splitOnto_eq]
  rfl

/-- What holds of the empty text, and of a text if it holds of what follows a delimiter at
    its start, or else of what follows its first character, holds of every text. -/
@[elab_as_elim]
theorem split_induction {P : List Char → Prop} (nil : P [])
    (delimiter : ∀ s, P s → P ('&' :: '&' :: s))
    (cons : ∀ c s, (c = '&' → s.head? ≠ some '&') → P s → P (c :: s)) : ∀ s, P s
  | [] => nil
  | [c] => cons c [] (fun _ => nofun) nil
  | c :: d :: s =>
    if h : c = '&' ∧ d = '&' then
      h.1.symm ▸ h.2.symm ▸ delimiter s (split_induction nil delimiter cons s)
    else
      cons c (d :: s) (fun hc hd => h ⟨hc, Option.some.inj hd⟩)
        (split_induction nil delimiter cons (d :: s))

/-- A text has pieces, the first of which it starts with, and which make it up with the
    delimiter between them. -/
theorem exists_split_eq_cons (s : List Char) : ∃ p ps, split s = p :: ps ∧ p <+: s ∧
    delimiter.toList.intercalate (p :: ps) = s := by
  induction s using split_induction with
  | nil => exact ⟨[], [], rfl, List.nil_prefix, rfl⟩
  | delimiter s ih =>
    obtain ⟨p, ps, hs, -, hj⟩ := ih
    refine ⟨[], p :: ps, by rw [split_delimiter, hs], List.nil_prefix, ?_⟩
    rw [List.intercalate_cons_cons, hj]
    rfl
  | cons c s h ih =>
    obtain ⟨p, ps, hs, hp, hj⟩ := ih
    refine ⟨c :: p, ps, by rw [split_cons h, hs]; rfl, List.cons_prefix_cons.2 ⟨rfl, hp⟩, ?_⟩
    rw [← hj]
    cases ps with
    | nil => rw [List.intercalate_singleton, List.intercalate_singleton]
    | cons q ps => rw [List.intercalate_cons_cons, List.intercalate_cons_cons]; rfl

/-- The pieces of a text make it up, with the delimiter between them. -/
theorem intercalate_split (s : List Char) : delimiter.toList.intercalate (split s) = s := by
  obtain ⟨p, ps, hs, -, hj⟩ := exists_split_eq_cons s
  rw [hs, hj]

/-- No delimiter stands in a piece. -/
theorem not_infix_of_mem_split (s : List Char) : ∀ p ∈ split s, ¬delimiter.toList <:+: p := by
  induction s using split_induction with
  | nil =>
    rw [split_nil]
    simp [delimiter]
  | delimiter s ih =>
    rw [split_delimiter]
    refine List.forall_mem_cons.2 ⟨?_, ih⟩
    simp [Clause.delimiter]
  | cons c s h ih =>
    obtain ⟨p, ps, hs, hp, -⟩ := exists_split_eq_cons s
    rw [hs] at ih
    obtain ⟨ihp, ihps⟩ := List.forall_mem_cons.1 ih
    rw [split_cons h, hs]
    refine List.forall_mem_cons.2 ⟨fun hi => ?_, ihps⟩
    rcases List.infix_cons_iff.1 hi with hi | hi
    -- The delimiter would stand at the start of the text.
    · obtain ⟨rfl, hd⟩ := List.cons_prefix_cons.1 hi
      obtain ⟨t, rfl⟩ := hd.trans hp
      exact h rfl rfl
    · exact ihp hi

/-- A text without a delimiter, which does not end in half of one, is the first piece if a
    delimiter follows it. -/
theorem split_append_delimiter {p : List Char} (hp : ¬delimiter.toList <:+: p)
    (hl : p.getLast? ≠ some '&') (s : List Char) :
    split (p ++ '&' :: '&' :: s) = p :: split s := by
  induction p with
  | nil => exact split_delimiter s
  | cons c p ih =>
    have hc : c = '&' → (p ++ '&' :: '&' :: s).head? ≠ some '&' := by
      rintro rfl hh
      cases p with
      | nil => exact hl rfl
      | cons d p =>
        obtain rfl := Option.some.inj hh
        exact hp ⟨[], p, rfl⟩
    have hl' : p.getLast? ≠ some '&' := by
      intro h
      rw [List.getLast?_cons, h] at hl
      exact hl rfl
    rw [List.cons_append, split_cons hc, ih (fun h => hp (List.infix_cons h)) hl']
    rfl

/-- A text without a delimiter is a piece. -/
theorem split_of_not_infix {p : List Char} (hp : ¬delimiter.toList <:+: p) : split p = [p] := by
  induction p with
  | nil => rfl
  | cons c p ih =>
    have hc : c = '&' → p.head? ≠ some '&' := by
      rintro rfl hh
      obtain ⟨p, rfl⟩ := List.head?_eq_some_iff.1 hh
      exact hp ⟨[], p, rfl⟩
    rw [split_cons hc, ih (fun h => hp (List.infix_cons h))]
    rfl

/-- Texts without a delimiter, which do not end in half of one, are the pieces of the text
    that they make up. -/
theorem split_intercalate {ps : List (List Char)} (hne : ps ≠ [])
    (h : ∀ p ∈ ps, ¬delimiter.toList <:+: p ∧ p.getLast? ≠ some '&') :
    split (delimiter.toList.intercalate ps) = ps := by
  induction ps with
  | nil => exact absurd rfl hne
  | cons p ps ih =>
    obtain ⟨⟨hp, hl⟩, hps⟩ := List.forall_mem_cons.1 h
    cases ps with
    | nil => rw [List.intercalate_singleton, split_of_not_infix hp]
    | cons q ps =>
      rw [List.intercalate_cons_cons, List.append_assoc]
      exact (split_append_delimiter hp hl _).trans
        (congrArg (p :: ·) (ih (List.cons_ne_nil q ps) hps))

/-! ### Delimiters -/

/-- No delimiter stands in two texts together if none stands in either, nor across the end
    of the first. -/
theorem not_infix_append {s t : List Char} (hs : ¬delimiter.toList <:+: s)
    (ht : ¬delimiter.toList <:+: t) (h : s.getLast? = some '&' → t.head? ≠ some '&') :
    ¬delimiter.toList <:+: s ++ t := by
  induction s with
  | nil => exact ht
  | cons c s ih =>
    have hl : s.getLast? = some '&' → t.head? ≠ some '&' := fun hl =>
      h (by rw [List.getLast?_cons, hl]; rfl)
    rw [List.cons_append, List.infix_cons_iff]
    rintro (hi | hi)
    -- The delimiter would stand at the start.
    · obtain ⟨rfl, hd⟩ := List.cons_prefix_cons.1 hi
      cases s with
      | nil =>
        obtain ⟨t, rfl⟩ := hd
        exact h rfl rfl
      | cons d s =>
        obtain ⟨rfl, -⟩ := List.cons_prefix_cons.1 hd
        exact hs ⟨[], s, rfl⟩
    · exact ih (fun hi' => hs (List.infix_cons hi')) hl hi

theorem not_infix_of_notMem {s : List Char} (h : '&' ∉ s) : ¬delimiter.toList <:+: s :=
  fun hi => h (hi.subset (List.mem_cons_self ..))

/-- No delimiter stands in two texts and between them if none stands in either. -/
theorem not_infix_append_cons {s t : List Char} {c : Char} (hc : c ≠ '&')
    (hs : ¬delimiter.toList <:+: s) (ht : ¬delimiter.toList <:+: t) :
    ¬delimiter.toList <:+: s ++ c :: t := by
  refine not_infix_append hs (fun hi => ?_) fun _ h => hc (Option.some.inj h)
  rcases List.infix_cons_iff.1 hi with hi | hi
  · exact hc (List.cons_prefix_cons.1 hi).1.symm
  · exact ht hi

/-- A text with a delimiter in it is what is in front of the first one and behind it. What is
    in front does not end in half of one. -/
theorem exists_eq_append_delimiter {s : List Char} (h : delimiter.toList <:+: s) :
    ∃ p t, s = p ++ '&' :: '&' :: t ∧ ¬delimiter.toList <:+: p ∧ p.getLast? ≠ some '&' := by
  induction s using split_induction with
  | nil => exact absurd (List.infix_nil.1 h) (by decide)
  | delimiter s _ => exact ⟨[], s, rfl, not_infix_of_notMem List.not_mem_nil, nofun⟩
  | cons c s hc ih =>
    have hi : delimiter.toList <:+: s := by
      rcases List.infix_cons_iff.1 h with hi | hi
      · obtain ⟨rfl, t, rfl⟩ := List.cons_prefix_cons.1 hi
        exact absurd rfl (hc rfl)
      · exact hi
    obtain ⟨p, t, rfl, hp, hl⟩ := ih hi
    refine ⟨c :: p, t, rfl, fun hi => ?_, fun hl' => ?_⟩
    · rcases List.infix_cons_iff.1 hi with hi | hi
      · obtain ⟨rfl, q, rfl⟩ := List.cons_prefix_cons.1 hi
        exact hc rfl rfl
      · exact hp hi
    · cases p with
      | nil => exact hc (Option.some.inj hl') rfl
      | cons d p => exact hl (by rwa [List.getLast?_cons_cons] at hl')

/-- Texts without a delimiter, which do not end in half of one, are the first pieces of the
    text that they make up with others, if a delimiter follows the last of them. -/
theorem exists_split_intercalate_append {ps qs : List (List Char)} {p t : List Char}
    (h : ∀ q ∈ ps ++ [p], ¬delimiter.toList <:+: q ∧ q.getLast? ≠ some '&') :
    ∃ rest, split (delimiter.toList.intercalate (ps ++ (p ++ '&' :: '&' :: t) :: qs)) =
      ps ++ p :: rest := by
  induction ps with
  | nil =>
    obtain ⟨hp, hl⟩ := h p (List.mem_singleton_self p)
    obtain ⟨u, hu⟩ : ∃ u, delimiter.toList.intercalate ((p ++ '&' :: '&' :: t) :: qs) =
        p ++ '&' :: '&' :: u := by
      cases qs with
      | nil => exact ⟨t, List.intercalate_singleton ..⟩
      | cons q qs =>
        rw [List.intercalate_cons_cons, List.append_assoc, List.append_assoc]
        exact ⟨_, rfl⟩
    exact ⟨split u, by rw [List.nil_append, hu, split_append_delimiter hp hl]; rfl⟩
  | cons q ps ih =>
    obtain ⟨⟨hq, hl⟩, hps⟩ := List.forall_mem_cons.1 h
    obtain ⟨rest, hr⟩ := ih hps
    have hne : ps ++ (p ++ '&' :: '&' :: t) :: qs ≠ [] := by simp
    refine ⟨rest, ?_⟩
    rw [List.cons_append, List.intercalate_cons_of_ne_nil hne, List.append_assoc]
    exact (split_append_delimiter hq hl _).trans (congrArg (q :: ·) hr)

/-! ### Arguments -/

/-- Whether the parentheses in a text match, when `depth` more are open in front of it:
    in total, and with none closed before it is open. -/
def IsBalanced (depth : Nat) (s : List Char) : Prop :=
  s.count ')' = s.count '(' + depth ∧ ∀ p, p <+: s → p.count ')' ≤ p.count '(' + depth

theorem isBalanced_nil {depth : Nat} : IsBalanced depth [] ↔ depth = 0 := by
  constructor
  · rintro ⟨h, _⟩
    simpa using h.symm
  · rintro rfl
    exact ⟨rfl, fun p hp => by simp [List.prefix_nil.1 hp]⟩

/-- Past the first character of a text, more or fewer parentheses are open. -/
theorem isBalanced_cons {depth depth' : Nat} {c : Char}
    (h : depth + [c].count '(' = depth' + [c].count ')') (s : List Char) :
    IsBalanced depth (c :: s) ↔ IsBalanced depth' s := by
  have hcount : ∀ t, (c :: t).count ')' + (t.count '(' + depth') =
      (c :: t).count '(' + depth + t.count ')' := by
    intro t
    rw [List.count_singleton, List.count_singleton] at h
    rw [List.count_cons, List.count_cons]
    omega
  constructor
  · rintro ⟨ht, hp⟩
    refine ⟨by have := hcount s; omega, fun p hs => ?_⟩
    have := hp (c :: p) (List.cons_prefix_cons.2 ⟨rfl, hs⟩)
    have := hcount p
    omega
  · rintro ⟨ht, hp⟩
    refine ⟨by have := hcount s; omega, fun p hs => ?_⟩
    cases p with
    | nil => exact Nat.zero_le _
    | cons d p =>
      obtain ⟨rfl, hps⟩ := List.cons_prefix_cons.1 hs
      have := hp p hps
      have := hcount p
      omega

theorem isBalanced_open {depth : Nat} {s : List Char} :
    IsBalanced depth ('(' :: s) ↔ IsBalanced (depth + 1) s :=
  isBalanced_cons rfl s

theorem isBalanced_close {depth : Nat} {s : List Char} :
    IsBalanced (depth + 1) (')' :: s) ↔ IsBalanced depth s :=
  isBalanced_cons rfl s

theorem isBalanced_other {depth : Nat} {c : Char} {s : List Char} (ho : c ≠ '(') (hc : c ≠ ')') :
    IsBalanced depth (c :: s) ↔ IsBalanced depth s :=
  isBalanced_cons (by simp [ho, hc]) s

theorem not_isBalanced_close {s : List Char} : ¬IsBalanced 0 (')' :: s) := by
  rintro ⟨_, hp⟩
  have := hp [')'] (List.cons_prefix_cons.2 ⟨rfl, List.nil_prefix⟩)
  simp at this

/-- A text that does not end at its first character splits as what follows that does. -/
theorem exists_append_cons_iff {P Q : List Char → Prop} {c : Char} {before s x t : List Char}
    (hP : ∀ a, P (c :: a) ↔ Q a) (hc : c = ')' → ¬P []) :
    (∃ a, x = before.reverse ++ a ∧ c :: s = a ++ ')' :: t ∧ P a) ↔
      ∃ a, x = (c :: before).reverse ++ a ∧ s = a ++ ')' :: t ∧ Q a := by
  constructor
  · rintro ⟨a, rfl, hs, ha⟩
    cases a with
    | nil => exact absurd ha (hc (List.cons.inj hs).1)
    | cons d a =>
      obtain ⟨rfl, rfl⟩ := List.cons.inj hs
      exact ⟨a, by simp, rfl, (hP a).1 ha⟩
  · rintro ⟨a, rfl, rfl, ha⟩
    exact ⟨c :: a, by simp, rfl, (hP a).2 ha⟩

theorem splitCloseOnto_eq_some_iff {depth : Nat} {before s x t : List Char} :
    splitCloseOnto depth before s = some (x, t) ↔
      ∃ a, x = before.reverse ++ a ∧ s = a ++ ')' :: t ∧ IsBalanced depth a := by
  induction s generalizing depth before with
  | nil => simp [splitCloseOnto]
  | cons c s ih =>
    rw [splitCloseOnto.eq_def]
    dsimp only
    by_cases ho : c = '('
    · subst ho
      rw [if_pos rfl, ih, exists_append_cons_iff (fun _ => isBalanced_open) nofun]
    · rw [if_neg ho]
      by_cases hc : c = ')'
      · subst hc
        rw [if_pos rfl]
        cases depth with
        | zero =>
          constructor
          · rintro ⟨⟩
            exact ⟨[], by simp, rfl, isBalanced_nil.2 rfl⟩
          · rintro ⟨a, rfl, hs, ha⟩
            cases a with
            | nil => simp [(List.cons.inj hs).2]
            | cons d a => exact absurd ((List.cons.inj hs).1 ▸ ha) not_isBalanced_close
        | succ depth =>
          dsimp only
          rw [ih, exists_append_cons_iff (fun _ => isBalanced_close)
            fun _ h => Nat.succ_ne_zero _ (isBalanced_nil.1 h)]
      · rw [if_neg hc, ih, exists_append_cons_iff (fun _ => isBalanced_other ho hc)
          fun h => absurd h hc]

theorem splitClose_eq_some_iff {s a t : List Char} :
    splitClose s = some (a, t) ↔ s = a ++ ')' :: t ∧ IsBalanced 0 a := by
  simp [splitClose, splitCloseOnto_eq_some_iff]

/-- What holds of every start of a text holds of the empty one and of every start that has
    its first character. -/
theorem forall_prefix_cons_iff {P : List Char → Prop} {c : Char} {s : List Char} :
    (∀ p, p <+: c :: s → P p) ↔ P [] ∧ ∀ p, p <+: s → P (c :: p) := by
  constructor
  · intro h
    exact ⟨h [] List.nil_prefix, fun p hp => h (c :: p) (List.cons_prefix_cons.2 ⟨rfl, hp⟩)⟩
  · rintro ⟨h, hc⟩ p hp
    cases p with
    | nil => exact h
    | cons d p =>
      obtain ⟨rfl, hps⟩ := List.cons_prefix_cons.1 hp
      exact hc p hps

theorem splitCloseOnto_eq_none_iff {depth : Nat} {before s : List Char} :
    splitCloseOnto depth before s = none ↔
      ∀ p, p <+: s → p.count ')' ≤ p.count '(' + depth := by
  induction s generalizing depth before with
  | nil => simp [splitCloseOnto, List.prefix_nil]
  | cons c s ih =>
    rw [splitCloseOnto.eq_def, forall_prefix_cons_iff]
    dsimp only
    by_cases ho : c = '('
    · subst ho
      rw [if_pos rfl, ih]
      simp [Nat.add_assoc, Nat.add_comm 1]
    · rw [if_neg ho]
      by_cases hc : c = ')'
      · subst hc
        rw [if_pos rfl]
        cases depth with
        | zero => exact iff_of_false nofun fun h => absurd (h.2 [] List.nil_prefix) (by simp)
        | succ depth =>
          dsimp only
          rw [ih]
          simp [← Nat.add_assoc]
      · rw [if_neg hc, ih]
        simp [ho, hc]

theorem splitClose_eq_none_iff {s : List Char} :
    splitClose s = none ↔ ∀ p, p <+: s → p.count ')' ≤ p.count '(' :=
  splitCloseOnto_eq_none_iff

/-- Nothing closes the start of a text whose parentheses match. -/
theorem IsBalanced.splitClose_eq_none {s p : List Char} (h : IsBalanced 0 s) (hp : p <+: s) :
    splitClose p = none :=
  splitClose_eq_none_iff.2 fun _ hq => h.2 _ (hq.trans hp)

end Clause

/-! ### All of a list -/

namespace Expression

variable {ε α β : Type}

theorem bind_ok_iff {x : Except ε α} {f : α → Except ε β} {b : β} :
    x >>= f = .ok b ↔ ∃ a, x = .ok a ∧ f a = .ok b := by
  cases x with
  | error e => exact ⟨nofun, fun ⟨_, h, _⟩ => nomatch h⟩
  | ok a =>
    refine ⟨fun h => ⟨a, rfl, h⟩, ?_⟩
    rintro ⟨_, ⟨⟩, h⟩
    exact h

/-- All of a list succeed if every one does. -/
theorem mapM_eq_ok_iff {f : α → Except ε β} {l : List α} {bs : List β} :
    l.mapM f = .ok bs ↔ List.Forall₂ (fun a b => f a = .ok b) l bs := by
  induction l generalizing bs with
  | nil =>
    rw [List.mapM_nil, List.forall₂_nil_left_iff]
    exact ⟨fun h => (Except.ok.inj h).symm, fun h => congrArg Except.ok h.symm⟩
  | cons a l ih =>
    rw [List.mapM_cons, bind_ok_iff, List.forall₂_cons_left_iff]
    constructor
    · rintro ⟨b, hb, h⟩
      obtain ⟨bs, hbs, ⟨⟩⟩ := bind_ok_iff.1 h
      exact ⟨b, bs, hb, ih.1 hbs, rfl⟩
    · rintro ⟨b, bs, hb, hbs, rfl⟩
      exact ⟨b, hb, bind_ok_iff.2 ⟨bs, ih.2 hbs, rfl⟩⟩

theorem bind_error_iff {x : Except ε α} {f : α → Except ε β} {e : ε} :
    x >>= f = .error e ↔ x = .error e ∨ ∃ a, x = .ok a ∧ f a = .error e := by
  cases x with
  | error e' =>
    refine ⟨fun h => .inl (congrArg Except.error (Except.error.inj h)), ?_⟩
    rintro (⟨⟨⟩⟩ | ⟨_, h, _⟩)
    · rfl
    · cases h
  | ok a =>
    refine ⟨fun h => .inr ⟨a, rfl, h⟩, ?_⟩
    rintro (h | ⟨_, ⟨⟩, h⟩)
    · cases h
    · exact h

/-- All of a list fail as the first does that fails. -/
theorem mapM_eq_error_iff {f : α → Except ε β} {l : List α} {e : ε} :
    l.mapM f = .error e ↔
      ∃ l₁ a l₂, l = l₁ ++ a :: l₂ ∧ (∀ a ∈ l₁, ∃ b, f a = .ok b) ∧ f a = .error e := by
  induction l with
  | nil =>
    rw [List.mapM_nil]
    exact iff_of_false nofun fun ⟨_, _, _, h, _⟩ => by simp at h
  | cons a l ih =>
    rw [List.mapM_cons, bind_error_iff]
    constructor
    · rintro (ha | ⟨b, hb, h⟩)
      · exact ⟨[], a, l, rfl, nofun, ha⟩
      · obtain h | ⟨bs, -, h⟩ := bind_error_iff.1 h
        · obtain ⟨l₁, a', l₂, rfl, hok, ha'⟩ := ih.1 h
          exact ⟨a :: l₁, a', l₂, rfl, List.forall_mem_cons.2 ⟨⟨b, hb⟩, hok⟩, ha'⟩
        · cases h
    · rintro ⟨l₁, a', l₂, hl, hok, ha'⟩
      cases l₁ with
      | nil =>
        obtain ⟨rfl, -⟩ := List.cons.inj hl
        exact .inl ha'
      | cons c l₁ =>
        obtain ⟨rfl, rfl⟩ := List.cons.inj hl
        obtain ⟨⟨b, hb⟩, hok⟩ := List.forall_mem_cons.1 hok
        exact .inr ⟨b, hb, bind_error_iff.2 (.inl (ih.2 ⟨l₁, a', l₂, rfl, hok, ha'⟩))⟩

end Expression

/-! ### Records of clauses -/

namespace Clause

variable {c : Clause}

theorem toRecord_eq_ok_iff {r : Record} :
    c.toRecord = .ok r ↔ r.tag = c.tag ∧ Payload.build c.tag c.argument = .ok r.payload := by
  rw [toRecord]
  cases Payload.build c.tag c.argument with
  | error reason => exact ⟨nofun, fun h => nomatch h.2⟩
  | ok payload =>
    constructor
    · rintro ⟨⟩
      exact ⟨rfl, rfl⟩
    · rintro ⟨ht, hp⟩
      rw [Except.ok.inj hp, ← ht]

theorem exists_toRecord_iff : (∃ r, c.toRecord = .ok r) ↔
    ∃ payload, Payload.build c.tag c.argument = .ok payload := by
  simp only [toRecord_eq_ok_iff]
  exact ⟨fun ⟨r, _, h⟩ => ⟨r.payload, h⟩, fun ⟨payload, h⟩ => ⟨⟨c.tag, payload⟩, rfl, h⟩⟩

theorem toRecord_eq_error_iff {e : ExpressionError} : c.toRecord = .error e ↔
    ∃ reason, Payload.build c.tag c.argument = .error reason ∧
      e = .invalidArgument c.tag reason := by
  rw [toRecord]
  cases Payload.build c.tag c.argument with
  | error reason =>
    constructor
    · rintro ⟨⟩
      exact ⟨reason, rfl, rfl⟩
    · rintro ⟨_, ⟨⟩, rfl⟩
      rfl
  | ok payload => exact ⟨nofun, fun ⟨_, h, _⟩ => nomatch h⟩

end Clause

namespace Expression

variable {s : String} {clauses : List Clause}

/-- A collection is built of the records of the clauses. -/
theorem build_eq_ok_iff (hp : parse s = .ok clauses) {c : Collection} :
    build s = .ok c ↔
      List.Forall₂ (fun clause record => clause.toRecord = .ok record) clauses c := by
  rw [build, hp]
  exact mapM_eq_ok_iff

/-- No collection is built of the clauses if one makes no record, and the first such tells
    why. -/
theorem build_eq_error_iff (hp : parse s = .ok clauses) {e : ExpressionError} :
    build s = .error e ↔
      ∃ before clause behind, clauses = before ++ clause :: behind ∧
        (∀ c ∈ before, ∃ record, c.toRecord = .ok record) ∧ clause.toRecord = .error e := by
  rw [build, hp]
  exact mapM_eq_error_iff

/-- What is not parsed is not built, with the same error. -/
theorem build_of_parse_eq_error {e : ExpressionError} (hp : parse s = .error e) :
    build s = .error e := by
  rw [build, hp]
  rfl

end Expression

end IntentWire
