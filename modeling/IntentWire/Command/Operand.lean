import IntentWire.Command.Arguments
import IntentWire.Expression.Lemmas

/-!
# Operands

A word that is not an option is an operand, wherever it stands behind the name of a command
that takes one. What is read before it is read no differently: a call that decodes and has no
input is one that decodes the operand when this is put at its end (`parse_append_operand`).

* `gather_append_command`: arguments at the end are left to the command.
* `gather_append_operand`: an operand at the end is taken last.
-/

namespace IntentWire.Command

open Expression

variable {scope : Scope} {g g' : Gathered} {argument : String} {arguments rest : List String}

namespace Gathered

/-- Setting a parameter bears on nothing but the settings and the file. -/
theorem set_eq_ok {p : Parameter} {value : String} (h : g.set p value = .ok g') :
    g'.pending = g.pending ∧ g'.operand = g.operand := by
  cases p
  all_goals
    obtain ⟨_, -, ⟨⟩⟩ := bind_ok_iff.1 h
    exact ⟨rfl, rfl⟩

/-- Once the pending parameter is set, none is pending, and there is no other operand. -/
theorem settle_eq_ok (h : g.settle = .ok g') :
    g.awaitsValue = none ∧ g'.pending = none ∧ g'.operand = g.operand := by
  rw [settle] at h
  rw [awaitsValue]
  split at h
  · next hp =>
    cases h
    rw [hp]
    exact ⟨rfl, rfl, rfl⟩
  · cases h
  · next hp =>
    rw [hp]
    exact ⟨rfl, set_eq_ok h⟩

/-- An operand is taken where there is none, once the pending parameter is set. -/
theorem takeOperand_decode_eq (h : g.operand = none) (hg : g.settle = .ok g') :
    g.takeOperand .decode argument = .ok { g' with operand := some argument } := by
  rw [takeOperand, h, hg]
  rfl

end Gathered

/-! ### What an argument is taken for -/

theorem gather_value {p : Parameter} (hw : Word.ofArgument argument = .plain)
    (hp : g.awaitsValue = some p) : gather scope g (argument :: rest) =
      gather scope { g with pending := some (p, some argument) } rest := by
  rw [gather, hw, hp]

theorem gather_command {command : Scope} (hw : Word.ofArgument argument = .plain)
    (hp : g.awaitsValue = none) (hh : ¬(scope = .top && argument = "help"))
    (hc : scope.command? argument = some command) :
    gather scope g (argument :: rest) = .ok (g, some (command, rest)) := by
  rw [gather, hw, hp]
  dsimp only
  rw [if_neg hh, hc]

theorem gather_operand (hw : Word.ofArgument argument = .plain) (hp : g.awaitsValue = none)
    (hh : ¬(scope = .top && argument = "help")) (hc : scope.command? argument = none) :
    gather scope g (argument :: rest) =
      g.takeOperand scope argument >>= fun g => gather scope g rest := by
  rw [gather, hw, hp]
  dsimp only
  rw [if_neg hh, hc]

theorem gather_terminator (hw : Word.ofArgument argument = .terminator)
    (hp : g.awaitsValue = none) : gather scope g (argument :: rest) =
      Gathered.takeOperands scope g rest >>= fun g => pure (g, none) := by
  rw [gather, hw, hp]

theorem gather_option (hplain : Word.ofArgument argument ≠ .plain)
    (hterminator : Word.ofArgument argument ≠ .terminator) :
    gather scope g (argument :: rest) =
      g.takeOption scope argument (Word.ofArgument argument) >>=
        fun g => gather scope g rest := by
  rw [gather]
  split
  · next hw _ => exact absurd hw hplain
  · next hw _ => exact absurd hw hplain
  · next hw _ => exact absurd hw hterminator
  · next hw _ => exact absurd hw hterminator
  · rfl

/-- An argument is not of a form that it has neither where a value is awaited nor where none
    is. -/
theorem ofArgument_ne {w : Word}
    (hsome : ∀ p, Word.ofArgument argument = w → g.awaitsValue = some p → False)
    (hnone : Word.ofArgument argument = w → g.awaitsValue = none → False) :
    Word.ofArgument argument ≠ w := by
  intro hw
  cases hp : g.awaitsValue with
  | none => exact hnone hw hp
  | some p => exact hsome p hw hp

/-! ### Arguments at the end -/

/-- Arguments at the end are left to the command. -/
theorem gather_append_command {command : Scope}
    (h : gather scope g arguments = .ok (g', some (command, rest))) (more : List String) :
    gather scope g (arguments ++ more) = .ok (g', some (command, rest ++ more)) := by
  -- Only the name of a command (`case4`) ends with one; the other cases that do not fail go on.
  fun_induction gather scope g arguments with
  | case1 | case3 | case6 => cases h
  | case2 g argument arguments p hp hw ih =>
    rw [List.cons_append, gather_value hw hp]
    exact ih h
  | case4 g argument arguments hp hw hh command hc =>
    cases h
    exact gather_command hw hp hh hc
  | case5 g argument arguments hp hw hh hc ih =>
    obtain ⟨g₁, hg, h⟩ := bind_ok_iff.1 h
    rw [List.cons_append, gather_operand hw hp hh hc]
    exact bind_ok_iff.2 ⟨g₁, hg, ih g₁ h⟩
  | case7 g argument arguments hp hw =>
    obtain ⟨_, -, ⟨⟩⟩ := bind_ok_iff.1 h
  | case8 g argument arguments hvalue hplain hawaits hterminator ih =>
    obtain ⟨g₁, hg, h⟩ := bind_ok_iff.1 h
    rw [List.cons_append,
      gather_option (ofArgument_ne hvalue hplain) (ofArgument_ne hawaits hterminator)]
    exact bind_ok_iff.2 ⟨g₁, hg, ih g₁ h⟩

theorem takeOperands_append (scope : Scope) (g : Gathered) (arguments : List String)
    (argument : String) : Gathered.takeOperands scope g (arguments ++ [argument]) =
      Gathered.takeOperands scope g arguments >>= fun g => g.takeOperand scope argument := by
  rw [Gathered.takeOperands, List.foldlM_append]
  simp only [List.foldlM_cons, List.foldlM_nil, bind_pure]
  rfl

/-- An operand at the end of what belongs to a command is taken last. -/
theorem gather_append_operand (hs : scope ≠ .top)
    (h : gather scope g arguments = .ok (g', none)) (hp : g'.awaitsValue = none)
    (hw : Word.ofArgument argument = .plain) :
    gather scope g (arguments ++ [argument]) =
      g'.takeOperand scope argument >>= fun g => pure (g, none) := by
  -- The argument is reached at the end (`case1`), or as an operand behind two dashes (`case7`).
  fun_induction gather scope g arguments with
  | case1 g =>
    cases h
    exact gather_operand hw hp (by simp [hs]) (if_neg hs)
  | case2 g first arguments p hp' hw' ih =>
    rw [List.cons_append, gather_value hw' hp']
    exact ih h
  | case3 | case4 | case6 => cases h
  | case5 g first arguments hp' hw' hh hc ih =>
    obtain ⟨g₁, hg, h⟩ := bind_ok_iff.1 h
    rw [List.cons_append, gather_operand hw' hp' hh hc, hg]
    exact ih g₁ h
  | case7 g first arguments hp' hw' =>
    obtain ⟨g₁, hg, ⟨⟩⟩ := bind_ok_iff.1 h
    rw [List.cons_append, gather_terminator hw' hp', takeOperands_append, hg]
    rfl
  | case8 g first arguments hvalue hplain hawaits hterminator ih =>
    obtain ⟨g₁, hg, h⟩ := bind_ok_iff.1 h
    rw [List.cons_append,
      gather_option (ofArgument_ne hvalue hplain) (ofArgument_ne hawaits hterminator), hg]
    exact ih g₁ h

/-- Behind the name of a command there is no other. -/
theorem gather_command_eq_none {command : Option (Scope × List String)} (hs : scope ≠ .top)
    (h : gather scope g arguments = .ok (g', command)) : command = none := by
  fun_induction gather scope g arguments with
  | case1 => cases h; rfl
  | case2 g argument arguments p hp hw ih => exact ih h
  | case3 | case6 => cases h
  | case4 g argument arguments hp hw hh command hc => cases (if_neg hs).symm.trans hc
  | case5 g argument arguments hp hw hh hc ih =>
    obtain ⟨g₁, -, h⟩ := bind_ok_iff.1 h
    exact ih g₁ h
  | case7 =>
    obtain ⟨_, -, ⟨⟩⟩ := bind_ok_iff.1 h
    rfl
  | case8 g argument arguments hvalue hplain hawaits hterminator ih =>
    obtain ⟨g₁, -, h⟩ := bind_ok_iff.1 h
    exact ih g₁ h

/-! ### Calls that decode -/

/-- What is gathered for a call that decodes and has no input is but for the operand what is
    gathered for one that has it. -/
theorem Gathered.action_eq_missing (h : g.action scope = .ok (.decode .missing))
    (argument : String) : scope = .decode ∧ g.operand = none ∧
      { g with operand := some argument }.action .decode = .ok (.decode (.hex argument)) := by
  cases scope with
  | top => cases h
  | encode =>
    rw [action] at h
    split at h <;> cases h
  | version => cases h
  | decode =>
    rw [action] at h
    split at h
    · cases h
    · cases h
    · cases h
    · next ho hf hs =>
      refine ⟨rfl, ho, ?_⟩
      rw [action, hf, hs]
    · cases h

/-- A call that decodes and has no input is one that decodes the operand when this is put at
    its end. -/
theorem parse_append_operand {env : Environment} {settings : Settings}
    (h : parse env arguments = .ok ⟨settings, .decode .missing⟩)
    (hw : Word.ofArgument argument = .plain) :
    parse env (arguments ++ [argument]) = .ok ⟨settings, .decode (.hex argument)⟩ := by
  obtain ⟨⟨outer, command⟩, hcommand, h⟩ := bind_ok_iff.1 h
  cases command with
  | none => cases h
  | some command =>
    obtain ⟨scope, rest⟩ := command
    obtain ⟨⟨inner, command⟩, hinner, h⟩ := bind_ok_iff.1 h
    obtain ⟨settled, hsettled, h⟩ := bind_ok_iff.1 h
    obtain ⟨fromInner, hfromInner, h⟩ := bind_ok_iff.1 h
    obtain ⟨action, haction, h⟩ := bind_ok_iff.1 h
    obtain ⟨outer', houter, h⟩ := bind_ok_iff.1 h
    obtain ⟨fromOuter, hfromOuter, h⟩ := bind_ok_iff.1 h
    cases h
    obtain ⟨rfl, hnone, hhex⟩ := Gathered.action_eq_missing haction argument
    obtain ⟨hp, hpending, hoperand⟩ := Gathered.settle_eq_ok hsettled
    have hs : Scope.decode ≠ .top := by decide
    obtain rfl := gather_command_eq_none hs hinner
    have hgather : gather .decode {} (rest ++ [argument]) =
        .ok ({ settled with operand := some argument }, none) := by
      rw [gather_append_operand hs hinner hp hw,
        Gathered.takeOperand_decode_eq (hoperand.symm.trans hnone) hsettled]
      rfl
    have hsettle : { settled with operand := some argument }.settle =
        .ok { settled with operand := some argument } := by
      rw [Gathered.settle, hpending]
    refine bind_ok_iff.2 ⟨_, gather_append_command hcommand [argument], ?_⟩
    refine bind_ok_iff.2 ⟨_, hgather, bind_ok_iff.2 ⟨_, hsettle, ?_⟩⟩
    refine bind_ok_iff.2 ⟨_, hfromInner, bind_ok_iff.2 ⟨_, hhex, ?_⟩⟩
    exact bind_ok_iff.2 ⟨_, houter, bind_ok_iff.2 ⟨_, hfromOuter, rfl⟩⟩

end IntentWire.Command
