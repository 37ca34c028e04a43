import IntentWire.Registry.History
import Mathlib.Data.List.Forall2

/-!
# Runs of operations on registries

A program has several registries, each at its place: it changes the one at a place, or
adds a clone of it, which takes the next place. An operation on a place where there is
none does nothing.

A *run* carries out operations one after the other. It is told for anything that can be
changed as registries are, so that histories, for one, are run along with them.

* `Registry.Operation.perform_forall₂`, `Registry.run_forall₂`: what is alike, place by
  place, stays so.
* `Registry.getElem?_run`: what is at a place stays as it is until it is changed.
-/

namespace IntentWire.Registry

/-- What a program does with its registries. -/
inductive Operation where
  | change (place : Nat) (change : Change)
  /-- The clone of the registry at a place takes the first place that is free. -/
  | clone (place : Nat)

section

variable {α β : Type}

/-- Carries out an operation, where `change` carries out a change. -/
def Operation.perform (change : α → Change → Option Decoder × α) (l : List α) :
    Operation → Option Decoder × List α
  | .change place c =>
    (l[place]?.bind fun a => (change a c).1, l.modify place fun a => (change a c).2)
  | .clone place => (none, l ++ l[place]?.toList)

/-- Carries out operations one after the other. -/
def run (change : α → Change → Option Decoder × α) :
    List α → List Operation → List (Option Decoder) × List α
  | l, [] => ([], l)
  | l, op :: ops =>
    let done := op.perform change l
    let rest := run change done.2 ops
    (done.1 :: rest.1, rest.2)

variable {change : α → Change → Option Decoder × α} {change' : β → Change → Option Decoder × β}
  {l : List α} {l' : List β}

theorem run_cons (change : α → Change → Option Decoder × α) (l : List α) (op : Operation)
    (ops : List Operation) : run change l (op :: ops) =
      ((op.perform change l).1 :: (run change (op.perform change l).2 ops).1,
        (run change (op.perform change l).2 ops).2) :=
  rfl

theorem run_append (change : α → Change → Option Decoder × α) (l : List α)
    (ops more : List Operation) : run change l (ops ++ more) =
      ((run change l ops).1 ++ (run change (run change l ops).2 more).1,
        (run change (run change l ops).2 more).2) := by
  induction ops generalizing l with
  | nil => rfl
  | cons op ops ih => rw [List.cons_append, run_cons, ih, run_cons, List.cons_append]

/-- A run gives as much as it has operations. -/
theorem length_run (l : List α) (ops : List Operation) :
    (run change l ops).1.length = ops.length := by
  induction ops generalizing l with
  | nil => rfl
  | cons op ops ih => rw [run_cons, List.length_cons, List.length_cons, ih]

/-! ### What stays alike -/

variable {R : α → β → Prop}

/-- Two lists that are alike place by place have the like at every place. -/
theorem rel_getElem? (h : List.Forall₂ R l l') (place : Nat) :
    Option.Rel R l[place]? l'[place]? := by
  induction h generalizing place with
  | nil => exact .none
  | cons hab _ ih =>
    cases place with
    | zero => exact .some hab
    | succ place => exact ih place

theorem eq_bind_of_rel {γ : Type} {x : Option α} {y : Option β} {f : α → Option γ}
    {g : β → Option γ} (h : Option.Rel R x y) (hfg : ∀ a b, R a b → f a = g b) :
    x.bind f = y.bind g := by
  cases h with
  | none => rfl
  | some hab => exact hfg _ _ hab

theorem forall₂_toList {x : Option α} {y : Option β} (h : Option.Rel R x y) :
    List.Forall₂ R x.toList y.toList := by
  cases h with
  | none => exact .nil
  | some hab => exact .cons hab .nil

theorem forall₂_modify {f : α → α} {g : β → β} (h : List.Forall₂ R l l')
    (hfg : ∀ a b, R a b → R (f a) (g b)) (place : Nat) :
    List.Forall₂ R (l.modify place f) (l'.modify place g) := by
  induction h generalizing place with
  | nil =>
    rw [List.modify_nil, List.modify_nil]
    exact .nil
  | cons hab h ih =>
    cases place with
    | zero => exact .cons (hfg _ _ hab) h
    | succ place => exact .cons hab (ih place)

section

variable (hR : ∀ a b c, R a b → (change a c).1 = (change' b c).1 ∧ R (change a c).2 (change' b c).2)

include hR

/-- An operation gives the same on what is alike, and leaves the like, if changes do. -/
theorem Operation.perform_forall₂ (h : List.Forall₂ R l l') (op : Operation) :
    (op.perform change l).1 = (op.perform change' l').1 ∧
      List.Forall₂ R (op.perform change l).2 (op.perform change' l').2 := by
  cases op with
  | change place c =>
    refine ⟨?_, forall₂_modify h (fun a b hab => (hR a b c hab).2) place⟩
    exact eq_bind_of_rel (rel_getElem? h place) fun a b hab => (hR a b c hab).1
  | clone place => exact ⟨rfl, List.rel_append h (forall₂_toList (rel_getElem? h place))⟩

theorem run_forall₂ (h : List.Forall₂ R l l') (ops : List Operation) :
    (run change l ops).1 = (run change' l' ops).1 ∧
      List.Forall₂ R (run change l ops).2 (run change' l' ops).2 := by
  induction ops generalizing l l' with
  | nil => exact ⟨rfl, h⟩
  | cons op ops ih =>
    obtain ⟨hfound, h⟩ := op.perform_forall₂ hR h
    obtain ⟨hrest, h⟩ := ih h
    exact ⟨congrArg₂ List.cons hfound hrest, h⟩

end

/-! ### What is left as it is -/

/-- An operation changes what is at its own place. -/
theorem Operation.getElem?_perform {place : Nat} (hp : place < l.length) {op : Operation}
    (h : ∀ c, op ≠ .change place c) : (op.perform change l).2[place]? = l[place]? := by
  cases op with
  | change other c =>
    have hne : other ≠ place := by
      rintro rfl
      exact h c rfl
    exact List.getElem?_modify_ne _ _ hne
  | clone other => exact List.getElem?_append_left hp

theorem Operation.length_le_perform (l : List α) (op : Operation) :
    l.length ≤ (op.perform change l).2.length := by
  cases op with
  | change place c => exact Nat.le_of_eq (List.length_modify _ _ _).symm
  | clone place => exact (List.prefix_append l _).length_le

/-- What is at a place stays as it is in a run that does not change it, whatever the run
    does at the other places. -/
theorem getElem?_run {place : Nat} (hp : place < l.length) {ops : List Operation}
    (h : ∀ c, Operation.change place c ∉ ops) : (run change l ops).2[place]? = l[place]? := by
  induction ops generalizing l with
  | nil => rfl
  | cons op ops ih =>
    rw [run_cons, ih (Nat.lt_of_lt_of_le hp (op.length_le_perform l))
      fun c hc => h c (List.mem_cons_of_mem _ hc)]
    exact Operation.getElem?_perform hp fun c hc => h c (hc ▸ List.mem_cons_self)

/-- A clone is what it is a clone of. -/
theorem getElem?_perform_clone (change : α → Change → Option Decoder × α) {place : Nat}
    (hp : place < l.length) :
    ((Operation.clone place).perform change l).2[l.length]? = l[place]? := by
  change (l ++ l[place]?.toList)[l.length]? = l[place]?
  rw [List.getElem?_append_right (Nat.le_refl _), Nat.sub_self, List.getElem?_eq_getElem hp]
  rfl

end

end IntentWire.Registry
