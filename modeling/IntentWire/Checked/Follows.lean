/-!
# Computations that are never stopped

A computation in `ExceptT ε (StateT σ Option)` may be stopped, which is neither a result
nor an error. It *follows* one that cannot be stopped if it is never stopped itself, from
any sound state on, and comes to the same (`Checked.Follows`). The states of the two may
differ, as long as one is seen in the other.

A computation that is put together of parts follows another part by part.
-/

namespace IntentWire.Checked

variable {ε ε' σ σ' α β : Type}

/-! ### Runs -/

theorem run_bind (x : ExceptT ε (StateT σ Option) α) (f : α → ExceptT ε (StateT σ Option) β)
    (s : σ) : (x >>= f).run.run s = (x.run.run s).bind fun p =>
      match p.1 with
      | .ok a => (f a).run.run p.2
      | .error e => some (.error e, p.2) := by
  change (x.run.run s).bind _ = _
  congr 1
  funext p
  obtain ⟨found, s₁⟩ := p
  cases found <;> rfl

theorem run_get_bind (f : σ → ExceptT ε (StateT σ Option) α) (s : σ) :
    (get >>= f).run.run s = (f s).run.run s :=
  rfl

theorem run_liftM_bind (x : Option α) (f : α → ExceptT ε (StateT σ Option) β) (s : σ) :
    (liftM x >>= f).run.run s = x.bind fun a => (f a).run.run s := by
  cases x <;> rfl

theorem run_liftExcept_bind (x : Except ε α) (f : α → ExceptT ε (StateT σ Option) β) (s : σ) :
    (liftExcept x >>= f).run.run s = match x with
      | .ok a => (f a).run.run s
      | .error e => some (.error e, s) := by
  cases x <;> rfl

/-! ### Following -/

/-- What is found, or why nothing is, with the state after it. -/
def result : Except ε α → σ → EStateM.Result ε σ α
  | .ok a, s => .ok a s
  | .error e, s => .error e s

/-- From a sound state on, `x` is never stopped, comes to what `y` comes to, and leaves a
    sound state. The states of `y` are those of `x` in the given view. -/
def Follows (view : σ' → σ) (Sound : σ' → Prop) (x : ExceptT ε (StateT σ' Option) α)
    (y : EStateM ε σ α) : Prop :=
  ∀ s, Sound s → ∃ found s', x.run.run s = some (found, s') ∧ Sound s' ∧
    y.run (view s) = result found (view s')

namespace Follows

variable {view : σ' → σ} {Sound : σ' → Prop}

theorem pure (a : α) : Follows view Sound
    (pure a : ExceptT ε (StateT σ' Option) α) (pure a : EStateM ε σ α) :=
  fun s hs => ⟨.ok a, s, rfl, hs, rfl⟩

theorem throw (e : ε) : Follows view Sound
    (throw e : ExceptT ε (StateT σ' Option) α) (throw e : EStateM ε σ α) :=
  fun s hs => ⟨.error e, s, rfl, hs, rfl⟩

/-- What is behind an error does not matter. -/
theorem throw_bind (e : ε) (f : α → ExceptT ε (StateT σ' Option) β) (g : α → EStateM ε σ β) :
    Follows view Sound (MonadExcept.throw e >>= f) (MonadExcept.throw e >>= g) :=
  fun s hs => ⟨.error e, s, rfl, hs, rfl⟩

theorem bind {x : ExceptT ε (StateT σ' Option) α} {y : EStateM ε σ α}
    {f : α → ExceptT ε (StateT σ' Option) β} {g : α → EStateM ε σ β}
    (hxy : Follows view Sound x y) (hfg : ∀ a, Follows view Sound (f a) (g a)) :
    Follows view Sound (x >>= f) (y >>= g) := by
  intro s hs
  obtain ⟨found, s₁, hx, hs₁, hy⟩ := hxy s hs
  rw [run_bind, hx, Option.bind_some, EStateM.run_bind, hy]
  cases found with
  | ok a => exact hfg a s₁ hs₁
  | error e => exact ⟨.error e, s₁, rfl, hs₁, rfl⟩

/-- What depends on the state depends on the same state in the other's view. -/
theorem get_bind {f : σ' → ExceptT ε (StateT σ' Option) α} {g : σ → EStateM ε σ α}
    (h : ∀ s, Sound s → Follows view Sound (f s) (g (view s))) :
    Follows view Sound (get >>= f) (get >>= g) :=
  fun s hs => h s hs s hs

theorem adapt {x : ExceptT ε (StateT σ' Option) α} {y : EStateM ε σ α}
    (hxy : Follows view Sound x y) (h : ε → ε') :
    Follows view Sound (x.adapt h) (EStateM.adaptExcept h y) := by
  intro s hs
  obtain ⟨found, s₁, hx, hs₁, hy⟩ := hxy s hs
  have hrun : (x.adapt h).run.run s =
      (x.run.run s).bind fun p => some (p.1.mapError h, p.2) := rfl
  rw [hrun, hx, EStateM.run_adaptExcept, hy]
  refine ⟨found.mapError h, s₁, rfl, hs₁, ?_⟩
  cases found <;> rfl

/-- A choice is made alike where the conditions come to the same. -/
theorem ite {c c' : Prop} [Decidable c] [Decidable c'] (hc : c ↔ c')
    {x x' : ExceptT ε (StateT σ' Option) α} {y y' : EStateM ε σ α}
    (h : Follows view Sound x y) (h' : Follows view Sound x' y') :
    Follows view Sound (if c then x else x') (if c' then y else y') := by
  by_cases hpos : c
  · rw [if_pos hpos, if_pos (hc.1 hpos)]
    exact h
  · rw [if_neg hpos, if_neg (mt hc.2 hpos)]
    exact h'

end Follows

end IntentWire.Checked
