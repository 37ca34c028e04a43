import IntentWire.Registry.Lemmas

/-!
# Histories of registries

The *history* of a registry is how it came about: the changes made since it was empty, in
order. What a registry finds is told by its history alone, the last registration of a type
for that type, and the last fallback (`Registry.Models`).

* `Registry.History.latest?_eq_some_iff`: which registration of a type is the last.
* `Registry.History.uses_iff`: the decoder that a history leaves for a type.
* `Registry.Models.change`: a change and its note in the history give the same, and the
  registry goes on to be told by its history.
-/

namespace IntentWire.Registry

/-- A change of a registry. -/
inductive Change where
  | register (tag : String) (decoder : Decoder)
  | withFallback (decoder : Decoder)

/-- Carries out a change. A registration gives the decoder that it replaces, if there
    is one. -/
def change (r : Registry) : Change → Option Decoder × Registry
  | .register tag decoder => r.replace tag decoder
  | .withFallback decoder => (none, r.withFallback decoder)

/-- The registry after some changes. -/
def after (r : Registry) (changes : List Change) : Registry :=
  changes.foldl (fun r c => (r.change c).2) r

/-- A change gives the same on registries that are alike, and leaves them alike. -/
theorem Alike.change {r r' : Registry} (h : r.Alike r') (c : Change) :
    (r.change c).1 = (r'.change c).1 ∧ (r.change c).2.Alike (r'.change c).2 := by
  cases c with
  | register tag decoder => exact ⟨h.find?_eq tag, h.register tag decoder⟩
  | withFallback decoder => exact ⟨rfl, h.withFallback decoder⟩

namespace Change

/-- The decoder that a change registers for the type `tag`, if it is one of that type. -/
def decoder? (tag : String) : Change → Option Decoder
  | .register t decoder => if t = tag then some decoder else none
  | .withFallback _ => none

/-- The fallback that a change sets, if it sets one. -/
def fallback? : Change → Option Decoder
  | .register .. => none
  | .withFallback decoder => some decoder

theorem decoder?_eq_some_iff {c : Change} {tag : String} {decoder : Decoder} :
    c.decoder? tag = some decoder ↔ c = .register tag decoder := by
  cases c with
  | register t d =>
    rw [decoder?, register.injEq]
    by_cases h : t = tag
    · rw [if_pos h, Option.some.injEq]
      exact ⟨fun hd => ⟨h, hd⟩, fun hd => hd.2⟩
    · rw [if_neg h]
      exact ⟨nofun, fun hd => absurd hd.1 h⟩
  | withFallback d => exact ⟨nofun, nofun⟩

theorem fallback?_eq_some_iff {c : Change} {decoder : Decoder} :
    c.fallback? = some decoder ↔ c = .withFallback decoder := by
  cases c <;> simp [fallback?]

end Change

/-- The changes made since a registry was empty, the oldest first. -/
abbrev History := List Change

namespace History

variable {h h' : History} {tag : String}

section

/-! What is found from the end of a history, of changes of one kind. -/

variable {found? : Change → Option Decoder} {kind : Decoder → Change} {decoder : Decoder}

theorem findSome?_reverse_eq_none_iff (hk : ∀ {c d}, found? c = some d ↔ c = kind d) :
    h.reverse.findSome? found? = none ↔ ∀ other, kind other ∉ h := by
  rw [List.findSome?_eq_none_iff]
  simp only [List.mem_reverse, Option.eq_none_iff_forall_ne_some, ne_eq, hk]
  exact ⟨fun hn other ho => hn _ ho other rfl, fun hn c hc other ho => hn other (ho ▸ hc)⟩

/-- The last change of a kind is one with none of that kind behind it. -/
theorem findSome?_reverse_eq_some_iff (hk : ∀ {c d}, found? c = some d ↔ c = kind d) :
    h.reverse.findSome? found? = some decoder ↔ ∃ before behind,
      h = before ++ kind decoder :: behind ∧ ∀ other, kind other ∉ behind := by
  rw [List.findSome?_eq_some_iff]
  constructor
  · rintro ⟨behind, c, before, hh, hc, hn⟩
    obtain rfl := hk.1 hc
    refine ⟨before.reverse, behind.reverse, ?_, ?_⟩
    · rw [← List.reverse_reverse h, hh, List.reverse_append, List.reverse_cons, List.append_assoc]
      rfl
    · rw [← findSome?_reverse_eq_none_iff hk, List.reverse_reverse]
      exact List.findSome?_eq_none_iff.2 hn
  · rintro ⟨before, behind, rfl, hn⟩
    refine ⟨behind.reverse, kind decoder, before.reverse, ?_, hk.2 rfl, ?_⟩
    · rw [List.reverse_append, List.reverse_cons, List.append_assoc]
      rfl
    · exact List.findSome?_eq_none_iff.1 ((findSome?_reverse_eq_none_iff hk).2 hn)

end

/-- The decoder registered last for a type. -/
def latest? (h : History) (tag : String) : Option Decoder :=
  h.reverse.findSome? (Change.decoder? tag)

/-- The fallback set last, if one is set. -/
def latestFallback? (h : History) : Option Decoder :=
  h.reverse.findSome? Change.fallback?

/-- The fallback set last, or the one of the empty registry. -/
def fallback (h : History) : Decoder :=
  h.latestFallback?.getD Statement.decodePlainText

/-- The history with one more change. What it gives is what the change gives, told by the
    history. -/
def note (h : History) (c : Change) : Option Decoder × History :=
  match c with
  | .register tag _ => (h.latest? tag, h ++ [c])
  | .withFallback _ => (none, h ++ [c])

theorem latest?_append (h h' : History) (tag : String) :
    latest? (h ++ h') tag = (h'.latest? tag).or (h.latest? tag) := by
  rw [latest?, List.reverse_append, List.findSome?_append]
  rfl

theorem latest?_concat (h : History) (c : Change) (tag : String) :
    latest? (h ++ [c]) tag = (c.decoder? tag).or (h.latest? tag) := by
  rw [latest?_append]
  congr 1
  exact List.findSome?_singleton

theorem latest?_eq_none_iff :
    h.latest? tag = none ↔ ∀ decoder, Change.register tag decoder ∉ h :=
  findSome?_reverse_eq_none_iff Change.decoder?_eq_some_iff

/-- The last registration of a type is one with none of that type behind it. -/
theorem latest?_eq_some_iff {decoder : Decoder} :
    h.latest? tag = some decoder ↔ ∃ before behind,
      h = before ++ Change.register tag decoder :: behind ∧
        ∀ other, Change.register tag other ∉ behind :=
  findSome?_reverse_eq_some_iff Change.decoder?_eq_some_iff

/-- A type has a last registration if it has one. -/
theorem latest?_isSome_iff :
    (h.latest? tag).isSome = true ↔ ∃ decoder, Change.register tag decoder ∈ h := by
  rw [Option.isSome_iff_ne_none, ne_eq, latest?_eq_none_iff, Classical.not_forall]
  simp only [Classical.not_not]

theorem latestFallback?_eq_none_iff :
    h.latestFallback? = none ↔ ∀ decoder, Change.withFallback decoder ∉ h :=
  findSome?_reverse_eq_none_iff Change.fallback?_eq_some_iff

/-- The last fallback is one with none behind it. -/
theorem latestFallback?_eq_some_iff {decoder : Decoder} :
    h.latestFallback? = some decoder ↔ ∃ before behind,
      h = before ++ Change.withFallback decoder :: behind ∧
        ∀ other, Change.withFallback other ∉ behind :=
  findSome?_reverse_eq_some_iff Change.fallback?_eq_some_iff

theorem fallback_append_of_forall_ne (h : History)
    (hn : ∀ decoder, Change.withFallback decoder ∉ h') : fallback (h ++ h') = h.fallback := by
  rw [← latestFallback?_eq_none_iff, latestFallback?] at hn
  rw [fallback, fallback, latestFallback?, List.reverse_append, List.findSome?_append, hn,
    Option.none_or]
  rfl

/-- The decoder that a history leaves for a type. -/
inductive Uses (h : History) (tag : String) : Decoder → Prop
  /-- The one registered last for the type. -/
  | registered {before behind : List Change} {decoder : Decoder} :
    h = before ++ .register tag decoder :: behind → (∀ other, .register tag other ∉ behind) →
      Uses h tag decoder
  /-- The fallback set last, if the type is not registered. -/
  | fallback {before behind : List Change} {decoder : Decoder} :
    (∀ other, .register tag other ∉ h) → h = before ++ .withFallback decoder :: behind →
      (∀ other, .withFallback other ∉ behind) → Uses h tag decoder
  /-- The one of plain text, if there is no fallback either. -/
  | plainText : (∀ other, .register tag other ∉ h) → (∀ other, .withFallback other ∉ h) →
      Uses h tag Statement.decodePlainText

theorem uses_iff {decoder : Decoder} :
    h.Uses tag decoder ↔ (h.latest? tag).getD h.fallback = decoder := by
  constructor
  · rintro (⟨hh, hn⟩ | ⟨hr, hh, hn⟩ | ⟨hr, hn⟩)
    · rw [latest?_eq_some_iff.2 ⟨_, _, hh, hn⟩]
      rfl
    · rw [latest?_eq_none_iff.2 hr, fallback, latestFallback?_eq_some_iff.2 ⟨_, _, hh, hn⟩]
      rfl
    · rw [latest?_eq_none_iff.2 hr, fallback, latestFallback?_eq_none_iff.2 hn]
      rfl
  · rintro rfl
    cases hl : h.latest? tag with
    | some decoder =>
      obtain ⟨_, _, hh, hn⟩ := latest?_eq_some_iff.1 hl
      exact .registered hh hn
    | none =>
      have hr := latest?_eq_none_iff.1 hl
      rw [Option.getD_none, fallback]
      cases hf : h.latestFallback? with
      | some decoder =>
        obtain ⟨_, _, hh, hn⟩ := latestFallback?_eq_some_iff.1 hf
        exact .fallback hr hh hn
      | none => exact .plainText hr (latestFallback?_eq_none_iff.1 hf)

end History

/-! ### What a history tells -/

/-- A registry is told by a history. -/
structure Models (r : Registry) (h : History) : Prop where
  find?_eq : ∀ tag, r.find? tag = h.latest? tag
  fallback_eq : r.fallback = h.fallback

namespace Models

variable {r : Registry} {h : History}

theorem empty : Models empty [] :=
  ⟨fun _ => rfl, rfl⟩

/-- A change gives what the history tells, and is told by the history after it. -/
theorem change (hm : Models r h) (c : Change) :
    (r.change c).1 = (h.note c).1 ∧ Models (r.change c).2 (h.note c).2 := by
  cases c with
  | register t decoder =>
    refine ⟨hm.find?_eq t, fun tag => ?_, ?_⟩
    · rw [Registry.change, replace, find?_register, History.note, History.latest?_concat,
        Change.decoder?, hm.find?_eq]
      by_cases ht : tag = t
      · rw [if_pos ht, if_pos ht.symm]
        rfl
      · rw [if_neg ht, if_neg (Ne.symm ht)]
        rfl
    · rw [Registry.change, replace, fallback_register, History.note, hm.fallback_eq]
      exact (History.fallback_append_of_forall_ne h (by simp)).symm
  | withFallback decoder =>
    refine ⟨rfl, fun tag => ?_, ?_⟩
    · rw [Registry.change, find?_withFallback, History.note, History.latest?_concat, hm.find?_eq]
      rfl
    · rw [Registry.change, fallback_withFallback, History.note, History.fallback,
        History.latestFallback?, List.reverse_append]
      rfl

/-- The changes of a registry stand behind its history. -/
theorem after (hm : Models r h) (changes : List Change) :
    Models (r.after changes) (h ++ changes) := by
  induction changes generalizing r h with
  | nil =>
    rw [List.append_nil]
    exact hm
  | cons c changes ih =>
    have hc : (h.note c).2 = h ++ [c] := by cases c <;> rfl
    have hm := ih (hm.change c).2
    rw [hc, List.append_assoc] at hm
    exact hm

end Models

/-! ### Where registries come from -/

/-- The registries that a program starts with. -/
inductive Origin where
  | empty
  | builtin

namespace Origin

def registry : Origin → Registry
  | .empty => Registry.empty
  | .builtin => Registry.builtin

/-- The known types count as registrations. -/
def history : Origin → History
  | .empty => []
  | .builtin => Statement.builtin.map fun (tag, decoder) => .register tag decoder

theorem models (origin : Origin) : Models origin.registry origin.history := by
  cases origin with
  | empty => exact .empty
  | builtin => exact Models.empty.after Origin.builtin.history

end Origin

end IntentWire.Registry
