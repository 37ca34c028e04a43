import IntentWire.Registry.Run
import IntentWire.Statement.Remarks

/-!
# Registries after a run

However a program goes on with its registries, from the empty one or from that of the
known types, each of them answers as its history tells (`Registry.Answers`). A clone has
the history of the registry that it is a clone of, and goes its own way from there.

* `Registry.Models.answers`: a registry that is told by a history answers so.
* `Registry.perform_register_comm`: the registrations of two types may be exchanged.
-/

namespace IntentWire.Registry

/-- What a registry with the history `h` answers. -/
structure Answers (r : Registry) (h : History) : Prop where
  /-- A payload is decoded by the decoder registered last for its type, and else by the
      fallback set last. -/
  decode_eq : ∀ tag payload, r.decode tag payload =
    Statement.decodeWith ((h.latest? tag).getD h.fallback) tag payload
  /-- The history leaves a decoder for every type. -/
  exists_uses : ∀ tag, ∃ decoder, h.Uses tag decoder
  /-- This decoder is applied. What it reports comes first, and behind it the warning of a
      payload that makes no sense. -/
  decode_of_uses : ∀ tag decoder, h.Uses tag decoder → ∀ payload,
    (r.decode tag payload).value = (decoder payload).value ∧
      (r.decode tag payload).events = (decoder payload).events ++
        (Statement.complaint? tag payload (decoder payload).value).toList
  /-- A registration gives the decoder registered last for the type. -/
  replace_eq : ∀ tag decoder, (r.replace tag decoder).1 = h.latest? tag
  /-- It is the last with none behind it. -/
  replace_eq_some_iff : ∀ tag decoder previous, (r.replace tag decoder).1 = some previous ↔
    ∃ before behind, h = before ++ .register tag previous :: behind ∧
      ∀ other, .register tag other ∉ behind
  hasDecoder_iff : ∀ tag, r.hasDecoder tag = true ↔ tag ∈ r.tags
  /-- The types listed are those that are registered. -/
  mem_tags_iff : ∀ tag, tag ∈ r.tags ↔ ∃ decoder, Change.register tag decoder ∈ h
  /-- They are listed in the order of their bytes, each once. -/
  pairwise_tags : r.tags.Pairwise fun s t => Bytes.ofText s < Bytes.ofText t
  /-- Another fallback is of no concern to them. -/
  withFallback_eq : ∀ decoder, (r.withFallback decoder).tags = r.tags ∧
    ∀ tag ∈ r.tags, (r.withFallback decoder).decode tag = r.decode tag

theorem Models.decode_eq {r : Registry} {h : History} (hm : Models r h) (tag : String)
    (payload : Bytes) : r.decode tag payload =
      Statement.decodeWith ((h.latest? tag).getD h.fallback) tag payload := by
  rw [decode, hm.find?_eq, hm.fallback_eq]

theorem Models.answers {r : Registry} {h : History} (hm : Models r h) : Answers r h where
  decode_eq := hm.decode_eq
  exists_uses _ := ⟨_, History.uses_iff.2 rfl⟩
  decode_of_uses tag decoder hu payload := by
    rw [hm.decode_eq, History.uses_iff.1 hu]
    exact ⟨Statement.value_decodeWith _ _ _, Statement.events_decodeWith _ _ _⟩
  replace_eq tag _ := hm.find?_eq tag
  replace_eq_some_iff tag _ _ := by rw [replace, hm.find?_eq, History.latest?_eq_some_iff]
  hasDecoder_iff _ := Registry.hasDecoder_iff
  mem_tags_iff tag := by
    rw [mem_tags, hm.find?_eq, ← Option.isSome_iff_exists, History.latest?_isSome_iff]
  pairwise_tags := r.pairwise_tags
  withFallback_eq decoder :=
    ⟨rfl, fun _ ht => funext fun payload => decode_withFallback ht decoder payload⟩

/-- Two registries that no question tells apart. -/
structure Indistinct (r r' : Registry) : Prop where
  decode_eq : r.decode = r'.decode
  replace_eq : ∀ tag decoder, (r.replace tag decoder).1 = (r'.replace tag decoder).1
  hasDecoder_eq : r.hasDecoder = r'.hasDecoder
  tags_eq : r.tags = r'.tags
  describe_eq : r.describe = r'.describe

theorem Alike.indistinct {r r' : Registry} (h : r.Alike r') : Indistinct r r' where
  decode_eq := h.decode_eq
  replace_eq tag _ := h.find?_eq tag
  hasDecoder_eq := h.hasDecoder_eq
  tags_eq := h.tags_eq
  describe_eq := h.describe_eq

/-! ### Registrations of two types -/

section

variable {s t : String} (l : List Registry) (p q : Nat) (d e : Decoder)

/-- What a registration gives does not depend on one of another type before it. -/
theorem perform_register_fst (h : s ≠ t) :
    ((Operation.change q (.register t e)).perform change
      ((Operation.change p (.register s d)).perform change l).2).1 =
      ((Operation.change q (.register t e)).perform change l).1 := by
  change ((l.modify p fun r => r.register s d)[q]?.bind fun r => r.find? t) =
    l[q]?.bind fun r => r.find? t
  rw [List.getElem?_modify]
  by_cases hp : p = q
  · simp only [if_pos hp]
    cases l[q]? with
    | none => rfl
    | some r => exact (find?_register r s d t).trans (if_neg h.symm)
  · simp only [if_neg hp, id_map']

/-- The registrations of two types give the same in either order, be it in one registry or
    in two, and leave registries that are alike. -/
theorem perform_register_comm (h : s ≠ t) :
    List.Forall₂ Alike
      ((Operation.change q (.register t e)).perform change
        ((Operation.change p (.register s d)).perform change l).2).2
      ((Operation.change p (.register s d)).perform change
        ((Operation.change q (.register t e)).perform change l).2).2 := by
  change List.Forall₂ Alike
    ((l.modify p fun r => r.register s d).modify q fun r => r.register t e)
    ((l.modify q fun r => r.register t e).modify p fun r => r.register s d)
  have hl : List.Forall₂ Alike l l := List.forall₂_same.2 fun r _ => .refl r
  by_cases hp : p = q
  · subst hp
    rw [List.modify_modify_eq, List.modify_modify_eq]
    exact forall₂_modify hl (fun _ _ hr => hr.register_comm h d e) p
  · rw [List.modify_modify_ne _ _ _ hp]
    exact forall₂_modify (forall₂_modify hl (fun _ _ hr => hr.register t e) q)
      (fun _ _ hr => hr.register s d) p

end

/-! ### Runs from the start -/

namespace Origin

/-- What a program does with the registry that it starts with, and with its clones. -/
def run (origin : Origin) (ops : List Operation) : List (Option Decoder) × List Registry :=
  Registry.run Registry.change [origin.registry] ops

/-- The histories that come of it. -/
def notes (origin : Origin) (ops : List Operation) : List (Option Decoder) × List History :=
  Registry.run History.note [origin.history] ops

theorem run_append (origin : Origin) (ops more : List Operation) :
    origin.run (ops ++ more) =
      ((origin.run ops).1 ++ (Registry.run Registry.change (origin.run ops).2 more).1,
        (Registry.run Registry.change (origin.run ops).2 more).2) :=
  Registry.run_append _ _ ops more

/-- The registries are told by their histories all along. -/
theorem run_models (origin : Origin) (ops : List Operation) :
    (origin.run ops).1 = (origin.notes ops).1 ∧
      List.Forall₂ Models (origin.run ops).2 (origin.notes ops).2 :=
  run_forall₂ (fun _ _ c hm => hm.change c) (.cons origin.models .nil) ops

/-- However a program goes on with its registries, they answer and give what their
    histories tell.

    * What is at a place stays as it is until it is changed, and a clone starts as what
      it is a clone of.
    * Two registrations of different types, one after the other and wherever, give the
      same in either order, and so does all that follows. The registries that come of it
      cannot be told apart. -/
theorem run_answers (origin : Origin) (ops : List Operation) :
    (origin.run ops).1 = (origin.notes ops).1 ∧
      List.Forall₂ Answers (origin.run ops).2 (origin.notes ops).2 ∧
      (∀ place, place < (origin.run ops).2.length →
        (∀ more, (∀ c, Operation.change place c ∉ more) →
          (origin.run (ops ++ more)).2[place]? = (origin.run ops).2[place]?) ∧
        (origin.run (ops ++ [.clone place])).2[(origin.run ops).2.length]? =
          (origin.run ops).2[place]?) ∧
      ∀ (p q : Nat) (s t : String) (d e : Decoder) (more : List Operation), s ≠ t →
        ∃ before first second behind, before.length = ops.length ∧
          (origin.run (ops ++ .change p (.register s d) :: .change q (.register t e) :: more)).1 =
            before ++ first :: second :: behind ∧
          (origin.run (ops ++ .change q (.register t e) :: .change p (.register s d) :: more)).1 =
            before ++ second :: first :: behind ∧
          List.Forall₂ Indistinct
            (origin.run
              (ops ++ .change p (.register s d) :: .change q (.register t e) :: more)).2
            (origin.run
              (ops ++ .change q (.register t e) :: .change p (.register s d) :: more)).2 := by
  obtain ⟨hgiven, hmodels⟩ := origin.run_models ops
  refine ⟨hgiven, hmodels.imp fun _ _ => Models.answers, fun place hp => ⟨fun more hm => ?_, ?_⟩,
    fun p q s t d e more hst => ?_⟩
  · rw [run_append]
    exact getElem?_run hp hm
  · rw [run_append]
    exact getElem?_perform_clone change hp
  · simp only [run_append, run_cons]
    generalize (origin.run ops).2 = l
    obtain ⟨hbehind, hlike⟩ := run_forall₂ (fun _ _ c h => Alike.change h c)
      (perform_register_comm l p q d e hst) more
    -- Neither registration bears on what the other gives.
    rw [perform_register_fst l p q d e hst, perform_register_fst l q p e d hst.symm, hbehind]
    exact ⟨_, _, _, _, length_run _ ops, rfl, rfl, hlike.imp fun _ _ => Alike.indistinct⟩

/-- Of two registrations of a type the last one holds; a registration in a clone is nothing to
    the registry that it is a clone of; and types that differ in a letter are registered in
    either order. -/
theorem run_answers_clone :
    (∃ r, (empty.run [.change 0 (.register "Note" Statement.decodePassword),
        .change 0 (.register "Note" Statement.decodeSr25519)]).2 = [r] ∧
      ∀ payload, (r.decode "Note" payload).value = (Statement.decodeSr25519 payload).value) ∧
      0 < (builtin.run [.clone 0]).2.length ∧
      (∀ c, Operation.change 0 c ∉
        [Operation.change 1 (.register Tag.sr25519 Statement.decodePassword)]) ∧
      (builtin.run [.clone 0, .change 1 (.register Tag.sr25519 Statement.decodePassword)]).2[0]? =
        some Registry.builtin ∧
      "Psp22" ≠ "psp22" ∧
      List.Forall₂ Indistinct
        (builtin.run [.clone 0, .change 0 (.register "Psp22" Statement.decodePassword),
          .change 0 (.register "psp22" Statement.decodePsp22)]).2
        (builtin.run [.clone 0, .change 0 (.register "psp22" Statement.decodePsp22),
          .change 0 (.register "Psp22" Statement.decodePassword)]).2 := by
  obtain ⟨-, htwo, -⟩ := run_answers empty [.change 0 (.register "Note" Statement.decodePassword),
    .change 0 (.register "Note" Statement.decodeSr25519)]
  obtain ⟨hnote, -⟩ := List.forall₂_cons.1 htwo
  have huses : History.Uses [.register "Note" Statement.decodePassword,
      .register "Note" Statement.decodeSr25519] "Note" Statement.decodeSr25519 :=
    .registered (List.singleton_append ..).symm (by simp)
  have hlen : 0 < (builtin.run [.clone 0]).2.length := by decide
  have hother : ∀ c, Operation.change 0 c ∉
      [Operation.change 1 (.register Tag.sr25519 Statement.decodePassword)] := by simp
  have hne : "Psp22" ≠ "psp22" := by decide
  obtain ⟨-, -, hplaces, hcomm⟩ := run_answers builtin [.clone 0]
  obtain ⟨_, _, _, _, -, -, -, hsame⟩ :=
    hcomm 0 0 _ _ Statement.decodePassword Statement.decodePsp22 [] hne
  exact ⟨⟨_, rfl, fun payload => (hnote.decode_of_uses _ _ huses payload).1⟩, hlen, hother,
    (hplaces 0 hlen).1 _ hother, hne, hsame⟩

end Origin

end IntentWire.Registry
