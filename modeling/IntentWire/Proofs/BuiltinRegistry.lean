import IntentWire.Intent
import IntentWire.Registry.History
import IntentWire.Statement.Lemmas

/-!
# The registry of the known types

The known types stand in a table, of which the first entry of a type counts, and in the
registry of the known types, where the last registration counts. As no type stands in the
table twice, both find the same decoder, and decode and report alike. A registry made from
that one goes on to do so for every type that its changes leave alone.

* `Registry.History.latest?_map_register`: registering a table, entry by entry.
* `Registry.decode_after_builtin`: the types that are left alone.
-/

namespace IntentWire

namespace Registry

/-- A table without repetitions that is registered entry by entry is looked up the same. -/
theorem History.latest?_map_register {table : List (String × Decoder)}
    (h : (table.map (·.1)).Nodup) (tag : String) :
    History.latest? (table.map fun (t, decoder) => .register t decoder) tag =
      table.lookup tag := by
  induction table with
  | nil => rfl
  | cons entry table ih =>
    obtain ⟨t, decoder⟩ := entry
    rw [List.map_cons, List.nodup_cons] at h
    have hfirst : History.latest? [.register t decoder] tag =
        if t = tag then some decoder else none := List.findSome?_singleton
    rw [List.map_cons, ← List.singleton_append, latest?_append, ih h.2, hfirst, List.lookup_cons]
    by_cases ht : tag = t
    · -- No entry of the type is behind this one.
      have hnone : table.lookup t = none := by
        refine List.lookup_eq_none_iff.2 fun other ho => bne_iff_ne.2 fun he => ?_
        exact h.1 (List.mem_map.2 ⟨other, ho, he.symm⟩)
      rw [ht, hnone, Option.none_or, if_pos rfl, beq_self_eq_true]
    · rw [if_neg (Ne.symm ht), Option.or_none, beq_false_of_ne ht]

theorem latest?_history_builtin (tag : String) :
    Origin.builtin.history.latest? tag = Statement.builtin.lookup tag :=
  History.latest?_map_register (by decide) tag

theorem fallback_history_builtin : Origin.builtin.history.fallback = Statement.decodePlainText :=
  rfl

/-- The changes leave a type alone: they do not register it, and if it is not registered
    already, they keep the fallback. -/
structure Spares (changes : List Change) (tag : String) : Prop where
  not_registered : ∀ decoder, Change.register tag decoder ∉ changes
  registered_or_kept : (builtin.after changes).hasDecoder tag = true ∨
    ∀ decoder, Change.withFallback decoder ∉ changes

theorem spares_nil (tag : String) : Spares [] tag where
  not_registered _ := List.not_mem_nil
  registered_or_kept := .inr fun _ => List.not_mem_nil

/-- Of the types that the changes leave alone, the registry decodes and reports as the
    table does. -/
theorem decode_after_builtin {changes : List Change} {tag : String} (h : Spares changes tag)
    (payload : Bytes) :
    (builtin.after changes).decode tag payload = Statement.decode tag payload := by
  have hm : Models (builtin.after changes) (Origin.builtin.history ++ changes) :=
    Origin.builtin.models.after changes
  have hfind : (builtin.after changes).find? tag = Statement.builtin.lookup tag := by
    rw [hm.find?_eq, History.latest?_append, History.latest?_eq_none_iff.2 h.not_registered,
      Option.none_or, latest?_history_builtin]
  rw [decode, Statement.decode, hfind]
  congr 1
  rcases h.registered_or_kept with hr | hk
  · rw [hasDecoder, hfind, Option.isSome_iff_exists] at hr
    obtain ⟨decoder, hd⟩ := hr
    rw [hd, Option.getD_some, Option.getD_some]
  · rw [hm.fallback_eq, History.fallback_append_of_forall_ne _ hk, fallback_history_builtin]

end Registry

namespace Collection

/-- The intents of a collection depend on how its own types are decoded. -/
theorem intentsWith_eq_intents {r : Registry} {c : Collection}
    (h : ∀ record ∈ c, ∀ payload,
      r.decode record.tag payload = Statement.decode record.tag payload) :
    c.intentsWith r = c.intents := by
  rw [intentsWith, intents]
  congr 1
  refine List.map_congr_left fun record hr => ?_
  rw [Record.toIntent, Record.toIntent, h record hr]

end Collection

namespace Registry

/-- The registry of the known types decodes every payload, and the payloads of every
    collection, as the table does, with the same events. So does every registry made from
    it by changes, for the types that these leave alone, and for the collections of such. -/
theorem builtin_decode_eq :
    (∀ tag payload, builtin.decode tag payload = Statement.decode tag payload) ∧
      (∀ c : Collection, c.intentsWith builtin = c.intents) ∧
      ∀ changes : List Change,
        (∀ tag, Spares changes tag → ∀ payload,
          (builtin.after changes).decode tag payload = Statement.decode tag payload) ∧
        ∀ c : Collection, (∀ record ∈ c, Spares changes record.tag) →
          c.intentsWith (builtin.after changes) = c.intents := by
  have hall : ∀ tag payload, builtin.decode tag payload = Statement.decode tag payload :=
    fun tag => decode_after_builtin (spares_nil tag)
  refine ⟨hall, fun c => ?_, fun changes => ⟨fun tag h => decode_after_builtin h, fun c h => ?_⟩⟩
  · exact Collection.intentsWith_eq_intents fun record _ => hall record.tag
  · exact Collection.intentsWith_eq_intents fun record hr => decode_after_builtin (h record hr)

/-- The known type `Tag.psp22` is left alone when a type that differs from it in a letter is
    registered and the fallback is replaced, and a type that is not known is left alone as
    long as the fallback is kept. -/
theorem builtin_decode_eq_near :
    (Spares [.register "psp22" Statement.decodePassword,
        .withFallback Statement.decodeSr25519] Tag.psp22 ∧
      ∀ payload, (builtin.after [.register "psp22" Statement.decodePassword,
        .withFallback Statement.decodeSr25519]).decode Tag.psp22 payload =
          Statement.decode Tag.psp22 payload) ∧
      Spares [.register "psp22" Statement.decodePassword] "Note" ∧
        Collection.intentsWith (builtin.after [.register "psp22" Statement.decodePassword])
          [⟨"Note", [104, 105]⟩] = Collection.intents [⟨"Note", [104, 105]⟩] := by
  have hpsp22 : Spares [.register "psp22" Statement.decodePassword,
      .withFallback Statement.decodeSr25519] Tag.psp22 :=
    ⟨by simp [Tag.psp22], .inl (by decide)⟩
  have hnote : Spares [.register "psp22" Statement.decodePassword] "Note" :=
    ⟨by simp, .inr (by simp)⟩
  exact ⟨⟨hpsp22, (builtin_decode_eq.2.2 _).1 _ hpsp22⟩, hnote,
    (builtin_decode_eq.2.2 _).2 _ (by simpa using hnote)⟩

end Registry

end IntentWire
