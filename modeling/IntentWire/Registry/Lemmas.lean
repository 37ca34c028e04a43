import IntentWire.Registry
import IntentWire.Text.Utf8

/-!
# Laws of registries

A registry is told by what it finds for each type, and by its fallback: the order in which
the types are kept does not matter (`Registry.Alike`).

* `Registry.find?_register`: what is found behind a registration.
* `Registry.mem_tags`, `Registry.pairwise_tags`: the types that are listed.
* `Registry.Alike.register_comm`: the registrations of two types may be exchanged.
-/

namespace IntentWire.Registry

variable {r r' : Registry} {tag : String}

/-! ### What is found -/

/-- The entries of other types are found as before. -/
theorem lookup_filter_of_ne {t : String} (h : tag ≠ t) (l : List (String × Decoder)) :
    (l.filter (·.1 != t)).lookup tag = l.lookup tag := by
  induction l with
  | nil => rfl
  | cons entry l ih =>
    obtain ⟨u, decoder⟩ := entry
    by_cases hu : u = t
    · rw [List.filter_cons_of_neg (by simp [hu]), ih, List.lookup_cons, hu,
        beq_false_of_ne h]
    · rw [List.filter_cons_of_pos (by simp [hu]), List.lookup_cons, List.lookup_cons, ih]

theorem find?_register (r : Registry) (t : String) (decoder : Decoder) (tag : String) :
    (r.register t decoder).find? tag = if tag = t then some decoder else r.find? tag := by
  rw [find?, register, List.lookup_cons]
  by_cases h : tag = t
  · rw [if_pos h, h, beq_self_eq_true]
  · rw [if_neg h, beq_false_of_ne h]
    exact lookup_filter_of_ne h r.entries

@[simp] theorem fallback_register (r : Registry) (t : String) (decoder : Decoder) :
    (r.register t decoder).fallback = r.fallback :=
  rfl

@[simp] theorem find?_withFallback (r : Registry) (decoder : Decoder) (tag : String) :
    (r.withFallback decoder).find? tag = r.find? tag :=
  rfl

@[simp] theorem fallback_withFallback (r : Registry) (decoder : Decoder) :
    (r.withFallback decoder).fallback = decoder :=
  rfl

/-! ### Types that are listed -/

theorem mem_tags : tag ∈ r.tags ↔ ∃ decoder, r.find? tag = some decoder := by
  rw [tags, List.mem_mergeSort, List.mem_map, ← Option.isSome_iff_exists, find?,
    List.lookup_isSome_iff]
  simp only [beq_iff_eq, eq_comm (a := tag)]

theorem hasDecoder_iff : r.hasDecoder tag = true ↔ tag ∈ r.tags := by
  rw [hasDecoder, Option.isSome_iff_exists, mem_tags]

theorem nodup_tags (r : Registry) : r.tags.Nodup :=
  (List.mergeSort_perm _ _).nodup_iff.2 r.nodup_entries

/-- The types are listed in the order of their bytes, each once. -/
theorem pairwise_tags (r : Registry) :
    r.tags.Pairwise fun s t => Bytes.ofText s < Bytes.ofText t := by
  have hle : r.tags.Pairwise fun s t => Bytes.ofText s ≤ Bytes.ofText t := by
    refine (List.pairwise_mergeSort ?_ ?_ _).imp of_decide_eq_true
    · intro s t u hst htu
      exact decide_eq_true (List.le_trans (of_decide_eq_true hst) (of_decide_eq_true htu))
    · intro s t
      simpa using List.le_total (Bytes.ofText s) (Bytes.ofText t)
  refine (hle.and r.nodup_tags).imp fun {s t} h => ?_
  exact Std.lt_of_le_of_ne h.1 fun he => h.2 (Bytes.ofText_injective he)

/-- Two registries with decoders for the same types list the same. -/
theorem tags_eq_of_mem_iff (h : ∀ tag, tag ∈ r.tags ↔ tag ∈ r'.tags) : r.tags = r'.tags := by
  refine List.Perm.eq_of_pairwise ?_ r.pairwise_tags r'.pairwise_tags
    ((List.perm_ext_iff_of_nodup r.nodup_tags r'.nodup_tags).2 h)
  intro s t _ _ hst hts
  exact absurd hts (Std.not_gt_of_lt hst)

/-- Another fallback bears on the types without a decoder only. -/
theorem decode_withFallback (h : tag ∈ r.tags) (decoder : Decoder) (payload : Bytes) :
    (r.withFallback decoder).decode tag payload = r.decode tag payload := by
  obtain ⟨found, hf⟩ := mem_tags.1 h
  rw [decode, decode, find?_withFallback, hf]
  rfl

/-! ### Registries that are alike -/

/-- Two registries that find the same decoders, and have the same fallback. -/
structure Alike (r r' : Registry) : Prop where
  find?_eq : ∀ tag, r.find? tag = r'.find? tag
  fallback_eq : r.fallback = r'.fallback

namespace Alike

theorem refl (r : Registry) : r.Alike r :=
  ⟨fun _ => rfl, rfl⟩

theorem register (h : r.Alike r') (t : String) (decoder : Decoder) :
    (r.register t decoder).Alike (r'.register t decoder) where
  find?_eq tag := by rw [find?_register, find?_register, h.find?_eq]
  fallback_eq := h.fallback_eq

theorem withFallback (h : r.Alike r') (decoder : Decoder) :
    (r.withFallback decoder).Alike (r'.withFallback decoder) where
  find?_eq := h.find?_eq
  fallback_eq := rfl

theorem decode_eq (h : r.Alike r') : r.decode = r'.decode := by
  funext tag payload
  rw [decode, decode, h.find?_eq, h.fallback_eq]

theorem hasDecoder_eq (h : r.Alike r') : r.hasDecoder = r'.hasDecoder := by
  funext tag
  rw [hasDecoder, hasDecoder, h.find?_eq]

theorem tags_eq (h : r.Alike r') : r.tags = r'.tags := by
  refine tags_eq_of_mem_iff fun tag => ?_
  rw [mem_tags, mem_tags, h.find?_eq]

theorem describe_eq (h : r.Alike r') : r.describe = r'.describe := by
  unfold describe
  rw [h.tags_eq]

end Alike

/-- The registrations of two types may be exchanged. -/
theorem Alike.register_comm (h : r.Alike r') {s t : String} (hst : s ≠ t) (d e : Decoder) :
    ((r.register s d).register t e).Alike ((r'.register t e).register s d) where
  find?_eq tag := by
    simp only [find?_register, h.find?_eq]
    by_cases hs : tag = s
    · rw [if_pos hs, if_pos hs, if_neg (hs ▸ hst)]
    · rw [if_neg hs, if_neg hs]
  fallback_eq := h.fallback_eq

end IntentWire.Registry
