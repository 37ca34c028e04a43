import IntentWire.Statement.Decoder

/-!
# Registries

A *registry* tells the decoder of every type of intents: the one registered last for
the type, or else a common one, the *fallback*. The registry `builtin` knows what
`Statement.decode` knows; others are made from it, or from the empty one, by
registering.
-/

namespace IntentWire

/-- Decoders by type. -/
structure Registry where
  /-- The types with a decoder of their own. -/
  entries : List (String × Decoder)
  /-- Every type has one decoder at most. -/
  nodup_entries : (entries.map (·.1)).Nodup
  /-- The decoder of all other types. -/
  fallback : Decoder

namespace Registry

/-- The registry without types, where every payload is text. -/
def empty : Registry :=
  ⟨[], .nil, Statement.decodePlainText⟩

/-- The decoder registered for a type. -/
def find? (r : Registry) (tag : String) : Option Decoder :=
  r.entries.lookup tag

/-- The registry with a decoder registered for a type, in place of the one before. -/
def register (r : Registry) (tag : String) (decoder : Decoder) : Registry where
  entries := (tag, decoder) :: r.entries.filter (·.1 != tag)
  nodup_entries := by
    rw [List.map_cons, List.nodup_cons, List.mem_map]
    refine ⟨?_, r.nodup_entries.sublist (List.filter_sublist.map _)⟩
    rintro ⟨entry, he, rfl⟩
    simp at he
  fallback := r.fallback

/-- Registers a decoder for a type, and gives the one that it replaces. -/
def replace (r : Registry) (tag : String) (decoder : Decoder) : Option Decoder × Registry :=
  (r.find? tag, r.register tag decoder)

/-- The registry with another fallback. -/
def withFallback (r : Registry) (decoder : Decoder) : Registry :=
  { r with fallback := decoder }

/-- The registry of the known types. -/
def builtin : Registry :=
  Statement.builtin.foldl (fun r (tag, decoder) => r.register tag decoder) empty

/-- Decodes a payload of the type `tag`. -/
def decode (r : Registry) (tag : String) (payload : Bytes) : Logged Statement :=
  Statement.decodeWith ((r.find? tag).getD r.fallback) tag payload

/-- Whether a decoder is registered for a type. -/
def hasDecoder (r : Registry) (tag : String) : Bool :=
  (r.find? tag).isSome

/-- The types with a decoder of their own, in the order of their UTF-8 bytes. -/
def tags (r : Registry) : List String :=
  (r.entries.map (·.1)).mergeSort fun s t => Bytes.ofText s ≤ Bytes.ofText t

/-- A registry as it is shown to a programmer. -/
def describe (r : Registry) : String :=
  let tags := ", ".intercalate (r.tags.map Text.quoted)
  s!"StatementRegistry \x7b tags: [{tags}], .. \x7d"

end Registry

end IntentWire
