import IntentWire.Reader.Operation
import Mathlib.Data.List.Forall2

/-!
# Sequences of fields

A *schema* lists kinds of fields, and is read by reading a field of each kind, one behind
the other. Reading and writing undo each other, whatever the schema and the values: the
fields are read of the buffers that start with what is written for them, and of no others.
So no two lists of values of a schema are written alike, and what is read is written back
to the same bytes.

* `Reader.FieldKind.read_eq_ok_iff`: for a single field, wherever the reader is.
* `Reader.readAll_eq_ok_iff`: for the fields of a schema, wherever the reader is.
* `Reader.putAll_eq_append`: what is written does not depend on what it is written behind.
-/

namespace IntentWire.Reader

open Bytes

/-! ### Kinds and values -/

/-- The kinds of fields. -/
inductive FieldKind where
  | compact
  | bytes
  | text
  deriving DecidableEq

namespace FieldKind

/-- The operation that reads a field of a kind. -/
def operation : FieldKind → Operation
  | .compact => .compact
  | .bytes => .bytes
  | .text => .text

/-- Whether a value is one of a kind. The length of a byte string or a text is a word. -/
inductive Holds : FieldKind → Found → Prop
  | compact (v : UInt64) : Holds .compact (.number v)
  | bytes {b : Bytes} : b.length < UInt64.size → Holds .bytes (.bytes b)
  | text {s : String} : s.utf8ByteSize < UInt64.size → Holds .text (.text s)

end FieldKind

namespace Found

/-- Appends a value to a buffer. -/
def put (buffer : Bytes) : Found → Bytes
  | .number v => putCompact buffer v
  | .bytes b => putBytes buffer b
  | .text s => putText buffer s

/-- The bytes of a value in a buffer. -/
def encode : Found → Bytes
  | .number v => Compact.encode v
  | .bytes b => field b
  | .text s => field (ofText s)

theorem put_eq_append (buffer : Bytes) (value : Found) :
    put buffer value = buffer ++ value.encode := by
  cases value <;> rfl

end Found

/-- Reads fields of the kinds of a schema, one behind the other. -/
def readAll : List FieldKind → Read (List Found)
  | [] => return []
  | kind :: schema => do
    let value ← kind.operation.read
    return value :: (← readAll schema)

/-- Appends values to a buffer, one behind the other. -/
def putAll (buffer : Bytes) (values : List Found) : Bytes :=
  values.foldl Found.put buffer

/-! ### Writing -/

theorem putAll_nil (values : List Found) : putAll [] values = values.flatMap Found.encode :=
  foldl_eq_append Found.put_eq_append values []

/-- Values are written behind a buffer as they are written alone. -/
theorem putAll_eq_append (buffer : Bytes) (values : List Found) :
    putAll buffer values = buffer ++ putAll [] values := by
  rw [putAll_nil]
  exact foldl_eq_append Found.put_eq_append values buffer

/-! ### Reading -/

variable {r r' : Reader}

/-- A field is read where a value of its kind is written. -/
theorem FieldKind.read_eq_ok_iff {kind : FieldKind} {value : Found} :
    kind.operation.read.run r = .ok value r' ↔
      kind.Holds value ∧ value.encode <+: r.rest ∧ r' = r.advance value.encode.length := by
  cases kind with
  | compact =>
    rw [operation, Operation.read, map_eq_ok_iff]
    constructor
    · rintro ⟨v, hv, rfl⟩
      obtain ⟨he, hr⟩ := compact_eq_ok_iff.1 hv
      exact ⟨.compact v, he, hr.trans (by rw [Found.encode, Compact.length_encode])⟩
    · rintro ⟨hk, he, hr⟩
      cases hk with
      | compact v =>
        rw [Found.encode, Compact.length_encode] at hr
        exact ⟨v, compact_eq_ok_iff.2 ⟨he, hr⟩, rfl⟩
  | bytes =>
    rw [operation, Operation.read, map_eq_ok_iff]
    constructor
    · rintro ⟨b, hb, rfl⟩
      obtain ⟨he, hl, hr⟩ := bytes_eq_ok_iff.1 hb
      exact ⟨.bytes hl, he, hr.trans (by rw [Found.encode, length_field])⟩
    · rintro ⟨hk, he, hr⟩
      cases hk with
      | bytes hl =>
        rw [Found.encode, length_field] at hr
        exact ⟨_, bytes_eq_ok_iff.2 ⟨he, hl, hr⟩, rfl⟩
  | text =>
    rw [operation, Operation.read, map_eq_ok_iff]
    constructor
    · rintro ⟨s, hs, rfl⟩
      obtain ⟨he, hl, hr⟩ := text_eq_ok_iff.1 hs
      exact ⟨.text (length_ofText s ▸ hl), he, hr.trans (by rw [Found.encode, length_field])⟩
    · rintro ⟨hk, he, hr⟩
      cases hk with
      | @text s hl =>
        rw [← length_ofText] at hl
        rw [Found.encode, length_field] at hr
        exact ⟨s, text_eq_ok_iff.2 ⟨he, hl, hr⟩, rfl⟩

/-- The fields of a schema are read where values of its kinds are written. -/
theorem readAll_eq_ok_iff {schema : List FieldKind} {values : List Found} :
    (readAll schema).run r = .ok values r' ↔
      List.Forall₂ FieldKind.Holds schema values ∧ values.flatMap Found.encode <+: r.rest ∧
        r' = r.advance (values.flatMap Found.encode).length := by
  induction schema generalizing r r' values with
  | nil =>
    constructor
    · intro h
      cases h
      exact ⟨.nil, List.nil_prefix, rfl⟩
    · rintro ⟨⟨⟩, -, rfl⟩
      rfl
  | cons kind schema ih =>
    rw [readAll, bind_eq_ok_iff]
    constructor
    · rintro ⟨value, r₁, hv, h⟩
      obtain ⟨values', r₂, hs, h⟩ := bind_eq_ok_iff.1 h
      cases h
      obtain ⟨hk, he, rfl⟩ := FieldKind.read_eq_ok_iff.1 hv
      obtain ⟨hks, hes, rfl⟩ := ih.1 hs
      refine ⟨.cons hk hks, ?_, ?_⟩
      · rw [List.flatMap_cons]
        exact append_prefix_iff.2 ⟨he, hes⟩
      · rw [advance_advance, List.flatMap_cons, List.length_append]
    · rintro ⟨hs, he, rfl⟩
      cases hs with
      | @cons _ value _ values hk hks =>
        rw [List.flatMap_cons] at he
        obtain ⟨he, hes⟩ := append_prefix_iff.1 he
        rw [List.flatMap_cons, List.length_append, ← advance_advance]
        exact ⟨value, _, FieldKind.read_eq_ok_iff.2 ⟨hk, he, rfl⟩,
          bind_eq_ok_iff.2 ⟨values, _, ih.2 ⟨hks, hes, rfl⟩, rfl⟩⟩

example : (readAll [.text, .bytes, .compact]).run (ofBytes [8, 72, 105, 4, 171, 1, 1, 0]) =
    .ok [.text "Hi", .bytes [171], .number 64] ⟨7, [0]⟩ := rfl

/-- The fields of a schema are read of a buffer just when they are of its kinds and the
    buffer starts with what is written for them, and then the reader is at the end of that.
    What is written for them does not depend on what it is written behind. -/
theorem readAll_ok_iff_putAll_isPrefix (schema : List FieldKind) (values : List Found)
    (buffer : Bytes) (position : Nat) :
    ((∃ r, (readAll schema).run (ofBytes buffer) = .ok values r ∧ r.position = position) ↔
        List.Forall₂ FieldKind.Holds schema values ∧ putAll [] values <+: buffer ∧
          position = (putAll [] values).length) ∧
      ∀ front, putAll front values = front ++ putAll [] values := by
  refine ⟨?_, fun front => putAll_eq_append front values⟩
  rw [putAll_nil]
  constructor
  · rintro ⟨r, h, rfl⟩
    obtain ⟨hk, he, rfl⟩ := readAll_eq_ok_iff.1 h
    exact ⟨hk, he, Nat.zero_add _⟩
  · rintro ⟨hk, he, rfl⟩
    exact ⟨_, readAll_eq_ok_iff.2 ⟨hk, he, rfl⟩, Nat.zero_add _⟩

end IntentWire.Reader
