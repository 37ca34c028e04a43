import IntentWire.Expression.Argument
import IntentWire.Proofs.Acceptance
import IntentWire.Proofs.Containment

/-!
# What clauses say

An expression is turned into a collection, the collection into bytes, the bytes into a
collection again, and this one into intents. What comes out is what the clauses say
(`Clause.Says`), one by one and in order (`Expression.intents_of_build`), and never that a
payload makes no sense.

The payloads pass from one table by types to the other, from `Payload.builtin` to
`Statement.builtin`. Both know the same types, and what the first builds for a type is
what the second decodes for it (`Clause.says_iff_value_decode`).
-/

namespace IntentWire

open Bytes

namespace Clause

/-- What a clause says: an account and a balance as they are spelled, the multihash of a
    password in lower case, nothing for a signature, and the argument itself for all other
    types. -/
inductive Says : Clause → Statement → Prop
  | balance {argument : String} {l : Payload.TupleLayout} {account : AccountId} {amount : Amount} :
      argument.toList = l.chars → l.Spells account amount →
        Says ⟨Tag.psp22, argument⟩ (.accountBalance account amount)
  | multihash {argument hex : String} :
      Hex.SpellsLower hex (0x12 :: 0x20 :: Sha256.digest (ofText argument)) →
        Says ⟨Tag.password, argument⟩ (.hexBytes hex)
  | nothing (argument : String) : Says ⟨Tag.sr25519, argument⟩ .empty
  | text {tag : String} (argument : String) :
      tag ∉ Tag.known → Says ⟨tag, argument⟩ (.plainText argument)

variable {c : Clause} {statement : Statement} {payload : Bytes}

/-- No clause says that its payload makes no sense. -/
theorem Says.not_isInvalid (h : c.Says statement) : ¬statement.isInvalid := by
  cases h <;> simp [Statement.isInvalid]

/-- A payload is built of a clause that says something, and decoded to just this. -/
theorem Says.exists_build (h : c.Says statement) :
    ∃ payload, Payload.build c.tag c.argument = .ok payload ∧
      (payload.length < UInt64.size → (Statement.decode c.tag payload).value = statement) := by
  cases h with
  | @balance argument l account amount hs hl =>
    refine ⟨Statement.toTuple account amount, hl.buildPsp22_eq hs, fun _ => ?_⟩
    rw [Statement.decode_psp22, Statement.value_decodeWith, Statement.decodePsp22_toTuple,
      Logged.value_pure]
  | @multihash argument hex h =>
    refine ⟨_, Payload.buildPassword_eq argument, fun _ => ?_⟩
    rw [Statement.value_decode_password, Hex.spellsLower_iff.1 h]
  | nothing argument => exact ⟨[], rfl, fun _ => rfl⟩
  | text argument hk =>
    refine ⟨field (ofText argument), Payload.build_of_unknown hk argument, fun h => ?_⟩
    rw [Statement.decode_of_unknown hk, Statement.value_decodeWith]
    refine Statement.value_decodePlainText_field (Nat.lt_of_le_of_lt ?_ h)
    rw [length_field]
    exact Nat.le_add_left ..

/-- A clause says something if a payload is built of it. -/
theorem exists_says_of_build (h : Payload.build c.tag c.argument = .ok payload) :
    ∃ statement, c.Says statement := by
  obtain ⟨tag, argument⟩ := c
  by_cases hk : tag ∈ Tag.known
  · obtain rfl | rfl | rfl := Tag.mem_known.1 hk
    · obtain ⟨l, account, amount, hs, hl, -⟩ := Payload.buildPsp22_eq_ok_iff.1 h
      exact ⟨_, .balance hs hl⟩
    · exact ⟨_, .multihash (Hex.spellsLower_iff.2 rfl)⟩
    · exact ⟨_, .nothing argument⟩
  · exact ⟨_, .text argument hk⟩

/-- The payload of a clause is decoded to what the clause says, and to nothing else. -/
theorem says_iff_value_decode (hb : Payload.build c.tag c.argument = .ok payload)
    (hl : payload.length < UInt64.size) :
    c.Says statement ↔ (Statement.decode c.tag payload).value = statement := by
  have hd {statement} (h : c.Says statement) :
      (Statement.decode c.tag payload).value = statement := by
    obtain ⟨p, hp, hd⟩ := h.exists_build
    -- The payload built of what the clause says is the only one built of the clause.
    obtain rfl := Except.ok.inj (hp.symm.trans hb)
    exact hd hl
  constructor
  · exact hd
  · rintro rfl
    obtain ⟨statement, h⟩ := exists_says_of_build hb
    rw [hd h]
    exact h

/-- An intent is that of a clause if it is of the same type, says what the clause says and
    nothing else, and does not say that a payload makes no sense. -/
structure Yields (c : Clause) (i : Intent) : Prop where
  tag_eq : i.tag = c.tag
  says_iff : ∀ statement, c.Says statement ↔ i.statement = statement
  not_isInvalid : ¬i.statement.isInvalid

/-- A clause yields the intent of its record. -/
theorem yields_of_toRecord {r : Record} (h : c.toRecord = .ok r)
    (hl : r.payload.length < UInt64.size) : c.Yields (r.toIntent Statement.decode).value := by
  obtain ⟨ht, hb⟩ := toRecord_eq_ok_iff.1 h
  have hs : ∀ statement, c.Says statement ↔
      (r.toIntent Statement.decode).value.statement = statement := by
    intro statement
    rw [says_iff_value_decode hb hl, ← ht]
    rfl
  exact ⟨ht, hs, ((hs _).2 rfl).not_isInvalid⟩

end Clause

namespace Expression

open Clause

variable {s : String} {clauses : List Clause} {c : Collection} {limits : Limits}

/-- What the clauses of an expression say is what is decoded of the bytes of the collection
    that is built of it, one intent for each clause, in order. -/
theorem intents_of_build (hp : parse s = .ok clauses) (hb : build s = .ok c)
    (hw : c.IsWithin limits) :
    Collection.decode limits c.encode = .ok c ∧
      List.Forall₂ Clause.Yields clauses c.intents.value := by
  -- The length in front of a text counts it, as no payload is longer than the limit.
  have hlength : ∀ r ∈ c, r.payload.length < UInt64.size := fun r hr =>
    Nat.lt_of_le_of_lt (hw.2 r hr).2 limits.maxFieldLength.toNat_lt
  have hrecords : List.Forall₂ (fun r clause => clause.toRecord = .ok r) c clauses :=
    ((build_eq_ok_iff hp).1 hb).flip
  refine ⟨(Collection.reading_of_encode (List.prefix_refl _) hw).eq.1, ?_⟩
  rw [Collection.value_intents, List.forall₂_map_right_iff]
  refine (((List.forall₂_and_left c clauses).2 ⟨hlength, hrecords⟩).imp fun r clause h => ?_).flip
  exact yields_of_toRecord h.2 h.1

/-- An expression with a clause of each known type, and a text that starts with what counts
    its other characters. -/
theorem intents_of_build_each :
    ∃ s, s = "Psp22(0x0101010101010101010101010101010101010101010101010101010101010101, +7)
        && Password(a b) && Sr25519() && Note(\x04a)" ∧
      ∃ clauses c, parse s = .ok clauses ∧ build s = .ok c ∧ c.IsWithin {} ∧
        Collection.decode {} c.encode = .ok c ∧
        List.Forall₂ Clause.Yields clauses c.intents.value := by
  have hp : parse "Psp22(0x0101010101010101010101010101010101010101010101010101010101010101, +7)
        && Password(a b) && Sr25519() && Note(\x04a)" =
      .ok [⟨"Psp22", "0x0101010101010101010101010101010101010101010101010101010101010101, +7"⟩,
        ⟨"Password", "a b"⟩, ⟨"Sr25519", ""⟩, ⟨"Note", "\x04a"⟩] := by
    decide +kernel
  have hb : build _ = .ok [⟨"Psp22", Statement.toTuple ⟨List.replicate 32 1, rfl⟩ 7⟩,
      ⟨"Password", 0x12 :: 0x20 :: Sha256.digest (ofText "a b")⟩, ⟨"Sr25519", []⟩,
      ⟨"Note", [8, 4, 97]⟩] :=
    (build_eq_ok_iff hp).2 (.cons rfl
      (.cons (toRecord_eq_ok_iff.2 ⟨rfl, Payload.buildPassword_eq "a b"⟩)
        (.cons rfl (.cons rfl .nil))))
  refine ⟨_, rfl, _, _, hp, hb, ?hw, intents_of_build hp hb ?hw⟩
  refine ⟨by decide, ?_⟩
  simp only [List.forall_mem_cons, Record.IsWithin, Statement.length_toTuple, List.length_cons,
    Sha256.length_digest]
  decide

end Expression

end IntentWire
