import IntentWire.Command.Outcome
import IntentWire.Proofs.Acceptance
import IntentWire.Proofs.Containment
import IntentWire.Proofs.RenderedBalances

/-!
# Faithful reports

What is reported in JSON on a buffer tells what the buffer says. Two reports are the same just
when the records have the same types and statements one by one, whatever characters there are
in them: no text is taken for another statement, and none for two records. So the reports tell
passwords apart by their bytes, and accounts with their balances by all 48 of them.

* `Report.ofIntents_json_inj`: nothing is lost on the way from the statements to the text.
* `Record.SaysAlike`: what records have in common that are reported alike.
* `Call.report_faithful`: what calls print.
-/

namespace IntentWire

open Bytes
open IntentWire.Compact (IsWhole)

/-! ### Reports -/

namespace Report

/-- The members of two lists are the same if they are in each place. -/
theorem mapIdx_injective {α β : Type} {f : Nat → α → β} (hf : ∀ i, Function.Injective (f i)) :
    Function.Injective (List.mapIdx f) := by
  intro l l' h
  refine List.ext_getElem? fun i => Option.map_injective (hf i) ?_
  rw [← List.getElem?_mapIdx, ← List.getElem?_mapIdx, h]

theorem intentsJson_injective : Function.Injective intentsJson := by
  intro intents intents' h
  simp only [intentsJson, Json.object.injEq, List.cons.injEq, Prod.mk.injEq, Json.list.injEq,
    true_and, and_true] at h
  obtain ⟨-, -, h⟩ := h
  refine mapIdx_injective (fun index => ?_) h
  rintro ⟨tag, statement⟩ ⟨tag', statement'⟩ hi
  simp only [Json.object.injEq, List.cons.injEq, Prod.mk.injEq, Json.text.injEq, true_and,
    and_true] at hi
  rw [hi.1, Statement.toJson_injective hi.2]

/-- No other intents are reported by the same text, wherever it goes. -/
theorem ofIntents_json_inj {host host' : Command.Host} {intents intents' : List Intent} :
    ofIntents host .json intents = ofIntents host' .json intents' ↔ intents = intents' := by
  rw [ofIntents_json, ofIntents_json, String.append_left_inj, Json.render_injective.eq_iff,
    intentsJson_injective.eq_iff]

end Report

/-! ### Records -/

namespace Record

/-- What a record says. -/
def statement (r : Record) : Statement :=
  (Statement.decode r.tag r.payload).value

theorem statement_password {r : Record} (h : r.tag = Tag.password) :
    r.statement = .hexBytes (Hex.encode r.payload) := by
  rw [statement, h, Statement.value_decode_password]

theorem statement_psp22 {r : Record} (h : r.tag = Tag.psp22) :
    r.statement = (Statement.decodePsp22 r.payload).value := by
  rw [statement, h, Statement.decode_psp22, Statement.value_decodeWith]

/-- Whether two records have the same type and say the same. A password is then the same in
    both, and so are an account and its balance, but for a length in front of them. -/
structure SaysAlike (r r' : Record) : Prop where
  tag_eq : r.tag = r'.tag
  statement_eq : r.statement = r'.statement
  payload_eq : r.tag = Tag.password → r.payload = r'.payload
  tuple_eq : r.tag = Tag.psp22 → ∀ account amount, r.statement = .accountBalance account amount →
    ∃ q q' t, t.length = Statement.tupleSize ∧ r.payload = q ++ t ∧ r'.payload = q' ++ t ∧
      (q = [] ∨ IsWhole q) ∧ (q' = [] ∨ IsWhole q')

variable {r r' : Record}

theorem saysAlike_of_eq (ht : r.tag = r'.tag) (hs : r.statement = r'.statement) :
    r.SaysAlike r' where
  tag_eq := ht
  statement_eq := hs
  payload_eq hp := by
    rw [statement_password hp, statement_password (ht ▸ hp), Statement.hexBytes.injEq] at hs
    exact Hex.digits_injective (String.ofList_inj.1 hs)
  tuple_eq hp account amount hv := by
    have hv' := hs ▸ hv
    rw [statement_psp22 hp] at hv
    rw [statement_psp22 (ht ▸ hp)] at hv'
    obtain ⟨q, hq, he⟩ := (Statement.holdsTuple_of_value_eq hv).exists_append
    obtain ⟨q', hq', he'⟩ := (Statement.holdsTuple_of_value_eq hv').exists_append
    exact ⟨q, q', _, Statement.length_toTuple account amount, he, he', hq, hq'⟩

end Record

namespace Collection

theorem intents_eq_iff {c c' : Collection} :
    c.intents.value = c'.intents.value ↔ List.Forall₂ Record.SaysAlike c c' := by
  rw [value_intents, value_intents, ← List.forall₂_eq_eq_eq, List.forall₂_map_left_iff,
    List.forall₂_map_right_iff]
  refine ⟨fun h => h.imp fun r r' hi => ?_, fun h => h.imp fun r r' hi => ?_⟩
  · exact Record.saysAlike_of_eq (congrArg Intent.tag hi) (congrArg Intent.statement hi)
  · exact congrArg₂ Intent.mk hi.tag_eq hi.statement_eq

end Collection

namespace Report

/-- Whether a report shows the amounts of a collection by all their decimal digits. -/
def ShowsAmounts (records : Collection) (report : Json) : Prop :=
  ∃ items, report.field? "intents" = some (.list items) ∧
    ∀ i (hi : i < records.length) account amount,
      records[i].statement = .accountBalance account amount →
        ∃ item statement value digits, items[i]? = some item ∧
          item.field? "statement" = some statement ∧ statement.field? "value" = some value ∧
          value.field? "amount" = some (.text digits) ∧ (∀ d ∈ digits.toList, d.isDigit) ∧
          Nat.ofDigitChars 10 digits.toList 0 = amount.toNat

theorem showsAmounts_intentsJson (records : Collection) :
    ShowsAmounts records (intentsJson records.intents.value) := by
  refine ⟨_, rfl, fun i hi account amount hv => ?_⟩
  refine ⟨.object [("index", .number i), ("type", .text records[i].tag),
    ("statement", (Statement.accountBalance account amount).toJson)], _, _, _, ?_, rfl, rfl, rfl,
    ?_, ?_⟩
  · rw [List.getElem?_mapIdx, Collection.value_intents, List.getElem?_map,
      List.getElem?_eq_getElem hi, ← hv]
    rfl
  · rw [Nat.toString_eq_ofList_toDigits, String.toList_ofList]
    exact fun d => Nat.isDigit_of_mem_toDigits (by decide) (by decide)
  · rw [Nat.toString_eq_ofList_toDigits, String.toList_ofList, Nat.ofDigitChars_ten_toDigits]

end Report

/-! ### Calls -/

namespace Command.Call

/-- Whether a call reports in JSON on the collection of a buffer that its input gives. -/
structure Reports (x : Call) (b : Bytes) (c : Collection) : Prop where
  isJson : x.outputFormat = .json
  gives : ∃ input, x.invocation.action = .decode input ∧ input.Gives x.around b
  decode_eq : Collection.decode x.limits b = .ok c

variable {x x' : Call} {b b' : Bytes} {c c' : Collection}

theorem Reports.stdout_eq (h : x.Reports b c) :
    x.outcome.stdout = Report.ofIntents x.host .json c.intents.value := by
  obtain ⟨input, ha, hb⟩ := h.gives
  rw [(outcome_of_decode_ok ha hb h.decode_eq).2, h.isJson]

/-- Reports on two buffers are the same just when the records say the same one by one. -/
theorem Reports.stdout_eq_iff (h : x.Reports b c) (h' : x'.Reports b' c') :
    x.outcome.stdout = x'.outcome.stdout ↔ List.Forall₂ Record.SaysAlike c c' := by
  rw [h.stdout_eq, h'.stdout_eq, ← Collection.intents_eq_iff, Report.ofIntents_json_inj]

/-- What a call prints that reports in JSON on a collection.

    * No call prints the same, whatever its host, its limits and its input are, unless its
      records are as many and have the same types and statements one by one. In particular,
      their passwords are then the same, and so are the 48 bytes of their accounts and balances.
    * The amounts are shown by all their digits. -/
theorem report_faithful (h : x.Reports b c) :
    (∀ x' b' c', Reports x' b' c' →
        (x.outcome.stdout = x'.outcome.stdout ↔ List.Forall₂ Record.SaysAlike c c')) ∧
      Json.Tells x.outcome.stdout (Report.ShowsAmounts c) := by
  obtain ⟨_, ha, hb⟩ := h.gives
  exact ⟨fun _ _ _ => h.stdout_eq_iff,
    tells_of_decode_ok ha hb h.decode_eq h.isJson (Report.showsAmounts_intentsJson c)⟩

/-- A payload that is no text is not taken for a text that says so, be it reported on a terminal
    in the form that is set or elsewhere in the usual form. -/
theorem report_faithful_imitated :
    ∃ x x' : Call, ∃ b b' : Bytes, x.host.terminal.isSome ∧ x'.invocation.settings.format = none ∧
      x.Reports b [⟨"Note", [0xFF]⟩] ∧ x'.Reports b' [⟨"Note", ofText Statement.badText⟩] ∧
      Record.statement ⟨"Note", [0xFF]⟩ = .invalid Statement.badText ∧
      Record.statement ⟨"Note", ofText Statement.badText⟩ = .plainText Statement.badText ∧
      x.outcome.stdout ≠ x'.outcome.stdout := by
  let around (c : Collection) : Surroundings := ⟨fun _ => .ok c.encode, .ok []⟩
  let x (c : Collection) : Call :=
    ⟨{}, { terminal := some .wide }, around c, ["--format", "json", "decode", "--file", "note"],
      ⟨{ format := some .json }, .decode (.file "note")⟩, rfl⟩
  let x' (c : Collection) : Call :=
    ⟨{}, {}, around c, ["decode", "--file", "note"], ⟨{}, .decode (.file "note")⟩, rfl⟩
  have hdecode {c : Collection} (hw : c.IsWithin {}) : Collection.decode {} c.encode = .ok c :=
    (Collection.reading_of_encode (List.prefix_refl _) hw).eq.1
  have h : (x [⟨"Note", [0xFF]⟩]).Reports _ _ := ⟨rfl, ⟨_, rfl, .file rfl⟩, hdecode (by decide)⟩
  have h' : (x' [⟨"Note", ofText Statement.badText⟩]).Reports _ _ :=
    ⟨rfl, ⟨_, rfl, .file rfl⟩, hdecode (by decide)⟩
  have hs : Record.statement ⟨"Note", [0xFF]⟩ = .invalid Statement.badText := by decide +kernel
  have hs' : Record.statement ⟨"Note", ofText Statement.badText⟩ =
      .plainText Statement.badText := by decide +kernel
  refine ⟨_, _, _, _, rfl, rfl, h, h', hs, hs', fun he => ?_⟩
  obtain ⟨hsay, -⟩ := List.forall₂_cons.1 (((report_faithful h).1 _ _ _ h').1 he)
  cases hs.symm.trans (hsay.statement_eq.trans hs')

end Command.Call

end IntentWire
