import IntentWire.Command.Outcome
import IntentWire.Proofs.EventTrail

/-!
# Exit codes

The exit code of a call tells which of its steps fails, if one does: reading the input as it
has to be read, the hexadecimal text, the framing, or the expression. A payload that makes no
sense is none of them. It is counted, and the count is the same wherever it is told: the
warnings that are reported, the number in the report, and that in the log.

* `Collection.countWarnings_intents`: there is a warning for each payload that makes no sense.
* `Call.TellsDecoding`: what the outcome of a call tells of the input that it decodes.
* `Call.outcome_classified`: what calls come to.
-/

namespace IntentWire

/-- The number of warnings among events. -/
def countWarnings (events : List Event) : Nat :=
  events.countP (·.level = .warn)

theorem countWarnings_append (e₁ e₂ : List Event) :
    countWarnings (e₁ ++ e₂) = countWarnings e₁ + countWarnings e₂ :=
  List.countP_append

theorem countWarnings_eq_zero {events : List Event} (h : ∀ e ∈ events, e.level ≠ .warn) :
    countWarnings events = 0 := by
  rw [countWarnings, List.countP_eq_zero]
  exact fun e he => decide_eq_true_iff.not.2 (h e he)

/-- Of a payload that makes no sense there is a warning, and of another there is none. -/
theorem Statement.Remarks.countWarnings_eq {tag : String} {payload : Bytes}
    {events : List Event} (h : Remarks tag payload events) :
    countWarnings events = if (decode tag payload).value.isInvalid then 1 else 0 := by
  obtain ⟨unwrapped, complaint, rfl, hu, hc⟩ := h
  have hunwrapped : countWarnings unwrapped.toList = 0 := by
    refine countWarnings_eq_zero fun e he => ?_
    rw [((hu e).1 (Option.mem_toList.1 he)).level_eq]
    decide
  rw [countWarnings_append, hunwrapped, Nat.zero_add]
  cases hd : (decode tag payload).value with
  | invalid reason =>
    rw [(hc _).2 ⟨reason, hd, rfl⟩]
    rfl
  | accountBalance | hexBytes | empty | plainText =>
    have hnone : complaint = none := Option.eq_none_iff_forall_ne_some.2 fun e he => by
      obtain ⟨reason, hr, -⟩ := (hc e).1 he
      cases hd.symm.trans hr
    rw [hnone]
    rfl

namespace Collection

/-- The number of payloads of a collection that make no sense. -/
def countInvalid (c : Collection) : Nat :=
  c.countP fun r => (Statement.decode r.tag r.payload).value.isInvalid

theorem countInvalid_intents (c : Collection) :
    Report.countInvalid c.intents.value = c.countInvalid := by
  rw [Report.countInvalid, intents, Logged.collect, List.countP_map, List.countP_map]
  rfl

theorem events_intents (c : Collection) :
    c.intents.events = c.flatMap fun r => (Statement.decode r.tag r.payload).events := by
  rw [intents, Logged.collect, List.flatMap_map]
  simp [Record.toIntent]

/-- There is a warning for each payload that makes no sense. -/
theorem countWarnings_intents (c : Collection) :
    countWarnings c.intents.events = c.countInvalid := by
  rw [events_intents, countInvalid]
  induction c with
  | nil => rfl
  | cons r c ih =>
    rw [List.flatMap_cons, countWarnings_append, ih,
      (Statement.remarks_decode r.tag r.payload).countWarnings_eq, List.countP_cons, Nat.add_comm]

/-- Reading a collection gives no warning. -/
theorem countWarnings_decodeLogged {limits : Limits} {buffer : Bytes} {c : Collection}
    (h : decode limits buffer = .ok c) : countWarnings (decodeLogged limits buffer).events = 0 := by
  obtain ⟨trailing, -, he⟩ := events_decodeLogged_of_ok h
  rw [he]
  refine countWarnings_eq_zero fun event hm => ?_
  rcases List.mem_append.1 hm with hm | hm
  · rw [level_of_mem_readEvents hm]
    decide
  · rw [trailingEvents] at hm
    split at hm
    · cases hm
    · obtain rfl := List.mem_singleton.1 hm
      simp [Event.level]

theorem countWarnings_decodeIntentsWithin {limits : Limits} {buffer : Bytes} {c : Collection}
    (h : decode limits buffer = .ok c) :
    countWarnings (decodeIntentsWithin limits buffer).events = c.countInvalid := by
  rw [events_decodeIntentsWithin, h, countWarnings_append, countWarnings_decodeLogged h,
    Nat.zero_add]
  exact countWarnings_intents c

end Collection

namespace Command

namespace Call

/-- The places that tell of a call that decodes the buffer `b` to the collection `c` how many
    of its payloads make no sense. -/
structure CountsInvalid (x : Call) (b : Bytes) (c : Collection) : Prop where
  /-- The warnings of the decoding. -/
  warnings : countWarnings (decodeIntentsWithin x.limits b).events = c.countInvalid
  /-- All the warnings that there are. -/
  allWarnings : countWarnings x.events = c.countInvalid
  /-- What is reported of the whole. -/
  event : .decodedBuffer c.length c.countInvalid ∈ x.events
  /-- The JSON that is printed. -/
  report : x.outputFormat = .json → Json.Tells x.outcome.stdout fun report =>
    report.field? "count" = some (.number c.length) ∧
      report.field? "invalid" = some (.number c.countInvalid)

/-- What the outcome of a call that decodes an input tells. -/
structure TellsDecoding (x : Call) (input : Input) : Prop where
  code_mem : x.outcome.code ∈ [0, 1, 50, 60, 64]
  /-- It succeeds if the input gives a collection, whatever the payloads are. -/
  succeeds_iff : x.outcome.code = 0 ↔
    ∃ b c, input.Gives x.around b ∧ Collection.decode x.limits b = .ok c
  rejects_iff : x.outcome.code = 60 ↔
    ∃ b e, input.Gives x.around b ∧ Collection.decode x.limits b = .error e
  isMisused_iff : x.outcome.code = 64 ↔
    input = .missing ∨ ∃ text, input.HasText x.around text ∧ ¬∃ b, SpellsBuffer text b
  isUnreadable_iff : x.outcome.code = 1 ∨ x.outcome.code = 50 ↔
    ∃ n, input.Unreadable x.around n
  code_of_unreadable : ∀ n, input.Unreadable x.around n → x.outcome.code = n
  /-- What is said of a buffer that is rejected. -/
  message : ∀ b e, input.Gives x.around b → Collection.decode x.limits b = .error e →
    ∃ message, x.outcome.error = some message ∧
      ((∃ t, message = "decode limit exceeded: " ++ t) ↔ e.isLimit = true) ∧
      ((∃ t, message = "decode failed: " ++ t) ↔ e.isLimit = false)
  counts : ∀ b c, input.Gives x.around b → Collection.decode x.limits b = .ok c →
    x.CountsInvalid b c

variable {x : Call} {input : Input} {b : Bytes} {c : Collection}

theorem countsInvalid (ha : x.invocation.action = .decode input) (hb : input.Gives x.around b)
    (hd : Collection.decode x.limits b = .ok c) : x.CountsInvalid b c := by
  have hwarnings := Collection.countWarnings_decodeIntentsWithin hd
  have he := events_of_decode_ok ha hb hd
  rw [Collection.countInvalid_intents] at he
  refine ⟨hwarnings, ?_, ?_, fun hf => ?_⟩
  · rw [he, ← List.singleton_append, countWarnings_append, countWarnings_append, hwarnings]
    exact Nat.zero_add _
  · rw [he]
    simp
  · refine tells_of_decode_ok ha hb hd hf ⟨?_, ?_⟩
    · rw [Report.intentsJson, Collection.length_intents]
      rfl
    · rw [Report.intentsJson, Collection.countInvalid_intents]
      rfl

theorem EndsDecoding.code_mem {n : Nat} (h : x.EndsDecoding input n) :
    n ∈ [0, 1, 50, 60, 64] := by
  cases h with
  | success | rejection => decide
  | refusal hr =>
    cases hr with
    | badHex | missing => decide
    | unreadable h =>
      obtain rfl | rfl := h.code_eq
      all_goals decide

theorem endsDecoding_success_iff : x.EndsDecoding input 0 ↔
    ∃ b c, input.Gives x.around b ∧ Collection.decode x.limits b = .ok c := by
  constructor
  · rintro (⟨hb, hd⟩ | _ | hr)
    · exact ⟨_, _, hb, hd⟩
    · cases hr with | unreadable h => exact absurd h.code_eq (by decide)
  · rintro ⟨b, c, hb, hd⟩
    exact .success hb hd

theorem endsDecoding_rejection_iff : x.EndsDecoding input 60 ↔
    ∃ b e, input.Gives x.around b ∧ Collection.decode x.limits b = .error e := by
  constructor
  · rintro (_ | ⟨hb, hd⟩ | hr)
    · exact ⟨_, _, hb, hd⟩
    · cases hr with | unreadable h => exact absurd h.code_eq (by decide)
  · rintro ⟨b, e, hb, hd⟩
    exact .rejection hb hd

/-- The exit code of misuse is that of a text that spells no buffer and of no input at all. -/
theorem endsDecoding_misuse_iff : x.EndsDecoding input 64 ↔
    input = .missing ∨ ∃ text, input.HasText x.around text ∧ ¬∃ b, SpellsBuffer text b := by
  constructor
  · rintro (_ | _ | hr)
    cases hr with
    | badHex ht hs => exact .inr ⟨_, ht, hs⟩
    | missing => exact .inl rfl
    | unreadable h => exact absurd h.code_eq (by decide)
  · rintro (rfl | ⟨text, ht, hs⟩)
    · exact .refusal .missing
    · exact .refusal (.badHex ht hs)

/-- The exit codes of inputs that cannot be read are those of no others. -/
theorem endsDecoding_unreadable_iff : x.EndsDecoding input 1 ∨ x.EndsDecoding input 50 ↔
    ∃ n, input.Unreadable x.around n := by
  constructor
  · rintro ((_ | _ | hr) | (_ | _ | hr))
    all_goals cases hr with | unreadable h => exact ⟨_, h⟩
  · rintro ⟨n, h⟩
    obtain rfl | rfl := h.code_eq
    · exact .inl (.refusal (.unreadable h))
    · exact .inr (.refusal (.unreadable h))

theorem tellsDecoding (ha : x.invocation.action = .decode input) : x.TellsDecoding input where
  code_mem := ((code_eq_iff ha).1 rfl).code_mem
  succeeds_iff := (code_eq_iff ha).trans endsDecoding_success_iff
  rejects_iff := (code_eq_iff ha).trans endsDecoding_rejection_iff
  isMisused_iff := (code_eq_iff ha).trans endsDecoding_misuse_iff
  isUnreadable_iff :=
    (or_congr (code_eq_iff ha) (code_eq_iff ha)).trans endsDecoding_unreadable_iff
  code_of_unreadable _ h := code_of_refused ha (.unreadable h)
  message _ _ hb hd :=
    ⟨_, (outcome_of_decode_error ha hb hd).2, limitExceeded_iff, decodeFailed_iff⟩
  counts _ _ hb hd := countsInvalid ha hb hd

/-- What calls come to.

    * A call that decodes has the exit code of the first of its steps that fails. It never
      fails of a payload: those that make no sense are counted, and the count is the same
      wherever it is told.
    * A call that encodes has the exit code 0 or 64, as the expression is accepted or not.
    * Unless the exit code is 0, nothing is printed. -/
theorem outcome_classified (x : Call) :
    (∀ input, x.invocation.action = .decode input → x.TellsDecoding input) ∧
      (∀ expression, x.invocation.action = .encode expression →
        (x.outcome.code = 0 ↔ ∃ c, Expression.build expression = .ok c) ∧
          (x.outcome.code = 64 ↔ ∃ cause, Expression.build expression = .error cause)) ∧
      (x.outcome.code ≠ 0 → x.outcome.stdout = "") := by
  refine ⟨fun input ha => tellsDecoding ha, fun expression ha => ?_, stdout_eq_empty⟩
  cases hb : Expression.build expression with
  | ok c =>
    rw [(outcome_of_build_ok ha hb).1]
    simp
  | error cause =>
    rw [code_of_build_error ha hb]
    simp

/-- An account without a balance is counted where it can be, and the call succeeds, also on a
    terminal. A standard input that is no text is not looked at any further. -/
theorem outcome_classified_each :
    (∃ x : Call, x.arguments = ["decode", "0x04145073703232080401"] ∧ x.outcome.code = 0 ∧
      countWarnings x.events = 1 ∧ .decodedBuffer 1 1 ∈ x.events ∧
      Json.Tells x.outcome.stdout fun report => report.field? "count" = some (.number 1) ∧
        report.field? "invalid" = some (.number 1)) ∧
      (∃ x : Call, x.arguments = ["decode", "0x04145073703232080401"] ∧
        x.host.terminal.isSome ∧ x.outputFormat = .table ∧ x.outcome.code = 0 ∧
        countWarnings x.events = 1) ∧
      ∃ x : Call, x.arguments = ["decode", "--stdin"] ∧ x.around.stdin = .ok [255] ∧
        x.outcome.code = 1 ∧ x.outcome.stdout = "" := by
  have hd : Collection.decode {} [4, 20, 80, 115, 112, 50, 50, 8, 4, 1] =
    .ok [⟨"Psp22", [4, 1]⟩] := rfl
  let call (host : Host) : Call :=
    ⟨{}, host, ⟨fun _ => .error .missing, .ok []⟩, ["decode", "0x04145073703232080401"],
      ⟨{}, .decode (.hex "0x04145073703232080401")⟩, rfl⟩
  have hb (host : Host) : Input.Gives (call host).around (.hex "0x04145073703232080401")
      [4, 20, 80, 115, 112, 50, 50, 8, 4, 1] :=
    .text (.argument _) (parseHex_eq_ok_iff.1 rfl)
  refine ⟨⟨call {}, rfl, ?_⟩, ⟨call { terminal := some .wide }, rfl, rfl, rfl, ?_⟩, ?_⟩
  · have hx := (outcome_classified (call {})).1 _ rfl
    obtain ⟨-, hall, hevent, hreport⟩ := hx.counts _ _ (hb _) hd
    exact ⟨hx.succeeds_iff.2 ⟨_, _, hb _, hd⟩, hall, hevent, hreport rfl⟩
  · have hx := (outcome_classified (call { terminal := some .wide })).1 _ rfl
    exact ⟨hx.succeeds_iff.2 ⟨_, _, hb _, hd⟩, (hx.counts _ _ (hb _) hd).allWarnings⟩
  · let x : Call := ⟨{}, {}, ⟨fun _ => .error .missing, .ok [255]⟩, ["decode", "--stdin"],
      ⟨{}, .decode .stdin⟩, rfl⟩
    have hb : Bytes.text? [255] = none := rfl
    have hcode : x.outcome.code = 1 :=
      ((outcome_classified x).1 _ rfl).code_of_unreadable 1 <| .noText rfl fun text ht =>
        Option.some_ne_none text ((Bytes.text?_eq_some_iff.2 ht).symm.trans hb)
    exact ⟨x, rfl, rfl, hcode, (outcome_classified x).2.2 (by rw [hcode]; decide)⟩

end Call

end Command

end IntentWire
