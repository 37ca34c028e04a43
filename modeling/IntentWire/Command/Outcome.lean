import IntentWire.Command.Buffer
import IntentWire.Text.Json.Lemmas

/-!
# Outcomes

What a command line comes to once it makes sense (`Call`), by what it asks for. A call that
succeeds has the exit code 0 and prints its report; one that fails has the exit code of its
failure, says why, and prints nothing.

* `Call.outcome_of_value_ok`, `Call.outcome_of_value_error`: the two kinds of outcome.
* `Call.outcome_of_decode_ok`, `Call.outcome_of_decode_error`, `Call.code_of_refused`: those of
  a call that decodes an input, by what the input gives; no other way to end has the same exit
  code (`Call.code_eq_iff`), but for the two kinds of misuse, and of inputs that cannot be read.
* `Call.tells_of_decode_ok`: what is told by a report that is printed in JSON.
* `Call.outcome_of_build_ok`, `Call.code_of_build_error`: those of a call that encodes an
  expression.
-/

namespace IntentWire.Command

variable {host : Host} {format : Format} {l : Limits} {buffer : Bytes} {e : FrameError}
  {failure : Failure}

/-! ### Decoding a buffer -/

theorem value_decodeBuffer (host : Host) (format : Format) (l : Limits) (buffer : Bytes) :
    (decodeBuffer host format l buffer).value = match Collection.decode l buffer with
      | .ok c => .ok (Report.ofIntents host format c.intents.value)
      | .error e => .error (.framing e) := by
  rw [Collection.decode]
  simp only [decodeBuffer, decodeIntentsWithin, Logged.value_bind]
  cases (Collection.decodeLogged l buffer).value <;> rfl

/-- All that fails when a buffer is decoded is the reading of the collection. -/
theorem decodeBuffer_eq_error_iff :
    (decodeBuffer host format l buffer).value = .error failure ↔
      ∃ e, Collection.decode l buffer = .error e ∧ failure = .framing e := by
  rw [value_decodeBuffer]
  constructor
  · intro h
    split at h
    · cases h
    · next e hd =>
      cases h
      exact ⟨e, hd, rfl⟩
  · rintro ⟨e, hd, rfl⟩
    rw [hd]

theorem decodeBuffer_eq_framing_iff :
    (decodeBuffer host format l buffer).value = .error (.framing e) ↔
      Collection.decode l buffer = .error e := by
  rw [decodeBuffer_eq_error_iff]
  constructor
  · rintro ⟨_, hd, he⟩
    cases he
    exact hd
  · exact fun hd => ⟨e, hd, rfl⟩

/-! ### What is said of a failure -/

theorem message_of_isLimit (h : e.isLimit = true) : (Failure.framing e).message =
    "decode limit exceeded: " ++ (e.message ++ " (see --max-records, --max-field-len)") := by
  rw [← String.append_assoc]
  exact if_pos h

theorem message_of_not_isLimit (h : e.isLimit = false) :
    (Failure.framing e).message = "decode failed: " ++ e.message :=
  if_neg (Bool.eq_false_iff.1 h)

/-- Of the two openings of a message, neither goes on to be the other. -/
theorem limitExceeded_append_ne (s t : String) :
    "decode limit exceeded: " ++ s ≠ "decode failed: " ++ t := by
  intro h
  have h := congrArg String.toList h
  rw [String.toList_append, String.toList_append] at h
  exact absurd (congrArg (·[7]?) h) (by simp)

/-- A failure is said to exceed a limit just when it does. -/
theorem limitExceeded_iff :
    (∃ t, (Failure.framing e).message = "decode limit exceeded: " ++ t) ↔ e.isLimit = true := by
  cases h : e.isLimit with
  | true => exact ⟨fun _ => rfl, fun _ => ⟨_, message_of_isLimit h⟩⟩
  | false =>
    refine ⟨fun ⟨t, ht⟩ => ?_, nofun⟩
    rw [message_of_not_isLimit h] at ht
    exact absurd ht.symm (limitExceeded_append_ne t e.message)

/-- A failure is said to be another just when it exceeds no limit. -/
theorem decodeFailed_iff :
    (∃ t, (Failure.framing e).message = "decode failed: " ++ t) ↔ e.isLimit = false := by
  cases h : e.isLimit with
  | true =>
    refine ⟨fun ⟨t, ht⟩ => ?_, nofun⟩
    rw [message_of_isLimit h] at ht
    exact absurd ht (limitExceeded_append_ne _ t)
  | false => exact ⟨fun _ => rfl, fun _ => ⟨_, message_of_not_isLimit h⟩⟩

/-! ### Calls -/

/-- A command line that makes sense, what it runs on, and what is around it. -/
structure Call where
  env : Environment
  host : Host
  around : Surroundings
  arguments : List String
  /-- What the command line asks for. -/
  invocation : Invocation
  parse_eq : parse env arguments = .ok invocation

namespace Call

/-- The form of what is printed. -/
def outputFormat (x : Call) : Format :=
  x.invocation.settings.outputFormat x.host

/-- The limits of decoding. -/
def limits (x : Call) : Limits :=
  x.invocation.settings.limits

/-- What a call comes to. -/
def outcome (x : Call) : Outcome :=
  run x.env x.around x.arguments x.host

/-- What a call reports, be it logged or not. -/
def events (x : Call) : List Event :=
  (x.invocation.perform x.host x.around).events

variable {x : Call} {input : Input} {b : Bytes} {c : Collection} {expression : String}

theorem outcome_eq (x : Call) : x.outcome = x.invocation.run x.host x.around := by
  rw [outcome, run, x.parse_eq]

theorem outcome_of_value_ok {stdout : String}
    (h : (x.invocation.perform x.host x.around).value = .ok stdout) :
    x.outcome.code = 0 ∧ x.outcome.stdout = stdout := by
  rw [outcome_eq, Invocation.run]
  dsimp only
  rw [h]
  exact ⟨rfl, rfl⟩

theorem outcome_of_value_error (h : (x.invocation.perform x.host x.around).value = .error failure) :
    x.outcome.code = failure.code ∧ x.outcome.stdout = "" ∧
      x.outcome.error = some failure.message := by
  rw [outcome_eq, Invocation.run]
  dsimp only
  rw [h]
  exact ⟨rfl, rfl, rfl⟩

/-- Unless a call succeeds, it prints nothing. -/
theorem stdout_eq_empty (h : x.outcome.code ≠ 0) : x.outcome.stdout = "" := by
  cases hv : (x.invocation.perform x.host x.around).value with
  | ok stdout => exact absurd (outcome_of_value_ok hv).1 h
  | error failure => exact (outcome_of_value_error hv).2.1

/-! ### Calls that decode -/

theorem perform_of_gives (ha : x.invocation.action = .decode input)
    (hb : input.Gives x.around b) :
    x.invocation.perform x.host x.around = decodeBuffer x.host x.outputFormat x.limits b := by
  rw [Invocation.perform, ha]
  dsimp only
  rw [hb.buffer_eq]
  rfl

/-- A call whose input gives a collection reports on its intents. -/
theorem outcome_of_decode_ok (ha : x.invocation.action = .decode input)
    (hb : input.Gives x.around b) (hd : Collection.decode x.limits b = .ok c) :
    x.outcome.code = 0 ∧
      x.outcome.stdout = Report.ofIntents x.host x.outputFormat c.intents.value := by
  refine outcome_of_value_ok ?_
  rw [perform_of_gives ha hb, value_decodeBuffer, hd]

/-- What such a call prints in JSON tells what holds of the report on the intents. -/
theorem tells_of_decode_ok (ha : x.invocation.action = .decode input)
    (hb : input.Gives x.around b) (hd : Collection.decode x.limits b = .ok c)
    (hf : x.outputFormat = .json) {P : Json → Prop} (h : P (Report.intentsJson c.intents.value)) :
    Json.Tells x.outcome.stdout P := by
  rw [(outcome_of_decode_ok ha hb hd).2, hf, Report.ofIntents_json]
  exact Json.tells_render h

/-- A call whose input gives a buffer that is no collection fails of that. -/
theorem outcome_of_decode_error (ha : x.invocation.action = .decode input)
    (hb : input.Gives x.around b) (hd : Collection.decode x.limits b = .error e) :
    x.outcome.code = 60 ∧ x.outcome.error = some (Failure.framing e).message := by
  have hv : (x.invocation.perform x.host x.around).value = .error (.framing e) := by
    rw [perform_of_gives ha hb, value_decodeBuffer, hd]
  obtain ⟨hc, -, he⟩ := outcome_of_value_error hv
  exact ⟨hc, he⟩

/-- A call whose input is refused has the exit code of that. -/
theorem code_of_refused (ha : x.invocation.action = .decode input) {n : Nat}
    (hr : input.Refused x.around n) : x.outcome.code = n := by
  obtain ⟨failure, hf, rfl⟩ := hr.buffer_eq
  refine (outcome_of_value_error ?_).1
  rw [Invocation.perform, ha]
  dsimp only
  rw [hf, Logged.value_pure]

/-- How a call that decodes an input ends, and the exit code of that. -/
inductive EndsDecoding (x : Call) (input : Input) : Nat → Prop
  | success {b : Bytes} {c : Collection} :
    input.Gives x.around b → Collection.decode x.limits b = .ok c → EndsDecoding x input 0
  | rejection {b : Bytes} {e : FrameError} :
    input.Gives x.around b → Collection.decode x.limits b = .error e → EndsDecoding x input 60
  | refusal {n : Nat} : input.Refused x.around n → EndsDecoding x input n

theorem EndsDecoding.code_eq {n : Nat} (h : x.EndsDecoding input n)
    (ha : x.invocation.action = .decode input) : x.outcome.code = n := by
  cases h with
  | success hb hd => exact (outcome_of_decode_ok ha hb hd).1
  | rejection hb hd => exact (outcome_of_decode_error ha hb hd).1
  | refusal hr => exact code_of_refused ha hr

/-- The exit code of a call that decodes tells how it ends. -/
theorem code_eq_iff (ha : x.invocation.action = .decode input) {n : Nat} :
    x.outcome.code = n ↔ x.EndsDecoding input n := by
  refine ⟨?_, fun h => h.code_eq ha⟩
  rintro rfl
  have hends : ∃ n, x.EndsDecoding input n := by
    cases hi : input.buffer x.around with
    | error failure => exact ⟨failure.code, .refusal (Input.refused_of_buffer_eq_error hi)⟩
    | ok b =>
      have hb := Input.buffer_eq_ok_iff.1 hi
      cases hd : Collection.decode x.limits b with
      | ok c => exact ⟨0, .success hb hd⟩
      | error e => exact ⟨60, .rejection hb hd⟩
  obtain ⟨n, h⟩ := hends
  rw [h.code_eq ha]
  exact h

/-- A call that decodes reports the buffer, what is met on the way, and at last the numbers
    of the records and of those that make no sense. -/
theorem events_of_decode_ok (ha : x.invocation.action = .decode input)
    (hb : input.Gives x.around b) (hd : Collection.decode x.limits b = .ok c) :
    x.events = .decodingBuffer b.length x.limits ::
      ((decodeIntentsWithin x.limits b).events ++
        [.decodedBuffer c.length (Report.countInvalid c.intents.value)]) := by
  have hv : (decodeIntentsWithin x.limits b).value = .ok c.intents.value := by
    rw [Collection.decode] at hd
    rw [decodeIntentsWithin, Logged.value_bind, hd]
    rfl
  rw [events, perform_of_gives ha hb, decodeBuffer, Logged.events_bind, Logged.events_bind, hv]
  dsimp only
  rw [Collection.length_intents]
  rfl

/-! ### Calls that encode -/

theorem perform_encode (ha : x.invocation.action = .encode expression) :
    x.invocation.perform x.host x.around = encodeExpression x.host x.outputFormat expression := by
  rw [Invocation.perform, ha]
  rfl

/-- A call whose expression is accepted reports on the collection that is built of it. -/
theorem outcome_of_build_ok (ha : x.invocation.action = .encode expression)
    (hb : Expression.build expression = .ok c) :
    x.outcome.code = 0 ∧
      x.outcome.stdout = Report.ofEncoded x.host x.outputFormat c c.encode := by
  refine outcome_of_value_ok ?_
  rw [perform_encode ha, encodeExpression, hb]
  rfl

/-- A call whose expression is not accepted fails of that. -/
theorem code_of_build_error (ha : x.invocation.action = .encode expression)
    {cause : ExpressionError} (hb : Expression.build expression = .error cause) :
    x.outcome.code = 64 := by
  have hv : (x.invocation.perform x.host x.around).value = .error (.badExpression cause) := by
    rw [perform_encode ha, encodeExpression, hb]
    rfl
  exact (outcome_of_value_error hv).1

end Call

end IntentWire.Command
