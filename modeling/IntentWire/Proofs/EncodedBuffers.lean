import IntentWire.Command.Operand
import IntentWire.Command.Outcome
import IntentWire.Proofs.Meaning

/-!
# What is encoded is decoded

The text that is printed of an expression is one that can be decoded, and it does not matter
how it gets there: as an operand, on the standard input, where blanks may be around it and the
mark of hexadecimal may be missing, or as the bytes of a file that it spells. All these come to
the same (`Call.Decodes.outcome_eq`), on the same terminal if tables are printed; within the
limits they come to a report with a line for each clause of the expression.

* `Report.shows_ofEncoded`: where the text is printed.
* `Call.decode_encoded`: what is decoded of it.
-/

namespace IntentWire

open Text Bytes

/-! ### What is printed -/

namespace Report

/-- Where a line of its own stands in what is printed: as the field of an object, as the last
    line of a table, or alone. -/
inductive Shows (line : String) : Command.Format → String → Prop
  | json {text : String} :
    Json.Tells text (fun report => report.field? "hex" = some (.text line)) → Shows line .json text
  | table (before : String) : Shows line .table (before ++ "\n" ++ (line ++ "\n"))
  | pretty : Shows line .pretty (line ++ "\n")

theorem toList_hexText (wire : Bytes) :
    (hexText wire).toList = ['0', 'x'] ++ Hex.digits wire := by
  rw [hexText, String.toList_append, Hex.toList_encode]
  rfl

/-- The text of a buffer is one line. -/
theorem newline_notMem_hexText (wire : Bytes) : '\n' ∉ (hexText wire).toList := by
  rw [toList_hexText]
  intro h
  rcases List.mem_append.1 h with h | h
  · exact absurd h (by decide)
  · exact absurd ((Hex.spells_digits wire).toNat_of_mem _ h).1 (by decide)

/-- A table has a last line. -/
theorem exists_unlines_encodedTable (host : Command.Host) (c : Collection) :
    ∃ before, unlines (encodedTable host c) = before ++ "\n" := by
  rw [encodedTable, Command.Host.table]
  split
  · exact ⟨_, unlines_singleton _⟩
  · rw [Grid.render, unlines_append_singleton, ← String.append_assoc]
    exact ⟨_, rfl⟩

/-- The text of a buffer is printed in each form of the report on it. -/
theorem shows_ofEncoded (host : Command.Host) (format : Command.Format) (c : Collection)
    (wire : Bytes) : Shows (hexText wire) format (ofEncoded host format c wire) := by
  cases format with
  | json =>
    rw [ofEncoded_json]
    exact .json (Json.tells_render rfl)
  | table =>
    obtain ⟨before, hb⟩ := exists_unlines_encodedTable host c
    rw [ofEncoded, unlines_append_singleton, hb]
    exact .table before
  | pretty =>
    rw [ofEncoded, unlines_singleton]
    exact .pretty

/-- The text of a buffer is not taken for an option. -/
theorem ofArgument_hexText (wire : Bytes) : Command.Word.ofArgument (hexText wire) = .plain := by
  rw [Command.Word.ofArgument, toList_hexText]
  rfl

end Report

/-! ### What is reported of clauses -/

namespace Report

/-- Whether a report has the number of some clauses, none of which makes no sense, and for
    each clause its place, its type and what it says, which is not reported of another
    statement. -/
structure ListsClauses (clauses : List Clause) (report : Json) : Prop where
  count : report.field? "count" = some (.number clauses.length)
  invalid : report.field? "invalid" = some (.number 0)
  intents : ∃ items, report.field? "intents" = some (.list items) ∧
    items.length = clauses.length ∧
    ∀ i (hi : i < clauses.length), ∃ item statement, items[i]? = some item ∧
      item.field? "index" = some (.number i) ∧
      item.field? "type" = some (.text clauses[i].tag) ∧ clauses[i].Says statement ∧
      ∀ reported : Statement, item.field? "statement" = some reported.toJson ↔
        reported = statement

/-- The report on intents is one on the clauses that yield them. -/
theorem listsClauses_intentsJson {clauses : List Clause} {intents : List Intent}
    (hlength : intents.length = clauses.length)
    (h : ∀ i (hi : i < clauses.length), ∃ intent, intents[i]? = some intent ∧
      clauses[i].Yields intent) : ListsClauses clauses (intentsJson intents) := by
  have hinvalid : countInvalid intents = 0 := by
    rw [countInvalid, List.countP_eq_zero]
    intro intent hm
    obtain ⟨i, hi, rfl⟩ := List.getElem_of_mem hm
    obtain ⟨intent, he, hy⟩ := h i (hlength ▸ hi)
    rw [(List.getElem?_eq_some_iff.1 he).2]
    exact hy.not_isInvalid
  refine ⟨congrArg (some <| Json.number ·) hlength, congrArg (some <| Json.number ·) hinvalid,
    _, rfl, ?_, fun i hi => ?_⟩
  · rw [List.length_mapIdx, hlength]
  · obtain ⟨intent, he, hy⟩ := h i hi
    refine ⟨.object [("index", .number i), ("type", .text intent.tag),
      ("statement", intent.statement.toJson)], intent.statement, ?_, rfl, ?_,
      (hy.says_iff _).2 rfl, fun reported => ?_⟩
    · rw [List.getElem?_mapIdx, he]
      rfl
    · rw [← hy.tag_eq]
      rfl
    · change some intent.statement.toJson = _ ↔ _
      rw [Option.some.injEq, Statement.toJson_injective.eq_iff, eq_comm]

end Report

namespace Expression

/-- A clause yields the intent in its place. -/
theorem exists_yields_of_build {s : String} {clauses : List Clause} {c : Collection}
    (hp : parse s = .ok clauses) (hb : build s = .ok c)
    (hl : ∀ r ∈ c, r.payload.length < UInt64.size) (i : Nat) (hi : i < clauses.length) :
    ∃ intent, c.intents.value[i]? = some intent ∧ clauses[i].Yields intent := by
  obtain ⟨hlength, hrecords⟩ := List.forall₂_iff_get.1 ((build_eq_ok_iff hp).1 hb)
  have hic : i < c.length := hlength ▸ hi
  refine ⟨((c.get ⟨i, hic⟩).toIntent Statement.decode).value, ?_,
    Clause.yields_of_toRecord (hrecords i hi hic) (hl _ (List.get_mem c ⟨i, hic⟩))⟩
  rw [Collection.value_intents, List.getElem?_map, List.getElem?_eq_getElem hic]
  rfl

end Expression

namespace Command

/-! ### Ways to pass a buffer -/

/-- Whether an input passes a buffer. -/
inductive Input.Carries (around : Surroundings) (wire : Bytes) : Input → Prop
  | argument : Carries around wire (.hex (Report.hexText wire))
  /-- Blanks may be around the digits, and the mark of hexadecimal may be missing. -/
  | stdin {front mark back : String} : (∀ c ∈ front.toList, isBlank c) → mark ∈ ["", "0x"] →
    (∀ c ∈ back.toList, isBlank c) →
      around.stdin = .ok (ofText (front ++ (mark ++ Hex.encode wire) ++ back)) →
        Carries around wire .stdin
  | file {path : String} : around.contents path = .ok wire → Carries around wire (.file path)

variable {around : Surroundings} {wire : Bytes} {input : Input}

theorem spellsBuffer_hexText (wire : Bytes) : SpellsBuffer (Report.hexText wire) wire :=
  spellsBuffer_mark_append (by decide) wire

/-- An input that passes a buffer gives it. -/
theorem Input.Carries.gives (h : input.Carries around wire) : input.Gives around wire := by
  cases h with
  | argument => exact .text (.argument _) (spellsBuffer_hexText wire)
  | stdin hfront hmark hback h =>
    have hmarks : ∀ mark ∈ ["", "0x"], mark.toList ∈ hexMarks := by decide
    exact .text (.stdin h) (spellsBuffer_append hfront (hmarks _ hmark) hback wire)
  | file h => exact .file h

namespace Call

/-- Whether a call decodes a buffer that is passed to it. -/
def Decodes (x : Call) (wire : Bytes) : Prop :=
  ∃ input, x.invocation.action = .decode input ∧ input.Carries x.around wire

/-- Whether two calls print in the same form, and tables on the same terminal. -/
structure PrintsLike (x y : Call) : Prop where
  outputFormat_eq : x.outputFormat = y.outputFormat
  terminal_eq : y.outputFormat = .table → x.host.terminal = y.host.terminal

/-- It does not matter how a buffer is passed. -/
theorem Decodes.outcome_eq {x y : Call} (hx : x.Decodes wire) (hy : y.Decodes wire)
    (hprints : x.PrintsLike y) (hlimits : x.limits = y.limits) :
    x.outcome.code = y.outcome.code ∧ x.outcome.stdout = y.outcome.stdout := by
  obtain ⟨inputx, hax, hcx⟩ := hx
  obtain ⟨inputy, hay, hcy⟩ := hy
  cases hd : Collection.decode x.limits wire with
  | ok c =>
    obtain ⟨hxcode, hxstdout⟩ := outcome_of_decode_ok hax hcx.gives hd
    obtain ⟨hycode, hystdout⟩ := outcome_of_decode_ok hay hcy.gives (hlimits ▸ hd)
    rw [hxcode, hycode, hxstdout, hystdout, hprints.outputFormat_eq,
      Report.ofIntents_congr hprints.terminal_eq]
    exact ⟨rfl, rfl⟩
  | error e =>
    obtain ⟨hxcode, -⟩ := outcome_of_decode_error hax hcx.gives hd
    obtain ⟨hycode, -⟩ := outcome_of_decode_error hay hcy.gives (hlimits ▸ hd)
    rw [stdout_eq_empty (hxcode.trans_ne (by decide)),
      stdout_eq_empty (hycode.trans_ne (by decide)), hxcode, hycode]
    exact ⟨rfl, rfl⟩

/-- A call that decodes the buffer of an expression reports on its clauses. -/
theorem Decodes.outcome_of_build {x : Call} {expression : String} {c : Collection}
    (hx : x.Decodes c.encode) (hb : Expression.build expression = .ok c)
    (hw : c.IsWithin x.limits) :
    x.outcome.code = 0 ∧ (x.outputFormat = .json → ∃ clauses,
      Expression.parse expression = .ok clauses ∧
        Json.Tells x.outcome.stdout (Report.ListsClauses clauses)) := by
  obtain ⟨input, ha, hc⟩ := hx
  have hd : Collection.decode x.limits c.encode = .ok c :=
    (Collection.reading_of_encode (List.prefix_refl _) hw).eq.1
  refine ⟨(outcome_of_decode_ok ha hc.gives hd).1, fun hf => ?_⟩
  obtain ⟨clauses, hp, -⟩ := Expression.bind_ok_iff.1 hb
  have hlength : c.intents.value.length = clauses.length := by
    rw [Collection.length_intents, ((Expression.build_eq_ok_iff hp).1 hb).length_eq]
  -- The length in front of a text counts it, as no payload is longer than the limit.
  have hpayload : ∀ r ∈ c, r.payload.length < UInt64.size := fun r hr =>
    Nat.lt_of_le_of_lt (hw.2 r hr).2 x.limits.maxFieldLength.toNat_lt
  exact ⟨clauses, hp, tells_of_decode_ok ha hc.gives hd hf (Report.listsClauses_intentsJson hlength
    (Expression.exists_yields_of_build hp hb hpayload))⟩

/-- What is printed of an expression that is accepted can be decoded.

    * A call that encodes the expression succeeds, and prints the text of the buffer, which is
      its digits in lower case behind the mark of hexadecimal, on one line.
    * A call that decodes and has no input decodes this text when it is put at its end.
    * However the buffer is passed, the calls that decode it with the same limits and print in
      the same form have the same exit code and print the same.
    * Within the limits, they succeed and report on the clauses of the expression. -/
theorem decode_encoded {expression : String} {c : Collection}
    (hb : Expression.build expression = .ok c) :
    (∀ x : Call, x.invocation.action = .encode expression → x.outcome.code = 0 ∧
        Report.Shows (Report.hexText c.encode) x.outputFormat x.outcome.stdout ∧
        (∃ digits, Report.hexText c.encode = "0x" ++ digits ∧ Hex.SpellsLower digits c.encode) ∧
        '\n' ∉ (Report.hexText c.encode).toList) ∧
      (∀ env settings arguments, parse env arguments = .ok ⟨settings, .decode .missing⟩ →
        parse env (arguments ++ [Report.hexText c.encode]) =
          .ok ⟨settings, .decode (.hex (Report.hexText c.encode))⟩) ∧
      (∀ x y : Call, x.Decodes c.encode → y.Decodes c.encode →
        x.PrintsLike y → x.limits = y.limits →
          x.outcome.code = y.outcome.code ∧ x.outcome.stdout = y.outcome.stdout) ∧
      ∀ x : Call, x.Decodes c.encode → c.IsWithin x.limits → x.outcome.code = 0 ∧
        (x.outputFormat = .json → ∃ clauses, Expression.parse expression = .ok clauses ∧
          Json.Tells x.outcome.stdout (Report.ListsClauses clauses)) := by
  refine ⟨fun x ha => ?_, fun env settings arguments h => ?_, fun x y hx hy => hx.outcome_eq hy,
    fun x hx => hx.outcome_of_build hb⟩
  · obtain ⟨hcode, hstdout⟩ := outcome_of_build_ok ha hb
    rw [hstdout]
    exact ⟨hcode, Report.shows_ofEncoded _ _ _ _, ⟨_, rfl, Hex.spellsLower_iff.2 rfl⟩,
      Report.newline_notMem_hexText _⟩
  · exact parse_append_operand h (Report.ofArgument_hexText _)

/-- A note is printed in JSON, and in a table on a terminal; and it is read again as an operand,
    between blanks without its mark, and from a file. -/
theorem decode_encoded_note :
    (∃ x : Call, x.arguments = ["encode", "Note(a)"] ∧ x.host.terminal = none ∧
      x.outcome.code = 0 ∧ Report.Shows "0x04104e6f7465080461" .json x.outcome.stdout) ∧
      (∃ x : Call, x.arguments = ["encode", "Note(a)"] ∧ x.host.terminal.isSome ∧
        x.outcome.code = 0 ∧ Report.Shows "0x04104e6f7465080461" .table x.outcome.stdout) ∧
      parse {} ["decode", "0x04104e6f7465080461"] =
        .ok ⟨{}, .decode (.hex "0x04104e6f7465080461")⟩ ∧
      ∃ x y z : Call, x.arguments = ["decode", "0x04104e6f7465080461"] ∧
        y.arguments = ["decode", "--stdin"] ∧
        y.around.stdin = .ok (ofText " \t04104e6f7465080461\n") ∧
        z.arguments = ["decode", "--file", "note"] ∧
        z.around.contents "note" = .ok [4, 16, 78, 111, 116, 101, 8, 4, 97] ∧
        x.outcome.code = 0 ∧ y.outcome.stdout = x.outcome.stdout ∧
        z.outcome.stdout = x.outcome.stdout ∧
        Json.Tells x.outcome.stdout (Report.ListsClauses [⟨"Note", "a"⟩]) := by
  have hp : Expression.parse "Note(a)" = .ok [⟨"Note", "a"⟩] := by decide +kernel
  have hb : Expression.build "Note(a)" = .ok [⟨"Note", [4, 97]⟩] :=
    (Expression.build_eq_ok_iff hp).2 (.cons rfl .nil)
  have hhex : Report.hexText (Collection.encode [⟨"Note", [4, 97]⟩]) = "0x04104e6f7465080461" := by
    decide
  have htext : " \t" ++ ("" ++ Hex.encode (Collection.encode [⟨"Note", [4, 97]⟩])) ++ "\n" =
      " \t04104e6f7465080461\n" := by
    decide
  obtain ⟨hencode, hparse, hsame, hreport⟩ := decode_encoded hb
  rw [hhex] at hencode hparse
  let around : Surroundings :=
    ⟨fun _ => .ok [4, 16, 78, 111, 116, 101, 8, 4, 97], .ok (ofText " \t04104e6f7465080461\n")⟩
  let e : Call := ⟨{}, {}, around, ["encode", "Note(a)"], ⟨{}, .encode "Note(a)"⟩, rfl⟩
  let e' : Call := ⟨{}, { terminal := some .wide }, around, ["encode", "Note(a)"],
    ⟨{}, .encode "Note(a)"⟩, rfl⟩
  let x : Call := ⟨{}, {}, around, ["decode", "0x04104e6f7465080461"],
    ⟨{}, .decode (.hex "0x04104e6f7465080461")⟩, rfl⟩
  let y : Call := ⟨{}, {}, around, ["decode", "--stdin"], ⟨{}, .decode .stdin⟩, rfl⟩
  let z : Call :=
    ⟨{}, {}, around, ["decode", "--file", "note"], ⟨{}, .decode (.file "note")⟩, rfl⟩
  have hx : x.Decodes (Collection.encode [⟨"Note", [4, 97]⟩]) := by
    refine ⟨_, rfl, ?_⟩
    rw [← hhex]
    exact .argument
  have hy : y.Decodes (Collection.encode [⟨"Note", [4, 97]⟩]) :=
    ⟨_, rfl, .stdin (by simp [isBlank]) (by decide) (by simp [isBlank])
      (congrArg (fun text => Except.ok (ofText text)) htext.symm)⟩
  have hz : z.Decodes (Collection.encode [⟨"Note", [4, 97]⟩]) := ⟨_, rfl, .file rfl⟩
  obtain ⟨hcode, hx'⟩ := hreport x hx (by decide)
  obtain ⟨clauses, hp', htells⟩ := hx' rfl
  obtain rfl := Except.ok.inj (hp.symm.trans hp')
  obtain ⟨hex, hshows, -⟩ := hencode e rfl
  obtain ⟨hex', hshows', -⟩ := hencode e' rfl
  exact ⟨⟨e, rfl, rfl, hex, hshows⟩, ⟨e', rfl, rfl, hex', hshows'⟩, hparse {} {} ["decode"] rfl,
    x, y, z, rfl, rfl, rfl, rfl, rfl, hcode, (hsame y x hy hx ⟨rfl, fun _ => rfl⟩ rfl).2,
    (hsame z x hz hx ⟨rfl, fun _ => rfl⟩ rfl).2, htells⟩

end Call

end Command

end IntentWire
