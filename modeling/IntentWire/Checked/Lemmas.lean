import IntentWire.Checked
import IntentWire.Checked.Follows
import IntentWire.Framing.Lemmas
import IntentWire.Statement.Lemmas

/-!
# Decoding stays within the domains

No operation of the checked decoding is applied outside its domain, so that it comes to
what decoding comes to.

* `run_decodeCompact`: an encoding that is too wide to be copied to a word is refused
  before it is.
* `Cursor.Sound`: what keeps the slices in the buffer. Every read leaves the position in
  it (`Cursor.follows_compact`, `Cursor.follows_slice`), whether or not it fails.
* `decodeIntents_eq`, `decode_eq`: a buffer, and the payload of any type.
-/

namespace IntentWire.Checked

/-! ### Operations with a domain -/

theorem add_of_lt {m n : Nat} (h : m + n < UInt64.size) : add m n = some (m + n) :=
  if_pos h

theorem sub_of_le {m n : Nat} (h : n ≤ m) : sub m n = some (m - n) :=
  if_pos h

theorem slice_of_le {b : Bytes} {i j : Nat} (hi : i ≤ j) (hj : j ≤ b.length) :
    slice b i j = some ((b.drop i).take (j - i)) :=
  if_pos ⟨hi, hj⟩

/-- A slice has as many bytes as there are between its ends. -/
theorem length_of_slice {b found : Bytes} {i j : Nat} (h : slice b i j = some found) :
    found.length = j - i := by
  obtain ⟨⟨hi, hj⟩, hf⟩ := Option.ite_none_right_eq_some.1 h
  rw [← Option.some.inj hf, List.length_take, List.length_drop]
  omega

theorem tail_of_le {b : Bytes} {i : Nat} (h : i ≤ b.length) : tail b i = some (b.drop i) :=
  if_pos h

theorem copy_of_length {n : Nat} {b : Bytes} (h : b.length = n) : copy n b = some ⟨b, h⟩ :=
  dif_pos h

/-! ### Compact integers -/

section

open IntentWire.Compact

/-- The bytes of a value that is not refused for its width fit a word. -/
theorem valueBytes_of_big {first : UInt8} (hm : Mode.ofFirst first = .big)
    (hw : headerWidth first ≤ maxWidth) :
    4 ≤ headerWidth first - 1 ∧ headerWidth first - 1 ≤ 8 := by
  rw [headerWidth_big hm] at hw ⊢
  rw [maxWidth] at hw
  omega

theorem word_of_length {n : Nat} {raw : Bytes} (hn : n ≤ 8) (h : raw.length = n) :
    word n raw = some (.ofNat (Bytes.ofLittleEndian raw)) := by
  have hfront : slice (List.replicate 8 0) 0 n = some (List.replicate n 0) := by
    rw [slice_of_le (Nat.zero_le n) (by rwa [List.length_replicate]), List.drop_zero,
      Nat.sub_zero, List.take_replicate, Nat.min_eq_left hn]
  have hcopy : copy (List.replicate n (0 : UInt8)).length raw =
      some ⟨raw, by rw [h, List.length_replicate]⟩ := copy_of_length _
  rw [word, hfront, Option.bind_eq_bind, Option.bind_some, hcopy, Option.bind_eq_bind,
    Option.bind_some, List.drop_replicate, Bytes.ofLittleEndian_append_zeros]
  rfl

theorem last_of_length {n : Nat} {raw : Bytes} (hn : 0 < n) (h : raw.length = n) :
    last n raw = raw.getLast? := by
  rw [last, sub_of_le hn, Option.bind_eq_bind, Option.bind_some, List.getLast?_eq_getElem?, h]

/-- What is found within the domain of an operation goes on. -/
theorem liftM_some_bind {α : Type} (a : α) (f : α → Decoded) :
    (liftM (some a) : ExceptT ReadError Option α) >>= f = f a :=
  rfl

theorem run_liftM_bind_pure (x : Except ReadError Unit) (b : UInt64 × Nat) :
    ((liftM x : ExceptT ReadError Option Unit) >>= fun _ => pure b).run =
      some (x >>= fun _ => pure b) := by
  cases x <;> rfl

theorem run_decodeBig {first : UInt8} (hm : Mode.ofFirst first = .big) (s : Bytes) :
    (decodeBig first s).run = some (Compact.decodeBig first s) := by
  have hone : 1 ≤ headerWidth first := headerWidth_pos first
  rw [decodeBig, Compact.decodeBig]
  simp only [sub_of_le hone, liftM_some_bind]
  by_cases hw : maxWidth < headerWidth first
  · simp only [if_pos hw]
    rfl
  obtain ⟨h4, h8⟩ := valueBytes_of_big hm (Nat.not_lt.1 hw)
  generalize headerWidth first = width at *
  by_cases hs : s.length < width
  · have hslice : slice s 1 width = none := if_neg fun h => absurd hs (Nat.not_lt.2 h.2)
    have hlead : leading width s = .error (.truncated width s.length) :=
      if_pos (by rw [List.length_take]; omega)
    simp only [if_neg hw, hslice, hlead]
    rfl
  · -- There are as many bytes as the width says, and the value fits a word.
    have hlead : leading width s = .ok (s.take width) :=
      if_neg (by rw [List.length_take]; omega)
    have hslice : slice s 1 width = some ((s.take width).drop 1) := by
      rw [slice_of_le hone (Nat.not_lt.1 hs), List.drop_take]
    have hraw := length_of_slice hslice
    have hne : (s.take width).drop 1 ≠ [] := List.ne_nil_of_length_pos (by omega)
    obtain ⟨top, htop⟩ := Option.ne_none_iff_exists'.1 (mt List.getLast?_eq_none_iff.1 hne)
    have hlast := last_of_length (Nat.lt_of_lt_of_le (by decide) h4) hraw
    simp only [if_neg hw, hslice, hlead, word_of_length h8 hraw, hlast, htop, liftM_some_bind]
    change _ = some (if ((s.take width).drop 1).getLast? = some 0 then _ else _)
    simp only [htop, Option.some.injEq]
    by_cases hz : top = 0
    · simp only [if_pos hz]
      rfl
    · simp only [if_neg hz]
      exact run_liftM_bind_pure _ _

/-- A compact integer is read without a stop. -/
theorem run_decodeCompact (s : Bytes) : (decodeCompact s).run = some (Compact.decode s) := by
  cases s with
  | nil => rfl
  | cons first s =>
    rw [decodeCompact, Compact.decode]
    dsimp only [List.head?_cons]
    cases hm : Mode.ofFirst first with
    | big => exact run_decodeBig hm _
    | _ => rfl

end

/-! ### Cursors -/

namespace Cursor

/-- The reader that a cursor stands for. -/
def reader (c : Cursor) : Reader :=
  ⟨c.position, c.buffer.drop c.position⟩

/-- The position is in the buffer, and a word counts its bytes. -/
structure Sound (c : Cursor) : Prop where
  position_le : c.position ≤ c.buffer.length
  length_lt : c.buffer.length < UInt64.size

theorem sound_ofBytes {buffer : Bytes} (h : buffer.length < UInt64.size) :
    (ofBytes buffer).Sound :=
  ⟨Nat.zero_le _, h⟩

theorem remaining_eq {c : Cursor} (h : c.Sound) : c.remaining = some c.reader.remaining := by
  rw [remaining, sub_of_le h.position_le, Reader.remaining, reader, List.length_drop]

theorem rest_eq {c : Cursor} (h : c.Sound) : c.rest = some c.reader.rest :=
  tail_of_le h.position_le

/-- A cursor is moved by no more bytes than are left, which is no overflow. -/
theorem Sound.move {c : Cursor} (h : c.Sound) {n : Nat} (hn : n ≤ c.reader.remaining) :
    add c.position n = some (c.position + n) ∧ Sound { c with position := c.position + n } ∧
      reader { c with position := c.position + n } = c.reader.advance n := by
  have hp := h.position_le
  have hl := h.length_lt
  rw [Reader.remaining, reader, List.length_drop] at hn
  refine ⟨add_of_lt (by omega), ⟨by dsimp only; omega, hl⟩, ?_⟩
  rw [reader, reader, Reader.advance, List.drop_drop]

theorem follows_compact : Follows reader Sound compact Reader.compact := by
  intro c hc
  rw [compact, run_get_bind, rest_eq hc, run_liftM_bind, Option.bind_some, run_liftM_bind,
    run_decodeCompact, Option.bind_some, run_liftExcept_bind, Reader.compact_eq]
  cases hd : Compact.decode c.reader.rest with
  | error e => exact ⟨.error e, c, rfl, hc, rfl⟩
  | ok found =>
    obtain ⟨v, n⟩ := found
    obtain ⟨hadd, hs, hr⟩ := hc.move (Compact.le_length_of_decode hd)
    refine ⟨.ok v, { c with position := c.position + n }, ?_, hs, ?_⟩
    · dsimp only
      rw [run_get_bind, run_liftM_bind, hadd]
      rfl
    · rw [hr]
      rfl

theorem follows_slice (n : Nat) : Follows reader Sound (slice n) (Reader.slice n) := by
  intro c hc
  rw [slice, run_get_bind, remaining_eq hc, run_liftM_bind, Option.bind_some, Reader.slice_eq,
    ← Reader.remaining]
  by_cases hn : c.reader.remaining < n
  · rw [if_pos hn, if_pos hn]
    exact ⟨_, c, rfl, hc, rfl⟩
  · obtain ⟨hadd, hs, hr⟩ := hc.move (Nat.not_lt.1 hn)
    have hslice : Checked.slice c.buffer c.position (c.position + n) =
        some (c.reader.rest.take n) := by
      rw [slice_of_le (Nat.le_add_right _ _) hs.position_le, Nat.add_sub_cancel_left]
      rfl
    rw [if_neg hn, if_neg hn, run_get_bind, run_liftM_bind, hadd, Option.bind_some, run_get_bind,
      run_liftM_bind, hslice]
    exact ⟨.ok (c.reader.rest.take n), { c with position := c.position + n }, rfl, hs, by
      rw [hr]; rfl⟩

/-- As many bytes as there are can be read, and are copied to a place for as many. -/
theorem run_array {c : Cursor} (hc : c.Sound) {n : Nat} (hn : n ≤ c.reader.rest.length) :
    ∃ c' h, (array n).run.run c = some (.ok ⟨c.reader.rest.take n, h⟩, c') ∧ c'.Sound ∧
      c'.reader = c.reader.advance n := by
  have hl : (c.reader.rest.take n).length = n := List.length_take_of_le hn
  obtain ⟨found, c', hx, hs, hy⟩ := follows_slice n c hc
  rw [Reader.slice_eq, if_neg (Nat.not_lt.2 hn)] at hy
  cases found with
  | error e => exact nomatch hy
  | ok b =>
    injection hy with hb hr
    subst hb
    refine ⟨c', hl, ?_, hs, hr.symm⟩
    rw [array, run_bind, hx, Option.bind_some]
    dsimp only
    rw [copy_of_length hl]
    rfl

end Cursor

/-! ### Framing -/

theorem follows_readField (limits : Limits) (index : Nat) :
    Follows Cursor.reader Cursor.Sound (Record.readFieldWith reads limits index)
      (Record.readField limits index) := by
  refine (Cursor.follows_compact.adapt _).bind fun size => ?_
  exact .ite Iff.rfl (.throw_bind _ _ _) ((Cursor.follows_slice _).adapt _)

theorem follows_readRecord (limits : Limits) (index : Nat) :
    Follows Cursor.reader Cursor.Sound (readRecord limits index) (Record.read limits index) := by
  refine (follows_readField limits index).bind fun tag => ?_
  cases Bytes.text? tag with
  | none => exact .throw _
  | some tag => exact (follows_readField limits index).bind fun payload => .pure _

namespace Stage

/-- The progress of a reader that the progress of a cursor stands for. -/
def progress (p : Progress Cursor) : Progress Reader :=
  ⟨p.reader.reader, p.records, p.events, p.room, p.begun⟩

def Sound (p : Progress Cursor) : Prop :=
  p.reader.Sound

theorem progress_atStart (buffer : Bytes) :
    progress (.atStart (.ofBytes buffer)) = .start buffer :=
  rfl

end Stage

theorem follows_reading {α : Type} {x : Read FrameError α} {y : EStateM FrameError Reader α}
    (h : Follows Cursor.reader Cursor.Sound x y) :
    Follows Stage.progress Stage.Sound (reading x) (Framing.reading y) := by
  intro p hp
  obtain ⟨found, c, hx, hc, hy⟩ := h p.reader hp
  have hrun : (reading x).run.run p =
      (x.run.run p.reader).bind fun q => some (q.1, { p with reader := q.2 }) := rfl
  rw [hrun, hx, Framing.reading_eq]
  refine ⟨found, { p with reader := c }, rfl, hc, ?_⟩
  rw [show (Stage.progress p).reader = p.reader.reader from rfl, hy]
  cases found <;> rfl

theorem follows_remaining (limits : Limits) : Follows Stage.progress Stage.Sound
    (moves limits).remaining (Framing.moves limits).remaining := by
  intro p hp
  refine ⟨.ok (Stage.progress p).reader.remaining, p, ?_, hp, rfl⟩
  change (get >>= fun q => liftM q.reader.remaining : Stage Nat).run.run p = _
  rw [run_get_bind, Cursor.remaining_eq hp]
  rfl

/-- What does not bear on the reader is done alike. -/
theorem follows_modify {f : Progress Cursor → Progress Cursor}
    {g : Progress Reader → Progress Reader} (hf : ∀ p, (f p).reader = p.reader)
    (hg : ∀ p, Stage.progress (f p) = g (Stage.progress p)) :
    Follows Stage.progress Stage.Sound (modify f : Stage Unit) (modify g : Framing Unit) := by
  refine fun p hp => ⟨.ok (), f p, rfl, ?_, ?_⟩
  · rw [Stage.Sound, hf]
    exact hp
  · rw [result, hg]
    rfl

theorem follows_count (limits : Limits) : Follows Stage.progress Stage.Sound
    (Framing.countWith (moves limits) limits) (Framing.count limits) := by
  refine (follows_reading (Cursor.follows_compact.adapt _)).bind fun n => ?_
  refine .ite Iff.rfl (.throw_bind _ _ _) ((follows_remaining limits).bind fun left => ?_)
  refine (follows_modify ?_ ?_).bind fun _ => .pure _
  all_goals exact fun _ => rfl

theorem follows_next (limits : Limits) : Follows Stage.progress Stage.Sound
    (Framing.nextWith (moves limits)) (Framing.next limits) := by
  -- The index is that of the record in both.
  refine .get_bind fun p _ => (follows_modify ?_ ?_).bind fun _ => ?_
  rotate_left 2
  · refine (follows_reading (follows_readRecord limits _)).bind fun record => ?_
    refine (follows_modify ?_ ?_).bind fun _ => follows_modify ?_ ?_
    all_goals exact fun _ => rfl
  all_goals exact fun _ => rfl

theorem follows_nextMany (limits : Limits) (n : Nat) : Follows Stage.progress Stage.Sound
    (Framing.nextManyWith (moves limits) n) (Framing.nextMany limits n) := by
  induction n with
  | zero => exact .pure _
  | succ n ih => exact (follows_next limits).bind fun _ => ih

theorem follows_collection (limits : Limits) :
    Follows Stage.progress Stage.Sound (collection limits) (Framing.collection limits) := by
  refine (follows_count limits).bind fun n => (follows_nextMany limits n).bind fun _ => ?_
  refine (follows_remaining limits).bind fun left => ?_
  refine .ite Iff.rfl (follows_modify ?_ ?_) (.pure ())
  all_goals exact fun _ => rfl

/-- The framing is never stopped, and comes to what it comes to without the checks. -/
theorem decodeLogged_eq (limits : Limits) {buffer : Bytes} (h : buffer.length < UInt64.size) :
    decodeLogged limits buffer = some (Collection.decodeLogged limits buffer) := by
  obtain ⟨found, p, hx, -, hy⟩ :=
    follows_collection limits (.atStart (.ofBytes buffer)) (Cursor.sound_ofBytes h)
  rw [Stage.progress_atStart] at hy
  rw [decodeLogged, hx, Collection.decodeLogged, hy]
  cases found <;> rfl

/-! ### Payloads -/

section

open Statement

theorem ofTuple_eq {bytes : Bytes} (h : bytes.length = tupleSize) :
    ofTuple bytes = some (Statement.ofTuple bytes h) := by
  have hs : (Cursor.ofBytes bytes).Sound := Cursor.sound_ofBytes (h ▸ by decide)
  have h48 : 32 ≤ (Cursor.ofBytes bytes).reader.rest.length := by
    change 32 ≤ bytes.length
    rw [h]
    decide
  obtain ⟨c, h32, hx, hc, hr⟩ := Cursor.run_array hs h48
  have hrest : c.reader.rest = bytes.drop 32 := by
    rw [hr]
    rfl
  have hlen : (bytes.drop 32).length = 16 := by
    rw [List.length_drop, h]
    rfl
  obtain ⟨c', h16, hx', -, -⟩ := Cursor.run_array hc (Nat.le_of_eq (hrest ▸ hlen.symm))
  rw [ofTuple, hx, Option.bind_eq_bind, Option.bind_some]
  dsimp only
  rw [hx', Option.bind_eq_bind, Option.bind_some]
  simp only [hrest, List.take_of_length_le (Nat.le_of_eq hlen)]
  rfl

theorem decodePsp22_eq (payload : Bytes) :
    decodePsp22 payload = some (Statement.decodePsp22 payload) := by
  rw [decodePsp22, Statement.decodePsp22, tuple]
  by_cases hl : payload.length = tupleSize
  · rw [if_pos hl, dif_pos hl]
    change (ofTuple payload).bind _ = _
    rw [ofTuple_eq hl]
    rfl
  rw [if_neg hl, dif_neg hl]
  rcases payload with _ | ⟨first, _ | ⟨second, rest⟩⟩
  · rfl
  · rfl
  rw [if_neg (by simp)]
  simp only [List.getElem?_cons_zero, Option.bind_eq_bind, Option.bind_some]
  by_cases hw : (first :: second :: rest).length < Compact.headerWidth first
  · have htail : tail (first :: second :: rest) (Compact.headerWidth first) = none :=
      if_neg (Nat.not_le.2 hw)
    simp only [htail, if_pos hw]
    rfl
  · simp only [tail_of_le (Nat.not_lt.1 hw), if_neg hw]
    by_cases ht : ((first :: second :: rest).drop (Compact.headerWidth first)).length = tupleSize
    · simp only [if_pos ht, dif_pos ht]
      change (ofTuple _).bind _ = _
      rw [ofTuple_eq ht]
      rfl
    · simp only [if_neg ht, dif_neg ht]
      rfl

theorem stripLength_eq (payload : Bytes) :
    stripLength payload = some (Statement.stripLength payload) := by
  rw [stripLength, Statement.stripLength, run_decodeCompact, Option.bind_eq_bind, Option.bind_some]
  cases hd : Compact.decode payload with
  | error e => rfl
  | ok found =>
    obtain ⟨declared, consumed⟩ := found
    have hc := Compact.le_length_of_decode hd
    dsimp only
    rw [sub_of_le hc, Option.bind_eq_bind, Option.bind_some, tail_of_le hc, List.length_drop]
    by_cases hl : declared.toNat = payload.length - consumed
    · rw [if_pos hl, if_pos hl]
      rfl
    · rw [if_neg hl, if_neg hl]
      rfl

theorem decodePlainText_eq (payload : Bytes) :
    decodePlainText payload = some (Statement.decodePlainText payload) := by
  rw [decodePlainText, stripLength_eq]
  rfl

theorem map_fst_builtin : builtin.map (·.1) = Tag.known :=
  rfl

/-- No payload of any type stops its decoder. -/
theorem decode_eq (tag : String) (payload : Bytes) :
    decode tag payload = some (Statement.decode tag payload) := by
  by_cases hk : tag ∈ Tag.known
  · rcases Tag.mem_known.1 hk with rfl | rfl | rfl
    · change (decodePsp22 payload).bind _ = _
      rw [decodePsp22_eq]
      rfl
    · rfl
    · rfl
  · rw [decode, Tag.lookup_of_notMem_known map_fst_builtin hk, Option.getD_none,
      decodePlainText_eq, decode_of_unknown hk]
    rfl

end

/-! ### Intents -/

theorem intents_eq (c : Collection) : intents c = some c.intents := by
  have hpure : (fun r : Record => do
      let statement ← decode r.tag r.payload
      return Record.toIntent (fun _ _ => statement) r) =
        fun r => pure (r.toIntent Statement.decode) := by
    funext r
    rw [decode_eq]
    rfl
  rw [intents, hpure, List.mapM_pure]
  rfl

/-- Decoding is never stopped, and comes to what it comes to without the checks. -/
theorem decodeIntents_eq (limits : Limits) {buffer : Bytes} (h : buffer.length < UInt64.size) :
    decodeIntents limits buffer = some (decodeIntentsWithin limits buffer) := by
  rw [decodeIntents, decodeLogged_eq limits h, decodeIntentsWithin, Option.bind_eq_bind,
    Option.bind_some]
  generalize Collection.decodeLogged limits buffer = framed
  obtain ⟨value, events⟩ := framed
  cases value with
  | error e =>
    change some (Logged.mk (Except.error e) events) = some ⟨Except.error e, events ++ []⟩
    rw [List.append_nil]
  | ok c =>
    dsimp only
    rw [intents_eq]
    change some (Logged.mk (Except.ok c.intents.value) (events ++ c.intents.events)) =
      some ⟨Except.ok c.intents.value, events ++ (c.intents.events ++ [])⟩
    rw [List.append_nil]

end IntentWire.Checked
