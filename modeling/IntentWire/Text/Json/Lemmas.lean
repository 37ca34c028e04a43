import IntentWire.Text.Hex
import IntentWire.Text.Json

/-!
# Laws of JSON text

A JSON value is told from its text: no other value has the same text, whatever characters its
names and its text values hold.

* `unescape_escaped`: a character of a text value is read back, whatever is behind it.
* `chars`, `toList_render`: the text of a value, told from the texts of its parts.
* `isTold_chars`: a value is told from what is behind it, and so are its parts from each other.
  Only a number must not go on with a digit there.
* `render_injective`: the text of a value is that of no other.
* `Tells`, `tells_render`: what a text tells is what holds of every value that it is the line of.
-/

namespace IntentWire.Json

/-! ### Values within values -/

theorem sizeOf_lt_of_mem {items : List Json} {v : Json} (h : v ∈ items) :
    sizeOf v < sizeOf (list items) := by
  have hlt := List.sizeOf_lt_of_mem h
  rw [list.sizeOf_spec]
  omega

theorem sizeOf_snd_lt_of_mem {fields : List (String × Json)} {f : String × Json}
    (h : f ∈ fields) : sizeOf f.2 < sizeOf (object fields) := by
  have hlt := List.sizeOf_lt_of_mem h
  obtain ⟨name, v⟩ := f
  rw [Prod.mk.sizeOf_spec] at hlt
  rw [object.sizeOf_spec]
  dsimp only
  omega

/-- What holds of a value if it holds of the values within it, holds of every value. -/
@[elab_as_elim]
theorem within_induction {motive : Json → Prop} (number : ∀ n, motive (.number n))
    (text : ∀ s, motive (.text s)) (list : ∀ items, (∀ v ∈ items, motive v) → motive (.list items))
    (object : ∀ fields, (∀ f ∈ fields, motive f.2) → motive (.object fields)) : ∀ v, motive v
  | .number n => number n
  | .text s => text s
  | .list items => list items fun v _ => within_induction number text list object v
  | .object fields => object fields fun f _ => within_induction number text list object f.2
termination_by v => sizeOf v
decreasing_by
  · exact sizeOf_lt_of_mem ‹_›
  · exact sizeOf_snd_lt_of_mem ‹_›

/-! ### Characters of text values -/

/-- The character that is written behind a backslash, and what is behind that. -/
def unescapeMarked : List Char → Option (Char × List Char)
  | 'u' :: '0' :: '0' :: high :: low :: s => do
    return (.ofNat (16 * (← Hex.value? high) + (← Hex.value? low)), s)
  | 'b' :: s => some ('\x08', s)
  | 't' :: s => some ('\t', s)
  | 'n' :: s => some ('\n', s)
  | 'f' :: s => some ('\x0c', s)
  | 'r' :: s => some ('\r', s)
  | c :: s => some (c, s)
  | [] => none

/-- The character that is written at the start of the rest of a text value, and what is behind
    it. There is none where the text value ends. -/
def unescape : List Char → Option (Char × List Char)
  | [] => none
  | c :: s =>
    if c = '\\' then unescapeMarked s
    else if c = '"' then none
    else some (c, s)

/-- A character is read back, whatever is behind it. -/
theorem unescape_escaped (c : Char) (s : List Char) :
    unescape ((escaped c).toList ++ s) = some (c, s) := by
  fun_cases escaped c with
  | case8 =>
    simp only [String.toList_append, String.toList_ofList]
    change unescapeMarked ('u' :: '0' :: '0' :: Hex.digit _ :: Hex.digit _ :: s) = _
    rw [unescapeMarked, Hex.value?_digit _ (by omega), Hex.value?_digit _ (by omega)]
    simp only [Option.bind_eq_bind, Option.bind_some, Nat.div_add_mod, Char.ofNat_toNat]
    rfl
  | case9 hlt hq hb =>
    rw [String.toList_singleton, List.singleton_append, unescape, if_neg hb, if_neg hq]
  | case1 | case2 | case3 | case4 | case5 | case6 | case7 => rfl

/-! ### Parts of a text -/

/-- The text of a text value. -/
def quotedChars (s : String) : List Char :=
  '"' :: ((s.toList.flatMap fun c => (escaped c).toList) ++ ['"'])

/-- The text of a value. -/
def chars : Json → List Char
  | .number n => Nat.toDigits 10 n
  | .text s => quotedChars s
  | .list items => '[' :: ([','].intercalate (items.map chars) ++ [']'])
  | .object fields =>
    '\x7b' :: ([','].intercalate (fields.map fun f => quotedChars f.1 ++ ':' :: chars f.2) ++
      ['\x7d'])
termination_by v => sizeOf v
decreasing_by
  · exact sizeOf_lt_of_mem ‹_›
  · exact sizeOf_snd_lt_of_mem ‹_›

/-- The text of a field. -/
def fieldChars (f : String × Json) : List Char :=
  quotedChars f.1 ++ ':' :: chars f.2

theorem chars_object (fields : List (String × Json)) :
    chars (object fields) = '\x7b' :: ([','].intercalate (fields.map fieldChars) ++ ['\x7d']) := by
  rw [chars]
  rfl

theorem intercalate_cons (separator : Char) (part : List Char) (parts : List (List Char)) :
    [separator].intercalate (part :: parts) = part ++ parts.flatMap (separator :: ·) := by
  induction parts generalizing part with
  | nil => simp
  | cons part' parts ih => simp [ih]

theorem toList_quoted (s : String) : (quoted s).toList = quotedChars s := by
  have h : ∀ (l : List Char) (shown : String),
      (l.foldl (fun shown c => shown ++ escaped c) shown).toList =
        shown.toList ++ l.flatMap fun c => (escaped c).toList := by
    intro l
    induction l with
    | nil => intro shown; simp
    | cons c l ih => intro shown; simp [ih]
  rw [quoted, String.toList_append, h]
  rfl

/-- All but the first of the values of a list are behind a comma each. -/
theorem toList_renderItems_false {items : List Json}
    (h : ∀ v ∈ items, ∀ shown, (renderOnto shown v).toList = shown.toList ++ chars v)
    (shown : String) : (renderItems shown false items).toList =
      shown.toList ++ (items.map chars).flatMap (',' :: ·) := by
  induction items generalizing shown with
  | nil => simp [renderItems]
  | cons v items ih =>
    obtain ⟨hv, h⟩ := List.forall_mem_cons.1 h
    rw [renderItems, ih h, hv]
    simp

theorem toList_renderFields_false {fields : List (String × Json)}
    (h : ∀ f ∈ fields, ∀ shown, (renderOnto shown f.2).toList = shown.toList ++ chars f.2)
    (shown : String) : (renderFields shown false fields).toList =
      shown.toList ++ (fields.map fieldChars).flatMap (',' :: ·) := by
  induction fields generalizing shown with
  | nil => simp [renderFields]
  | cons f fields ih =>
    obtain ⟨hf, h⟩ := List.forall_mem_cons.1 h
    rw [renderFields, ih h, hf]
    simp [toList_quoted, fieldChars]

theorem toList_renderOnto (v : Json) :
    ∀ shown, (renderOnto shown v).toList = shown.toList ++ chars v := by
  induction v using within_induction with
  | number n =>
    intro shown
    rw [renderOnto, chars, String.toList_append, Nat.toString_eq_ofList_toDigits,
      String.toList_ofList]
  | text s =>
    intro shown
    rw [renderOnto, chars, String.toList_append, toList_quoted]
  | list items ih =>
    intro shown
    rw [renderOnto, chars, String.toList_append]
    cases items with
    | nil => simp [renderItems]
    | cons v items =>
      obtain ⟨hv, ih⟩ := List.forall_mem_cons.1 ih
      rw [renderItems, toList_renderItems_false ih, hv, List.map_cons, intercalate_cons]
      simp
  | object fields ih =>
    intro shown
    rw [renderOnto, chars_object, String.toList_append]
    cases fields with
    | nil => simp [renderFields]
    | cons f fields =>
      obtain ⟨hf, ih⟩ := List.forall_mem_cons.1 ih
      rw [renderFields, toList_renderFields_false ih, hf, List.map_cons, intercalate_cons]
      simp [toList_quoted, fieldChars]

theorem toList_render (v : Json) : v.render.toList = chars v :=
  toList_renderOnto v ""

/-! ### Parts are told from each other -/

theorem escaped_append_inj {c c' : Char} {s s' : List Char}
    (h : (escaped c).toList ++ s = (escaped c').toList ++ s') : c = c' ∧ s = s' := by
  have hu := unescape_escaped c s
  rw [h, unescape_escaped] at hu
  cases hu
  exact ⟨rfl, rfl⟩

/-- No character of a text value is taken for its end. -/
theorem quote_ne_escaped_append (c : Char) (s r : List Char) :
    '"' :: r ≠ (escaped c).toList ++ s := by
  intro h
  have hu := unescape_escaped c s
  rw [← h] at hu
  cases hu

theorem flatMap_escaped_append_inj {l l' r r' : List Char}
    (h : (l.flatMap fun c => (escaped c).toList) ++ '"' :: r =
      (l'.flatMap fun c => (escaped c).toList) ++ '"' :: r') : l = l' ∧ r = r' := by
  induction l generalizing l' with
  | nil =>
    cases l' with
    | nil => exact ⟨rfl, (List.cons.inj h).2⟩
    | cons c' l' =>
      rw [List.flatMap_cons, List.append_assoc] at h
      exact absurd h (quote_ne_escaped_append c' _ r)
  | cons c l ih =>
    rw [List.flatMap_cons, List.append_assoc] at h
    cases l' with
    | nil => exact absurd h.symm (quote_ne_escaped_append c _ r')
    | cons c' l' =>
      rw [List.flatMap_cons, List.append_assoc] at h
      obtain ⟨rfl, hl⟩ := escaped_append_inj h
      obtain ⟨rfl, rfl⟩ := ih hl
      exact ⟨rfl, rfl⟩

theorem quotedChars_append_inj {s s' : String} {r r' : List Char}
    (h : quotedChars s ++ r = quotedChars s' ++ r') : s = s' ∧ r = r' := by
  simp only [quotedChars, List.cons_append, List.append_assoc, List.nil_append] at h
  obtain ⟨hs, hr⟩ := flatMap_escaped_append_inj (List.cons.inj h).2
  exact ⟨String.toList_inj.1 hs, hr⟩

/-- Whether a text does not start with a digit, so that a number may be in front of it. -/
def EndsNumber (r : List Char) : Prop :=
  ∀ c ∈ r.head?, ¬c.isDigit

theorem takeWhile_toDigits_append (n : Nat) {r : List Char} (hr : EndsNumber r) :
    (Nat.toDigits 10 n ++ r).takeWhile Char.isDigit = Nat.toDigits 10 n := by
  have hn : ∀ c ∈ Nat.toDigits 10 n, c.isDigit := fun c hc =>
    Nat.isDigit_of_mem_toDigits (by decide) (by decide) hc
  rw [List.takeWhile_append_of_pos hn]
  cases r with
  | nil => exact List.append_nil _
  | cons c r => rw [List.takeWhile_cons_of_neg (hr c rfl), List.append_nil]

theorem toDigits_append_inj {n n' : Nat} {r r' : List Char} (hr : EndsNumber r)
    (hr' : EndsNumber r') (h : Nat.toDigits 10 n ++ r = Nat.toDigits 10 n' ++ r') :
    n = n' ∧ r = r' := by
  have hd := takeWhile_toDigits_append n hr
  rw [h, takeWhile_toDigits_append n' hr'] at hd
  have hn := congrArg (Nat.ofDigitChars 10 · 0) hd
  simp only [Nat.ofDigitChars_ten_toDigits] at hn
  subst hn
  exact ⟨rfl, List.append_cancel_left h⟩

theorem toDigits_append_ne {c : Char} (hc : ¬c.isDigit) (n : Nat) (r s : List Char) :
    Nat.toDigits 10 n ++ r ≠ c :: s := by
  obtain ⟨d, t, hd⟩ := List.exists_cons_of_ne_nil (Nat.toDigits_ne_nil (n := n) (b := 10))
  have hdigit : d.isDigit :=
    Nat.isDigit_of_mem_toDigits (b := 10) (n := n) (by decide) (by decide) (by simp [hd])
  rw [hd]
  rintro h
  exact hc ((List.cons.inj h).1 ▸ hdigit)

/-! ### Lists of parts -/

section Separated

variable {α : Type} {part : α → List Char} {close : Char} {l l' : List α} {r r' : List Char}

/-- Whether the text of `a` tells it from all others and from what is behind it, be this no
    further digit. -/
def IsTold (part : α → List Char) (a : α) : Prop :=
  ∀ a' s s', EndsNumber s → EndsNumber s' → part a ++ s = part a' ++ s' → a = a' ∧ s = s'

theorem endsNumber_cons {c : Char} (hc : ¬c.isDigit) (r : List Char) : EndsNumber (c :: r) := by
  intro d hd
  cases hd
  exact hc

theorem endsNumber_flatMap (hclose : ¬close.isDigit) :
    EndsNumber ((l.map part).flatMap (',' :: ·) ++ close :: r) := by
  cases l with
  | nil => exact endsNumber_cons hclose _
  | cons a l => exact endsNumber_cons (by decide) _

/-- Behind a comma each, the parts of a list are told from each other. -/
theorem flatMap_append_inj (hclose : ¬close.isDigit) (hcomma : close ≠ ',')
    (hl : ∀ a ∈ l, IsTold part a)
    (h : (l.map part).flatMap (',' :: ·) ++ close :: r =
      (l'.map part).flatMap (',' :: ·) ++ close :: r') : l = l' ∧ r = r' := by
  induction l generalizing l' with
  | nil =>
    cases l' with
    | nil => exact ⟨rfl, (List.cons.inj h).2⟩
    | cons a' l' => exact absurd (List.cons.inj h).1 hcomma
  | cons a l ih =>
    obtain ⟨ha, hl⟩ := List.forall_mem_cons.1 hl
    cases l' with
    | nil => exact absurd (List.cons.inj h).1.symm hcomma
    | cons a' l' =>
      simp only [List.map_cons, List.flatMap_cons, List.cons_append, List.append_assoc] at h
      obtain ⟨rfl, ht⟩ := ha _ _ _ (endsNumber_flatMap hclose) (endsNumber_flatMap hclose)
        (List.cons.inj h).2
      obtain ⟨rfl, rfl⟩ := ih hl ht
      exact ⟨rfl, rfl⟩

/-- The parts of a list are told from each other, if its end is not taken for a part. -/
theorem intercalate_append_inj (hclose : ¬close.isDigit) (hcomma : close ≠ ',')
    (hne : ∀ a s r, part a ++ s ≠ close :: r) (hl : ∀ a ∈ l, IsTold part a)
    (h : [','].intercalate (l.map part) ++ close :: r =
      [','].intercalate (l'.map part) ++ close :: r') : l = l' ∧ r = r' := by
  cases l with
  | nil =>
    cases l' with
    | nil => exact ⟨rfl, (List.cons.inj h).2⟩
    | cons a' l' =>
      rw [List.map_cons, intercalate_cons, List.append_assoc] at h
      exact absurd h.symm (hne _ _ _)
  | cons a l =>
    obtain ⟨ha, hl⟩ := List.forall_mem_cons.1 hl
    rw [List.map_cons, intercalate_cons, List.append_assoc] at h
    cases l' with
    | nil => exact absurd h (hne _ _ _)
    | cons a' l' =>
      rw [List.map_cons, intercalate_cons, List.append_assoc] at h
      obtain ⟨rfl, ht⟩ := ha _ _ _ (endsNumber_flatMap hclose) (endsNumber_flatMap hclose) h
      obtain ⟨rfl, rfl⟩ := flatMap_append_inj hclose hcomma hl ht
      exact ⟨rfl, rfl⟩

end Separated

/-! ### Values are told from their texts -/

/-- The end of a list is not taken for a value. -/
theorem chars_append_ne (v : Json) (s r : List Char) : chars v ++ s ≠ ']' :: r := by
  cases v with
  | number n =>
    rw [chars]
    exact toDigits_append_ne (by decide) n s r
  | text | list | object => simp [chars, quotedChars]

/-- The end of an object is not taken for a field. -/
theorem fieldChars_append_ne (f : String × Json) (s r : List Char) :
    fieldChars f ++ s ≠ '\x7d' :: r := by
  simp [fieldChars, quotedChars]

theorem isTold_fieldChars {f : String × Json} (h : IsTold chars f.2) : IsTold fieldChars f := by
  intro f' s s' hs hs' ht
  simp only [fieldChars, List.append_assoc, List.cons_append] at ht
  obtain ⟨hname, ht⟩ := quotedChars_append_inj ht
  obtain ⟨hv, rfl⟩ := h f'.2 s s' hs hs' (List.cons.inj ht).2
  exact ⟨Prod.ext hname hv, rfl⟩

/-- A value is told from what is behind it. Of two values of different kinds, the first
    characters differ. -/
theorem isTold_chars (v : Json) : IsTold chars v := by
  induction v using within_induction with
  | number n =>
    intro v' r r' hr hr' h
    rw [chars] at h
    cases v' with
    | number n' =>
      rw [chars] at h
      obtain ⟨rfl, hr⟩ := toDigits_append_inj hr hr' h
      exact ⟨rfl, hr⟩
    | text | list | object =>
      rw [chars] at h
      exact absurd h (toDigits_append_ne (by decide) n r _)
  | text s =>
    intro v' r r' hr hr' h
    rw [chars] at h
    cases v' with
    | number n' =>
      rw [chars] at h
      exact absurd h.symm (toDigits_append_ne (by decide) n' r' _)
    | text s' =>
      rw [chars] at h
      obtain ⟨rfl, hr⟩ := quotedChars_append_inj h
      exact ⟨rfl, hr⟩
    | list | object => simp [chars, quotedChars] at h
  | list items ih =>
    intro v' r r' hr hr' h
    rw [chars] at h
    cases v' with
    | number n' =>
      rw [chars] at h
      exact absurd h.symm (toDigits_append_ne (by decide) n' r' _)
    | list items' =>
      simp only [chars, List.cons_append, List.append_assoc, List.nil_append] at h
      obtain ⟨rfl, hr⟩ := intercalate_append_inj (by decide) (by decide) chars_append_ne ih
        (List.cons.inj h).2
      exact ⟨rfl, hr⟩
    | text | object => simp [chars, quotedChars] at h
  | object fields ih =>
    intro v' r r' hr hr' h
    rw [chars_object] at h
    cases v' with
    | number n' =>
      rw [chars] at h
      exact absurd h.symm (toDigits_append_ne (by decide) n' r' _)
    | object fields' =>
      simp only [chars_object, List.cons_append, List.append_assoc, List.nil_append] at h
      obtain ⟨rfl, hr⟩ := intercalate_append_inj (by decide) (by decide)
        fieldChars_append_ne (fun f hf => isTold_fieldChars (ih f hf)) (List.cons.inj h).2
      exact ⟨rfl, hr⟩
    | text | list => simp [chars, quotedChars] at h

/-- No two values have the same text. -/
theorem render_injective : Function.Injective render := by
  intro v v' h
  have hc : chars v ++ [] = chars v' ++ [] := by
    rw [← toList_render, ← toList_render, h]
  exact (isTold_chars v v' [] [] (by simp [EndsNumber]) (by simp [EndsNumber]) hc).1

/-! ### What texts tell -/

/-- Whether a text is the line of a value, and `P` holds of every value that it is the line of. -/
structure Tells (text : String) (P : Json → Prop) : Prop where
  exists_eq : ∃ v : Json, text = v.render ++ "\n"
  holds : ∀ v : Json, text = v.render ++ "\n" → P v

/-- The line of a value tells what holds of the value, as it is the line of no other. -/
theorem tells_render {v : Json} {P : Json → Prop} (h : P v) : Tells (v.render ++ "\n") P where
  exists_eq := ⟨v, rfl⟩
  holds _ he := render_injective ((String.append_left_inj _).1 he) ▸ h

end IntentWire.Json
