/-!
# White space

The characters with the Unicode property `White_Space`, and texts without them at
their ends.

* `isTrimmed_of_toNat`: a text of printed ASCII characters is trimmed.
* `trim_eq_iff`: what a text is trimmed to is what is left of it without blanks in front
  and behind, if there are no further ones.
* `append_append_inj_of_isTrimmed`: these blanks are told from a text that is not empty in
  one way only.
-/

namespace IntentWire.Text

/-- Whether a character has the Unicode property `White_Space`. -/
def isBlank (c : Char) : Bool :=
  let n := c.toNat
  (0x9 ≤ n && n ≤ 0xD) || n == 0x20 || n == 0x85 || n == 0xA0 || n == 0x1680 ||
    (0x2000 ≤ n && n ≤ 0x200A) || n == 0x2028 || n == 0x2029 || n == 0x202F || n == 0x205F ||
    n == 0x3000

theorem not_isBlank_of_toNat {c : Char} (hl : 0x20 < c.toNat) (hu : c.toNat < 0x85) :
    ¬isBlank c := by
  simp only [isBlank, Bool.or_eq_true, Bool.and_eq_true, decide_eq_true_eq, beq_iff_eq]
  omega

/-- The characters of a text from the first that is not blank to the last. -/
def trim (s : List Char) : List Char :=
  ((s.dropWhile isBlank).reverse.dropWhile isBlank).reverse

/-- Whether a text neither starts nor ends with a blank. -/
def IsTrimmed (s : List Char) : Prop :=
  (∀ c ∈ s.head?, ¬isBlank c) ∧ ∀ c ∈ s.getLast?, ¬isBlank c

theorem isTrimmed_nil : IsTrimmed [] := by
  simp [IsTrimmed]

theorem isTrimmed_of_toNat {s : List Char} {lo hi : Nat} (hl : 0x20 < lo) (hu : hi < 0x85)
    (h : ∀ c ∈ s, lo ≤ c.toNat ∧ c.toNat ≤ hi) : IsTrimmed s := by
  have hs : ∀ c ∈ s, ¬isBlank c := fun c hc =>
    not_isBlank_of_toNat (Nat.lt_of_lt_of_le hl (h c hc).1) (Nat.lt_of_le_of_lt (h c hc).2 hu)
  exact ⟨fun c hc => hs c (List.mem_of_head? hc), fun c hc => hs c (List.mem_of_getLast? hc)⟩

theorem takeWhile_isBlank_append {s : List Char} (h : ∀ c ∈ s.head?, ¬isBlank c)
    {w : List Char} (hw : ∀ c ∈ w, isBlank c) : (w ++ s).takeWhile isBlank = w := by
  rw [List.takeWhile_append_of_pos hw]
  cases s with
  | nil => exact List.append_nil w
  | cons c s => rw [List.takeWhile_cons_of_neg (h c rfl), List.append_nil]

theorem dropWhile_isBlank_append {s : List Char} (h : ∀ c ∈ s.head?, ¬isBlank c)
    {w : List Char} (hw : ∀ c ∈ w, isBlank c) : (w ++ s).dropWhile isBlank = s := by
  rw [List.dropWhile_append_of_pos hw]
  cases s with
  | nil => rfl
  | cons c s => exact List.dropWhile_cons_of_neg (h c rfl)

theorem head?_append_of_isTrimmed {t : List Char} (ht : IsTrimmed t) (hne : t ≠ [])
    (u : List Char) : ∀ c ∈ (t ++ u).head?, ¬isBlank c := by
  cases t with
  | nil => exact absurd rfl hne
  | cons c t => exact ht.1

/-- Blanks in front of a text and behind it are taken off. -/
theorem trim_append_append {w t u : List Char} (hw : ∀ c ∈ w, isBlank c) (ht : IsTrimmed t)
    (hu : ∀ c ∈ u, isBlank c) : trim (w ++ (t ++ u)) = t := by
  have hu' : ∀ c ∈ u.reverse, isBlank c := fun c hc => hu c (List.mem_reverse.1 hc)
  rw [trim]
  by_cases hne : t = []
  · have hd := dropWhile_isBlank_append isTrimmed_nil.1 (List.forall_mem_append.2 ⟨hw, hu⟩)
    rw [List.append_nil] at hd
    rw [hne, List.nil_append, hd]
    rfl
  · have hr : ∀ c ∈ t.reverse.head?, ¬isBlank c := by
      rw [List.head?_reverse]
      exact ht.2
    rw [dropWhile_isBlank_append (head?_append_of_isTrimmed ht hne u) hw, List.reverse_append,
      dropWhile_isBlank_append hr hu', List.reverse_reverse]

theorem forall_mem_takeWhile_isBlank (s : List Char) : ∀ c ∈ s.takeWhile isBlank, isBlank c :=
  List.all_eq_true.1 List.all_takeWhile

theorem head?_dropWhile_isBlank (s : List Char) :
    ∀ c ∈ (s.dropWhile isBlank).head?, ¬isBlank c := by
  intro c hc
  have h := List.head?_dropWhile_not isBlank s
  rw [Option.mem_def.1 hc] at h
  exact Bool.not_eq_true _ ▸ h

/-- A text is what it is trimmed to, with blanks in front and behind. -/
theorem exists_eq_append_trim (s : List Char) : ∃ w u, (∀ c ∈ w, isBlank c) ∧
    (∀ c ∈ u, isBlank c) ∧ s = w ++ (trim s ++ u) := by
  refine ⟨s.takeWhile isBlank, ((s.dropWhile isBlank).reverse.takeWhile isBlank).reverse,
    forall_mem_takeWhile_isBlank s, fun c hc => ?_, ?_⟩
  · exact forall_mem_takeWhile_isBlank _ c (List.mem_reverse.1 hc)
  · rw [trim, ← List.reverse_append, List.takeWhile_append_dropWhile, List.reverse_reverse,
      List.takeWhile_append_dropWhile]

theorem isTrimmed_trim (s : List Char) : IsTrimmed (trim s) := by
  constructor
  · obtain ⟨u, hu⟩ : ∃ u, s.dropWhile isBlank = trim s ++ u := by
      refine ⟨((s.dropWhile isBlank).reverse.takeWhile isBlank).reverse, ?_⟩
      rw [trim, ← List.reverse_append, List.takeWhile_append_dropWhile, List.reverse_reverse]
    intro c hc
    refine head?_dropWhile_isBlank s c ?_
    rw [hu, Option.mem_def, List.head?_append, Option.mem_def.1 hc]
    rfl
  · rw [trim, List.getLast?_reverse]
    exact head?_dropWhile_isBlank _

/-- A text is trimmed to what is left without the blanks in front of it and behind it. -/
theorem trim_eq_iff {s t : List Char} :
    trim s = t ↔ IsTrimmed t ∧
      ∃ w u, (∀ c ∈ w, isBlank c) ∧ (∀ c ∈ u, isBlank c) ∧ s = w ++ (t ++ u) := by
  constructor
  · rintro rfl
    exact ⟨isTrimmed_trim s, exists_eq_append_trim s⟩
  · rintro ⟨ht, w, u, hw, hu, rfl⟩
    exact trim_append_append hw ht hu

/-- A text is trimmed to nothing if it is all blanks. -/
theorem trim_eq_nil_iff {s : List Char} : trim s = [] ↔ ∀ c ∈ s, isBlank c := by
  constructor
  · intro h
    obtain ⟨w, u, hw, hu, hs⟩ := exists_eq_append_trim s
    rw [h, List.nil_append] at hs
    rw [hs]
    exact List.forall_mem_append.2 ⟨hw, hu⟩
  · intro h
    exact trim_eq_iff.2 ⟨isTrimmed_nil, s, [], h, nofun, (List.append_nil s).symm⟩

/-- The blanks in front of a text that is not empty, and those behind it, are told in one
    way only. -/
theorem append_append_inj_of_isTrimmed {w w' t t' u u' : List Char} (hw : ∀ c ∈ w, isBlank c)
    (hw' : ∀ c ∈ w', isBlank c) (ht : IsTrimmed t) (ht' : IsTrimmed t') (hne : t ≠ [])
    (hu : ∀ c ∈ u, isBlank c) (hu' : ∀ c ∈ u', isBlank c) (h : w ++ (t ++ u) = w' ++ (t' ++ u')) :
    w = w' ∧ t = t' ∧ u = u' := by
  have htt : t = t' := by
    rw [← trim_append_append hw ht hu, h, trim_append_append hw' ht' hu']
  subst htt
  have hww := takeWhile_isBlank_append (head?_append_of_isTrimmed ht hne u) hw
  rw [h, takeWhile_isBlank_append (head?_append_of_isTrimmed ht hne u') hw'] at hww
  subst hww
  exact ⟨rfl, rfl, List.append_cancel_left (List.append_cancel_left h)⟩

end IntentWire.Text
