import TextChain.Proofs.Text
import TextChain.Stage.Template

/-!
# Placeholders

A placeholder is a dotted key between double braces. The reader of placeholders finds exactly the texts of
this form (`placeholder?_eq_some_iff`). Braces stand only at its ends, so a placeholder that begins inside
another one does not exist (`Placeholder.prefix_of_later`), and at one place of a text there is at most one
(`Placeholder.eq_of_append`).
-/

namespace TextChain

namespace Template

/-- The characters of segments are the letters and digits of ASCII, the underscore and the hyphen. -/
def IsSegmentChar (c : Char) : Prop :=
  ('A' ≤ c ∧ c ≤ 'Z') ∨ ('a' ≤ c ∧ c ≤ 'z') ∨ ('0' ≤ c ∧ c ≤ '9') ∨ c = '_' ∨ c = '-'

instance : DecidablePred IsSegmentChar := fun _ => inferInstanceAs (Decidable (_ ∨ _))

/-- A text that can stand between the dots of a key. -/
def IsSegment (segment : String) : Prop :=
  segment ≠ "" ∧ ∀ c ∈ segment.toList, IsSegmentChar c

/-- A dotted key with the blanks around it. -/
@[ext]
structure Placeholder where
  /-- The blanks in front of the key. -/
  before : String
  key : List String
  /-- The blanks behind the key. -/
  after : String
  blank_before : ∀ c ∈ before.toList, Text.isBlank c = true
  key_ne_nil : key ≠ []
  isSegment : ∀ segment ∈ key, IsSegment segment
  blank_after : ∀ c ∈ after.toList, Text.isBlank c = true

namespace Placeholder

def keyText (p : Placeholder) : String :=
  ".".intercalate p.key

def text (p : Placeholder) : String :=
  "\x7b\x7b" ++ p.before ++ p.keyText ++ p.after ++ "\x7d\x7d"

/-- What follows the opening braces. -/
def inner (p : Placeholder) : List Char :=
  p.before.toList ++ (p.keyText.toList ++ (p.after.toList ++ ['\x7d', '\x7d']))

end Placeholder

variable {p q : Placeholder} {cs xs ys front back back' rest rest' : List Char} {key : List String}
  {c : Char}

lemma Placeholder.toList_text (p : Placeholder) : p.text.toList = '\x7b' :: '\x7b' :: p.inner := by
  simp [text, inner, String.toList_append]

/-! ### Characters -/

def isKeyPart (c : Char) : Bool :=
  isKeyChar c || decide (c = '.')

lemma isKeyChar_iff : isKeyChar c = true ↔ IsSegmentChar c := by
  simp only [isKeyChar, IsSegmentChar, Char.isAlphanum, Char.isAlpha, Char.isUpper, Char.isLower,
    Char.isDigit, Bool.or_eq_true, Bool.and_eq_true, decide_eq_true_eq, or_assoc]
  rfl

lemma isBlank_of_isKeyPart (h : isKeyPart c = true) : Text.isBlank c = false := by
  rw [isKeyPart, Bool.or_eq_true, isKeyChar_iff, decide_eq_true_eq] at h
  have hrange : '-' ≤ c ∧ c ≤ 'z' := by
    rcases h with (⟨h, h'⟩ | ⟨h, h'⟩ | ⟨h, h'⟩ | rfl | rfl) | rfl
    · exact ⟨le_trans (by decide) h, le_trans h' (by decide)⟩
    · exact ⟨le_trans (by decide) h, h'⟩
    · exact ⟨le_trans (by decide) h, le_trans h' (by decide)⟩
    · decide
    · decide
    · decide
  have hnat : 0x2D ≤ c.toNat ∧ c.toNat ≤ 0x7A := hrange
  simp only [Text.isBlank, Text.blankRanges, List.any_cons, List.any_nil, Bool.or_false,
    Bool.or_eq_false_iff, Bool.and_eq_false_iff, decide_eq_false_iff_not]
  omega

lemma isKeyPart_of_isSegmentChar (h : IsSegmentChar c) : isKeyPart c = true := by
  rw [isKeyPart, isKeyChar_iff.2 h, Bool.true_or]

/-! ### Taking a text apart by classes of characters -/

/-- What stands in joined lists is the separator or stands in one of them. -/
lemma eq_or_mem_of_mem_intercalate {separator : Char} {pieces : List (List Char)}
    (h : c ∈ [separator].intercalate pieces) : c = separator ∨ ∃ piece ∈ pieces, c ∈ piece := by
  induction pieces with
  | nil => cases h
  | cons first rest ih =>
    cases rest with
    | nil => exact .inr ⟨first, List.mem_cons_self, by simpa using h⟩
    | cons second rest =>
      rw [List.intercalate_cons_cons, List.append_assoc, List.mem_append] at h
      rcases h with h | h
      · exact .inr ⟨first, List.mem_cons_self, h⟩
      · rcases List.mem_cons.1 h with rfl | h
        · exact .inl rfl
        · rcases ih h with rfl | ⟨piece, hmem, hc⟩
          · exact .inl rfl
          · exact .inr ⟨piece, List.mem_cons_of_mem _ hmem, hc⟩

/-! ### Keys -/

namespace Placeholder

lemma toList_keyText (p : Placeholder) :
    p.keyText.toList = ['.'].intercalate (p.key.map String.toList) := by
  rw [keyText, String.toList_intercalate]
  rfl

lemma not_mem_of_mem_key (p : Placeholder) : ∀ segment ∈ p.key.map String.toList, '.' ∉ segment := by
  intro segment hmem hdot
  obtain ⟨s, hs, rfl⟩ := List.mem_map.1 hmem
  exact absurd ((p.isSegment s hs).2 '.' hdot) (by decide)

lemma splitOn_keyText (p : Placeholder) : p.keyText.toList.splitOn '.' = p.key.map String.toList := by
  rw [toList_keyText]
  exact List.splitOn_intercalate '.' p.not_mem_of_mem_key (by simpa using p.key_ne_nil)

lemma isKey_keyText (p : Placeholder) : isKey p.keyText.toList = true := by
  rw [isKey, splitOn_keyText, List.all_eq_true]
  intro segment hmem
  obtain ⟨s, hs, rfl⟩ := List.mem_map.1 hmem
  obtain ⟨hne, hchars⟩ := p.isSegment s hs
  simpa [hne, isKeyChar_iff] using hchars

lemma segments_keyText (p : Placeholder) : segments p.keyText.toList = p.key := by
  rw [segments, splitOn_keyText, List.map_map]
  exact (List.map_congr_left fun s _ => String.ofList_toList).trans (List.map_id _)

lemma isKeyPart_of_mem_keyText (p : Placeholder) : ∀ c ∈ p.keyText.toList, isKeyPart c = true := by
  intro c hc
  rw [toList_keyText] at hc
  rcases eq_or_mem_of_mem_intercalate hc with rfl | ⟨segment, hmem, hc⟩
  · decide
  · obtain ⟨s, hs, rfl⟩ := List.mem_map.1 hmem
    exact isKeyPart_of_isSegmentChar ((p.isSegment s hs).2 c hc)

lemma keyText_ne_nil (p : Placeholder) : p.keyText.toList ≠ [] := by
  intro hnil
  have hkey := p.isKey_keyText
  rw [hnil] at hkey
  exact absurd hkey (by decide)

/-- A key starts with a character that is not blank. -/
lemma isBlank_of_mem_head? (p : Placeholder) (rest : List Char) :
    ∀ c ∈ (p.keyText.toList ++ rest).head?, Text.isBlank c = false := by
  intro c hc
  rw [List.head?_append_of_ne_nil _ p.keyText_ne_nil] at hc
  exact isBlank_of_isKeyPart (p.isKeyPart_of_mem_keyText c (List.mem_of_head? hc))

/-- Neither a blank nor a closing brace belongs to a key. -/
lemma isKeyPart_of_mem_head? (p : Placeholder) (rest : List Char) :
    ∀ c ∈ (p.after.toList ++ '\x7d' :: rest).head?, isKeyPart c = false := by
  intro c hc
  cases hafter : p.after.toList with
  | nil =>
    rw [hafter] at hc
    cases hc
    decide
  | cons blank blanks =>
    rw [hafter] at hc
    cases hc
    have hblank : Text.isBlank c = true := p.blank_after c (hafter ▸ List.mem_cons_self)
    by_contra hpart
    rw [isBlank_of_isKeyPart (by simpa using hpart)] at hblank
    cases hblank

/-! ### Reading placeholders -/

lemma inner_append (p : Placeholder) (rest : List Char) :
    p.inner ++ rest = p.before.toList ++
      (p.keyText.toList ++ (p.after.toList ++ '\x7d' :: '\x7d' :: rest)) := by
  simp [inner]

lemma takeWhile_isBlank (p : Placeholder) (rest : List Char) :
    (p.inner ++ rest).takeWhile Text.isBlank = p.before.toList := by
  rw [inner_append]
  exact (Text.takeWhile_and_dropWhile_append p.blank_before (p.isBlank_of_mem_head? _)).1

end Placeholder

/-- The reader takes blanks, a key and blanks again, and asks for the closing braces. -/
lemma placeholder?_eq_some_iff_closed : placeholder? cs = some (key, rest) ↔
    ((cs.dropWhile Text.isBlank).dropWhile isKeyPart).dropWhile Text.isBlank =
        '\x7d' :: '\x7d' :: rest ∧
      isKey ((cs.dropWhile Text.isBlank).takeWhile isKeyPart) = true ∧
      segments ((cs.dropWhile Text.isBlank).takeWhile isKeyPart) = key := by
  have hpart : (fun c => isKeyChar c || decide (c = '.')) = isKeyPart := rfl
  simp only [placeholder?, hpart]
  split
  next rest' hclosed => split_ifs with hkey <;> simp_all [and_comm]
  next hopen => simpa using fun hclosed => absurd hclosed (hopen rest)

/-- The reader finds a placeholder with this key. -/
lemma placeholder?_append (p : Placeholder) (rest : List Char) :
    placeholder? (p.inner ++ rest) = some (p.key, rest) := by
  have hblank := (Text.takeWhile_and_dropWhile_append p.blank_before
    (p.isBlank_of_mem_head? (p.after.toList ++ '\x7d' :: '\x7d' :: rest))).2
  obtain ⟨hkey, hrest⟩ := Text.takeWhile_and_dropWhile_append p.isKeyPart_of_mem_keyText
    (p.isKeyPart_of_mem_head? ('\x7d' :: rest))
  have hbrace : ∀ c ∈ ('\x7d' :: '\x7d' :: rest).head?, Text.isBlank c = false := by
    intro c hc
    cases hc
    decide
  rw [placeholder?_eq_some_iff_closed, p.inner_append, hblank, hkey, hrest]
  exact ⟨(Text.takeWhile_and_dropWhile_append p.blank_after hbrace).2, p.isKey_keyText,
    p.segments_keyText⟩

/-- A key is taken apart into segments. -/
lemma isSegment_of_isKey (h : isKey cs = true) : ∀ segment ∈ segments cs, IsSegment segment := by
  intro segment hmem
  obtain ⟨piece, hpiece, rfl⟩ := List.mem_map.1 hmem
  have hvalid := List.all_eq_true.1 h piece hpiece
  simp only [Bool.and_eq_true, Bool.not_eq_true', List.isEmpty_eq_false_iff, List.all_eq_true] at hvalid
  refine ⟨by simpa using hvalid.1, ?_⟩
  rw [String.toList_ofList]
  exact fun c hc => isKeyChar_iff.1 (hvalid.2 c hc)

/-- Joining the segments of a text gives the text back. -/
lemma toList_intercalate_segments (cs : List Char) : (".".intercalate (segments cs)).toList = cs := by
  have hsegments : (segments cs).map String.toList = cs.splitOn '.' := by
    rw [segments, List.map_map]
    exact (List.map_congr_left fun piece _ => String.toList_ofList).trans (List.map_id _)
  rw [String.toList_intercalate, hsegments]
  exact List.intercalate_splitOn '.'

/-- The reader finds nothing but placeholders. -/
lemma exists_of_placeholder? (h : placeholder? cs = some (key, rest)) :
    ∃ p : Placeholder, p.key = key ∧ cs = p.inner ++ rest := by
  obtain ⟨hclosed, hkey, rfl⟩ := placeholder?_eq_some_iff_closed.1 h
  have hblank : ∀ (xs : List Char), ∀ c ∈ (String.ofList (xs.takeWhile Text.isBlank)).toList,
      Text.isBlank c = true := fun xs c hc => by
    rw [String.toList_ofList] at hc
    exact List.mem_takeWhile_imp hc
  refine ⟨⟨String.ofList (cs.takeWhile Text.isBlank), _,
    String.ofList (((cs.dropWhile Text.isBlank).dropWhile isKeyPart).takeWhile Text.isBlank),
    hblank _, ?_, isSegment_of_isKey hkey, hblank _⟩, rfl, ?_⟩
  · simp [segments, List.splitOn_ne_nil]
  · rw [Placeholder.inner_append, Placeholder.keyText, toList_intercalate_segments,
      String.toList_ofList, String.toList_ofList, ← hclosed, List.takeWhile_append_dropWhile,
      List.takeWhile_append_dropWhile, List.takeWhile_append_dropWhile]

/-- The reader finds exactly the placeholders. -/
theorem placeholder?_eq_some_iff : placeholder? cs = some (key, rest) ↔
    ∃ p : Placeholder, p.key = key ∧ cs = p.inner ++ rest := by
  constructor
  · exact exists_of_placeholder?
  · rintro ⟨p, rfl, rfl⟩
    exact placeholder?_append p rest

/-! ### Placeholders in a text -/

namespace Placeholder

/-- At one place there is one placeholder at most. -/
lemma eq_of_append (h : p.text.toList ++ rest = q.text.toList ++ rest') : p = q ∧ rest = rest' := by
  rw [p.toList_text, q.toList_text] at h
  have hinner : p.inner ++ rest = q.inner ++ rest' := by simpa using h
  have hread := placeholder?_append p rest
  rw [hinner, placeholder?_append] at hread
  obtain ⟨hkey, rfl⟩ : q.key = p.key ∧ rest' = rest := by simpa using hread
  have hbefore : p.before.toList = q.before.toList := by
    rw [← p.takeWhile_isBlank rest', hinner, q.takeWhile_isBlank]
  have hafter : p.after.toList = q.after.toList := by
    rw [p.inner_append, q.inner_append, hbefore, keyText, keyText, hkey] at hinner
    simpa using hinner
  exact ⟨Placeholder.ext (String.toList_inj.1 hbefore) hkey.symm (String.toList_inj.1 hafter), rfl⟩

lemma inner_ne_nil (p : Placeholder) : p.inner ≠ [] := by
  simp [inner]

/-- Opening braces stand only at the start of a placeholder. -/
lemma not_mem_inner (p : Placeholder) : '\x7b' ∉ p.inner := by
  intro hmem
  simp only [inner, List.mem_append, List.mem_cons, List.not_mem_nil, or_false] at hmem
  rcases hmem with hmem | hmem | hmem | hmem
  · exact absurd (p.blank_before _ hmem) (by decide)
  · exact absurd (p.isKeyPart_of_mem_keyText _ hmem) (by decide)
  · exact absurd (p.blank_after _ hmem) (by decide)
  · exact absurd hmem (by decide)

/-- A placeholder that begins later in the text begins after the end of this one. -/
lemma prefix_of_later (hne : front ≠ [])
    (h : p.text.toList ++ back = front ++ (q.text.toList ++ back')) : p.text.toList <+: front := by
  rw [p.toList_text, q.toList_text] at h
  match front, hne with
  | [c], _ =>
    -- then the second opening brace of the other one would be the first character inside this one
    obtain ⟨d, tail, hinner⟩ := List.exists_cons_of_ne_nil p.inner_ne_nil
    obtain ⟨-, rfl, -⟩ : '\x7b' = c ∧ d = '\x7b' ∧ tail ++ back = q.inner ++ back' := by
      simpa [hinner] using h
    exact absurd (hinner ▸ List.mem_cons_self) p.not_mem_inner
  | c :: d :: front, _ =>
    obtain ⟨rfl, rfl, hinner⟩ : '\x7b' = c ∧ '\x7b' = d ∧
        p.inner ++ back = front ++ ('\x7b' :: '\x7b' :: q.inner ++ back') := by simpa using h
    rw [p.toList_text]
    rcases List.append_eq_append_iff.1 hinner with ⟨between, rfl, -⟩ | ⟨inside, heq, hback⟩
    · exact ⟨between, by simp⟩
    · cases inside with
      | nil => exact ⟨[], by simpa using heq⟩
      | cons e inside =>
        obtain ⟨rfl, -⟩ := List.cons.inj hback
        exact absurd (heq ▸ List.mem_append_right _ List.mem_cons_self) p.not_mem_inner

end Placeholder

end Template

end TextChain
