import Mathlib
import TextChain.Text.Lines

/-!
# Trimming, joining and padding

Trimming a text twice is trimming it once. Lines without line feeds are joined without loss: the
pieces of the joined text are the lines again, and joining texts that are joined lines is joining all
the lines.
-/

namespace TextChain.Text

/-! ### Classes of characters -/

/-- Characters of a class in front of one that is not of the class. -/
lemma takeWhile_and_dropWhile_append {P : Char → Bool} {xs ys : List Char} (hxs : ∀ c ∈ xs, P c = true)
    (hys : ∀ c ∈ ys.head?, P c = false) :
    (xs ++ ys).takeWhile P = xs ∧ (xs ++ ys).dropWhile P = ys := by
  rw [List.takeWhile_append_of_pos hxs, List.dropWhile_append_of_pos hxs]
  cases ys with
  | nil => exact ⟨List.append_nil xs, rfl⟩
  | cons c rest =>
    have hc : ¬ P c = true := by simp [hys c rfl]
    rw [List.takeWhile_cons_of_neg hc, List.dropWhile_cons_of_neg hc, List.append_nil]
    exact ⟨rfl, rfl⟩

/-! ### Trimming -/

lemma trimRight_eq_rdropWhile (cs : List Char) : trimRight cs = cs.rdropWhile isBlank := rfl

lemma dropWhile_trimChars (cs : List Char) : (trimChars cs).dropWhile isBlank = trimChars cs := by
  rw [List.dropWhile_eq_self_iff]
  intro hlt hblank
  obtain ⟨rest, hrest⟩ : trimChars cs <+: cs.dropWhile isBlank := List.rdropWhile_prefix _ _
  have hpos : 0 < (cs.dropWhile isBlank).length := by
    rw [← hrest, List.length_append]
    omega
  -- the first character that stays is the first one that is not blank
  refine List.dropWhile_eq_self_iff.1 (List.dropWhile_idempotent isBlank cs) hpos ?_
  simpa [← hrest, List.getElem_append_left hlt] using hblank

lemma trimChars_idem (cs : List Char) : trimChars (trimChars cs) = trimChars cs := by
  rw [trimChars, dropWhile_trimChars, trimRight_eq_rdropWhile]
  exact List.rdropWhile_idempotent _ _

@[simp] lemma trim_trim (s : String) : trim (trim s) = trim s := by
  rw [trim, trim, String.toList_ofList, trimChars_idem]

/-- A text is trimmed when neither its first nor its last character is blank. -/
lemma trimChars_eq_self_iff {cs : List Char} :
    trimChars cs = cs ↔ (∀ c ∈ cs.head?, isBlank c = false) ∧ ∀ c ∈ cs.getLast?, isBlank c = false := by
  have hhead : cs.dropWhile isBlank = cs ↔ ∀ c ∈ cs.head?, isBlank c = false := by
    cases cs <;> simp [List.dropWhile_eq_self_iff]
  have hlast : cs.rdropWhile isBlank = cs ↔ ∀ c ∈ cs.getLast?, isBlank c = false := by
    rw [List.rdropWhile_eq_self_iff]
    cases cs <;> simp [List.getLast?_eq_some_getLast]
  rw [← hhead, ← hlast]
  constructor
  · intro h
    have hdrop : cs.dropWhile isBlank = cs := by rw [← h, dropWhile_trimChars]
    rw [trimChars, hdrop, trimRight_eq_rdropWhile] at h
    exact ⟨hdrop, h⟩
  · rintro ⟨hdrop, hrdrop⟩
    rw [trimChars, hdrop, trimRight_eq_rdropWhile, hrdrop]

lemma trim_eq_self_iff {s : String} : trim s = s ↔ trimChars s.toList = s.toList := by
  rw [trim, ← String.toList_inj, String.toList_ofList]

lemma trimChars_sublist (cs : List Char) : (trimChars cs).Sublist cs :=
  (List.rdropWhile_prefix _ _).sublist.trans (List.dropWhile_sublist _)

/-- A text between trimmed texts is not trimmed. -/
lemma trimChars_append {cs cs' : List Char} (hne : cs ≠ []) (hne' : cs' ≠ [])
    (h : trimChars cs = cs) (h' : trimChars cs' = cs') (middle : List Char) :
    trimChars (cs ++ middle ++ cs') = cs ++ middle ++ cs' := by
  rw [trimChars_eq_self_iff] at h h' ⊢
  rw [List.getLast?_append_of_ne_nil _ hne', List.append_assoc, List.head?_append_of_ne_nil _ hne]
  exact ⟨h.1, h'.2⟩

/-- Trimmed texts that are joined are a trimmed text. -/
lemma trim_intercalate (separator : String) {texts : List String} (hne : texts ≠ [])
    (h : ∀ t ∈ texts, t ≠ "" ∧ trim t = t) :
    separator.intercalate texts ≠ "" ∧
      trim (separator.intercalate texts) = separator.intercalate texts := by
  induction texts with
  | nil => exact absurd rfl hne
  | cons first rest ih =>
    obtain ⟨hfirst, htrim⟩ := h first List.mem_cons_self
    by_cases hrest : rest = []
    · subst hrest
      simpa using ⟨hfirst, htrim⟩
    · obtain ⟨hne', htrim'⟩ := ih hrest fun t ht => h t (List.mem_cons_of_mem _ ht)
      rw [trim_eq_self_iff] at htrim htrim' ⊢
      rw [String.intercalate_cons_of_ne_nil hrest, String.toList_append, String.toList_append]
      have hchars : ∀ t : String, t ≠ "" → t.toList ≠ [] :=
        fun t ht heq => ht (String.toList_inj.1 heq)
      refine ⟨?_, trimChars_append (hchars _ hfirst) (hchars _ hne') htrim htrim' _⟩
      simp [hfirst]

/-! ### Joining lines -/

lemma joinLines_cons_of_ne_nil (line : String) {lines : List String} (h : lines ≠ []) :
    joinLines (line :: lines) = line ++ "\n" ++ joinLines lines :=
  String.intercalate_cons_of_ne_nil h

lemma joinLines_append {lines lines' : List String} (h : lines ≠ []) (h' : lines' ≠ []) :
    joinLines (lines ++ lines') = joinLines lines ++ "\n" ++ joinLines lines' :=
  String.intercalate_append_of_ne_nil h h'

lemma joinLines_map_joinLines (groups : List (List String)) (h : ∀ g ∈ groups, g ≠ []) :
    joinLines (groups.map joinLines) = joinLines groups.flatten := by
  induction groups with
  | nil => rfl
  | cons g rest ih =>
    have ih := ih fun g' hg' => h g' (List.mem_cons_of_mem _ hg')
    cases rest with
    | nil => simp [joinLines]
    | cons g' rest =>
      have hg : g ≠ [] := h g List.mem_cons_self
      have hg' : g' ≠ [] := h g' (List.mem_cons_of_mem _ List.mem_cons_self)
      have hne : (g' :: rest).flatten ≠ [] := by simp [hg']
      rw [List.map_cons, joinLines_cons_of_ne_nil _ (by simp), ih, List.flatten_cons (l := g),
        joinLines_append hg hne]

lemma pieces_ne_nil (separator : Char) (text : String) : pieces separator text ≠ [] := by
  simp [pieces]

/-- Texts without the separator are the pieces of the text that they are joined to. -/
lemma pieces_intercalate {separator : Char} {texts : List String} (hne : texts ≠ [])
    (h : ∀ t ∈ texts, separator ∉ t.toList) :
    pieces separator ((String.singleton separator).intercalate texts) = texts := by
  have hsplit : ((String.singleton separator).intercalate texts).toList.splitOn separator =
      texts.map String.toList := by
    rw [String.toList_intercalate, String.toList_singleton]
    refine List.splitOn_intercalate separator ?_ (by simpa using hne)
    simpa using h
  rw [pieces, hsplit, List.map_map]
  exact (List.map_congr_left fun t _ => String.ofList_toList).trans (List.map_id texts)

/-- Lines without line feeds are the pieces of the text that they are joined to. -/
lemma pieces_joinLines {lines : List String} (hne : lines ≠ [])
    (h : ∀ line ∈ lines, '\n' ∉ line.toList) : pieces '\n' (joinLines lines) = lines :=
  pieces_intercalate hne h

/-! ### Pieces -/

lemma not_mem_of_mem_splitOn {separator : Char} {cs piece : List Char}
    (h : piece ∈ cs.splitOn separator) : separator ∉ piece := by
  induction cs generalizing piece with
  | nil => simp_all
  | cons c cs ih =>
    rw [List.splitOn_cons_eq_if_modifyHead] at h
    split_ifs at h with hc
    · rcases List.mem_cons.1 h with rfl | h
      · exact List.not_mem_nil
      · exact ih h
    · cases hpieces : cs.splitOn separator with
      | nil => exact absurd hpieces (List.splitOn_ne_nil _ _)
      | cons first rest =>
        rw [hpieces] at h ih
        rcases List.mem_cons.1 h with rfl | h
        · refine List.not_mem_cons_of_ne_of_not_mem ?_ (ih List.mem_cons_self)
          rintro rfl
          simp at hc
        · exact ih (List.mem_cons_of_mem _ h)

lemma not_mem_of_mem_pieces {separator : Char} {text piece : String}
    (h : piece ∈ pieces separator text) : separator ∉ piece.toList := by
  obtain ⟨raw, hraw, rfl⟩ := List.mem_map.1 h
  rw [String.toList_ofList]
  exact not_mem_of_mem_splitOn hraw

/-! ### Padding -/

/-- A line of blanks only. -/
def spaces (width : Nat) : String :=
  String.ofList (List.replicate width ' ')

lemma indentWidth_spaces (width : Nat) : indentWidth (spaces width) = width := by
  rw [indentWidth, spaces, String.toList_ofList, List.takeWhile_replicate, if_pos isBlank_space,
    List.length_replicate]

lemma padLine_eq_spaces_append (base : Nat) (line : String) :
    padLine base line = spaces (base - indentWidth line) ++ line := by
  rcases lt_or_ge (indentWidth line) base with hshort | hlong
  · exact if_pos hshort
  · rw [padLine_of_le hlong, Nat.sub_eq_zero_of_le hlong]
    exact String.empty_append.symm

/-- Lines that are indented enough are not moved. -/
lemma padTo_joinLines {base : Nat} {lines : List String} (hne : lines ≠ [])
    (hclean : ∀ line ∈ lines, '\n' ∉ line.toList)
    (hindent : ∀ line ∈ lines, base ≤ indentWidth line) :
    padTo base (joinLines lines) = joinLines lines := by
  rw [padTo_eq, pieces_joinLines hne hclean]
  congr 1
  exact (List.map_congr_left fun line hline => padLine_of_le (hindent line hline)).trans
    (List.map_id lines)

/-- The empty text is padded to a line of blanks. -/
lemma padTo_empty (base : Nat) : padTo base "" = spaces base := by
  simp [padTo_eq, pieces, padLine_eq_spaces_append, joinLines, indentWidth]

lemma pieces_padTo (base : Nat) (text : String) :
    pieces '\n' (padTo base text) = (pieces '\n' text).map (padLine base) := by
  rw [padTo_eq]
  apply pieces_joinLines
  · simpa using pieces_ne_nil '\n' text
  · intro padded hpadded
    obtain ⟨line, hline, rfl⟩ := List.mem_map.1 hpadded
    rw [padLine_eq_spaces_append, String.toList_append, List.mem_append, spaces, String.toList_ofList]
    rintro (hmem | hmem)
    · exact absurd (List.eq_of_mem_replicate hmem) (by decide)
    · exact not_mem_of_mem_pieces hline hmem

lemma isBlank_of_mem_spaces {width : Nat} : ∀ c ∈ (spaces width).toList, isBlank c = true := by
  intro c hc
  rw [spaces, String.toList_ofList] at hc
  rw [List.eq_of_mem_replicate hc]
  exact isBlank_space

/-- Spaces in front of a line add to its indent. -/
lemma indentWidth_spaces_append (width : Nat) (line : String) :
    indentWidth (spaces width ++ line) = indentWidth line + width := by
  rw [indentWidth, String.toList_append, List.takeWhile_append_of_pos isBlank_of_mem_spaces]
  simp [indentWidth, spaces, Nat.add_comm]

lemma spaces_append_spaces (width width' : Nat) :
    spaces width ++ spaces width' = spaces (width + width') := by
  apply String.toList_inj.1
  simp [spaces]

/-- Padding makes the smaller indents as large as `base` and keeps the others. -/
lemma indentWidth_padLine (base : Nat) (line : String) :
    indentWidth (padLine base line) = max base (indentWidth line) := by
  rw [padLine_eq_spaces_append, indentWidth_spaces_append]
  omega

lemma padLine_padLine (a b : Nat) (line : String) :
    padLine b (padLine a line) = padLine (max a b) line := by
  have hwidth : b - max a (indentWidth line) + (a - indentWidth line) =
      max a b - indentWidth line := by omega
  rw [padLine_eq_spaces_append b, indentWidth_padLine, padLine_eq_spaces_append a,
    padLine_eq_spaces_append, ← String.append_assoc, spaces_append_spaces, hwidth]

/-- Every line of a padded text is indented enough. -/
lemma le_indentWidth_of_mem_pieces_padTo {base : Nat} {text line : String}
    (h : line ∈ pieces '\n' (padTo base text)) : base ≤ indentWidth line := by
  rw [pieces_padTo] at h
  obtain ⟨line', -, rfl⟩ := List.mem_map.1 h
  rw [indentWidth_padLine]
  exact le_max_left _ _

/-- Of two paddings one after the other the larger one counts. -/
lemma padTo_padTo (a b : Nat) (text : String) :
    padTo b (padTo a text) = padTo (max a b) text := by
  have hpad : padLine b ∘ padLine a = padLine (max a b) := funext (padLine_padLine a b)
  rw [padTo_eq, pieces_padTo, List.map_map, hpad, ← padTo_eq]

/-- The texts that padding keeps are those whose lines are indented enough. -/
lemma padTo_eq_self_iff {base : Nat} {text : String} :
    padTo base text = text ↔ ∀ line ∈ pieces '\n' text, base ≤ indentWidth line := by
  constructor
  · intro h line hline
    rw [← h] at hline
    exact le_indentWidth_of_mem_pieces_padTo hline
  · intro h
    have hpad := padTo_joinLines (pieces_ne_nil '\n' text)
      (fun line hline => not_mem_of_mem_pieces hline) h
    rwa [joinLines_pieces] at hpad

/-! ### Lines of a document -/

lemma dropReturn_sublist (line : List Char) : (dropReturn line).Sublist line := by
  unfold dropReturn
  split
  · exact List.dropLast_sublist line
  · exact List.Sublist.refl line

/-- No line of a document has a line feed. -/
lemma not_mem_of_mem_splitLines {text line : String} (h : line ∈ splitLines text) :
    '\n' ∉ line.toList := by
  obtain ⟨raw, hraw, rfl⟩ := List.mem_map.1 h
  rw [String.toList_ofList]
  exact fun hmem => not_mem_of_mem_splitOn hraw ((dropReturn_sublist raw).subset hmem)

end TextChain.Text
