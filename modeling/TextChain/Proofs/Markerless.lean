import TextChain.Proofs.Document.Ownership
import TextChain.Proofs.Marker

/-!
# Texts without marker lines

A text is markerless if none of its lines, cut at every line feed, is a marker. Padding keeps a text
markerless, and so does joining markerless texts. The lines of a markerless text as a document are no
markers either: what they lack at their ends is blank or follows a marker anyway.
-/

namespace TextChain

/-! ### Longer lines -/

namespace Marker

variable {cs : List Char} {line : String}

/-- An extension is found where a tag character comes after `>>` and blanks. -/
lemma isSome_extension?_iff : (extension? cs).isSome ↔
    ∃ rest, cs = '>' :: '>' :: rest ∧ ∃ c ∈ (rest.dropWhile Text.isBlank).head?, isTag c := by
  unfold extension?
  split
  · next rest =>
    cases hdrop : rest.dropWhile Text.isBlank with
    | nil => simp [hdrop]
    | cons c tail => cases htag : isTag c <;> simp [hdrop, htag]
  · next hne =>
    refine iff_of_false (by simp) ?_
    rintro ⟨rest, rfl, -⟩
    exact hne rest rfl

lemma isSome_parse?_iff : (parse? line).isSome ↔
    (extension? (dropQuote (line.toList.dropWhile Text.isBlank))).isSome := by
  rw [parse?_eq, Option.isSome_map]

lemma isSome_extension?_append (h : (extension? cs).isSome) (cs' : List Char) :
    (extension? (cs ++ cs')).isSome := by
  obtain ⟨rest, rfl, c, hc, htag⟩ := isSome_extension?_iff.1 h
  have hne : rest.dropWhile Text.isBlank ≠ [] := by
    rintro hnil
    simp [hnil] at hc
  refine isSome_extension?_iff.2 ⟨rest ++ cs', rfl, c, ?_, htag⟩
  rwa [List.dropWhile_append, if_neg (by simpa using hne), List.head?_append_of_ne_nil _ hne]

lemma dropQuote_append (h : cs ≠ []) (cs' : List Char) :
    dropQuote (cs ++ cs') = dropQuote cs ++ cs' := by
  cases cs with
  | nil => exact absurd rfl h
  | cons c rest =>
    rw [List.cons_append, dropQuote, dropQuote]
    split <;> rfl

/-- A marker line stays one when something is added at its end. -/
lemma isSome_parse?_append (h : (parse? line).isSome) (tail : String) :
    (parse? (line ++ tail)).isSome := by
  rw [isSome_parse?_iff] at h ⊢
  have hne : line.toList.dropWhile Text.isBlank ≠ [] := by
    intro hnil
    rw [hnil] at h
    simp [dropQuote, extension?] at h
  rw [String.toList_append, List.dropWhile_append, if_neg (by simpa using hne), dropQuote_append hne]
  exact isSome_extension?_append h _

end Marker

namespace Text

variable {text line : String} {texts : List String}

/-! ### Markerless texts -/

/-- No line of the text is a marker. -/
def Markerless (text : String) : Prop :=
  ∀ line ∈ pieces '\n' text, Marker.parse? line = none

instance (text : String) : Decidable (Markerless text) :=
  inferInstanceAs (Decidable (∀ line ∈ pieces '\n' text, Marker.parse? line = none))

lemma markerless_empty : Markerless "" := by
  decide

lemma markerless_of_line (hm : Marker.parse? line = none) (hclean : '\n' ∉ line.toList) :
    Markerless line := by
  have hpieces : pieces '\n' (joinLines [line]) = [line] :=
    pieces_joinLines (by simp) (by simpa using hclean)
  rw [joinLines, String.intercalate_singleton] at hpieces
  simpa [Markerless, hpieces] using hm

lemma pieces_joinLines_eq_flatMap (hne : texts ≠ []) :
    pieces '\n' (joinLines texts) = texts.flatMap (pieces '\n') := by
  have hjoin : joinLines texts = joinLines (texts.flatMap (pieces '\n')) := by
    rw [List.flatMap_def, ← joinLines_map_joinLines, List.map_map]
    · congr 1
      exact ((List.map_congr_left fun t _ => joinLines_pieces t).trans (List.map_id texts)).symm
    · intro group hgroup
      obtain ⟨t, -, rfl⟩ := List.mem_map.1 hgroup
      exact pieces_ne_nil _ t
  rw [hjoin, pieces_joinLines]
  · obtain ⟨t, ht⟩ := List.exists_mem_of_ne_nil _ hne
    exact fun hnil => pieces_ne_nil _ t (List.flatMap_eq_nil_iff.1 hnil t ht)
  · intro piece hpiece
    obtain ⟨t, -, hpiece⟩ := List.mem_flatMap.1 hpiece
    exact not_mem_of_mem_pieces hpiece

lemma markerless_joinLines (h : ∀ t ∈ texts, Markerless t) : Markerless (joinLines texts) := by
  by_cases hne : texts = []
  · subst hne
    exact markerless_empty
  · intro line hline
    rw [pieces_joinLines_eq_flatMap hne] at hline
    obtain ⟨t, ht, hline⟩ := List.mem_flatMap.1 hline
    exact h t ht line hline

lemma markerless_padTo (h : Markerless text) (base : Nat) : Markerless (padTo base text) := by
  intro padded hpadded
  rw [pieces_padTo] at hpadded
  obtain ⟨line, hline, rfl⟩ := List.mem_map.1 hpadded
  rw [Marker.parse?_padLine, h line hline]
  rfl

/-! ### As documents -/

lemma dropReturn_prefix (cs : List Char) : dropReturn cs <+: cs := by
  unfold dropReturn
  split
  · exact List.dropLast_prefix cs
  · exact List.prefix_refl cs

/-- A markerless text has no marker lines as a document. -/
lemma Markerless.parse?_eq_none (h : Markerless text) (hline : line ∈ splitLines text) :
    Marker.parse? line = none := by
  obtain ⟨raw, hraw, rfl⟩ := List.mem_map.1 hline
  obtain ⟨tail, htail⟩ := dropReturn_prefix raw
  have hnone := h (String.ofList raw) (List.mem_map.2 ⟨raw, hraw, rfl⟩)
  rw [← htail, String.ofList_append] at hnone
  by_contra hm
  have hsome := Marker.isSome_parse?_append (Option.isSome_iff_ne_none.2 hm) (String.ofList tail)
  simp [hnone] at hsome

lemma Markerless.markerAt?_eq_none (h : Markerless text) (i : Nat) :
    Document.markerAt? (splitLines text) i = none := by
  rw [Document.markerAt?, Option.bind_eq_none_iff]
  exact fun line hline => h.parse?_eq_none (List.mem_of_getElem? hline)

end Text

end TextChain
