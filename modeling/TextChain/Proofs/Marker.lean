import TextChain.Marker
import TextChain.Proofs.Text

/-!
# Marker lines

A marker line consists of blanks, an optional quote, `>>`, blanks, the extension, and a rest that starts
with a blank or a quote (`Marker.Spelling`). The reader recognises the lines of this form and no others,
and a line has this form in one way only (`Marker.recognised_iff_spelled`). Indenting a line makes the
indent of its marker larger and does not change anything else.
-/

namespace TextChain

namespace Marker

/-- A marker line taken apart. -/
@[ext]
structure Spelling where
  /-- The blanks in front. -/
  before : String
  quote : Option Char
  /-- The blanks behind `>>`. -/
  gap : String
  extension : String
  rest : String
  blank_before : ∀ c ∈ before.toList, Text.isBlank c = true
  quote_eq : ∀ c ∈ quote, c = '\'' ∨ c = '"'
  blank_gap : ∀ c ∈ gap.toList, Text.isBlank c = true
  extension_ne_empty : extension ≠ ""
  plain_extension : ∀ c ∈ extension.toList, Text.isBlank c = false ∧ c ≠ '\'' ∧ c ≠ '"'
  stop_rest : ∀ c ∈ rest.toList.head?, Text.isBlank c = true ∨ c = '\'' ∨ c = '"'

namespace Spelling

def text (p : Spelling) : String :=
  p.before ++ String.ofList p.quote.toList ++ ">>" ++ p.gap ++ p.extension ++ p.rest

/-- What the line is recognised as. -/
def marker (p : Spelling) : Marker :=
  ⟨p.before.length, p.extension⟩

/-- What follows `>>`. -/
def inner (p : Spelling) : List Char :=
  p.gap.toList ++ (p.extension.toList ++ p.rest.toList)

end Spelling

variable {p q : Spelling} {line : String} {m : Marker} {cs tag : List Char} {c : Char}

/-! ### Characters -/

lemma isQuote_iff : isQuote c = true ↔ c = '\'' ∨ c = '"' := by
  simp [isQuote]

lemma isTag_iff : isTag c = true ↔ Text.isBlank c = false ∧ c ≠ '\'' ∧ c ≠ '"' := by
  simp [isTag, isQuote]

lemma isTag_eq_false_iff : isTag c = false ↔ Text.isBlank c = true ∨ c = '\'' ∨ c = '"' := by
  rw [← Bool.not_eq_true, isTag_iff, not_and_or, not_and_or, not_not, not_not, Bool.not_eq_false]

lemma isBlank_of_isQuote (h : isQuote c = true) : Text.isBlank c = false := by
  rcases isQuote_iff.1 h with rfl | rfl <;> decide

/-! ### Lines of this form are recognised -/

namespace Spelling

lemma toList_text (p : Spelling) :
    p.text.toList = p.before.toList ++ (p.quote.toList ++ '>' :: '>' :: p.inner) := by
  simp [text, inner]

/-- The indent ends before the quote or `>>`. -/
lemma isBlank_of_mem_head? (p : Spelling) :
    ∀ c ∈ (p.quote.toList ++ '>' :: '>' :: p.inner).head?, Text.isBlank c = false := by
  intro c hc
  cases hquote : p.quote with
  | none =>
    rw [hquote] at hc
    cases hc
    decide
  | some d =>
    rw [hquote] at hc
    cases hc
    exact isBlank_of_isQuote (isQuote_iff.2 (p.quote_eq c hquote))

lemma takeWhile_and_dropWhile_text (p : Spelling) :
    p.text.toList.takeWhile Text.isBlank = p.before.toList ∧
      p.text.toList.dropWhile Text.isBlank = p.quote.toList ++ '>' :: '>' :: p.inner := by
  rw [toList_text]
  exact Text.takeWhile_and_dropWhile_append p.blank_before p.isBlank_of_mem_head?

lemma dropQuote_quote (p : Spelling) :
    dropQuote (p.quote.toList ++ '>' :: '>' :: p.inner) = '>' :: '>' :: p.inner := by
  cases hquote : p.quote with
  | none => rfl
  | some c =>
    have hc : isQuote c = true := isQuote_iff.2 (p.quote_eq c hquote)
    simp [dropQuote, hc]

lemma takeWhile_and_dropWhile_inner (p : Spelling) :
    p.inner.takeWhile Text.isBlank = p.gap.toList ∧
      p.inner.dropWhile Text.isBlank = p.extension.toList ++ p.rest.toList := by
  apply Text.takeWhile_and_dropWhile_append p.blank_gap
  intro c hc
  rw [List.head?_append_of_ne_nil _ (by simpa using p.extension_ne_empty)] at hc
  exact (p.plain_extension c (List.mem_of_head? hc)).1

lemma takeWhile_and_dropWhile_extension (p : Spelling) :
    (p.extension.toList ++ p.rest.toList).takeWhile isTag = p.extension.toList ∧
      (p.extension.toList ++ p.rest.toList).dropWhile isTag = p.rest.toList := by
  apply Text.takeWhile_and_dropWhile_append
  · intro c hc
    exact isTag_iff.2 (p.plain_extension c hc)
  · intro c hc
    exact isTag_eq_false_iff.2 (p.stop_rest c hc)

end Spelling

/-- An extension is found where `>>` and blanks stand in front of it. -/
lemma extension?_eq_some_iff : extension? cs = some tag ↔
    ∃ rest, cs = '>' :: '>' :: rest ∧ (rest.dropWhile Text.isBlank).takeWhile isTag = tag ∧
      tag ≠ [] := by
  unfold extension?
  split
  · next rest =>
    split
    next hnil => simp [hnil]
    next hne =>
      simp only [List.cons.injEq, true_and, Option.some.injEq, exists_eq_left']
      constructor
      · rintro rfl
        exact ⟨rfl, hne⟩
      · exact fun h => h.1
  · next hne =>
    simp only [reduceCtorEq, false_iff]
    rintro ⟨rest, rfl, -⟩
    exact hne rest rfl

/-- A line of this form is recognised. -/
lemma parse?_text (p : Spelling) : parse? p.text = some p.marker := by
  obtain ⟨hbefore, hinner⟩ := p.takeWhile_and_dropWhile_text
  have htag : extension? ('>' :: '>' :: p.inner) = some p.extension.toList := by
    refine extension?_eq_some_iff.2 ⟨p.inner, rfl, ?_, by simpa using p.extension_ne_empty⟩
    rw [p.takeWhile_and_dropWhile_inner.2, p.takeWhile_and_dropWhile_extension.1]
  rw [parse?_eq, Text.indentWidth, hbefore, hinner, p.dropQuote_quote, htag]
  simp [Spelling.marker, String.length_toList]

/-! ### Nothing else is recognised -/

lemma exists_quote_of_dropQuote (cs : List Char) :
    ∃ quote : Option Char, (∀ c ∈ quote, c = '\'' ∨ c = '"') ∧ cs = quote.toList ++ dropQuote cs := by
  cases cs with
  | nil => exact ⟨none, by simp, rfl⟩
  | cons c rest =>
    by_cases hc : isQuote c
    · exact ⟨some c, by simpa using isQuote_iff.1 hc, by simp [dropQuote, hc]⟩
    · exact ⟨none, by simp, by simp [dropQuote, hc]⟩

/-- A line that is recognised has this form. -/
lemma exists_spelling_of_parse? (h : parse? line = some m) :
    ∃ p : Spelling, p.text = line ∧ p.marker = m := by
  rw [parse?_eq] at h
  obtain ⟨tag, htag, rfl⟩ := Option.map_eq_some_iff.1 h
  obtain ⟨inner, hinner, hext, hne⟩ := extension?_eq_some_iff.1 htag
  obtain ⟨quote, hquote, hline⟩ := exists_quote_of_dropQuote (line.toList.dropWhile Text.isBlank)
  rw [hinner] at hline
  refine ⟨⟨String.ofList (line.toList.takeWhile Text.isBlank), quote,
    String.ofList (inner.takeWhile Text.isBlank), String.ofList tag,
    String.ofList ((inner.dropWhile Text.isBlank).dropWhile isTag), ?_, hquote, ?_, ?_, ?_, ?_⟩,
    ?_, ?_⟩
  · intro c hc
    rw [String.toList_ofList] at hc
    exact List.mem_takeWhile_imp hc
  · intro c hc
    rw [String.toList_ofList] at hc
    exact List.mem_takeWhile_imp hc
  · simpa using hne
  · intro c hc
    rw [String.toList_ofList, ← hext] at hc
    exact isTag_iff.1 (List.mem_takeWhile_imp hc)
  · intro c hc
    rw [String.toList_ofList] at hc
    have hstop := List.head?_dropWhile_not isTag (inner.dropWhile Text.isBlank)
    rw [Option.mem_def.1 hc] at hstop
    exact isTag_eq_false_iff.1 hstop
  · apply String.toList_inj.1
    rw [Spelling.toList_text, Spelling.inner]
    simp only [String.toList_ofList]
    rw [← hext, List.takeWhile_append_dropWhile, List.takeWhile_append_dropWhile, ← hline,
      List.takeWhile_append_dropWhile]
  · simp [Spelling.marker, Text.indentWidth]

/-! ### One form -/

lemma Spelling.eq_of_text_eq (h : p.text = q.text) : p = q := by
  obtain ⟨hp, hp'⟩ := p.takeWhile_and_dropWhile_text
  obtain ⟨hq, hq'⟩ := q.takeWhile_and_dropWhile_text
  rw [h] at hp hp'
  have hquoted := hp'.symm.trans hq'
  have hinner : p.inner = q.inner := by
    have hdrop := congrArg dropQuote hquoted
    rw [p.dropQuote_quote, q.dropQuote_quote] at hdrop
    simpa using hdrop
  have hquote : p.quote = q.quote := by
    rw [hinner] at hquoted
    have hlist : p.quote.toList = q.quote.toList := List.append_cancel_right hquoted
    simpa using congrArg List.head? hlist
  obtain ⟨hgap, htag⟩ := p.takeWhile_and_dropWhile_inner
  obtain ⟨hgap', htag'⟩ := q.takeWhile_and_dropWhile_inner
  rw [hinner] at hgap htag
  obtain ⟨hext, hrest⟩ := p.takeWhile_and_dropWhile_extension
  obtain ⟨hext', hrest'⟩ := q.takeWhile_and_dropWhile_extension
  rw [← htag, htag'] at hext hrest
  ext1
  · exact String.toList_inj.1 (hp.symm.trans hq)
  · exact hquote
  · exact String.toList_inj.1 (hgap.symm.trans hgap')
  · exact String.toList_inj.1 (hext.symm.trans hext')
  · exact String.toList_inj.1 (hrest.symm.trans hrest')

/-! ### Extensions -/

lemma extension_ne_empty (h : parse? line = some m) : m.extension ≠ "" := by
  obtain ⟨p, rfl, rfl⟩ := exists_spelling_of_parse? h
  exact p.extension_ne_empty

lemma trim_extension (h : parse? line = some m) : Text.trim m.extension = m.extension := by
  obtain ⟨p, rfl, rfl⟩ := exists_spelling_of_parse? h
  rw [Text.trim_eq_self_iff, Text.trimChars_eq_self_iff]
  constructor
  · exact fun c hc => (p.plain_extension c (List.mem_of_mem_head? hc)).1
  · exact fun c hc => (p.plain_extension c (List.mem_of_mem_getLast? hc)).1

/-! ### Indenting -/

def indentBy (width : Nat) (m : Marker) : Marker :=
  { m with indent := m.indent + width }

/-- The marker with an indent of at least `base`. -/
def indentTo (base : Nat) (m : Marker) : Marker :=
  { m with indent := max m.indent base }

lemma parse?_spaces_append (width : Nat) (line : String) :
    parse? (Text.spaces width ++ line) = (parse? line).map (indentBy width) := by
  rw [parse?_eq, Text.indentWidth_spaces_append, String.toList_append,
    List.dropWhile_append_of_pos Text.isBlank_of_mem_spaces, parse?_eq, Option.map_map]
  rfl

/-- Padding a line raises the indent of its marker. -/
lemma parse?_padLine (base : Nat) (line : String) :
    parse? (Text.padLine base line) = (parse? line).map (indentTo base) := by
  rw [Text.padLine_eq_spaces_append, parse?_spaces_append]
  cases hm : parse? line with
  | none => rfl
  | some m =>
    have hindent : m.indent + (base - Text.indentWidth line) = max m.indent base := by
      rw [indent_eq_of_parse? hm]
      omega
    simp [indentBy, indentTo, hindent]

/-- Padding a text raises the indents of its markers. -/
lemma map_parse?_pieces_padTo (base : Nat) (text : String) :
    (Text.pieces '\n' (Text.padTo base text)).map parse? =
      (Text.pieces '\n' text).map fun line => (parse? line).map (indentTo base) := by
  rw [Text.pieces_padTo, List.map_map]
  apply List.map_congr_left
  intro line _
  rw [Function.comp_apply, parse?_padLine]

/-! ### Recognition -/

/-- The marker lines are the lines of this form, and their form is unique. So the marker has the indent of
its line and a trimmed extension, and neither the quote nor the blanks behind `>>` nor what follows the
extension matter. Spaces in front of any line make the indent larger by their number, and padding a text
raises the indents of its markers to at least the width. -/
theorem recognised_iff_spelled :
    (∀ line m, parse? line = some m ↔ ∃ p : Spelling, p.text = line ∧ p.marker = m) ∧
    (∀ p q : Spelling, p.text = q.text → p = q) ∧
    (∀ line m, parse? line = some m →
      m.indent = Text.indentWidth line ∧ Text.trim m.extension = m.extension) ∧
    (∀ p q : Spelling, p.before.length = q.before.length → p.extension = q.extension →
      parse? p.text = parse? q.text) ∧
    (∀ width line, parse? (Text.spaces width ++ line) = (parse? line).map (indentBy width)) ∧
    ∀ base text, (Text.pieces '\n' (Text.padTo base text)).map parse? =
      (Text.pieces '\n' text).map fun line => (parse? line).map (indentTo base) := by
  refine ⟨?_, fun _ _ => Spelling.eq_of_text_eq, ?_, ?_, parse?_spaces_append, map_parse?_pieces_padTo⟩
  · intro line m
    constructor
    · exact exists_spelling_of_parse?
    · rintro ⟨p, rfl, rfl⟩
      exact parse?_text p
  · intro line m h
    exact ⟨indent_eq_of_parse? h, trim_extension h⟩
  · intro p q hlength hext
    rw [parse?_text, parse?_text, Spelling.marker, Spelling.marker, hlength, hext]

/-- A quoted marker whose extension starts with `>>` and ends before another quote. -/
def quotedSpelling : Spelling where
  before := "\t "
  quote := some '"'
  gap := "\u00a0"
  extension := ">>a"
  rest := "'b c"
  blank_before := List.all_eq_true.1 (by decide +kernel)
  quote_eq := by simp
  blank_gap := List.all_eq_true.1 (by decide +kernel)
  extension_ne_empty := by decide
  plain_extension c hc := isTag_iff.1 (List.all_eq_true.1 (by decide +kernel) c hc)
  stop_rest := by simp

/-- The line has no other form, and it keeps its extension when it is indented by three more columns. -/
theorem recognised_iff_spelled_quotedSpelling :
    quotedSpelling.text = "\t \">>\u00a0>>a'b c" ∧
      parse? quotedSpelling.text = some ⟨2, ">>a"⟩ ∧
      (∀ p : Spelling, p.text = quotedSpelling.text → p = quotedSpelling) ∧
      Text.indentWidth quotedSpelling.text = 2 ∧
      (Text.pieces '\n' (Text.padTo 5 quotedSpelling.text)).map parse? = [some ⟨5, ">>a"⟩] := by
  obtain ⟨hiff, hunique, hmarker, -, -, hpad⟩ := recognised_iff_spelled
  have hparse : parse? quotedSpelling.text = some ⟨2, ">>a"⟩ :=
    (hiff _ _).2 ⟨quotedSpelling, rfl, by decide +kernel⟩
  refine ⟨by decide +kernel, hparse, fun p h => hunique p _ h, (hmarker _ _ hparse).1.symm, ?_⟩
  rw [hpad]
  decide +kernel

end Marker

end TextChain
