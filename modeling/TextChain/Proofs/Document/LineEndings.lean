import TextChain.Proofs.Registry.Operations

/-!
# Line endings

A carriage return at the end of a line does not belong to the line. So a text whose lines end in `\n`, in
`\r\n`, or partly in the one and partly in the other has the same lines (`splitLines_of_addsReturns`), and
as a document it is compiled to the same, with the same effects (`compile_of_addsReturns`).
-/

namespace TextChain

namespace Text

variable {text text' : String} {line line' : List Char}

/-- No line of a text ends in a carriage return. -/
def EndsPlainly (text : String) : Prop :=
  ∀ line ∈ pieces '\n' text, line.toList.getLast? ≠ some '\r'

/-- The second text has the lines of the first, some of them with a carriage return added. -/
def AddsReturns (text text' : String) : Prop :=
  List.Forall₂ (fun line line' => line' = line ∨ line' = line ++ "\r") (pieces '\n' text)
    (pieces '\n' text')

instance (text : String) : Decidable (EndsPlainly text) :=
  inferInstanceAs (Decidable (∀ line ∈ pieces '\n' text, line.toList.getLast? ≠ some '\r'))

lemma dropReturn_eq_self (h : line.getLast? ≠ some '\r') : dropReturn line = line := by
  unfold dropReturn
  split
  · contradiction
  · rfl

@[simp] lemma dropReturn_concat (line : List Char) : dropReturn (line ++ ['\r']) = line := by
  simp [dropReturn]

lemma splitLines_eq_map (text : String) :
    splitLines text = (pieces '\n' text).map fun line => String.ofList (dropReturn line.toList) := by
  simp [splitLines, pieces]

/-- Carriage returns that are added to the ends of lines do not change the lines. -/
theorem splitLines_of_addsReturns (hplain : EndsPlainly text) (h : AddsReturns text text') :
    splitLines text' = splitLines text := by
  rw [splitLines_eq_map, splitLines_eq_map]
  unfold EndsPlainly at hplain
  unfold AddsReturns at h
  generalize pieces '\n' text = lines, pieces '\n' text' = lines' at hplain h ⊢
  induction h with
  | nil => rfl
  | @cons line line' lines lines' hline _ ih =>
    have hsame : dropReturn line'.toList = dropReturn line.toList := by
      rcases hline with rfl | rfl
      · rfl
      · simp [dropReturn_eq_self (hplain line List.mem_cons_self)]
    rw [List.map_cons, List.map_cons, hsame, ih fun l hl => hplain l (List.mem_cons_of_mem _ hl)]

lemma subset_intercalate_of_mem {separator piece : List Char} {pieces : List (List Char)}
    (h : piece ∈ pieces) : piece ⊆ separator.intercalate pieces := by
  induction pieces with
  | nil => cases h
  | cons first rest ih =>
    rcases List.mem_cons.1 h with rfl | h
    · cases rest <;> simp
    · rw [List.intercalate_cons_of_ne_nil (List.ne_nil_of_mem h)]
      exact List.subset_append_of_subset_right _ (ih h)

lemma endsPlainly_of_not_mem (h : '\r' ∉ text.toList) : EndsPlainly text := by
  intro line hline hlast
  obtain ⟨raw, hraw, rfl⟩ := List.mem_map.1 hline
  rw [String.toList_ofList] at hlast
  have hsub : raw ⊆ ['\n'].intercalate (text.toList.splitOn '\n') := subset_intercalate_of_mem hraw
  rw [List.intercalate_splitOn] at hsub
  exact h (hsub (List.mem_of_getLast? hlast))

/-- The lines of a text whose lines end plainly are its pieces, so joining them gives it back. -/
lemma joinLines_splitLines (h : EndsPlainly text) : joinLines (splitLines text) = text := by
  have hpieces : splitLines text = pieces '\n' text := by
    rw [splitLines_eq_map]
    refine (List.map_congr_left fun line hline => ?_).trans (List.map_id _)
    rw [dropReturn_eq_self (h line hline), String.ofList_toList, id]
  rw [hpieces, joinLines_pieces]

end Text

namespace Registry

variable {setup : Setup} {options : Options} {s : Session} {ext text text' : String}

lemma compileDocument_of_splitLines_eq (compile : String → String → Act Output)
    (hlines : Text.splitLines text' = Text.splitLines text) :
    compileDocument compile options text' = compileDocument compile options text := by
  rw [compileDocument_eq, compileDocument_eq, Document.ofText, Document.ofText, hlines]

/-- What is compiled of a text whose extension has the wildcard depends on the lines of the text alone. -/
lemma perform_compileWithin_of_splitLines_eq (htarget : eventualTarget? setup s.registry ext = some .wildcard)
    (hlines : Text.splitLines text' = Text.splitLines text) (depth : Nat) :
    perform (compileWithin setup options depth ext text') s =
      perform (compileWithin setup options depth ext text) s := by
  obtain ⟨t, hensure⟩ := exists_ensure_of_wildcard htarget
  rw [compileWithin.eq_def, perform_bind_of_ok hensure, compileWithin.eq_def, perform_bind_of_ok hensure]
  cases depth with
  | zero => rfl
  | succ depth =>
    dsimp only
    rw [compileDocument_of_splitLines_eq _ hlines]

/-- If no line of a text ends in a carriage return, then carriage returns that are added to the ends of its
lines, to whichever of them, change nothing: as a document the text is compiled to the same, or fails with
the same error, and leaves the same session. Joining the lines of a text without carriage returns gives the
text back. -/
theorem compile_of_addsReturns (setup : Setup) (options : Options) :
    (∀ text text', Text.EndsPlainly text → Text.AddsReturns text text' → ∀ s,
      (∀ depth, perform (compileDocument (compileWithin setup options depth) options text') s =
        perform (compileDocument (compileWithin setup options depth) options text) s) ∧
      ∀ ext, eventualTarget? setup s.registry ext = some .wildcard →
        perform (compile setup ext text' options) s = perform (compile setup ext text options) s) ∧
    ∀ text : String, '\r' ∉ text.toList → Text.joinLines (Text.splitLines text) = text := by
  constructor
  · intro text text' hplain hadds s
    have hlines := Text.splitLines_of_addsReturns hplain hadds
    constructor
    · intro depth
      rw [compileDocument_of_splitLines_eq _ hlines]
    · intro ext htarget
      exact perform_compileWithin_of_splitLines_eq htarget hlines setup.nesting
  · intro text htext
    exact Text.joinLines_splitLines (Text.endsPlainly_of_not_mem htext)

def plainPage : String := ">> html\n  >> css\n  a\nb\n"

/-- The same page with three carriage returns, the last of them alone on its line. -/
def mixedPage : String := ">> html\r\n  >> css\n  a\r\nb\n\r"

/-- The carriage returns may stand at the end of some lines only. -/
theorem compile_of_addsReturns_mixedPage :
    Text.EndsPlainly plainPage ∧ Text.AddsReturns plainPage mixedPage ∧
      perform (compile .standard "page" mixedPage .empty)
          (Session.initial.after .standard [.add "page" (some "*")]) =
        perform (compile .standard "page" plainPage .empty)
          (Session.initial.after .standard [.add "page" (some "*")]) := by
  have hpieces : Text.pieces '\n' plainPage = [">> html", "  >> css", "  a", "b", ""] := by
    decide +kernel
  have hpieces' : Text.pieces '\n' mixedPage = [">> html\r", "  >> css", "  a\r", "b", "\r"] := by
    decide +kernel
  have hplain : Text.EndsPlainly plainPage := by decide +kernel
  have hadds : Text.AddsReturns plainPage mixedPage := by
    rw [Text.AddsReturns, hpieces, hpieces']
    simp
  exact ⟨hplain, hadds, ((compile_of_addsReturns .standard .empty).1 _ _ hplain hadds _).2 "page"
    (by decide +kernel)⟩

end Registry

end TextChain
