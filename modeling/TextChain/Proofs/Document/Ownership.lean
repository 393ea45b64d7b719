import Mathlib
import TextChain.Document

/-!
# Which block a line belongs to

The blocks of a document, read off its lines alone. The block of a marker line `j` is open at a later
line `i` if no line after `j` up to `i` is indented less than the marker or is a marker with the same
indent. A line belongs to the last marker line whose block is open at it, and to the top level if
there is none.
-/

namespace TextChain

namespace Document

variable {source : List String} {i j n : Nat} {line : String} {m : Marker}

/-- The marker of a line, if the line is a marker line. -/
def markerAt? (source : List String) (i : Nat) : Option Marker :=
  source[i]?.bind Marker.parse?

/-- A line goes on with a block of the indent `base` if it is indented at least as far and is no
marker with the same indent. -/
def Continues (base : Nat) (line : String) : Prop :=
  base ≤ Text.indentWidth line ∧ (Marker.parse? line).map Marker.indent ≠ some base

instance (base : Nat) (line : String) : Decidable (Continues base line) :=
  inferInstanceAs (Decidable (_ ∧ _))

/-- The block of the marker line `j` is open at the later line `i`. -/
def OpenAt (source : List String) (j i : Nat) : Prop :=
  ∃ m ∈ markerAt? source j, j < i ∧ ∀ k ≤ i, j < k → ∃ line ∈ source[k]?, Continues m.indent line

instance (source : List String) (j i : Nat) : Decidable (OpenAt source j i) :=
  inferInstanceAs (Decidable (∃ m ∈ markerAt? source j, _))

/-- The marker line that a line belongs to; none at the top level. -/
def owner? (source : List String) (i : Nat) : Option Nat :=
  ((List.range i).filter fun j => OpenAt source j i).max?

/-- The lines that belong to a marker line, or to the top level, in ascending order. -/
def linesOwnedBy (source : List String) (owner : Option Nat) : List Nat :=
  (List.range source.length).filter fun i => owner? source i = owner

/-- The marker lines in ascending order. -/
def markerLines (source : List String) : List Nat :=
  (List.range source.length).filter fun i => (markerAt? source i).isSome

/-! ### Markers -/

lemma markerAt?_eq_some_iff :
    markerAt? source i = some m ↔ ∃ line, source[i]? = some line ∧ Marker.parse? line = some m :=
  Option.bind_eq_some_iff

lemma markerAt?_of_getElem? (h : source[i]? = some line) :
    markerAt? source i = Marker.parse? line := by
  rw [markerAt?, h, Option.bind_some]

lemma lt_length_of_markerAt? (h : markerAt? source i = some m) : i < source.length := by
  obtain ⟨_, hline, -⟩ := markerAt?_eq_some_iff.1 h
  exact (List.getElem?_eq_some_iff.1 hline).1

lemma mem_markerLines_of_markerAt? (h : markerAt? source i = some m) : i ∈ markerLines source :=
  List.mem_filter.2 ⟨List.mem_range.2 (lt_length_of_markerAt? h), by simp [h]⟩

/-- A marker that goes on with a block is indented more than the block's own marker. -/
lemma lt_indent_of_continues {base : Nat} (h : Continues base line)
    (hm : Marker.parse? line = some m) : base < m.indent := by
  obtain ⟨hle, hne⟩ := h
  rw [hm, Option.map_some, ne_eq, Option.some_inj] at hne
  have := Marker.indent_eq_of_parse? hm
  omega

/-- What goes on with a block goes on with every block of a smaller indent. -/
lemma Continues.of_lt {base base' : Nat} (h : Continues base' line) (hlt : base < base') :
    Continues base line := by
  constructor
  · exact hlt.le.trans h.1
  · intro heq
    obtain ⟨m, hm, rfl⟩ := Option.map_eq_some_iff.1 heq
    have := Marker.indent_eq_of_parse? hm
    have := h.1
    omega

/-! ### Open blocks -/

lemma OpenAt.lt (h : OpenAt source j i) : j < i := by
  obtain ⟨_, _, hlt, _⟩ := h
  exact hlt

lemma OpenAt.exists_marker (h : OpenAt source j i) : ∃ m, markerAt? source j = some m := by
  obtain ⟨m, hm, -⟩ := h
  exact ⟨m, hm⟩

/-- An open block was open before. -/
lemma OpenAt.mono (h : OpenAt source j i) (hlt : j < n) (hle : n ≤ i) : OpenAt source j n := by
  obtain ⟨m, hm, -, hall⟩ := h
  refine ⟨m, hm, hlt, ?_⟩
  intro k hk hjk
  exact hall k (hk.trans hle) hjk

/-! ### Owners -/

lemma owner?_eq_some_iff :
    owner? source i = some j ↔ OpenAt source j i ∧ ∀ j', OpenAt source j' i → j' ≤ j := by
  rw [owner?, List.max?_eq_some_iff]
  simp only [List.mem_filter, List.mem_range, decide_eq_true_eq]
  constructor
  · rintro ⟨⟨-, hopen⟩, hmax⟩
    exact ⟨hopen, fun j' hj' => hmax j' ⟨hj'.lt, hj'⟩⟩
  · rintro ⟨hopen, hmax⟩
    exact ⟨⟨hopen.lt, hopen⟩, fun j' hj' => hmax j' hj'.2⟩

lemma owner?_eq_none_iff : owner? source i = none ↔ ∀ j, ¬ OpenAt source j i := by
  rw [owner?, List.max?_eq_none_iff, List.filter_eq_nil_iff]
  simp only [List.mem_range, decide_eq_true_eq]
  constructor
  · intro h j hj
    exact h j hj.lt hj
  · intro h j _
    exact h j

end Document

end TextChain
