import TextChain.Proofs.Chain

/-!
# Faults of chain texts

A piece of a chain text is at fault if it is empty, if it is the wildcard, or if it is a boundary after
another one. The leftmost fault decides, whatever else is wrong; after it only the number of stages after
the boundary counts. `parse_eq_iff_verdict` says that reading a chain text gives this verdict and no other.
-/

namespace TextChain

namespace Chain

variable {source spec piece : String} {pieces pre posts before rest : List String} {e : ChainError}
  {position i : Nat} {result : Except ChainError Chain}

/-- What is wrong with the piece at a position. -/
inductive Fault (spec : String) (pieces : List String) : Nat → ChainError → Prop
  | emptyStage {i : Nat} (h : pieces[i]? = some "") : Fault spec pieces i (.emptyStage spec i)
  | wildcard {i : Nat} (h : pieces[i]? = some wildcard) : Fault spec pieces i (.wildcardInChain spec)
  /-- The piece is a boundary, and some piece before it is one too. -/
  | repeated {i j : Nat} (h : pieces[i]? = some boundary) (hlt : j < i)
    (hearlier : pieces[j]? = some boundary) : Fault spec pieces i (.repeatedBoundary spec)

/-- No piece is at fault. -/
def Faultless (spec : String) (pieces : List String) : Prop :=
  ∀ i e, ¬ Fault spec pieces i e

/-- What a chain text is read as. -/
inductive Verdict (source : String) : Except ChainError Chain → Prop
  | emptyChain (hempty : Text.trim source = "") : Verdict source (.error .emptyChain)
  /-- The leftmost fault is reported. -/
  | fault {i : Nat} {e : ChainError} (hne : Text.trim source ≠ "")
    (hfault : Fault (Text.trim source) (piecesOf (Text.trim source)) i e)
    (hleast : ∀ j < i, ∀ e', ¬ Fault (Text.trim source) (piecesOf (Text.trim source)) j e') :
    Verdict source (.error e)
  /-- More than one stage follows the boundary. -/
  | multiplePostStages {pre posts : List String} (hne : Text.trim source ≠ "")
    (hnone : Faultless (Text.trim source) (piecesOf (Text.trim source)))
    (hpieces : piecesOf (Text.trim source) = pre ++ boundary :: posts) (hmany : 1 < posts.length) :
    Verdict source (.error (.multiplePostStages (Text.trim source) posts.length))
  /-- The chain has a boundary, with at most one stage after it. -/
  | bounded {pre : List String} {post : Option String} (hne : Text.trim source ≠ "")
    (hnone : Faultless (Text.trim source) (piecesOf (Text.trim source)))
    (hpieces : piecesOf (Text.trim source) = pre ++ boundary :: post.toList) :
    Verdict source (.ok ⟨pre, post, true⟩)
  /-- Every piece is a stage. -/
  | plain (hne : Text.trim source ≠ "")
    (hnone : Faultless (Text.trim source) (piecesOf (Text.trim source)))
    (hplain : boundary ∉ piecesOf (Text.trim source)) :
    Verdict source (.ok ⟨piecesOf (Text.trim source), none, false⟩)

/-! ### Faults -/

lemma Fault.lt_length (h : Fault spec pieces i e) : i < pieces.length := by
  cases h with
  | emptyStage h => exact (List.getElem?_eq_some_iff.1 h).1
  | wildcard h => exact (List.getElem?_eq_some_iff.1 h).1
  | repeated h => exact (List.getElem?_eq_some_iff.1 h).1

/-- A fault stays one, whatever follows. -/
lemma Fault.append (h : Fault spec before i e) (rest : List String) :
    Fault spec (before ++ rest) i e := by
  have hkept : ∀ {k : Nat} {piece : String}, before[k]? = some piece →
      (before ++ rest)[k]? = some piece := fun h => by
    rw [List.getElem?_append_left (List.getElem?_eq_some_iff.1 h).1, h]
  cases h with
  | emptyStage h => exact .emptyStage (hkept h)
  | wildcard h => exact .wildcard (hkept h)
  | repeated h hlt hearlier => exact .repeated (hkept h) hlt (hkept hearlier)

/-- Before the leftmost fault nothing is at fault. -/
lemma faultless_take (hleast : ∀ j < i, ∀ e, ¬ Fault spec pieces j e) :
    Faultless spec (pieces.take i) := by
  intro j e hfault
  have hlt : j < i := hfault.lt_length.trans_le (List.length_take_le i pieces)
  refine hleast j hlt e ?_
  rw [← List.take_append_drop i pieces]
  exact hfault.append _

lemma Faultless.isStagePiece (h : Faultless spec pieces) (hpiece : pieces[i]? = some piece)
    (hboundary : piece ≠ boundary) : IsStagePiece piece := by
  refine ⟨?_, hboundary, ?_⟩
  · rintro rfl
    exact h _ _ (.emptyStage hpiece)
  · rintro rfl
    exact h _ _ (.wildcard hpiece)

lemma Faultless.isStagePiece_of_not_mem (h : Faultless spec pieces) (hplain : boundary ∉ pieces) :
    ∀ piece ∈ pieces, IsStagePiece piece := by
  intro piece hmem
  obtain ⟨i, hi⟩ := List.mem_iff_getElem?.1 hmem
  exact h.isStagePiece hi (ne_of_mem_of_not_mem hmem hplain)

/-- Among pieces without fault there is one boundary at most. -/
lemma Faultless.isStagePiece_of_append (h : Faultless spec (pre ++ boundary :: posts)) :
    (∀ piece ∈ pre, IsStagePiece piece) ∧ ∀ piece ∈ posts, IsStagePiece piece := by
  have hboundary : (pre ++ boundary :: posts)[pre.length]? = some boundary := by simp
  constructor
  · intro piece hmem
    obtain ⟨i, hi⟩ := List.mem_iff_getElem?.1 hmem
    have hlt : i < pre.length := (List.getElem?_eq_some_iff.1 hi).1
    have hat : (pre ++ boundary :: posts)[i]? = some piece := by
      rw [List.getElem?_append_left hlt, hi]
    refine h.isStagePiece hat ?_
    rintro rfl
    exact h _ _ (.repeated hboundary hlt hat)
  · intro piece hmem
    obtain ⟨i, hi⟩ := List.mem_iff_getElem?.1 hmem
    have hat : (pre ++ boundary :: posts)[pre.length + (i + 1)]? = some piece := by
      rw [List.getElem?_append_right (Nat.le_add_right _ _), Nat.add_sub_cancel_left,
        List.getElem?_cons_succ, hi]
    refine h.isStagePiece hat ?_
    rintro rfl
    exact h _ _ (.repeated hat (Nat.lt_add_of_pos_right i.succ_pos) hboundary)

/-! ### Reading up to a fault -/

/-- After a boundary the reader refuses a piece at fault. -/
lemma readPost_of_fault (h : Fault spec (before ++ piece :: rest) before.length e) :
    readPost spec before.length (piece :: rest) = .error e := by
  have hpiece : (before ++ piece :: rest)[before.length]? = some piece := by simp
  rw [readPost]
  cases h with
  | emptyStage h =>
    cases hpiece.symm.trans h
    rw [if_pos rfl]
  | wildcard h =>
    cases hpiece.symm.trans h
    rw [if_neg (by decide), if_neg (by decide), if_pos rfl]
  | repeated h =>
    cases hpiece.symm.trans h
    rw [if_neg (by decide), if_pos rfl]

/-- Without a boundary before it, the reader refuses a piece at fault as well. -/
lemma readPre_of_fault (hplain : boundary ∉ before)
    (h : Fault spec (before ++ piece :: rest) before.length e) :
    readPre spec before.length (piece :: rest) = .error e := by
  have hpiece : (before ++ piece :: rest)[before.length]? = some piece := by simp
  rw [readPre]
  cases h with
  | emptyStage h =>
    cases hpiece.symm.trans h
    rw [if_pos rfl]
  | wildcard h =>
    cases hpiece.symm.trans h
    rw [if_neg (by decide), if_neg (by decide), if_pos rfl]
  | repeated _ hlt hearlier =>
    rw [List.getElem?_append_left hlt] at hearlier
    exact absurd (List.mem_of_getElem? hearlier) hplain

/-- The pieces before a fault are read, and then the fault is reported. -/
lemma readPre_append_of_fault (hnone : Faultless spec before)
    (h : Fault spec (before ++ piece :: rest) before.length e) :
    readPre spec 0 (before ++ piece :: rest) = .error e := by
  by_cases hboundary : boundary ∈ before
  · obtain ⟨pre, posts, rfl⟩ := List.append_of_mem hboundary
    obtain ⟨hpre, hposts⟩ := hnone.isStagePiece_of_append
    have hlength : (pre ++ boundary :: posts).length = 0 + pre.length + 1 + posts.length := by
      rw [List.length_append, List.length_cons]
      omega
    have hread : readPost spec (0 + pre.length + 1) (posts ++ piece :: rest) = .error e := by
      rw [readPost_append hposts, ← hlength, readPost_of_fault h]
      rfl
    rw [List.append_assoc, readPre_append hpre, List.cons_append, readPre, if_neg (by decide),
      if_pos rfl, hread]
    rfl
  · rw [readPre_append (hnone.isStagePiece_of_not_mem hboundary), Nat.zero_add,
      readPre_of_fault hboundary h]
    rfl

/-! ### Verdicts -/

lemma parse_of_ne_empty (hne : Text.trim source ≠ "") :
    parse source =
      (readPre (Text.trim source) 0 (piecesOf (Text.trim source))).bind
        (ofSegments (Text.trim source)) :=
  if_neg hne

/-- Pieces without fault are read as the stages before and after their boundary. -/
lemma readPre_of_faultless (hnone : Faultless spec (pre ++ boundary :: posts)) :
    readPre spec position (pre ++ boundary :: posts) = .ok (pre, some posts) := by
  obtain ⟨hpre, hposts⟩ := hnone.isStagePiece_of_append
  have hread : readPre spec position (segmentPieces (pre, some posts)) = .ok (pre, some posts) :=
    readPre_segmentPieces hpre (by simpa using hposts)
  exact hread

lemma readPre_of_faultless_of_not_mem (hnone : Faultless spec pieces) (hplain : boundary ∉ pieces) :
    readPre spec position pieces = .ok (pieces, none) := by
  have hread : readPre spec position (segmentPieces (pieces, none)) = .ok (pieces, none) :=
    readPre_segmentPieces (hnone.isStagePiece_of_not_mem hplain) (by simp)
  exact hread

lemma ofSegments_of_lt (spec : String) (pre : List String) (hmany : 1 < posts.length) :
    ofSegments spec (pre, some posts) = .error (.multiplePostStages spec posts.length) := by
  match posts, hmany with
  | _ :: _ :: _, _ => rfl

lemma Verdict.parse_eq (h : Verdict source result) : parse source = result := by
  cases h with
  | emptyChain hempty => exact if_pos hempty
  | @fault i e hne hfault hleast =>
    rw [parse_of_ne_empty hne]
    generalize piecesOf (Text.trim source) = pieces at hfault hleast ⊢
    have hlt : i < pieces.length := hfault.lt_length
    have hsplit : pieces = pieces.take i ++ pieces[i] :: pieces.drop (i + 1) := by
      rw [← List.drop_eq_getElem_cons hlt, List.take_append_drop]
    have hlength : (pieces.take i).length = i := List.length_take_of_le hlt.le
    rw [hsplit] at hfault ⊢
    rw [readPre_append_of_fault (faultless_take hleast) (by rwa [hlength])]
    rfl
  | @multiplePostStages pre posts hne hnone hpieces hmany =>
    rw [hpieces] at hnone
    rw [parse_of_ne_empty hne, hpieces, readPre_of_faultless hnone]
    exact ofSegments_of_lt (Text.trim source) pre hmany
  | @bounded pre post hne hnone hpieces =>
    rw [hpieces] at hnone
    rw [parse_of_ne_empty hne, hpieces, readPre_of_faultless hnone]
    cases post <;> rfl
  | plain hne hnone hplain =>
    rw [parse_of_ne_empty hne, readPre_of_faultless_of_not_mem hnone hplain]
    rfl

/-- There is a verdict on every text. -/
lemma exists_verdict (source : String) : ∃ result, Verdict source result := by
  by_cases hne : Text.trim source = ""
  · exact ⟨_, .emptyChain hne⟩
  by_cases hfault : ∃ i e, Fault (Text.trim source) (piecesOf (Text.trim source)) i e
  · classical
    obtain ⟨e, he⟩ := Nat.find_spec hfault
    refine ⟨_, .fault hne he fun j hlt e' he' => ?_⟩
    exact Nat.find_min hfault hlt ⟨e', he'⟩
  · have hnone : Faultless (Text.trim source) (piecesOf (Text.trim source)) :=
      fun i e h => hfault ⟨i, e, h⟩
    by_cases hboundary : boundary ∈ piecesOf (Text.trim source)
    · obtain ⟨pre, posts, hpieces⟩ := List.append_of_mem hboundary
      match posts, hpieces with
      | [], hpieces => exact ⟨.ok ⟨pre, none, true⟩, .bounded hne hnone hpieces⟩
      | [post], hpieces => exact ⟨.ok ⟨pre, some post, true⟩, .bounded hne hnone hpieces⟩
      | _ :: _ :: _, hpieces => exact ⟨_, .multiplePostStages hne hnone hpieces (by simp)⟩
    · exact ⟨_, .plain hne hnone hboundary⟩

/-- Reading a chain text gives the verdict on it. The leftmost fault among the trimmed pieces is reported
with its kind and, for an empty piece, its position. Where there is none, more than one stage after the
boundary is reported with their number. All other texts are read as the chain of the stages before and
after the boundary. -/
theorem parse_eq_iff_verdict (source : String) (result : Except ChainError Chain) :
    parse source = result ↔ Verdict source result := by
  constructor
  · rintro rfl
    obtain ⟨result, hverdict⟩ := exists_verdict source
    rw [hverdict.parse_eq]
    exact hverdict
  · exact Verdict.parse_eq

/-- A wildcard is reported before the two stages that follow the boundary. -/
example : parse " a >@> b > c > * " = .error (.wildcardInChain "a >@> b > c > *") := by decide +kernel

end Chain

end TextChain
