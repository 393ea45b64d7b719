/-!
# Dictionaries

A dictionary maps keys to values and lists its entries in ascending order of the keys, each key
once, so two dictionaries with the same answers are equal (`Dict.ext_find?`). Strings compare by code
point, which is also the order of their UTF-8 bytes.
-/

namespace TextChain

/-- Entries in strictly ascending order of their keys. -/
def Ascending {α : Type} (entries : List (String × α)) : Prop :=
  entries.Pairwise fun a b => a.1 < b.1

/-! ### Entry lists -/

namespace Entries

variable {α : Type}

/-- The value of the first entry with this key. -/
def find? (key : String) : List (String × α) → Option α
  | [] => none
  | (k, v) :: rest => if k = key then some v else find? key rest

/-- Sets the value of a key in an ascending list. -/
def insert (key : String) (value : α) : List (String × α) → List (String × α)
  | [] => [(key, value)]
  | (k, v) :: rest =>
    if key = k then (key, value) :: rest
    else if key < k then (key, value) :: (k, v) :: rest
    else (k, v) :: insert key value rest

def erase (key : String) (entries : List (String × α)) : List (String × α) :=
  entries.filter fun entry => entry.1 ≠ key

theorem mem_insert {key : String} {value : α} {entries : List (String × α)} {e : String × α}
    (h : e ∈ insert key value entries) : e = (key, value) ∨ e ∈ entries := by
  induction entries with
  | nil => simpa [insert] using h
  | cons entry rest ih =>
    obtain ⟨k, v⟩ := entry
    unfold insert at h
    split at h
    · rcases List.mem_cons.1 h with h | h <;> simp [h]
    · split at h
      · rcases List.mem_cons.1 h with h | h <;> simp [h]
      · rcases List.mem_cons.1 h with h | h
        · simp [h]
        · rcases ih h with h | h <;> simp [h]

theorem lt_of_not_lt_of_ne {a b : String} (hne : a ≠ b) (h : ¬ a < b) : b < a := by
  rcases Std.lt_trichotomy a b with h' | h' | h'
  · exact absurd h' h
  · exact absurd h' hne
  · exact h'

theorem ascending_insert {key : String} {value : α} {entries : List (String × α)}
    (h : Ascending entries) : Ascending (insert key value entries) := by
  induction entries with
  | nil => simp [insert, Ascending]
  | cons entry rest ih =>
    obtain ⟨k, v⟩ := entry
    obtain ⟨hk, hrest⟩ := List.pairwise_cons.1 h
    unfold insert
    split
    next he => subst he; exact List.pairwise_cons.2 ⟨hk, hrest⟩
    next hne =>
      split
      next hlt =>
        refine List.pairwise_cons.2 ⟨fun e he => ?_, h⟩
        rcases List.mem_cons.1 he with rfl | he
        · exact hlt
        · exact String.lt_trans hlt (hk e he)
      next hlt =>
        refine List.pairwise_cons.2 ⟨fun e he => ?_, ih hrest⟩
        rcases mem_insert he with rfl | he
        · exact lt_of_not_lt_of_ne hne hlt
        · exact hk e he

theorem ascending_erase {key : String} {entries : List (String × α)} (h : Ascending entries) :
    Ascending (erase key entries) :=
  List.Pairwise.filter _ h

theorem find?_insert (key : String) (value : α) (entries : List (String × α)) (k : String) :
    find? k (insert key value entries) = if key = k then some value else find? k entries := by
  induction entries with
  | nil => simp [insert, find?]
  | cons entry rest ih =>
    obtain ⟨k', v'⟩ := entry
    unfold insert
    by_cases h₁ : key = k'
    · subst h₁
      by_cases h : key = k <;> simp [find?, h]
    · by_cases h₂ : key < k'
      · simp [h₁, h₂, find?]
      · by_cases hk : k' = k
        · subst hk
          simp [h₁, h₂, find?]
        · simp [h₁, h₂, find?, hk, ih]

theorem find?_erase (key : String) (entries : List (String × α)) (k : String) :
    find? k (erase key entries) = if key = k then none else find? k entries := by
  induction entries with
  | nil => simp [erase, find?]
  | cons entry rest ih =>
    obtain ⟨k', v'⟩ := entry
    by_cases hk : k' = key
    · subst hk
      have hd : erase k' ((k', v') :: rest) = erase k' rest := by simp [erase]
      rw [hd, ih]
      by_cases h : k' = k <;> simp [find?, h]
    · have hd : erase key ((k', v') :: rest) = (k', v') :: erase key rest := by simp [erase, hk]
      rw [hd, find?, ih]
      by_cases h : k' = k
      · subst h; simp [find?, Ne.symm hk]
      · simp [find?, h]

theorem find?_eq_some_of_mem {entries : List (String × α)} (h : Ascending entries)
    {e : String × α} (he : e ∈ entries) : find? e.1 entries = some e.2 := by
  induction entries with
  | nil => simp at he
  | cons entry rest ih =>
    obtain ⟨k, v⟩ := entry
    obtain ⟨hk, hrest⟩ := List.pairwise_cons.1 h
    rcases List.mem_cons.1 he with rfl | he
    · simp [find?]
    · have hne : k ≠ e.1 := fun heq => String.lt_irrefl k (by simpa [← heq] using hk e he)
      simp [find?, hne, ih hrest he]

theorem mem_of_find? {entries : List (String × α)} {key : String} {value : α}
    (h : find? key entries = some value) : (key, value) ∈ entries := by
  induction entries with
  | nil => simp [find?] at h
  | cons entry rest ih =>
    obtain ⟨k, v⟩ := entry
    unfold find? at h
    split at h
    next heq => subst heq; simp_all
    next => exact List.mem_cons_of_mem _ (ih h)

end Entries

/-! ### Dictionaries -/

/-- A finite map from strings. -/
structure Dict (α : Type) where
  entries : List (String × α)
  /-- The entries ascend strictly by key. -/
  ascending : Ascending entries

namespace Dict

variable {α : Type}

theorem ext_entries {d e : Dict α} (h : d.entries = e.entries) : d = e := by
  cases d; cases e; cases h; rfl

/-- The dictionary without entries. -/
def empty : Dict α :=
  ⟨[], List.Pairwise.nil⟩

instance : EmptyCollection (Dict α) := ⟨empty⟩

instance : Inhabited (Dict α) := ⟨empty⟩

def find? (d : Dict α) (key : String) : Option α :=
  Entries.find? key d.entries

def contains (d : Dict α) (key : String) : Bool :=
  (d.find? key).isSome

def insert (d : Dict α) (key : String) (value : α) : Dict α :=
  ⟨Entries.insert key value d.entries, Entries.ascending_insert d.ascending⟩

def erase (d : Dict α) (key : String) : Dict α :=
  ⟨Entries.erase key d.entries, Entries.ascending_erase d.ascending⟩

def keys (d : Dict α) : List String :=
  d.entries.map Prod.fst

def values (d : Dict α) : List α :=
  d.entries.map Prod.snd

def size (d : Dict α) : Nat :=
  d.entries.length

/-- Sets the keys of a list one after the other, so the last value of a key stays. -/
def insertMany (d : Dict α) (entries : List (String × α)) : Dict α :=
  entries.foldl (fun acc entry => acc.insert entry.1 entry.2) d

/-- The dictionary of a list of entries; the last value of a key stays. -/
def ofList (entries : List (String × α)) : Dict α :=
  empty.insertMany entries

theorem find?_empty (k : String) : (empty : Dict α).find? k = none := rfl

theorem find?_insert (d : Dict α) (key : String) (value : α) (k : String) :
    (d.insert key value).find? k = if key = k then some value else d.find? k :=
  Entries.find?_insert key value d.entries k

theorem find?_erase (d : Dict α) (key : String) (k : String) :
    (d.erase key).find? k = if key = k then none else d.find? k :=
  Entries.find?_erase key d.entries k

theorem insertMany_cons (d : Dict α) (entry : String × α) (entries : List (String × α)) :
    d.insertMany (entry :: entries) = (d.insert entry.1 entry.2).insertMany entries := rfl

/-- A key that is set more than once keeps the last value. -/
theorem find?_insertMany (d : Dict α) (entries : List (String × α)) (k : String) :
    (d.insertMany entries).find? k =
      ((entries.filter fun entry => entry.1 = k).getLast?.map Prod.snd).or (d.find? k) := by
  induction entries generalizing d with
  | nil => rfl
  | cons entry rest ih =>
    rw [insertMany_cons, ih, find?_insert]
    by_cases hk : entry.1 = k
    · rw [List.filter_cons_of_pos (by simpa using hk), List.getLast?_cons, if_pos hk]
      cases (rest.filter fun entry => entry.1 = k).getLast? <;> rfl
    · rw [List.filter_cons_of_neg (by simpa using hk), if_neg hk]

theorem mem_entries_iff {d : Dict α} {key : String} {value : α} :
    (key, value) ∈ d.entries ↔ d.find? key = some value :=
  ⟨fun h => Entries.find?_eq_some_of_mem d.ascending h, Entries.mem_of_find?⟩

theorem mem_keys_iff {d : Dict α} {key : String} : key ∈ d.keys ↔ d.contains key = true := by
  simp only [keys, List.mem_map, contains, Option.isSome_iff_exists]
  constructor
  · rintro ⟨⟨k, v⟩, h, rfl⟩
    exact ⟨v, mem_entries_iff.1 h⟩
  · rintro ⟨v, h⟩
    exact ⟨(key, v), mem_entries_iff.2 h, rfl⟩

/-- Setting all keys of a dictionary anew changes nothing. -/
theorem find?_ofList_entries (d : Dict α) (key : String) :
    (ofList d.entries).find? key = d.find? key := by
  rw [ofList, find?_insertMany, find?_empty, Option.or_none]
  cases hlast : (d.entries.filter fun entry => entry.1 = key).getLast? with
  | none =>
    cases hfind : d.find? key with
    | none => rfl
    | some value =>
      rw [List.getLast?_eq_none_iff, List.filter_eq_nil_iff] at hlast
      exact absurd (decide_eq_true rfl) (hlast (key, value) (mem_entries_iff.2 hfind))
  | some entry =>
    obtain ⟨hmem, hkey⟩ := List.mem_filter.1 (List.mem_of_getLast? hlast)
    rw [← of_decide_eq_true hkey]
    exact (mem_entries_iff.1 hmem).symm

/-- Two ascending lists with the same members are equal. -/
theorem eq_of_ascending : ∀ {xs ys : List (String × α)}, Ascending xs → Ascending ys →
    (∀ e, e ∈ xs ↔ e ∈ ys) → xs = ys
  | [], [], _, _, _ => rfl
  | [], y :: _, _, _, h => absurd ((h y).2 List.mem_cons_self) (by simp)
  | x :: _, [], _, _, h => absurd ((h x).1 List.mem_cons_self) (by simp)
  | x :: xs, y :: ys, hx, hy, h => by
    obtain ⟨hx₁, hx₂⟩ := List.pairwise_cons.1 hx
    obtain ⟨hy₁, hy₂⟩ := List.pairwise_cons.1 hy
    have hxy : x = y := by
      rcases List.mem_cons.1 ((h x).1 List.mem_cons_self) with hm | hm
      · exact hm
      · rcases List.mem_cons.1 ((h y).2 List.mem_cons_self) with hm' | hm'
        · exact hm'.symm
        · exact absurd (String.lt_trans (hy₁ x hm) (hx₁ y hm')) (String.lt_irrefl _)
    subst hxy
    congr 1
    refine eq_of_ascending hx₂ hy₂ fun e => ⟨fun he => ?_, fun he => ?_⟩
    · rcases List.mem_cons.1 ((h e).1 (List.mem_cons_of_mem _ he)) with rfl | hm
      · exact absurd (hx₁ _ he) (String.lt_irrefl _)
      · exact hm
    · rcases List.mem_cons.1 ((h e).2 (List.mem_cons_of_mem _ he)) with rfl | hm
      · exact absurd (hy₁ _ he) (String.lt_irrefl _)
      · exact hm

/-- A dictionary is determined by its answers. -/
theorem ext_find? {d e : Dict α} (h : ∀ key, d.find? key = e.find? key) : d = e := by
  apply ext_entries
  refine eq_of_ascending d.ascending e.ascending fun entry => ?_
  obtain ⟨k, v⟩ := entry
  rw [mem_entries_iff, mem_entries_iff, h]

end Dict

end TextChain
