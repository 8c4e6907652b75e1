import StyleSnapshot.Text.Basic

/-! Dictionaries keyed by text.

A dictionary keeps its entries in strictly ascending order of their keys. The order is
part of the type, so there is one dictionary for each finite map from texts, its entries
come in the order reports list them, and equal look-ups make equal dictionaries. -/
namespace StyleSnapshot

/-- Entries in strictly ascending order of their keys. -/
def Ascending (entries : List (Text × β)) : Prop := entries.Pairwise fun a b => a.1 < b.1

structure Dictionary (β : Type) where
  entries : List (Text × β)
  ascending : Ascending entries

namespace Dictionary
variable {β : Type}

instance [DecidableEq β] : DecidableEq (Dictionary β) := fun a b =>
  if h : a.entries = b.entries then
    isTrue (by cases a; cases b; cases h; rfl)
  else isFalse fun e => h (congrArg entries e)

def empty : Dictionary β := ⟨[], List.Pairwise.nil⟩

instance : EmptyCollection (Dictionary β) := ⟨empty⟩

instance : Inhabited (Dictionary β) := ⟨empty⟩

def isEmpty (d : Dictionary β) : Bool := d.entries.isEmpty

def keys (d : Dictionary β) : List Text := d.entries.map (·.1)

/-- The value of the first entry with a key. -/
def find? (key : Text) : List (Text × β) → Option β
  | [] => none
  | (k, v) :: rest => if k = key then some v else find? key rest

def get? (d : Dictionary β) (key : Text) : Option β := find? key d.entries

/-- Replaces the value at a key by `f` of the value that is there, or adds the entry at
its place. -/
def alterEntries (key : Text) (f : Option β → β) : List (Text × β) → List (Text × β)
  | [] => [(key, f none)]
  | (k, v) :: rest =>
    if key < k then (key, f none) :: (k, v) :: rest
    else if key = k then (k, f (some v)) :: rest
    else (k, v) :: alterEntries key f rest

theorem key_of_mem_alterEntries {key : Text} {f : Option β → β} {entries : List (Text × β)}
    {e : Text × β} (h : e ∈ alterEntries key f entries) :
    e.1 = key ∨ ∃ e' ∈ entries, e'.1 = e.1 := by
  induction entries with
  | nil =>
    simp only [alterEntries, List.mem_singleton] at h
    exact Or.inl (by rw [h])
  | cons head rest ih =>
    obtain ⟨k, v⟩ := head
    simp only [alterEntries] at h
    split at h
    · rcases List.mem_cons.1 h with rfl | h
      · exact Or.inl rfl
      · exact Or.inr ⟨e, h, rfl⟩
    · split at h
      · rcases List.mem_cons.1 h with rfl | h
        · exact Or.inr ⟨_, List.mem_cons_self, rfl⟩
        · exact Or.inr ⟨e, List.mem_cons_of_mem _ h, rfl⟩
      · rcases List.mem_cons.1 h with rfl | h
        · exact Or.inr ⟨_, List.mem_cons_self, rfl⟩
        · rcases ih h with h | ⟨e', he', hk⟩
          · exact Or.inl h
          · exact Or.inr ⟨e', List.mem_cons_of_mem _ he', hk⟩

theorem lt_of_not_lt_of_ne {a b : Text} (h : ¬ a < b) (hne : a ≠ b) : b < a :=
  Classical.byContradiction fun hba => hne (List.le_antisymm hba h)

theorem ascending_alterEntries (key : Text) (f : Option β → β) {entries : List (Text × β)}
    (h : Ascending entries) : Ascending (alterEntries key f entries) := by
  induction entries with
  | nil => exact List.pairwise_singleton _ _
  | cons head rest ih =>
    obtain ⟨k, v⟩ := head
    obtain ⟨hk, hrest⟩ := List.pairwise_cons.1 h
    simp only [alterEntries]
    split
    · next hlt =>
      refine List.pairwise_cons.2 ⟨fun e he => ?_, h⟩
      rcases List.mem_cons.1 he with rfl | he
      · exact hlt
      · exact List.lt_trans hlt (hk e he)
    · next hlt =>
      split
      · exact List.pairwise_cons.2 ⟨hk, hrest⟩
      · next hne =>
        refine List.pairwise_cons.2 ⟨fun e he => ?_, ih hrest⟩
        rcases key_of_mem_alterEntries he with hkey | ⟨e', he', hkey⟩
        · rw [hkey]
          exact lt_of_not_lt_of_ne hlt hne
        · rw [← hkey]
          exact hk e' he'

/-- The dictionary whose value at `key` is `f` of the present one, and else as before. -/
def alter (d : Dictionary β) (key : Text) (f : Option β → β) : Dictionary β :=
  ⟨alterEntries key f d.entries, ascending_alterEntries key f d.ascending⟩

theorem find?_eq_none_of_lt {key : Text} (entries : List (Text × β))
    (h : ∀ e ∈ entries, key < e.1) : find? key entries = none := by
  induction entries with
  | nil => rfl
  | cons e rest ih =>
    have hne : e.1 ≠ key := fun he => List.lt_irrefl key (he ▸ h e List.mem_cons_self)
    simp only [find?, hne, if_false]
    exact ih fun e he => h e (List.mem_cons_of_mem _ he)

theorem entries_ext {a b : List (Text × β)} (ha : Ascending a) (hb : Ascending b)
    (h : ∀ k, find? k a = find? k b) : a = b := by
  induction a generalizing b with
  | nil =>
    cases b with
    | nil => rfl
    | cons e rest => simpa [find?] using h e.1
  | cons e a ih =>
    cases b with
    | nil => simpa [find?] using h e.1
    | cons e' b =>
      obtain ⟨he, ha⟩ := List.pairwise_cons.1 ha
      obtain ⟨he', hb⟩ := List.pairwise_cons.1 hb
      have hkey : e.1 = e'.1 := by
        refine List.le_antisymm (fun hlt => ?_) fun hlt => ?_
        · have := h e'.1
          rw [find?_eq_none_of_lt (e :: a) fun x hx =>
            (List.mem_cons.1 hx).elim (fun hx => hx ▸ hlt) fun hx => List.lt_trans hlt (he x hx)]
            at this
          simp [find?] at this
        · have := h e.1
          rw [find?_eq_none_of_lt (e' :: b) fun x hx =>
            (List.mem_cons.1 hx).elim (fun hx => hx ▸ hlt) fun hx => List.lt_trans hlt (he' x hx)]
            at this
          simp [find?] at this
      have hvalue : e.2 = e'.2 := by
        have := h e.1
        simpa [find?, hkey] using this
      rw [Prod.ext hkey hvalue, ih ha hb fun k => ?_]
      by_cases hk : e.1 = k
      · rw [find?_eq_none_of_lt a fun x hx => hk ▸ he x hx,
          find?_eq_none_of_lt b fun x hx => hk ▸ hkey ▸ he' x hx]
      · have := h k
        simpa [find?, hk, hkey ▸ hk] using this

/-- A dictionary is determined by its look-ups. -/
theorem ext_get? {a b : Dictionary β} (h : ∀ k, a.get? k = b.get? k) : a = b := by
  obtain ⟨a, ha⟩ := a
  obtain ⟨b, hb⟩ := b
  obtain rfl : a = b := entries_ext ha hb h
  rfl

theorem find?_alterEntries (key k : Text) (f : Option β → β) {entries : List (Text × β)}
    (h : Ascending entries) : find? k (alterEntries key f entries) =
      if k = key then some (f (find? key entries)) else find? k entries := by
  induction entries with
  | nil => simp [alterEntries, find?, eq_comm]
  | cons head rest ih =>
    obtain ⟨k', v⟩ := head
    obtain ⟨hk, hrest⟩ := List.pairwise_cons.1 h
    simp only [alterEntries]
    split
    · next hlt =>
      have hnone : find? key ((k', v) :: rest) = none := find?_eq_none_of_lt _ fun e he =>
        (List.mem_cons.1 he).elim (fun h => h ▸ hlt) fun he => List.lt_trans hlt (hk e he)
      rw [hnone, find?]
      simp only [eq_comm]
    · split
      · next hkey =>
        subst hkey
        by_cases hkk : k = key
        · simp [find?, hkk]
        · simp [find?, hkk, Ne.symm hkk]
      · next hne =>
        have hne' : ¬ k' = key := fun he => hne he.symm
        simp only [find?, ih hrest, hne', if_false]
        by_cases hkk : k = key
        · subst hkk
          simp [hne']
        · simp [hkk]

/-- Altering one key leaves the values of all others. -/
theorem get?_alter (d : Dictionary β) (key k : Text) (f : Option β → β) :
    (d.alter key f).get? k = if k = key then some (f (d.get? key)) else d.get? k :=
  find?_alterEntries key k f d.ascending

def insert (d : Dictionary β) (key : Text) (value : β) : Dictionary β :=
  d.alter key fun _ => value

/-- The dictionary of some entries; of two with one key the later one stays. -/
def ofList (entries : List (Text × β)) : Dictionary β :=
  entries.foldl (fun d e => d.insert e.1 e.2) ∅

end Dictionary

/-! ### Counting -/

/-- How often each of some texts was met. -/
abbrev Histogram := Dictionary Nat

namespace Histogram

/-- Meets a text `n` more times. -/
def add (h : Histogram) (key : Text) (n : Nat) : Histogram :=
  Dictionary.alter h key fun count => count.getD 0 + n

/-- Counts of both. -/
def merge (a b : Histogram) : Histogram := b.entries.foldl (fun h e => add h e.1 e.2) a

end Histogram
end StyleSnapshot
