import StyleSnapshot.Dictionary

/-! What dictionaries hold.

A dictionary is known by its look-ups. `mem_entries` says that its entries are exactly
what can be looked up, and `get?_ofList` that a dictionary made of entries with distinct
keys holds these entries and no others: nothing is lost to a later entry. The keys come in
one order, so that dictionaries with the same keys list them alike (`keys_ext`). -/
namespace StyleSnapshot.Dictionary
variable {β : Type}

@[simp] theorem get?_empty (key : Text) : (∅ : Dictionary β).get? key = none := rfl

theorem get?_insert (d : Dictionary β) (key k : Text) (value : β) :
    (d.insert key value).get? k = if k = key then some value else d.get? k :=
  get?_alter d key k _

theorem find?_eq_some_iff {key : Text} {value : β} {entries : List (Text × β)}
    (h : Ascending entries) : find? key entries = some value ↔ (key, value) ∈ entries := by
  induction entries with
  | nil => simp [find?]
  | cons e rest ih =>
    obtain ⟨k, v⟩ := e
    obtain ⟨hk, hrest⟩ := List.pairwise_cons.1 h
    by_cases heq : k = key
    · subst heq
      -- No later entry has the key, since all of them are greater.
      have hnot : (k, value) ∉ rest := fun hm => List.lt_irrefl k (hk _ hm)
      simp [find?, hnot, eq_comm]
    · have hne : key ≠ k := fun he => heq he.symm
      simp [find?, heq, hne, ih hrest]

/-- The entries of a dictionary are what can be looked up in it. -/
theorem mem_entries {d : Dictionary β} {key : Text} {value : β} :
    (key, value) ∈ d.entries ↔ d.get? key = some value :=
  (find?_eq_some_iff d.ascending).symm

theorem isEmpty_iff {d : Dictionary β} : d.isEmpty = true ↔ ∀ key value, d.get? key ≠ some value := by
  simp only [isEmpty, List.isEmpty_iff, List.eq_nil_iff_forall_not_mem, Prod.forall, mem_entries, ne_eq]

theorem isEmpty_iff_eq_empty {d : Dictionary β} : d.isEmpty = true ↔ d = ∅ := by
  rw [isEmpty_iff]
  constructor
  · intro h
    refine ext_get? fun k => ?_
    rw [get?_empty]
    exact Option.eq_none_iff_forall_ne_some.2 fun v => h k v
  · rintro rfl key value
    simp

theorem mem_keys {d : Dictionary β} {key : Text} : key ∈ d.keys ↔ ∃ value, d.get? key = some value := by
  simp only [keys, List.mem_map, Prod.exists, mem_entries, exists_and_right, exists_eq_right]

theorem ascending_keys (d : Dictionary β) : d.keys.Pairwise (· < ·) :=
  List.pairwise_map.2 d.ascending

theorem nodup_keys (d : Dictionary β) : d.keys.Nodup := by
  refine d.ascending_keys.imp ?_
  rintro key _ hlt rfl
  exact List.lt_irrefl key hlt

theorem keys_ext {γ : Type} {a : Dictionary β} {b : Dictionary γ}
    (h : ∀ key, key ∈ a.keys ↔ key ∈ b.keys) : a.keys = b.keys := by
  have hperm : a.keys.Perm b.keys := (List.perm_ext_iff_of_nodup a.nodup_keys b.nodup_keys).2 h
  exact hperm.eq_of_pairwise (fun _ _ _ _ h h' => absurd h' (List.lt_asymm h)) a.ascending_keys
    b.ascending_keys

theorem get?_foldl_insert {entries : List (Text × β)} (h : (entries.map (·.1)).Nodup)
    (d : Dictionary β) {key : Text} {value : β} :
    (entries.foldl (fun d e => d.insert e.1 e.2) d).get? key = some value ↔
      (key, value) ∈ entries ∨ key ∉ entries.map (·.1) ∧ d.get? key = some value := by
  induction entries generalizing d with
  | nil => simp
  | cons e rest ih =>
    obtain ⟨k, v⟩ := e
    obtain ⟨hk, hrest⟩ := List.nodup_cons.1 h
    rw [List.foldl_cons, ih hrest, get?_insert]
    by_cases heq : key = k
    · subst heq
      have hnot : ∀ w, (key, w) ∉ rest := fun w hm => hk (List.mem_map.2 ⟨_, hm, rfl⟩)
      simp [hnot, eq_comm]
    · simp [heq]

/-- A dictionary made of entries with distinct keys holds just these entries. -/
theorem get?_ofList {entries : List (Text × β)} (h : (entries.map (·.1)).Nodup) {key : Text}
    {value : β} : (ofList entries).get? key = some value ↔ (key, value) ∈ entries := by
  rw [ofList, get?_foldl_insert h]
  simp

/-- Entries computed from items with distinct keys have distinct keys, if each entry has
the key of its item. -/
theorem nodup_keys_filterMap {α : Type} {items : List α} (key : α → Text)
    {f : α → Option (Text × β)} (hf : ∀ a e, f a = some e → e.1 = key a)
    (h : (items.map key).Nodup) : ((items.filterMap f).map (·.1)).Nodup := by
  refine List.pairwise_map.2 (List.pairwise_filterMap.2 ((List.pairwise_map.1 h).imp ?_))
  intro a b hab e he e' he'
  rw [hf a e he, hf b e' he']
  exact hab

end StyleSnapshot.Dictionary
