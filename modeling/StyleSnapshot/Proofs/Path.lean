import Mathlib.Data.List.Lex
import StyleSnapshot.Path
import StyleSnapshot.Proofs.Text.ByteOrder

/-! The order of paths.

Paths are compared component by component: the root comes first, then the directory itself, the
one above, and names in the order of their bytes. As texts they are compared character by
character, which puts a slash behind some characters of names. For the names in one directory
both orders agree (`before_join_iff`, `join_lt_join_iff`), since the paths are the same up to the
names (`components_join`). -/
namespace StyleSnapshot.Path

/-- What a component of a path names. -/
inductive Component where
  | root
  /-- The directory itself, at the beginning of a relative path. -/
  | current
  | parent
  | name (n : Text)
  deriving DecidableEq, Repr

namespace Component

def ofPiece (piece : Text) : Component :=
  if piece = ['.'] then .current else if piece = ['.', '.'] then .parent else .name piece

/-- The rank among the components, and the bytes that order names. -/
def key : Component → Nat × List UInt8
  | .root => (0, [])
  | .current => (1, [])
  | .parent => (2, [])
  | .name n => (3, Text.utf8 n)

def Before (a b : Component) : Prop := a.key.1 < b.key.1 ∨ a.key.1 = b.key.1 ∧ a.key.2 < b.key.2

instance : DecidableRel Before := fun a b =>
  inferInstanceAs (Decidable (a.key.1 < b.key.1 ∨ a.key.1 = b.key.1 ∧ a.key.2 < b.key.2))

instance : Std.Asymm Before where
  asymm a b hab hba := by
    rcases hab with hab | ⟨hrank, hab⟩
    · rcases hba with hba | ⟨heq, -⟩
      · exact Nat.lt_asymm hab hba
      · exact Nat.ne_of_lt hab heq.symm
    · rcases hba with hba | ⟨-, hba⟩
      · exact Nat.ne_of_lt hba hrank.symm
      · exact List.lt_asymm hab hba

theorem before_name_iff {a b : Text} : Before (.name a) (.name b) ↔ a < b := by
  unfold Before key
  rw [Text.utf8_lt_utf8_iff]
  simp only [Nat.lt_irrefl, true_and, false_or]

end Component

/-- What a path names, from its beginning on. -/
def components (p : Path) : List Component :=
  (if isAbsolute p then [.root] else []) ++
    ((pieces p).zipIdx.filter (isComponent (isAbsolute p))).map fun piece => .ofPiece piece.1

/-- The order of paths. -/
def Before (p q : Path) : Prop := List.Lex Component.Before (components p) (components q)

instance : DecidableRel Before := fun p q =>
  inferInstanceAs (Decidable (List.Lex Component.Before (components p) (components q)))

theorem Before.asymm {p q : Path} (h : Before p q) : ¬ Before q p :=
  Std.Asymm.asymm (r := List.Lex Component.Before) _ _ h

/-- A text that is a name in a directory. -/
structure IsName (n : Text) : Prop where
  ne_nil : n ≠ []
  undivided : '/' ∉ n
  ne_dot : n ≠ ['.']
  ne_dots : n ≠ ['.', '.']

instance (n : Text) : Decidable (IsName n) :=
  decidable_of_iff (n ≠ [] ∧ '/' ∉ n ∧ n ≠ ['.'] ∧ n ≠ ['.', '.'])
    ⟨fun ⟨hnil, hslash, hdot, hdots⟩ => ⟨hnil, hslash, hdot, hdots⟩,
      fun h => ⟨h.ne_nil, h.undivided, h.ne_dot, h.ne_dots⟩⟩

theorem IsName.isAbsolute_eq_false {n : Text} (h : IsName n) : isAbsolute n = false := by
  apply decide_eq_false
  exact fun hhead => h.undivided (List.mem_of_mem_head? hhead)

/-! ### The names in a directory -/

/-- What stands in front of the names in a directory. -/
def lead (directory : Path) : Text :=
  if directory = [] ∨ directory.getLast? = some '/' then directory else directory ++ ['/']

theorem join_eq {n : Text} (h : IsName n) (directory : Path) : join directory n = lead directory ++ n := by
  unfold join lead
  rw [h.isAbsolute_eq_false, if_neg Bool.false_ne_true]
  split
  · rfl
  · rw [List.append_assoc, List.singleton_append]

theorem join_inj {a b : Text} (ha : IsName a) (hb : IsName b) {directory : Path} :
    join directory a = join directory b ↔ a = b := by
  rw [join_eq ha, join_eq hb, List.append_cancel_left_eq]

theorem join_lt_join_iff {a b : Text} (ha : IsName a) (hb : IsName b) {directory : Path} :
    join directory a < join directory b ↔ a < b := by
  rw [join_eq ha, join_eq hb]
  constructor
  · intro h
    apply Classical.byContradiction
    intro hab
    by_cases heq : a = b
    · subst heq
      exact List.lt_irrefl _ h
    · exact List.lt_asymm h (List.append_left_lt (Dictionary.lt_of_not_lt_of_ne hab heq))
  · exact List.append_left_lt

theorem pieces_append (a b : Text) : pieces (a ++ '/' :: b) = pieces a ++ pieces b := by
  unfold pieces
  rw [List.splitOn_eq_splitOnP, List.splitOn_eq_splitOnP, List.splitOn_eq_splitOnP,
    List.splitOnP_append_cons _ _ (by decide)]

theorem pieces_of_isName {n : Text} (h : IsName n) : pieces n = [n] := by
  unfold pieces
  rw [List.splitOn_eq_splitOnP]
  apply List.splitOnP_eq_singleton
  intro c hc
  rw [beq_eq_false_iff_ne]
  exact fun heq => h.undivided (heq ▸ hc)

/-- Wherever it stands in a path, a name names a component. -/
theorem named_of_isName {n : Text} (h : IsName n) (absolute : Bool) (index : Nat) :
    (([n].zipIdx index).filter (isComponent absolute)).map (fun piece => Component.ofPiece piece.1) =
      [.name n] := by
  have hcomponent : isComponent absolute (n, index) = true := by simp [isComponent, h.ne_nil, h.ne_dot]
  have hname : Component.ofPiece n = .name n := by
    unfold Component.ofPiece
    rw [if_neg h.ne_dot, if_neg h.ne_dots]
  rw [List.zipIdx_singleton, List.filter_cons_of_pos hcomponent, List.filter_nil, List.map_singleton, hname]

/-- What a slash ends names the same as what stands in front of it, if there is anything. -/
theorem components_slash {a : Text} (h : a ≠ []) : components (a ++ ['/']) = components a := by
  have habsolute : isAbsolute (a ++ ['/']) = isAbsolute a := by
    unfold isAbsolute
    rw [List.head?_append_of_ne_nil a h]
  unfold components
  rw [habsolute, pieces_append, List.zipIdx_append, List.filter_append]
  have hempty : ((pieces []).zipIdx (0 + (pieces a).length)).filter (isComponent (isAbsolute a)) = [] := rfl
  rw [hempty, List.append_nil]

/-- A name behind a slash is one more component. -/
theorem components_append_name {n : Text} (h : IsName n) (a : Text) :
    components (a ++ '/' :: n) = components (a ++ ['/']) ++ [.name n] := by
  have habsolute : isAbsolute (a ++ '/' :: n) = isAbsolute (a ++ ['/']) := by
    unfold isAbsolute
    cases a <;> rfl
  unfold components
  rw [habsolute, pieces_append, pieces_append, List.zipIdx_append, List.zipIdx_append,
    List.filter_append, List.filter_append, pieces_of_isName h]
  generalize isAbsolute (a ++ ['/']) = absolute
  have hempty : ((pieces []).zipIdx (0 + (pieces a).length)).filter (isComponent absolute) = [] := by
    cases absolute <;> rfl
  rw [hempty, List.append_nil, List.map_append, named_of_isName h, List.append_assoc]

theorem components_of_isName {n : Text} (h : IsName n) : components n = [.name n] := by
  unfold components
  rw [h.isAbsolute_eq_false, pieces_of_isName h, named_of_isName h]
  rfl

/-- A name in a directory is one more component. -/
theorem components_join {n : Text} (h : IsName n) (directory : Path) :
    components (join directory n) = components directory ++ [.name n] := by
  rw [join_eq h]
  unfold lead
  split
  · next hlead =>
    rcases hlead with rfl | hlast
    · exact components_of_isName h
    · obtain ⟨front, rfl⟩ := List.getLast?_eq_some_iff.1 hlast
      rw [List.append_assoc, List.singleton_append, components_append_name h]
  · next hlead =>
    rw [not_or] at hlead
    rw [List.append_assoc, List.singleton_append, components_append_name h, components_slash hlead.1]

/-- In one directory paths are ordered like their names. -/
theorem before_join_iff {a b : Text} (ha : IsName a) (hb : IsName b) {directory : Path} :
    Before (join directory a) (join directory b) ↔ a < b := by
  unfold Before
  rw [components_join ha, components_join hb, ← Component.before_name_iff]
  induction components directory with
  | nil => exact List.lex_singleton_iff _ _
  | cons c components ih =>
    rw [List.cons_append, List.cons_append, List.lex_cons_iff, ih]

/-- Of paths in different directories this is not so. -/
example : Before "a/z".toList "a-b/c".toList ∧ "a-b/c".toList < "a/z".toList := by decide +kernel

/-- Paths in ascending order are known by which they are. -/
theorem eq_of_pairwise_before {ps qs : List Path} (hp : ps.Pairwise Before) (hq : qs.Pairwise Before)
    (h : ∀ p, p ∈ ps ↔ p ∈ qs) : ps = qs := by
  have hne {p q : Path} (hbefore : Before p q) : p ≠ q := by
    intro heq
    subst heq
    exact hbefore.asymm hbefore
  have hperm : ps.Perm qs := (List.perm_ext_iff_of_nodup (hp.imp hne) (hq.imp hne)).2 h
  exact List.Perm.eq_of_pairwise (fun _ _ _ _ hpq hqp => absurd hqp hpq.asymm) hp hq hperm

end StyleSnapshot.Path
