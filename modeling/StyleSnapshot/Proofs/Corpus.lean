import Mathlib.Data.List.Nodup
import StyleSnapshot.Corpus
import StyleSnapshot.Proofs.Path
import StyleSnapshot.Proofs.Text.Rows

/-! Discovery of fixtures.

A directory lists its names in any order. The paths that are kept are sorted, and sorting texts
does not depend on the order they come in (`Text.sort_eq_of_perm`), so the listing may be rearranged.
The names are distinct, so in the order of paths each path comes before the next
(`pairwise_before_select`). A tree whose places are made of names lists its directories like that
(`FileTree.isListing_readDirectory`). -/
namespace StyleSnapshot

/-! ### Patterns -/

namespace Glob

/-- A character that stands for itself in a pattern. -/
def Literal (c : Char) : Prop := c ≠ '?' ∧ c ≠ '*' ∧ c ≠ '['

instance (c : Char) : Decidable (Literal c) := inferInstanceAs (Decidable (_ ∧ _))

theorem readTokens_of_ok {before : Option Char} {soFar : List Token} {c : Char} {t rest : Text}
    {token : Token} (h : readToken before c t = .ok (token, rest)) :
    readTokens before soFar (c :: t) = readTokens (lastRead c t rest) (push token soFar) rest := by
  rw [readTokens]
  split
  · next h' => cases h.symm.trans h'
  · next h' =>
    obtain ⟨rfl, rfl⟩ := Prod.mk.inj (Except.ok.inj (h.symm.trans h'))
    rfl

theorem readTokens_literal {t : Text} (h : ∀ c ∈ t, Literal c) (before : Option Char)
    (soFar : List Token) : readTokens before soFar t = .ok (soFar.reverse ++ t.map .char) := by
  induction t generalizing before soFar with
  | nil => rw [readTokens, List.map_nil, List.append_nil]
  | cons c t ih =>
    obtain ⟨hany, hrun, hclass⟩ := h c List.mem_cons_self
    have hread : readToken before c t = .ok (.char c, t) := by
      rw [readToken, if_neg hany, if_neg hrun, if_neg hclass]
    have hpush : push (.char c) soFar = .char c :: soFar := if_neg (by simp)
    rw [readTokens_of_ok hread, ih (fun d hd => h d (List.mem_cons_of_mem c hd)), hpush]
    simp

/-- A star in front of a name is read as any run of characters. -/
theorem parse_star {name : Text} (h : ∀ c ∈ name, Literal c) :
    parse ('*' :: name) = .ok ⟨'*' :: name, .anyRun :: name.map .char⟩ := by
  have hread : readToken none '*' name = .ok (.anyRun, name) := by
    cases name with
    | nil => rfl
    | cons c name =>
      obtain ⟨-, hrun, -⟩ := h c List.mem_cons_self
      simp [readToken, readStars, hrun]
  rw [parse, readTokens_of_ok hread, readTokens_literal h]
  rfl

end Glob

/-! ### Listings -/

namespace FileTree

/-- What a directory may list: names, each of them once. -/
structure IsListing (listing : List Listed) : Prop where
  names : ∀ e ∈ listing, Path.IsName e.name
  distinct : (listing.map (·.name)).Nodup

theorem mem_of_below? {directory place rest : Location} (h : below? directory place = some rest)
    {n : Text} (hn : n ∈ rest) : n ∈ place := by
  induction directory generalizing place with
  | nil =>
    obtain rfl := Option.some.inj h
    exact hn
  | cons a directory ih =>
    cases place with
    | nil => exact absurd h.symm (Option.some_ne_none rest)
    | cons b place =>
      unfold below? at h
      split at h
      · exact List.mem_cons_of_mem b (ih h)
      · exact absurd h.symm (Option.some_ne_none rest)

/-- A tree of places that are made of names. -/
def Named (tree : FileTree) : Prop := ∀ entry ∈ tree.places, ∀ n ∈ entry.1, Path.IsName n

/-- What such a tree lists is a listing. -/
theorem isListing_children {tree : FileTree} (h : tree.Named) (place : Location) :
    IsListing (tree.children place) where
  names e he := by
    have hsystem : ∀ entry ∈ systemDirectories ++ [["dev".toList, "null".toList]],
        ∀ n ∈ entry, Path.IsName n := by decide
    obtain ⟨name, hname, rfl⟩ := List.mem_map.1 he
    obtain ⟨entry, hentry, hbelow⟩ := List.mem_filterMap.1 (List.mem_eraseDups.1 hname)
    obtain ⟨rest, hrest, hhead⟩ := Option.bind_eq_some_iff.1 hbelow
    have hin : name ∈ entry := mem_of_below? hrest (List.mem_of_mem_head? hhead)
    rcases List.mem_append.1 hentry with hplace | hplace
    · obtain ⟨listed, hlisted, rfl⟩ := List.mem_map.1 hplace
      exact h listed hlisted name hin
    · exact hsystem entry hplace name hin
  distinct := by
    unfold children
    rw [List.map_map]
    show (List.map id _).Nodup
    rw [List.map_id]
    exact Text.nodup_eraseDups _

theorem isListing_readDirectory {tree : FileTree} (h : tree.Named) {p : Path} {listing : List Listed}
    (hread : tree.readDirectory p = .ok listing) : IsListing listing := by
  unfold readDirectory at hread
  split at hread
  · cases hread
  · next place _ =>
    obtain rfl := Except.ok.inj hread
    exact isListing_children h place
  · cases hread

end FileTree

namespace Corpus

open FileTree (Listed IsListing)

/-- The path is that of a regular file in the directory whose name matches. -/
def IsFixture (directory : Path) (pattern : Glob.Pattern) (listing : List Listed) (p : Path) : Prop :=
  ∃ e ∈ listing, e.isFile = true ∧ pattern.matches e.name = true ∧ Path.join directory e.name = p

theorem mem_select {directory : Path} {pattern : Glob.Pattern} {listing : List Listed} {p : Path} :
    p ∈ select directory pattern listing ↔ IsFixture directory pattern listing p := by
  unfold select IsFixture
  rw [(Text.sort_perm _).mem_iff, List.mem_map]
  simp only [List.mem_filter, Bool.and_eq_true, and_assoc]

theorem select_eq_of_perm {listing entries : List Listed} (h : entries.Perm listing) (directory : Path)
    (pattern : Glob.Pattern) : select directory pattern entries = select directory pattern listing := by
  apply Text.sort_eq_of_perm
  exact (h.filter _).map _

/-- Paths in order that are those of the files that match are selected. -/
theorem select_eq_of_pairwise {directory : Path} {pattern : Glob.Pattern} {listing : List Listed}
    {paths : List Path}
    (hperm : ((listing.filter fun e => e.isFile && pattern.matches e.name).map fun e =>
      Path.join directory e.name).Perm paths)
    (hpaths : paths.Pairwise fun a b => ¬ b < a) : select directory pattern listing = paths := by
  unfold select
  rw [Text.sort_eq_of_perm hperm]
  exact Text.sort_of_pairwise hpaths

/-- The paths come in ascending order. -/
theorem pairwise_before_select {listing : List Listed} (h : IsListing listing) (directory : Path)
    (pattern : Glob.Pattern) : (select directory pattern listing).Pairwise Path.Before := by
  have hdistinct : (select directory pattern listing).Nodup := by
    unfold select
    rw [(Text.sort_perm _).nodup_iff]
    refine List.Nodup.map_on ?_ (h.distinct.of_map.filter _)
    intro a ha b hb heq
    have hname : a.name = b.name :=
      (Path.join_inj (h.names a (List.mem_of_mem_filter ha)) (h.names b (List.mem_of_mem_filter hb))).1 heq
    exact List.inj_on_of_nodup_map h.distinct (List.mem_of_mem_filter ha) (List.mem_of_mem_filter hb) hname
  refine ((Text.pairwise_sort _).and hdistinct).imp_of_mem ?_
  rintro p q hp hq ⟨hle, hne⟩
  obtain ⟨a, ha, -, -, rfl⟩ := mem_select.1 hp
  obtain ⟨b, hb, -, -, rfl⟩ := mem_select.1 hq
  apply (Path.before_join_iff (h.names a ha) (h.names b hb)).2
  apply (Path.join_lt_join_iff (h.names a ha) (h.names b hb)).1
  exact Dictionary.lt_of_not_lt_of_ne hle (Ne.symm hne)

/-! ### What is discovered -/

theorem ofListing_eq_ok_iff {directory : Path} {pattern : Glob.Pattern} {listing : List Listed}
    {paths : List Path} : ofListing directory pattern listing = .ok paths ↔
      select directory pattern listing = paths ∧ paths ≠ [] := by
  unfold ofListing
  split
  · next hnil =>
    rw [hnil]
    constructor
    · intro h
      cases h
    · rintro ⟨rfl, hne⟩
      exact absurd rfl hne
  · next hne =>
    constructor
    · intro h
      obtain rfl := Except.ok.inj h
      exact ⟨rfl, hne⟩
    · rintro ⟨rfl, -⟩
      rfl

theorem ofListing_eq_error_iff {directory : Path} {pattern : Glob.Pattern} {listing : List Listed}
    {e : Problem} : ofListing directory pattern listing = .error e ↔
      e = .noFixtures directory pattern.source ∧ select directory pattern listing = [] := by
  unfold ofListing
  split
  · next hnil =>
    constructor
    · intro h
      obtain rfl := Except.error.inj h
      exact ⟨rfl, hnil⟩
    · rintro ⟨rfl, -⟩
      rfl
  · next hne =>
    constructor
    · intro h
      cases h
    · rintro ⟨-, hnil⟩
      exact absurd hnil hne

theorem source_of_parse {source : Text} {pattern : Glob.Pattern} (h : Glob.parse source = .ok pattern) :
    pattern.source = source := by
  unfold Glob.parse at h
  cases hread : Glob.readTokens none [] source with
  | error e =>
    rw [hread] at h
    cases h
  | ok tokens =>
    rw [hread] at h
    obtain rfl := Except.ok.inj h
    rfl

theorem discover_of_readDirectory {tree : FileTree} {directory : Path} {source : Text}
    {pattern : Glob.Pattern} {listing : List Listed} (hpattern : Glob.parse source = .ok pattern)
    (hread : tree.readDirectory directory = .ok listing) :
    discover tree directory source = ofListing directory pattern listing := by
  simp only [discover, hpattern, hread]

/-- Whatever is discovered in a tree of names is in ascending order. -/
theorem pairwise_before_of_discover {tree : FileTree} (h : tree.Named) {directory : Path} {source : Text}
    {paths : List Path} (hfound : discover tree directory source = .ok paths) :
    paths.Pairwise Path.Before := by
  unfold discover at hfound
  split at hfound
  · cases hfound
  · next pattern _ =>
    split at hfound
    · cases hfound
    · next listing hread =>
      obtain ⟨rfl, -⟩ := ofListing_eq_ok_iff.1 hfound
      exact pairwise_before_select (FileTree.isListing_readDirectory h hread) directory pattern

/-- **Discovery depends on what is in the directory, not on the order in which it is listed.** The
paths that are found are those of the files that match, each before the next in the order of
paths. That there are none is the only thing that can go wrong. -/
theorem discovery_unordered {source : Text} {pattern : Glob.Pattern}
    (hpattern : Glob.parse source = .ok pattern) {listing : List Listed} (h : IsListing listing)
    (directory : Path) :
    (∀ entries, entries.Perm listing →
      ofListing directory pattern entries = ofListing directory pattern listing ∧
      ∀ tree : FileTree, tree.readDirectory directory = .ok entries →
        discover tree directory source = ofListing directory pattern listing) ∧
    (∀ paths, ofListing directory pattern listing = .ok paths ↔
      paths ≠ [] ∧ paths.Pairwise Path.Before ∧
        ∀ p, p ∈ paths ↔ IsFixture directory pattern listing p) ∧
    ∀ e, ofListing directory pattern listing = .error e ↔
      e = .noFixtures directory source ∧ ∀ p, ¬ IsFixture directory pattern listing p := by
  refine ⟨fun entries hperm => ?_, fun paths => ?_, fun e => ?_⟩
  · have hlisting : ofListing directory pattern entries = ofListing directory pattern listing := by
      unfold ofListing
      rw [select_eq_of_perm hperm]
    exact ⟨hlisting, fun tree hread => (discover_of_readDirectory hpattern hread).trans hlisting⟩
  · rw [ofListing_eq_ok_iff]
    constructor
    · rintro ⟨rfl, hne⟩
      exact ⟨hne, pairwise_before_select h directory pattern, fun p => mem_select⟩
    · rintro ⟨hne, hascending, hmem⟩
      refine ⟨?_, hne⟩
      apply Path.eq_of_pairwise_before (pairwise_before_select h directory pattern) hascending
      exact fun p => mem_select.trans (hmem p).symm
  · rw [← source_of_parse hpattern, ofListing_eq_error_iff, List.eq_nil_iff_forall_not_mem]
    exact and_congr_right fun _ => forall_congr' fun p => not_congr mem_select

def testPattern : Glob.Pattern := ⟨"*.test.ts".toList, .anyRun :: ".test.ts".toList.map .char⟩

/-- Two fixtures, a file with another name and a directory. -/
def mixedListing : List Listed :=
  [⟨"b.test.ts".toList, true⟩, ⟨"notes.md".toList, true⟩, ⟨"nested.test.ts".toList, false⟩,
    ⟨"a.test.ts".toList, true⟩]

def mixedTree : FileTree := .ofFiles
  [("fix/b.test.ts".toList, .file []), ("fix/notes.md".toList, .file []),
    ("fix/nested.test.ts".toList, .directory), ("fix/a.test.ts".toList, .file [])]

/-- The tree lists its directory backwards. -/
theorem discovery_unordered_mixed :
    let paths : List Path := ["fix/a.test.ts".toList, "fix/b.test.ts".toList]
    (Glob.parse testPattern.source = .ok testPattern ∧ IsListing mixedListing ∧
      mixedTree.readDirectory "fix".toList = .ok mixedListing.reverse) ∧
    discover mixedTree "fix".toList testPattern.source = .ok paths ∧ paths.Pairwise Path.Before ∧
    (∀ p, p ∈ paths ↔ IsFixture "fix".toList testPattern mixedListing p) ∧
    ∀ e, ofListing "fix".toList testPattern mixedListing ≠ .error e := by
  intro paths
  have hpattern : Glob.parse testPattern.source = .ok testPattern := Glob.parse_star (by decide)
  have hlisting : IsListing mixedListing := ⟨by decide, by decide⟩
  have hread : mixedTree.readDirectory "fix".toList = .ok mixedListing.reverse := rfl
  have hfound : ofListing "fix".toList testPattern mixedListing = .ok paths := by
    refine ofListing_eq_ok_iff.2 ⟨select_eq_of_pairwise ?_ (by decide), List.cons_ne_nil _ _⟩
    exact List.Perm.swap _ _ []
  obtain ⟨hunordered, hok, herror⟩ := discovery_unordered hpattern hlisting "fix".toList
  obtain ⟨-, hdiscover⟩ := hunordered _ mixedListing.reverse_perm
  obtain ⟨-, hascending, hmem⟩ := (hok paths).1 hfound
  refine ⟨⟨hpattern, hlisting, hread⟩, (hdiscover _ hread).trans hfound, hascending, hmem, ?_⟩
  intro e hnone
  obtain ⟨-, hno⟩ := (herror e).1 hnone
  exact hno "fix/a.test.ts".toList ((hmem _).1 List.mem_cons_self)

end Corpus

end StyleSnapshot
