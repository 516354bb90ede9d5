import FigureGallery.Proofs.Exclusion.Unnegated
import FigureGallery.Proofs.Scanner.Root

/-!
# What a project leaves out

A project that has no negated line leaves out whole directories: whatever is below an excluded path is excluded too. More
lines in use exclude no less, their order does not matter, and nothing outside of the project is excluded. So no change
below an excluded path calls for a scan, and no root document is found there.
-/

namespace FigureGallery

open Exclusion FileTree FigureGallery.Path

/-- Every path is seen from the top as that of a location, or as the empty one. -/
lemma FileTree.isSeen_absolute (tree : FileTree) (p : Path) : IsSeen (tree.absolute p) := by
  by_cases empty : p.text = ""
  · obtain ⟨text⟩ := p
    subst empty
    rw [absolute, Path.absolute, if_pos rfl]
    exact .empty
  · obtain ⟨location, plain, e⟩ := exists_normalize_eq_pathOf (tree.isAbsolute_absolute empty)
    rw [normalize_absolute] at e
    exact e ▸ .pathOf plain

namespace ScanOptions

/-- No line that a project with these options goes by is negated: neither one of its exclude patterns, nor one of its ignore
file unless that is not used. -/
structure KeepsNothing (options : ScanOptions) (tree : FileTree) (root : Path) : Prop where
  patterns : ∀ pattern ∈ options.excludePatterns, ¬ IsNegated pattern.toList
  ignoreFile : options.disableGitignore = false → ∀ line ∈ Filter.ignoreLines tree (tree.absolute root), ¬ IsNegated line

end ScanOptions

namespace Scanner

variable {tree tree' : FileTree} {root root' : Path} {options options' : ScanOptions} {scanner scanner' : Scanner}

/-- The lines that a project goes by. -/
def lines (tree : FileTree) (root : Path) (options : ScanOptions) : List (List Char) :=
  Filter.allLines tree (tree.absolute root) options.excludePatterns options.disableGitignore

lemma exists_make_of_filter {filter : Filter}
    (ruled : Filter.make tree (tree.absolute root) options.excludePatterns options.disableGitignore = .ok filter) :
    ∃ scanner, make tree root options = .ok scanner := by
  unfold make
  dsimp only
  rw [ruled]
  exact ⟨_, rfl⟩

lemma not_isNegated_of_mem_lines (never : options.KeepsNothing tree root) :
    ∀ line ∈ lines tree root options, ¬ IsNegated line := by
  intro line mem
  obtain mem | mem := List.mem_append.mp mem
  · unfold Filter.linesInUse at mem
    split at mem
    · simp at mem
    · rename_i used
      refine never.ignoreFile (Bool.eq_false_iff.mpr used) line ?_
      unfold Filter.usedLines at mem
      split at mem
      · simp at mem
      · exact mem
  · obtain ⟨pattern, stated, rfl⟩ := List.mem_map.mp mem
    exact never.patterns pattern stated

/-- A path is excluded just when it is below the root and the rule of some line reaches it. -/
lemma excludes_iff (made : make tree root options = .ok scanner) (never : options.KeepsNothing tree root)
    (current : FileTree) (p : Path) :
    scanner.filter.excludes current p ↔ p.isBelow (tree.absolute root) ∧
      ∃ line ∈ lines tree root options, ∃ rule, Rule.ofLine? line = .ok (some rule) ∧
        rule.Reaches ((RuleList.make (tree.absolute root) []).localPath p) (current.isDirectory p) :=
  Filter.excludes_iff (make_filter made) (not_isNegated_of_mem_lines never) current p

/-- What is below an excluded path is excluded. -/
lemma excludes_of_isBelow (made : make tree root options = .ok scanner) (never : options.KeepsNothing tree root)
    {current : FileTree} {p q : Path} (seen : IsSeen p) (seen' : IsSeen q) (excluded : scanner.filter.excludes current p)
    (below : q.isBelow p) : scanner.filter.excludes current q := by
  rw [excludes_iff made never] at excluded ⊢
  obtain ⟨inside, line, mem, rule, stated, reaches⟩ := excluded
  have inside' : q.isBelow (tree.absolute root) :=
    List.isPrefixOf_iff_prefix.mpr
      ((List.isPrefixOf_iff_prefix.mp inside).trans (List.isPrefixOf_iff_prefix.mp below))
  exact ⟨inside', line, mem, rule, stated,
    RuleList.reaches_of_isBelow (tree.isSeen_absolute root) seen seen' inside below [] current reaches⟩

/-- More lines exclude no less. -/
lemma excludes_mono (made : make tree root options = .ok scanner) (never : options.KeepsNothing tree root)
    (made' : make tree' root' options' = .ok scanner') (never' : options'.KeepsNothing tree' root')
    (sameRoot : tree'.absolute root' = tree.absolute root) (more : lines tree root options ⊆ lines tree' root' options')
    {current : FileTree} {p : Path} (excluded : scanner.filter.excludes current p) :
    scanner'.filter.excludes current p := by
  rw [excludes_iff made never] at excluded
  rw [excludes_iff made' never', sameRoot]
  obtain ⟨inside, line, mem, reaches⟩ := excluded
  exact ⟨inside, line, more mem, reaches⟩

/-- The same lines in another order rule as well, and exclude the same. -/
lemma exists_make_of_perm (made : make tree root options = .ok scanner) (never : options.KeepsNothing tree root)
    (sameRoot : tree'.absolute root' = tree.absolute root)
    (patterns : options'.excludePatterns.Perm options.excludePatterns)
    (disable : options'.disableGitignore = options.disableGitignore)
    (ignored : (Filter.ignoreLines tree' (tree'.absolute root')).Perm (Filter.ignoreLines tree (tree.absolute root))) :
    ∃ scanner', make tree' root' options' = .ok scanner' ∧
      ∀ current p, scanner'.filter.excludes current p = scanner.filter.excludes current p := by
  have never' : options'.KeepsNothing tree' root' :=
    ⟨fun pattern mem => never.patterns pattern (patterns.mem_iff.mp mem),
      fun used line mem => never.ignoreFile (disable ▸ used) line (ignored.mem_iff.mp mem)⟩
  have written : ∀ line, line ∈ options'.excludePatterns.map String.toList ↔
      line ∈ options.excludePatterns.map String.toList := fun line => (patterns.map _).mem_iff
  have same : ∀ line, line ∈ lines tree' root' options' ↔ line ∈ lines tree root options := by
    intro line
    rw [lines, lines, Filter.allLines, Filter.allLines, List.mem_append, List.mem_append, written, Filter.linesInUse,
      Filter.linesInUse, disable]
    split
    · rfl
    · rw [Filter.mem_usedLines_congr fun line => ignored.mem_iff]
  obtain ⟨readable, shallow, _⟩ := Filter.make_eq_ok_iff.mp (make_filter made)
  obtain ⟨filter, ruled⟩ : ∃ filter, Filter.make tree' (tree'.absolute root') options'.excludePatterns
      options'.disableGitignore = .ok filter :=
    ⟨_, Filter.make_eq_ok_iff.mpr ⟨fun pattern mem => readable pattern (patterns.mem_iff.mp mem),
      (Filter.refusal?_rulesOf_congr written).trans shallow, rfl⟩⟩
  obtain ⟨scanner', made'⟩ := exists_make_of_filter ruled
  refine ⟨scanner', made', fun current p => ?_⟩
  rw [Bool.eq_iff_iff]
  exact ⟨excludes_mono made' never' made never sameRoot.symm fun line => (same line).mp,
    excludes_mono made never made' never' sameRoot fun line => (same line).mpr⟩

/-- No root document lies below an excluded path. -/
lemma not_isBelow_of_resolveRoot (made : make tree root options = .ok scanner) (never : options.KeepsNothing tree root)
    {source : Source} (plain : source.tree.IsPlain) {active document p : Path}
    (found : scanner.resolveRoot source active = ⟨document, .ancestor⟩) (seen : IsSeen p)
    (excluded : scanner.filter.excludes source.tree p) : ¬ document.isBelow p := by
  obtain ⟨nearer, directory, further, e, _, here⟩ := Root.resolve_eq_ancestor_iff.mp found
  have mem : directory ∈ Root.directories (source.tree.absolute active) scanner.projectRoot := by simp [e]
  obtain ⟨location, located, rfl⟩ := Root.exists_pathOf_of_mem_directories (isAbsolute_of_mem_directories mem) mem
  obtain ⟨name, whole, rfl, kept⟩ := Root.exists_pathOf_of_inDirectory? plain located here
  intro below
  rw [excludes_of_isBelow made never seen (.pathOf whole) excluded below] at kept
  exact Bool.false_ne_true kept.symm

/-- What a project without negated lines leaves out. Everything below an excluded path is excluded, and no change of it
calls for a scan. With more patterns, with more used lines of an ignore file, or with an ignore file that was not used
before, no less is excluded. The lines of an ignore file are those up to the first that is no text; all of them are used
unless the pattern of one is nested too deep, and then none is. With patterns and lines in another order the same is
excluded. Nothing outside of the project is excluded, and no root document that is found in a directory lies below an
excluded path. All paths that a project sees can be asked about. -/
theorem excludes_unnegated (made : make tree root options = .ok scanner) (never : options.KeepsNothing tree root) :
    (∀ (current : FileTree) (p q : Path), scanner.filter.excludes current (current.absolute p) →
      (current.absolute q).isBelow (current.absolute p) →
        scanner.filter.excludes current (current.absolute q) ∧ scanner.isRelevant current q = false) ∧
    (∀ (tree' : FileTree) (root' : Path) (options' : ScanOptions) (scanner' : Scanner),
      make tree' root' options' = .ok scanner' → options'.KeepsNothing tree' root' →
      tree'.absolute root' = tree.absolute root → options.excludePatterns ⊆ options'.excludePatterns →
      (options.disableGitignore = false → options'.disableGitignore = false ∧
        Filter.usedLines (Filter.ignoreLines tree (tree.absolute root)) ⊆
          Filter.usedLines (Filter.ignoreLines tree' (tree'.absolute root'))) →
        ∀ current p, scanner.filter.excludes current p → scanner'.filter.excludes current p) ∧
    (∀ (tree' : FileTree) (root' : Path) (options' : ScanOptions), tree'.absolute root' = tree.absolute root →
      options'.excludePatterns.Perm options.excludePatterns → options'.disableGitignore = options.disableGitignore →
      (Filter.ignoreLines tree' (tree'.absolute root')).Perm (Filter.ignoreLines tree (tree.absolute root)) →
        ∃ scanner', make tree' root' options' = .ok scanner' ∧
          ∀ current p, scanner'.filter.excludes current p = scanner.filter.excludes current p) ∧
    (∀ (current : FileTree) (p : Path), ¬ p.isBelow scanner.projectRoot → scanner.filter.excludes current p = false) ∧
    (∀ (source : Source) (active document p : Path), source.tree.IsPlain →
      scanner.resolveRoot source active = ⟨document, .ancestor⟩ →
      scanner.filter.excludes source.tree (source.tree.absolute p) → ¬ document.isBelow (source.tree.absolute p)) ∧
    ∀ (current : FileTree) (p : Path), scanner.filter.isLost current (current.absolute p) = false := by
  refine ⟨fun current p q excluded below => ?_, fun tree' root' options' scanner' made' never' sameRoot patterns ignored
    current p => ?_, fun tree' root' options' => exists_make_of_perm made never, fun current p outside => ?_,
    fun source active document p plain found =>
      not_isBelow_of_resolveRoot made never plain found (source.tree.isSeen_absolute p),
    fun current p => ?_⟩
  · have excluded' := excludes_of_isBelow made never (current.isSeen_absolute p) (current.isSeen_absolute q) excluded below
    exact ⟨excluded', by rw [isRelevant, excluded', Bool.not_true, Bool.and_false]⟩
  · refine excludes_mono made never made' never' sameRoot fun line mem => ?_
    obtain mem | mem := List.mem_append.mp mem
    · refine List.mem_append_left _ ?_
      unfold Filter.linesInUse at mem ⊢
      split at mem
      · simp at mem
      · rename_i used
        obtain ⟨used', more⟩ := ignored (Bool.eq_false_iff.mpr used)
        rw [used', if_neg Bool.false_ne_true]
        exact more mem
    · exact List.mem_append_right _ (List.map_subset _ patterns mem)
  · rw [Bool.eq_false_iff]
    intro excluded
    rw [(of_make made).1] at outside
    exact outside ((excludes_iff made never current p).mp excluded).1
  · exact (isSound_filter made).isLost_eq_false (current.isSeen_absolute p).isNeat

/-- A directory that the ignore file names, and patterns in another order. -/
theorem excludes_unnegated_build :
    let tree : FileTree := ⟨[(["w"], .directory), (["w", ".gitignore"], .file "build/\n*.tmp\n".toUTF8),
      (["w", "build"], .directory), (["w", "build", "a.typ"], .file "".toUTF8)], []⟩
    let options : ScanOptions := { ScanOptions.default with excludePatterns := ["/drafts", "[a-c]?.typ"] }
    let options' : ScanOptions := { ScanOptions.default with excludePatterns := ["[a-c]?.typ", "/drafts"] }
    ∃ scanner, make tree ⟨"/w"⟩ options = .ok scanner ∧ options.KeepsNothing tree ⟨"/w"⟩ ∧
      scanner.filter.excludes tree (tree.absolute ⟨"/w/build"⟩) ∧
      scanner.filter.excludes tree (tree.absolute ⟨"/w/build/x/b1.typ"⟩) ∧
      scanner.isRelevant tree ⟨"/w/build/x/b1.typ"⟩ = false ∧
      ∃ scanner', make tree ⟨"/w"⟩ options' = .ok scanner' ∧
        ∀ current p, scanner'.filter.excludes current p = scanner.filter.excludes current p := by
  intro tree options options'
  obtain ⟨scanner, made⟩ := @exists_make tree ⟨"/w"⟩ options (by decide +kernel)
  have never : options.KeepsNothing tree ⟨"/w"⟩ := ⟨by decide +kernel, fun _ => by decide +kernel⟩
  have excluded : scanner.filter.excludes tree (tree.absolute ⟨"/w/build"⟩) = true :=
    eq_of_make made (f := fun s => s.filter.excludes tree (tree.absolute ⟨"/w/build"⟩)) (by decide +kernel)
  obtain ⟨below, _, ordered, _⟩ := excludes_unnegated made never
  obtain ⟨deep, irrelevant⟩ := below tree ⟨"/w/build"⟩ ⟨"/w/build/x/b1.typ"⟩ excluded (by decide +kernel)
  exact ⟨scanner, made, never, excluded, deep, irrelevant,
    ordered tree ⟨"/w"⟩ options' rfl (.swap _ _ _) rfl (.refl _)⟩

end Scanner

end FigureGallery
