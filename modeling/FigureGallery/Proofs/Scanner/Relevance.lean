import FigureGallery.Proofs.FileTree.Difference
import FigureGallery.Proofs.Figure.Outcome
import FigureGallery.Proofs.Scanner.Agreement
import FigureGallery.Proofs.Scanner.Scan

/-!
# Changes that a scan does not see

A change of a file outside the project or of an excluded file calls for no scan. Such a file is no candidate for the root
document, so a scan depends on it only when something refers to it: the documents that the scan lists, an include or an
image of one of them. From an active document outside the project the search for the root document also meets files
outside of it.
-/

namespace FigureGallery

open Include FileTree FigureGallery.Path

namespace Scanner

/-- The files that a scan of a tree depends on, whether they exist or not, candidates in the project aside. -/
inductive Uses (scanner : Scanner) (tree : FileTree) (active : Path) : Path → Prop where
  /-- A file outside the project, in a directory that is searched for an active document outside the project. -/
  | candidate {q} :
    ¬ (tree.absolute active).directory.isBelow scanner.projectRoot →
    q.directory ∈ Root.directories (tree.absolute active) scanner.projectRoot →
    ¬ q.isBelow scanner.projectRoot →
    Uses scanner tree active q
  | root :
    Uses scanner tree active (scanner.scan (.ofTree tree) active).root.document
  | document {d} :
    d ∈ (scanner.scan (.ofTree tree) active).documents →
    Uses scanner tree active d
  | included {d q} :
    d ∈ (scanner.scan (.ofTree tree) active).documents →
    q ∈ (graph (.ofTree tree) scanner.walkOptions).includes d →
    Uses scanner tree active q
  | image {f} :
    f ∈ (scanner.scan (.ofTree tree) active).figures →
    Uses scanner tree active f.resolvedImage
  | missing {d q} :
    d ∈ (scanner.scan (.ofTree tree) active).diagnostics →
    d.kind = .imageNotFound q →
    Uses scanner tree active q

variable {scanner : Scanner} {tree other : FileTree} {p active : Path}

/-- What is excluded does not depend on the file that differs. -/
lemma excludes_eq (differs : tree.DiffersAt other p) (filter : Exclusion.Filter) (q : Path) :
    filter.excludes other q = filter.excludes tree q := by
  rw [Exclusion.Filter.excludes, Exclusion.Filter.excludes, differs.isDirectory_eq]

/-- A candidate other than the file that differs is a candidate in both trees. -/
lemma mem_candidates_of_ne (differs : tree.DiffersAt other p) (plain : tree.IsPlain) {filter : Exclusion.Filter}
    {options : Root.Options} {location : Location} {name : String} (named : Location.IsPlain (location ++ [name]))
    (ne : pathOf (location ++ [name]) ≠ tree.absolute p)
    (mem : name ∈ Root.candidates tree filter options (pathOf location)) :
    name ∈ Root.candidates other filter options (pathOf location) := by
  have above := named.above
  rw [Root.mem_candidates_iff, join_pathOf above (named name (by simp)), mem_list_iff above] at mem ⊢
  rwa [differs.isDirectory_eq, differs.elsewhere _ ne, excludes_eq differs,
    differs.isFile_eq plain.workingDirectory (by rwa [tree.absolute_pathOf named])]

/-- An image that a document of the scan refers to is used. -/
lemma uses_of_image {d : Path} (mem : d ∈ (scanner.scan (.ofTree tree) active).documents) {text : List Char}
    (read : (Source.ofTree tree).read d = .ok text) {o : Extraction.Outcome}
    (outcome : o ∈ Extraction.outcomes tree scanner.walkOptions.extraction d text) {q : Path} (image : q ∈ o.image?) :
    scanner.Uses tree active q := by
  have extraction := (search_walk (.ofTree tree) scanner.walkOptions
    (scanner.resolveRoot (.ofTree tree) active).document).2
  have yields : extract (.ofTree tree) scanner.walkOptions d =
      .ofText tree scanner.walkOptions.extraction d text := by
    rw [extract, read]
    rfl
  rw [Extraction.ofText_eq] at yields
  cases o with
  | figure f =>
    obtain rfl := Option.some.inj image
    have figures : (scanner.scan (.ofTree tree) active).figures =
        Figure.numbered ((scanner.scan (.ofTree tree) active).documents.flatMap fun d =>
          (extract (.ofTree tree) scanner.walkOptions d).figures) :=
      congrArg (fun e : Extraction => Figure.numbered e.figures) extraction
    have found : f ∈ (scanner.scan (.ofTree tree) active).documents.flatMap fun d =>
        (extract (.ofTree tree) scanner.walkOptions d).figures := by
      refine List.mem_flatMap.mpr ⟨d, mem, ?_⟩
      rw [yields]
      exact List.mem_filterMap.mpr ⟨.figure f, outcome, rfl⟩
    -- The figure of the scan is this one, with its number.
    obtain ⟨i, place⟩ := List.mem_iff_getElem?.mp found
    refine .image (f := { f with ordinal := i + 1 }) (List.mem_of_getElem? (i := i) ?_)
    rw [figures, Figure.getElem?_numbered, place]
    rfl
  | omitted diagnostic =>
    have kind : diagnostic.kind = .imageNotFound q := by
      rw [Extraction.Outcome.image?] at image
      split at image
      · rename_i path kind
        rw [kind, Option.some.inj image]
      · simp at image
    have diagnostics : (scanner.scan (.ofTree tree) active).diagnostics =
        (scanner.scan (.ofTree tree) active).documents.flatMap fun d =>
          (extract (.ofTree tree) scanner.walkOptions d).diagnostics :=
      congrArg Extraction.diagnostics extraction
    refine .missing (d := diagnostic) ?_ kind
    rw [diagnostics]
    refine List.mem_flatMap.mpr ⟨d, mem, ?_⟩
    rw [yields]
    exact List.mem_filterMap.mpr ⟨.omitted diagnostic, outcome, rfl⟩

section Unused

variable {tree₀ : FileTree} {root : Path} {options : ScanOptions}
  (made : make tree₀ root options = .ok scanner) (irrelevant : scanner.isRelevant tree p = false)
  (unused : ∀ q, scanner.Uses tree active q → tree.absolute q ≠ tree.absolute p)

include made irrelevant unused

/-- A file that a searched directory has and that is not excluded is another one than a file that is not relevant. -/
lemma ne_of_not_excludes {location : Location} {name : String} (named : Location.IsPlain (location ++ [name]))
    (mem : pathOf location ∈ Root.directories (tree.absolute active) scanner.projectRoot)
    (kept : scanner.filter.excludes tree (pathOf (location ++ [name])) = false) :
    pathOf (location ++ [name]) ≠ tree.absolute p := by
  intro isFile
  have outside : ¬ (pathOf (location ++ [name])).isBelow scanner.projectRoot := by
    intro below
    rw [isRelevant, ← isFile, below, kept] at irrelevant
    simp at irrelevant
  have above := named.above
  -- So the active document is outside the project too, and the file a candidate that the search comes across.
  have candidate : scanner.Uses tree active (pathOf (location ++ [name])) := by
    refine .candidate (fun inside => outside ?_) (by rwa [directory_pathOf_concat named]) outside
    have normal : scanner.projectRoot.normalize = scanner.projectRoot := by
      rw [(of_make made).1, tree₀.normalize_absolute]
    rw [← normal] at inside
    have below := Root.isBelow_of_mem_directories (by rwa [tree.normalize_absolute]) mem
    rw [normal, isBelow, List.isPrefixOf_iff_prefix, components_pathOf above] at below
    rw [isBelow, List.isPrefixOf_iff_prefix, components_pathOf named, List.map_append]
    exact below.trans (List.prefix_append _ _)
  exact unused _ candidate (by rw [tree.absolute_pathOf named, isFile])

/-- A candidate in a searched directory, in whichever tree, is another file than one that is not relevant. -/
lemma ne_of_mem_candidates {seen : FileTree} (plain : seen.IsPlain)
    (agree : scanner.filter.excludes seen = scanner.filter.excludes tree) {location : Location}
    (located : location.IsPlain) (mem : pathOf location ∈ Root.directories (tree.absolute active) scanner.projectRoot)
    {options : Root.Options} {name : String}
    (candidate : name ∈ Root.candidates seen scanner.filter options (pathOf location)) :
    Location.IsPlain (location ++ [name]) ∧ pathOf (location ++ [name]) ≠ tree.absolute p := by
  obtain ⟨⟨listed, _⟩, kept⟩ := Root.mem_candidates_iff.mp candidate
  have named := plain.of_get? ((mem_list_iff located).mp listed).2
  rw [join_pathOf located (named name (by simp)), agree] at kept
  exact ⟨named, ne_of_not_excludes made irrelevant unused named mem kept⟩

/-- A searched directory has the same candidates in both trees. -/
lemma mem_candidates_congr (plain : tree.IsPlain) (plain' : other.IsPlain) (differs : tree.DiffersAt other p)
    {location : Location} (located : location.IsPlain)
    (mem : pathOf location ∈ Root.directories (tree.absolute active) scanner.projectRoot) {options : Root.Options}
    {name : String} :
    name ∈ Root.candidates other scanner.filter options (pathOf location) ↔
      name ∈ Root.candidates tree scanner.filter options (pathOf location) := by
  constructor
  · intro candidate
    have agree := funext (excludes_eq differs scanner.filter)
    obtain ⟨named, ne⟩ := ne_of_mem_candidates made irrelevant unused plain' agree located mem candidate
    exact mem_candidates_of_ne differs.symm plain' named (by rwa [differs.absolute]) candidate
  · intro candidate
    obtain ⟨named, ne⟩ := ne_of_mem_candidates made irrelevant unused plain rfl located mem candidate
    exact mem_candidates_of_ne differs plain named ne candidate

/-- The root document is the same in both trees. -/
lemma resolveRoot_eq (plain : tree.IsPlain) (plain' : other.IsPlain) (differs : tree.DiffersAt other p) :
    scanner.resolveRoot (.ofTree other) active = scanner.resolveRoot (.ofTree tree) active := by
  have seen : (Source.ofTree other).tree.absolute active = (Source.ofTree tree).tree.absolute active :=
    congrFun differs.absolute active
  unfold resolveRoot
  rw [seen]
  refine Root.resolve_congr fun directory mem => ?_
  obtain ⟨location, located, rfl⟩ := Root.exists_pathOf_of_mem_directories (isAbsolute_of_mem_directories mem) mem
  refine Root.inDirectory?_congr (fun name => ?_) fun name candidate => ?_
  · exact mem_candidates_congr made irrelevant unused plain plain' differs located mem
  · obtain ⟨named, ne⟩ := ne_of_mem_candidates made irrelevant unused plain rfl located mem candidate
    rw [join_pathOf located (named name (by simp))]
    exact differs.read_eq plain.workingDirectory (by rwa [tree.absolute_pathOf named])

omit made irrelevant in
/-- The walk from the root document is the same in both trees. -/
lemma walk_eq (plain : tree.IsPlain) (differs : tree.DiffersAt other p) :
    walk (.ofTree other) scanner.walkOptions (scanner.resolveRoot (.ofTree tree) active).document =
      walk (.ofTree tree) scanner.walkOptions (scanner.resolveRoot (.ofTree tree) active).document := by
  have isFile {q : Path} (h : tree.absolute q ≠ tree.absolute p) :
      (Source.ofTree other).isReachable q = (Source.ofTree tree).isReachable q :=
    differs.isFile_eq plain.workingDirectory h
  refine walk_congr (isFile ?_) (fun d mem => ?_) (fun d mem q included => ?_) fun d mem => ?_
  · rw [show tree.absolute _ = tree.absolute _ from @absolute_resolveRoot scanner (.ofTree tree) active]
    exact unused _ .root
  · exact differs.read_eq plain.workingDirectory (unused d (.document mem))
  · exact isFile (unused q (.included mem included))
  · have same := differs.read_eq plain.workingDirectory (unused d (.document mem))
    rw [extract, extract, same]
    cases read : (Source.ofTree tree).read d with
    | error fault => rfl
    | ok text =>
      refine Extraction.ofText_congr fun o outcome q image => ?_
      exact isFile (unused q (uses_of_image mem read outcome image))

end Unused

/-- Two trees that differ at most in a file that is not relevant give the same scan, unless the scan of one of them uses
the file: as its root document or a listed document, as what such a document includes, or as an image that it refers
to, and for an active document outside the project as a candidate outside the project. -/
theorem scan_eq_of_not_isRelevant {tree₀ : FileTree} {root : Path} {options : ScanOptions}
    (made : make tree₀ root options = .ok scanner) (plain : tree.IsPlain) (plain' : other.IsPlain)
    (differs : tree.DiffersAt other p) (irrelevant : scanner.isRelevant tree p = false)
    (unused : ∀ q, scanner.Uses tree active q → tree.absolute q ≠ tree.absolute p) :
    scanner.scan (.ofTree other) active = scanner.scan (.ofTree tree) active :=
  scan_congr (resolveRoot_eq made irrelevant unused plain plain' differs) (walk_eq unused plain differs)

/-- Options with a pattern that excludes a directory. -/
def buildExcluded : ScanOptions :=
  { ScanOptions.default with excludePatterns := ["build/"] }

/-- An excluded image that no document refers to, beside one that a document refers to. -/
theorem scan_eq_of_not_isRelevant_unused :
    let entries : List (Location × Node) := [(["w"], .directory), (["w", "build"], .directory),
      (["w", "a.typ"], .file "#include \"b\"\n#figure(image(\"a.png\"))".toUTF8), (["w", "a.png"], .file "".toUTF8)]
    let tree : FileTree := ⟨(["w", "build", "x.png"], .file "".toUTF8) :: entries, []⟩
    let other : FileTree := ⟨entries, []⟩
    let p : Path := ⟨"/w/build/x.png"⟩
    let active : Path := ⟨"/w/a.typ"⟩
    ∃ scanner, make tree ⟨"/w"⟩ buildExcluded = .ok scanner ∧ tree.IsPlain ∧ other.IsPlain ∧ tree.DiffersAt other p ∧
      scanner.isRelevant tree p = false ∧ (∀ q, scanner.Uses tree active q → tree.absolute q ≠ tree.absolute p) ∧
      scanner.scan (.ofTree other) active = scanner.scan (.ofTree tree) active := by
  intro entries tree other p active
  have plain : tree.IsPlain := by decide +kernel
  have plain' : other.IsPlain := by decide +kernel
  have differs : tree.DiffersAt other p := differsAt_cons plain (by simp) (by decide +kernel)
  obtain ⟨scanner, made⟩ := @exists_make tree ⟨"/w"⟩ buildExcluded (by decide +kernel)
  have irrelevant : scanner.isRelevant tree p = false :=
    eq_of_make made (f := fun s => s.isRelevant tree p) (by decide +kernel)
  have inside : (tree.absolute active).directory.isBelow scanner.projectRoot :=
    eq_of_make made (f := fun s => (tree.absolute active).directory.isBelow s.projectRoot) (by decide +kernel)
  have includes : (graph (.ofTree tree) scanner.walkOptions).includes active = [⟨"/w/b.typ"⟩] :=
    eq_of_make made (f := fun s => (graph (.ofTree tree) s.walkOptions).includes active) (by decide +kernel)
  have scan : scanner.scan (.ofTree tree) active = {
      root := ⟨active, .ancestor⟩
      documents := [active]
      figures := [⟨"a.png", ⟨"/w/a.png"⟩, "No Caption", 2, "a.typ", active, "", 1⟩]
      diagnostics := [] } :=
    eq_of_make made (f := fun s => s.scan (.ofTree tree) active) (by decide +kernel)
  have unused : ∀ q, scanner.Uses tree active q → tree.absolute q ≠ tree.absolute p := by
    intro q uses
    cases uses with
    | candidate outside _ _ => exact absurd inside outside
    | root =>
      rw [scan]
      decide +kernel
    | document mem =>
      rw [scan] at mem
      obtain rfl := List.mem_singleton.mp mem
      decide +kernel
    | included mem included =>
      rw [scan] at mem
      obtain rfl := List.mem_singleton.mp mem
      rw [includes] at included
      obtain rfl := List.mem_singleton.mp included
      decide +kernel
    | image mem =>
      rw [scan] at mem
      obtain rfl := List.mem_singleton.mp mem
      decide +kernel
    | missing mem _ =>
      rw [scan] at mem
      simp at mem
  exact ⟨scanner, made, plain, plain', differs, irrelevant, unused,
    scan_eq_of_not_isRelevant made plain plain' differs irrelevant unused⟩

/-- A document that refers to an excluded image, which is removed. -/
theorem scan_ne_of_excluded_image :
    ¬ ∀ (tree₀ : FileTree) (root : Path) (options : ScanOptions) (scanner : Scanner) (tree other : FileTree)
      (active p : Path), make tree₀ root options = .ok scanner → tree.IsPlain → other.IsPlain →
      tree.DiffersAt other p → scanner.isRelevant tree p = false →
      scanner.scan (.ofTree other) active = scanner.scan (.ofTree tree) active := by
  intro h
  let entries : List (Location × Node) := [(["w"], .directory), (["w", "build"], .directory),
    (["w", "a.typ"], .file "#figure(image(\"build/x.png\"))".toUTF8)]
  let tree : FileTree := ⟨(["w", "build", "x.png"], .file "".toUTF8) :: entries, []⟩
  let other : FileTree := ⟨entries, []⟩
  have plain : tree.IsPlain := by decide +kernel
  have plain' : other.IsPlain := by decide +kernel
  have differs : tree.DiffersAt other ⟨"/w/build/x.png"⟩ := differsAt_cons plain (by simp) (by decide +kernel)
  obtain ⟨scanner, made⟩ := @exists_make tree ⟨"/w"⟩ buildExcluded (by decide +kernel)
  have irrelevant : scanner.isRelevant tree ⟨"/w/build/x.png"⟩ = false :=
    eq_of_make made (f := fun s => s.isRelevant tree ⟨"/w/build/x.png"⟩) (by decide +kernel)
  have before : (scanner.scan (.ofTree tree) ⟨"/w/a.typ"⟩).figures.length = 1 :=
    eq_of_make made (f := fun s => (s.scan (.ofTree tree) ⟨"/w/a.typ"⟩).figures.length) (by decide +kernel)
  have after : (scanner.scan (.ofTree other) ⟨"/w/a.typ"⟩).figures.length = 0 :=
    eq_of_make made (f := fun s => (s.scan (.ofTree other) ⟨"/w/a.typ"⟩).figures.length) (by decide +kernel)
  have same := h tree ⟨"/w"⟩ buildExcluded scanner tree other ⟨"/w/a.typ"⟩ _ made plain plain' differs irrelevant
  rw [same, before] at after
  exact absurd after (by decide)

end Scanner

end FigureGallery
