import FigureGallery.Proofs.Include.Walk
import FigureGallery.Proofs.Path.FileName

/-!
# The extension of included documents

A walk from a document with the extension of documents comes across such documents only, but for those that are named by
nothing else than the extension: a target that leads to `/`, or to a relative path that only goes up, gets the extension
for its name. Relative paths come up only from an empty project root, or from an open document whose path is `/`.
-/

namespace FigureGallery.Include

open FigureGallery.Path

/-- A path that the walk of a project may come across as a document; `loose` says whether relative paths may come up. -/
inductive MayName (extension : String) (loose : Prop) (p : Path) : Prop where
  | named :
    p.hasExtension extension →
    MayName extension loose p
  /-- The extension is the name of a file at the top. -/
  | top :
    p.same ⟨"/." ++ bareExtension extension⟩ →
    MayName extension loose p
  /-- The extension is the name of a file in the working directory, or so many directories above it. -/
  | above (n : Nat) :
    loose →
    p.same ((ofSplit .free (List.replicate n ['.', '.'])).join ⟨"." ++ bareExtension extension⟩) →
    MayName extension loose p

/-- Paths with the same components name the same documents. -/
lemma MayName.congr {extension : String} {loose : Prop} {p q : Path} (may : MayName extension loose p)
    (h : p.components = q.components) : MayName extension loose q := by
  cases may with
  | named has => exact .named (by rwa [← hasExtension_congr h])
  | top same => exact .top (same_iff.mpr (h.symm.trans (same_iff.mp same)))
  | above n isLoose same => exact .above n isLoose (same_iff.mpr (h.symm.trans (same_iff.mp same)))

/-- A name with something behind a dot is plain, whether or not anything follows. -/
lemma plain_name_extended {name extension : List Char} (plain : Plain name) (noSlash : '/' ∉ extension) :
    Plain (name ++ '.' :: extension) where
  not_idle := by
    obtain ⟨c, cs, rfl⟩ := List.exists_cons_of_ne_nil plain.ne_nil
    simp [isIdle]
  not_up e := by
    obtain ⟨c, cs, rfl⟩ := List.exists_cons_of_ne_nil plain.ne_nil
    have not_dot : c :: cs ≠ ['.'] := fun e => absurd plain.not_idle (by simp [e, isIdle])
    cases cs with
    | nil =>
      obtain ⟨rfl, _⟩ := List.cons_eq_cons.mp e
      exact not_dot rfl
    | cons d cs => simp at e
  no_slash := by
    rw [List.mem_append, List.mem_cons, not_or, not_or]
    exact ⟨plain.no_slash, by decide, noSlash⟩

/-- A hidden name at the top. -/
lemma join_top (name : String) : (⟨"/"⟩ : Path).join ⟨"." ++ name⟩ = ⟨"/." ++ name⟩ := by
  have isRelative : ¬ (⟨"." ++ name⟩ : Path).isAbsolute := by simp [isAbsolute]
  rw [join, if_neg isRelative, if_pos (by decide), Path.mk.injEq, ← String.append_assoc]
  rfl

/-- A path in normal form that gets the extension of documents has it, or the extension is its whole name. -/
lemma mayName_withExtension {extension : String} (noDot : '.' ∉ (bareExtension extension).toList)
    (noSlash : '/' ∉ (bareExtension extension).toList) {loose : Prop} {p : Path} (normal : p.normalize = p)
    (relative : ¬ p.isAbsolute → loose) : MayName extension loose (withExtension extension p) := by
  rw [withExtension]
  split
  · rename_i has
    exact .named has
  · cases name : p.fileName? with
    | some s =>
      have plain : Plain s.toList := plain_of_fileName? name
      have written : (s ++ "." ++ bareExtension extension).toList = s.toList ++ '.' :: (bareExtension extension).toList := by
        simp
      have extended : Plain (s ++ "." ++ bareExtension extension).toList := by
        rw [written]
        exact plain_name_extended plain noSlash
      refine .named (hasExtension_iff.mpr ⟨s ++ "." ++ bareExtension extension, fileName?_withFileName name extended, ?_⟩)
      rw [written]
      exact extensionOf?_append plain.ne_nil noDot
    | none =>
      have joined : p.withFileName (none.getD "" ++ "." ++ bareExtension extension) =
          p.join ⟨"." ++ bareExtension extension⟩ := by
        rw [withFileName, name]
        rfl
      rw [joined]
      obtain ⟨_, comps⟩ | ⟨goesUp, n, comps⟩ := components_of_fileName?_eq_none normal name
      · refine .top (same_iff.mpr ?_)
        rw [← join_top]
        exact components_join_congr (comps.trans (by decide)) _
      · refine .above n (relative goesUp) (same_iff.mpr (components_join_congr ?_ _))
        have dots : ∀ s ∈ List.replicate n ['.', '.'], s = ['.', '.'] := fun s => List.eq_of_mem_replicate
        rw [comps, components_ofSplit .free fun s mem => by simp [dots s mem]]
        · simp [Lead.components, List.filterMap_replicate_of_some component?_dots]
        · intro _ s mem
          rw [dots s (List.mem_of_mem_head? mem)]
          rfl

/-- An absolute path lies in an absolute directory, the top aside. -/
lemma isAbsolute_directory {p : Path} (absolute : p.isAbsolute) (below : p.components ≠ [.root]) :
    p.directory.isAbsolute := by
  rw [isAbsolute_iff, components_directory]
  have comps := components_eq p
  rw [isAbsolute_iff_split.mp absolute] at comps
  obtain e | ⟨init, last, e⟩ := List.eq_nil_or_concat p.steps
  · rw [e] at comps
    exact absurd comps below
  · rw [comps, e, List.concat_eq_append, ← List.append_assoc, List.dropLast_concat]
    simp [Lead.components]

/-- An absolute path stays absolute when it gets the extension of documents. -/
lemma isAbsolute_withExtension {extension : String} {p : Path} (absolute : p.isAbsolute) :
    (withExtension extension p).isAbsolute := by
  rw [withExtension]
  split
  · exact absolute
  · rw [withFileName]
    split
    · rename_i named
      obtain ⟨s, name⟩ := Option.isSome_iff_exists.mp named
      refine isAbsolute_join (isAbsolute_directory absolute fun e => ?_) _
      simp [fileName?_eq_some_iff, e] at name
    · exact isAbsolute_join absolute _

variable {source : Source} {options : Options} {loose : Prop}

/-- What a document includes is a document, or the extension is its whole name, and it is absolute if the directory of
the document is. -/
lemma mayName_of_include {document next : Path} (noDot : '.' ∉ (bareExtension options.extension).toList)
    (noSlash : '/' ∉ (bareExtension options.extension).toList)
    (rooted : ¬ loose → ∀ root ∈ options.extraction.projectRoot, root.isAbsolute)
    (below : ¬ loose → document.directory.isAbsolute) (mem : next ∈ (graph source options).includes document) :
    MayName options.extension loose next ∧ (¬ loose → next.isAbsolute) := by
  obtain ⟨reference, rfl⟩ := exists_of_mem_includes mem
  have absolute (tight : ¬ loose) :
      (resolveReference document.directory reference options.extraction.projectRoot).isAbsolute := by
    obtain ⟨location, _, e⟩ := exists_resolveReference_eq_pathOf (below tight) (rooted tight) reference
    rw [e]
    exact FileTree.isAbsolute_pathOf location
  refine ⟨mayName_withExtension noDot noSlash (normalize_resolveReference _ _ _) fun relative => ?_, fun tight => ?_⟩
  · by_contra tight
    exact relative (absolute tight)
  · exact isAbsolute_withExtension (absolute tight)

/-- The top is a document only when it is open and the extension is empty. -/
lemma components_ne_root {p : Path} (noSlash : '/' ∉ (bareExtension options.extension).toList)
    (may : MayName options.extension loose p) (reachable : source.isReachable p)
    (top : bareExtension options.extension = "" → source.buffers.contains ⟨"/"⟩ → loose) (tight : ¬ loose) :
    p.components ≠ [.root] := by
  intro comps
  have nameless (s : String) : p.fileName? ≠ some s := by
    rw [ne_eq, fileName?_eq_some_iff, comps]
    simp
  have opened : source.buffers.contains ⟨"/"⟩ := Source.contains_top comps reachable
  cases may with
  | named has =>
    obtain ⟨s, name, _⟩ := hasExtension_iff.mp has
    exact nameless s name
  | above n isLoose _ => exact tight isLoose
  | top same =>
    -- A name that is nothing but a dot and the extension is a file name, unless the extension is empty.
    by_cases bare : bareExtension options.extension = ""
    · exact tight (top bare opened)
    · have plain : Plain ("." ++ bareExtension options.extension).toList := by
        have h := plain_extended (show '/' ∉ [] by simp) (by rwa [bareExtension_bareExtension]) noSlash
        rw [bareExtension_bareExtension] at h
        simpa using h
      refine nameless ("." ++ bareExtension options.extension) ?_
      rw [fileName?_congr (same_iff.mp same), ← join_top]
      exact fileName?_join (by decide) (fileName?_of_plain plain)

/-- Everything behind a document is a document, or the extension is its whole name. -/
lemma mayName_of_reached {start p : Path} (has : start.hasExtension options.extension) (absolute : start.isAbsolute)
    (rooted : ¬ loose → ∀ root ∈ options.extraction.projectRoot, root.isAbsolute)
    (top : bareExtension options.extension = "" → source.buffers.contains ⟨"/"⟩ → loose)
    (reached : (graph source options).Reached start p) :
    MayName options.extension loose p ∧ (¬ loose → p.isAbsolute ∧ p.directory.isAbsolute) := by
  obtain ⟨noDot, noSlash⟩ := notMem_of_hasExtension has
  have step {p : Path} (may : MayName options.extension loose p) (absolute : ¬ loose → p.isAbsolute)
      (reachable : source.isReachable p) :
      MayName options.extension loose p ∧ (¬ loose → p.isAbsolute ∧ p.directory.isAbsolute) :=
    ⟨may, fun tight => ⟨absolute tight, isAbsolute_directory (absolute tight)
      (components_ne_root noSlash may reachable top tight)⟩⟩
  induction reached with
  | start reachable => exact step (.named has) (fun _ => absolute) reachable
  | step _ mem reachable ih =>
    obtain ⟨may, absolute⟩ := mayName_of_include noDot noSlash rooted (fun tight => (ih.2 tight).2) mem
    exact step may absolute reachable

end FigureGallery.Include
