import FigureGallery.Proofs.Path.FileName
import FigureGallery.Proofs.Session.History
import FigureGallery.Scanner

/-!
# Extensions that are written with dots

An extension may be given with leading dots. Scanners keep it as it is given, sessions do not, and the dots are taken off in
each place where file names are compared with it or extended by it. All of them take them off: whoever is given the extension
with more dots does the same.
-/

namespace FigureGallery

namespace Path

/-- An extension with dots in front. -/
def dotted (dots : Nat) (extension : String) : String :=
  String.ofList (List.replicate dots '.') ++ extension

example : dotted 2 "typ" = "..typ" := by decide +kernel

lemma bareExtension_dotted (dots : Nat) (extension : String) :
    bareExtension (dotted dots extension) = bareExtension extension := by
  induction dots with
  | zero => simp [dotted]
  | succ dots ih =>
    rw [dotted, bareExtension, String.toList_append, String.toList_ofList, List.dropWhile_append] at ih ⊢
    rw [List.replicate_succ, List.dropWhile_cons_of_pos (by decide)]
    exact ih

end Path

open FigureGallery.Path

variable {extension other : String}

/-- A path has the one extension just when it has the other. -/
lemma Path.hasExtension_of_bareExtension_eq (same : bareExtension other = bareExtension extension) (p : Path) :
    p.hasExtension other = p.hasExtension extension := by
  rw [hasExtension, hasExtension, same]

namespace Include

/-- A target gets the same extension. -/
lemma withExtension_of_bareExtension_eq (same : bareExtension other = bareExtension extension) (p : Path) :
    withExtension other p = withExtension extension p := by
  rw [withExtension, withExtension, hasExtension_of_bareExtension_eq same, same]

/-- A visit with the one extension meets and finds what a visit with the other does. -/
lemma visit_of_bareExtension_eq (same : bareExtension other = bareExtension extension) (source : Source)
    (extraction : Extraction.Options) (depth : Nat) (walker : Walker) (document : Path) :
    visit source ⟨other, extraction⟩ depth walker document = visit source ⟨extension, extraction⟩ depth walker document := by
  have resolves (directory : Path) (target : List Char) :
      resolveTarget ⟨other, extraction⟩ directory target = resolveTarget ⟨extension, extraction⟩ directory target := by
    rw [resolveTarget, resolveTarget, withExtension_of_bareExtension_eq same]
  induction depth generalizing walker document with
  | zero => rfl
  | succ depth ih =>
    rw [visit, visit]
    simp only [resolves, ih]

lemma walk_of_bareExtension_eq (same : bareExtension other = bareExtension extension) (source : Source)
    (extraction : Extraction.Options) (start : Path) :
    walk source ⟨other, extraction⟩ start = walk source ⟨extension, extraction⟩ start := by
  rw [walk, walk, visit_of_bareExtension_eq same]

end Include

namespace Root

/-- A search with the one extension finds the root document that a search with the other does. -/
lemma resolve_of_bareExtension_eq (same : bareExtension other = bareExtension extension) (source : Source)
    (filter : Exclusion.Filter) (preferred : List String) (active projectRoot : Path) :
    resolve source filter ⟨other, preferred⟩ active projectRoot =
      resolve source filter ⟨extension, preferred⟩ active projectRoot := by
  have here (directory : Path) :
      inDirectory? source filter ⟨other, preferred⟩ directory =
        inDirectory? source filter ⟨extension, preferred⟩ directory := by
    simp only [inDirectory?, documentNames, hasExtension_of_bareExtension_eq same]
  rw [resolve, resolve, funext here]

end Root

/-- A session keeps no dots. -/
lemma Session.start_of_bareExtension_eq (same : bareExtension other = bareExtension extension) (delay : Nat) :
    start other delay = start extension delay := by
  rw [start, start, same]

namespace Scanner

/-- What a scanner does. -/
structure Behaviour where
  scan : Source → Path → Scan
  resolveRoot : Source → Path → Root.Resolution
  isMarkup : Path → Bool
  isRelevant : FileTree → Path → Bool

/-- What a scanner does, whatever its options are. -/
def behaviour (scanner : Scanner) : Behaviour :=
  ⟨scanner.scan, scanner.resolveRoot, scanner.isMarkup, scanner.isRelevant⟩

/-- Scanners of one project whose extensions differ in leading dots do the same. -/
lemma behaviour_of_bareExtension_eq (same : bareExtension other = bareExtension extension) (projectRoot : Path)
    (options : ScanOptions) (filter : Exclusion.Filter) :
    behaviour ⟨projectRoot, { options with extension := other }, filter⟩ =
      behaviour ⟨projectRoot, { options with extension := extension }, filter⟩ := by
  let scanner : Scanner := ⟨projectRoot, { options with extension := extension }, filter⟩
  let scanner' : Scanner := ⟨projectRoot, { options with extension := other }, filter⟩
  have resolves : scanner'.resolveRoot = scanner.resolveRoot := by
    funext source active
    exact Root.resolve_of_bareExtension_eq same source filter options.preferredRoots _ projectRoot
  have scans : scanner'.scan = scanner.scan := by
    funext source active
    have walks := Include.walk_of_bareExtension_eq same source ⟨options.labelLookahead, some projectRoot⟩
      (scanner.resolveRoot source active).document
    rw [scan, scan, resolves]
    simp only [walkOptions, scanner, scanner'] at walks ⊢
    rw [walks]
  have marks : scanner'.isMarkup = scanner.isMarkup := funext fun p => hasExtension_of_bareExtension_eq same p
  change (⟨scanner'.scan, scanner'.resolveRoot, scanner'.isMarkup, scanner'.isRelevant⟩ : Behaviour) =
    ⟨scanner.scan, scanner.resolveRoot, scanner.isMarkup, scanner.isRelevant⟩
  rw [scans, resolves, marks]
  rfl

/-- With dots in front of the extension everything goes the same way. A scanner can be made or fails alike, and makes the same
scans, finds the same root documents and takes the same files for documents. A walk is the same. A session gives the same
answers to all calls, and is the same after them. -/
theorem behaviour_dotted (extension : String) (dots : Nat) :
    (∀ (tree : FileTree) (root : Path) (options : ScanOptions),
      (make tree root { options with extension := dotted dots extension }).map behaviour =
        (make tree root { options with extension := extension }).map behaviour) ∧
    (∀ (source : Source) (extraction : Extraction.Options) (start : Path),
      Include.walk source ⟨dotted dots extension, extraction⟩ start = Include.walk source ⟨extension, extraction⟩ start) ∧
    ∀ (delay : Nat) (calls : List Session.Call),
      (Session.start (dotted dots extension) delay).run calls = (Session.start extension delay).run calls := by
  have same := bareExtension_dotted dots extension
  refine ⟨fun tree root options => ?_, fun source extraction => Include.walk_of_bareExtension_eq same source extraction,
    fun delay calls => by rw [Session.start_of_bareExtension_eq same]⟩
  unfold make
  dsimp only
  cases Exclusion.Filter.make tree (tree.absolute root) options.excludePatterns options.disableGitignore with
  | error e => rfl
  | ok filter => exact congrArg Except.ok (behaviour_of_bareExtension_eq same _ options filter)

end Scanner

end FigureGallery
