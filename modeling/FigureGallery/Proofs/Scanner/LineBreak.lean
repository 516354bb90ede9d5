import FigureGallery.Proofs.Document.Saving
import FigureGallery.Proofs.Figure.Line
import FigureGallery.Proofs.Scanner.Agreement
import FigureGallery.Proofs.Scanner.Scan

/-!
# Scans and line breaks

Documents are stored with line breaks of any kind. A scan unifies them in all that it reads, so it cannot tell apart two
sources whose texts differ in how line breaks are written. The lines that it reports are still those of the stored texts.
-/

namespace FigureGallery

open Include Text

namespace Source

/-- What two sources store under a path, if their texts differ at most in how line breaks are written. -/
inductive StoredAlike : Except FileError String → Except FileError String → Prop where
  | fault {e} :
    StoredAlike (.error e) (.error e)
  | text {s t : String} :
    Respelled s.toList t.toList →
    StoredAlike (.ok s) (.ok t)

/-- Two sources with the same documents, whose texts differ at most in how line breaks are written. -/
structure Respells (source other : Source) : Prop where
  shape : source.tree.SameShape other.tree
  isReachable : ∀ p, other.isReachable p = source.isReachable p
  stored : ∀ p, StoredAlike (source.stored p) (other.stored p)

variable {source other : Source}

/-- Every document reads the same. -/
lemma Respells.read_eq (respells : source.Respells other) (p : Path) : other.read p = source.read p := by
  have alike := respells.stored p
  rw [read, read]
  generalize source.stored p = here, other.stored p = there at alike
  cases alike with
  | fault => rfl
  | text respelled => simp only [Except.map, respelled_iff.mp respelled]

lemma StoredAlike.refl (stored : Except FileError String) : StoredAlike stored stored := by
  cases stored with
  | error e => exact .fault
  | ok text => exact .text (respelled_iff.mpr rfl)

/-- Two sources whose open documents and files have the same texts but for the writing of line breaks. -/
lemma Respells.of_contents (shape : source.tree.SameShape other.tree)
    (buffers : ∀ p, Option.Rel (fun s t : String => Respelled s.toList t.toList) (source.buffers.get? p)
      (other.buffers.get? p))
    (files : ∀ location content content', source.tree.get? location = some (.file content) →
      other.tree.get? location = some (.file content') → content' = content ∨
        ∃ s t, String.fromUTF8? content = some s ∧ String.fromUTF8? content' = some t ∧ Respelled s.toList t.toList) :
    source.Respells other := by
  have texts (p : Path) : StoredAlike (source.tree.readText p) (other.tree.readText p) := by
    rw [FileTree.readText, FileTree.readText, FileTree.readBytes, FileTree.readBytes, shape.locate_eq]
    cases source.tree.locate p with
    | error e => exact .fault
    | ok location =>
      obtain ⟨here, there⟩ | ⟨here, there⟩ | ⟨content, content', here, there⟩ := shape.entry_cases location
      · simp only [here, there]
        exact .fault
      · simp only [here, there]
        exact .fault
      · simp only [here, there]
        obtain rfl | ⟨s, t, decoded, decoded', respelled⟩ := files location content content' here there
        · exact .refl _
        · simp only [decoded, decoded']
          exact .text respelled
  refine ⟨shape, fun p => ?_, fun p => ?_⟩
  · have opened := buffers p
    rw [Source.isReachable, Source.isReachable, shape.isFile_eq, Buffers.contains, Buffers.contains]
    generalize source.buffers.get? p = here, other.buffers.get? p = there at opened
    cases opened <;> rfl
  · have opened := buffers p
    rw [Source.stored, Source.stored, shape.isFile_eq]
    generalize source.buffers.get? p = here, other.buffers.get? p = there at opened
    cases opened with
    | some respelled => exact .text respelled
    | none =>
      dsimp only
      split
      · exact texts p
      · exact .refl _

end Source

namespace Extraction

/-- What is read from a stored text are the outcomes of its calls, each on the line of its keyword in the stored text. -/
lemma exists_forall₂_of_stored {source : Source} {options : Include.Options} {document : Path} {text : String}
    (stored : source.stored document = .ok text) :
    ∃ os, List.Forall₂
        (fun place o => Decided source.tree options.extraction document (unifyLineBreaks text.toList)
          (place.unified text.toList) o ∧ o.line = 1 + lineBreaks (before place.keyword text.toList))
        (occurrences text.toList) os ∧
      extract source options document = ⟨os.filterMap Outcome.figure?, os.filterMap Outcome.diagnostic?⟩ := by
  refine ⟨_, forall₂_outcomes_unifyLineBreaks source.tree options.extraction document text.toList, ?_⟩
  rw [extract, Source.read, stored, ← ofText_eq]
  rfl

end Extraction

namespace Scanner

variable {scanner : Scanner} {source : Source} {active : Path}

/-- Each figure of a scan is the outcome of a call in a stored text. -/
lemma exists_isCall_of_mem_figures {f : Figure} (mem : f ∈ (scanner.scan source active).figures) :
    ∃ (text : String) (place : Extraction.Occurrence), source.stored f.sourcePath = .ok text ∧
      Extraction.IsCall text.toList place ∧
      Extraction.Decided source.tree scanner.walkOptions.extraction f.sourcePath (unifyLineBreaks text.toList)
        (place.unified text.toList) (.figure { f with ordinal := 0 }) ∧
      f.line = 1 + lineBreaks (before place.keyword text.toList) := by
  obtain ⟨i, here⟩ := List.mem_iff_getElem?.mp mem
  rw [scan, Figure.getElem?_numbered] at here
  obtain ⟨g, found, rfl⟩ := Option.map_eq_some_iff.mp here
  have found := List.mem_of_getElem? found
  rw [(search_walk _ _ _).2, extractAll] at found
  obtain ⟨d, _, yields⟩ := List.mem_flatMap.mp found
  cases stored : source.stored d with
  | error e => simp [extract, Source.read, stored, unreadable, Except.map] at yields
  | ok text =>
    rw [extract, Source.read, stored] at yields
    obtain ⟨about, unnumbered⟩ := Extraction.mem_figures_ofText yields
    obtain ⟨place, call, decided, line⟩ := Extraction.exists_isCall_of_mem_figures yields
    have unchanged : { g with ordinal := 0 } = g := by rw [← unnumbered]
    exact ⟨text, place, about ▸ stored, call, by rw [unchanged, about]; exact decided, line⟩

/-- Unifying line breaks reads a text in the one way in which it is a sequence of characters and line breaks, and writes
each line break as one line feed. So no carriage return is left, nothing is left to unify, and replacing first the pairs
and then the lone carriage returns comes to the same. A scan is the same from two sources whose texts differ only in how
line breaks are written. What a document yields are the outcomes of the calls in its stored text, each on the line that
its keyword stands on there, and so are the figures of a scan. -/
theorem scan_eq_of_respelled :
    (∀ text : List Char, (∃! pieces, Spells text pieces) ∧
      (∀ pieces, Spells text pieces →
        text = pieces.flatMap Piece.written ∧ unifyLineBreaks text = pieces.map Piece.unified) ∧
      '\r' ∉ unifyLineBreaks text ∧
      unifyLineBreaks (unifyLineBreaks text) = unifyLineBreaks text ∧
      unifyLineBreaks text = (joinPairs text).map fun c => if c = '\r' then '\n' else c) ∧
    (∀ source other : Source, source.Respells other → ∀ (scanner : Scanner) (active : Path),
      scanner.scan other active = scanner.scan source active) ∧
    (∀ (source : Source) (options : Include.Options) (document : Path) (text : String),
      source.stored document = .ok text →
      ∃ os, List.Forall₂
          (fun place o => Extraction.Decided source.tree options.extraction document (unifyLineBreaks text.toList)
            (place.unified text.toList) o ∧ o.line = 1 + lineBreaks (before place.keyword text.toList))
          (Extraction.occurrences text.toList) os ∧
        extract source options document =
          ⟨os.filterMap Extraction.Outcome.figure?, os.filterMap Extraction.Outcome.diagnostic?⟩) ∧
    ∀ (scanner : Scanner) (source : Source) (active : Path), ∀ f ∈ (scanner.scan source active).figures,
      ∃ (text : String) (place : Extraction.Occurrence), source.stored f.sourcePath = .ok text ∧
        Extraction.IsCall text.toList place ∧
        Extraction.Decided source.tree scanner.walkOptions.extraction f.sourcePath (unifyLineBreaks text.toList)
          (place.unified text.toList) (.figure { f with ordinal := 0 }) ∧
        f.line = 1 + lineBreaks (before place.keyword text.toList) := by
  refine ⟨fun text => ?_, fun source other respells scanner active => ?_, fun source options document text stored => ?_,
    fun scanner source active f mem => exists_isCall_of_mem_figures mem⟩
  · obtain ⟨pieces, spells⟩ := exists_spells text
    exact ⟨⟨pieces, spells, fun other spells' => spells'.unique spells⟩,
      fun pieces spells => ⟨spells.eq_written, spells.unifyLineBreaks_eq⟩, not_mem_unifyLineBreaks text,
      unifyLineBreaks_unifyLineBreaks text, unifyLineBreaks_eq_map text⟩
  · have read (p : Path) : other.read p = source.read p := respells.read_eq p
    refine scan_congr (resolveRoot_congr respells.shape fun _ _ _ _ _ => read _) ?_
    exact walk_congr (respells.isReachable _) (fun d _ => read d) (fun _ _ p _ => respells.isReachable p)
      fun d _ => extract_congr respells.shape (read d)
  · exact Extraction.exists_forall₂_of_stored stored

/-- The root document is a file and the document that it includes is open, and both get other line breaks; one of them
stands between the keyword of a call and its parenthesis. -/
theorem scan_eq_of_respelled_pair :
    let tree : FileTree := ⟨[(["w"], .directory), (["w", "main.typ"], .file "#include \"s/a.typ\"\r\n".toUTF8),
      (["w", "s"], .directory), (["w", "s", "a.typ"], .file "".toUTF8), (["w", "s", "p.png"], .file "".toUTF8)], []⟩
    let active : Path := ⟨"/w/s/a.typ"⟩
    let opened := "\r\r\n#figure\r(image(\"p.png\"))"
    let source : Source := ⟨tree, Buffers.empty.set active opened⟩
    let other : Source := ⟨tree.set ["w", "main.typ"] (.file "#include \"s/a.typ\"\n".toUTF8),
      Buffers.empty.set active "\n\n#figure\r\n(image(\"p.png\"))"⟩
    ∃ scanner f, make tree ⟨"/w"⟩ .default = .ok scanner ∧ source.Respells other ∧
      scanner.scan other active = scanner.scan source active ∧ source.stored active = .ok opened ∧
      (scanner.scan source active).figures = [f] ∧ f.sourcePath = active ∧ f.line = 3 ∧
      ∃ place, Extraction.IsCall opened.toList place ∧ f.line = 1 + lineBreaks (before place.keyword opened.toList) := by
  intro tree active opened source other
  obtain ⟨scanner, made⟩ := @exists_make tree ⟨"/w"⟩ .default (by decide +kernel)
  have hasFile : tree.HasFile ["w", "main.typ"] := ⟨_, rfl⟩
  have alike {text other : List Char} (e : unifyLineBreaks text = unifyLineBreaks other) : Respelled text other :=
    respelled_iff.mpr e
  have shape : source.tree.SameShape other.tree := FileTree.sameShape_set hasFile _
  have buffers (p : Path) : Option.Rel (fun s t : String => Respelled s.toList t.toList) (source.buffers.get? p)
      (other.buffers.get? p) := by
    rw [Buffers.get?_set, Buffers.get?_set]
    split
    · exact .some (alike (by decide +kernel))
    · exact .none
  have files (location : Location) (content content' : ByteArray) (here : source.tree.get? location = some (.file content))
      (there : other.tree.get? location = some (.file content')) : content' = content ∨ ∃ s t,
        String.fromUTF8? content = some s ∧ String.fromUTF8? content' = some t ∧ Respelled s.toList t.toList := by
    rw [FileTree.get?_set _ hasFile.ne_nil] at there
    split at there
    · rename_i same
      subst same
      obtain rfl := Node.file.inj (Option.some.inj here)
      obtain rfl := Node.file.inj (Option.some.inj there)
      exact .inr ⟨_, _, fromUTF8?_toUTF8 _, fromUTF8?_toUTF8 _, alike (by decide +kernel)⟩
    · rw [here] at there
      exact .inl (Node.file.inj (Option.some.inj there)).symm
  have respells : source.Respells other := .of_contents shape buffers files
  have stored : source.stored active = .ok opened := by decide +kernel
  have about : (scanner.scan source active).figures.map Figure.sourcePath = [active] :=
    eq_of_make made (f := fun s => (s.scan source active).figures.map Figure.sourcePath) (by decide +kernel)
  have line : (scanner.scan source active).figures.map Figure.line = [3] :=
    eq_of_make made (f := fun s => (s.scan source active).figures.map Figure.line) (by decide +kernel)
  obtain ⟨f, e, about⟩ := List.map_eq_singleton_iff.mp about
  rw [e] at line
  obtain ⟨_, same, _, calls⟩ := scan_eq_of_respelled
  obtain ⟨text, place, stored', call, _, counted⟩ := calls scanner source active f (by simp [e])
  rw [about, stored] at stored'
  obtain rfl := Except.ok.inj stored'
  exact ⟨scanner, f, made, respells, same source other respells scanner active, stored, e, about,
    List.singleton_inj.mp line, place, call, counted⟩

end Scanner

end FigureGallery
