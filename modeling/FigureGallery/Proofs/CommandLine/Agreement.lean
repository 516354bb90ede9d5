import FigureGallery.Proofs.CommandLine.Arguments
import FigureGallery.Proofs.Server.Rooted

/-!
# The commands and the server

However a project is asked about, its figures are the same: the commands for a document and a request for the gallery to
a server of the project come to one scan of the document, as long as the server has no other texts than the files.
-/

namespace FigureGallery

lemma Buffers.eq_empty {buffers : Buffers} (closed : buffers.entries = []) : buffers = .empty := by
  obtain ⟨entries⟩ := buffers
  exact congrArg mk closed

namespace Html

/-- What stands on a page before its cards. -/
def beforeCards (count : Nat) : List Piece :=
  [.markup pageStart, number count, .markup ")</h1>\n",
    .markup (if count = 0 then "\n<p>No figures found in this file.</p>\n" else "\n<div class=\"gallery\">")]

/-- What stands on a page after its cards. -/
def afterCards (count : Nat) : List Piece :=
  (if count = 0 then [] else [.markup "\n</div>\n"]) ++ [.markup "\n</body>\n</html>"]

/-- A page has one card for each figure, in their order, and the rest of it is the same for all figures of a number. -/
lemma page_eq (figures : List Figure) : page figures = String.ofList
    ((beforeCards figures.length ++ figures.flatMap card ++ afterCards figures.length).flatMap Piece.render) := by
  rw [page, pieces, gallery]
  cases figures with
  | nil => rfl
  | cons f fs => simp [beforeCards, afterCards]

end Html

namespace CommandLine

open Server

variable {tree : FileTree} {root document : Path} {scanner : Scanner} {vars : Variables}

/-- An absolute path of a file is meant as it is given. -/
lemma prepare_eq (absolute : document.isAbsolute) (isFile : tree.isFile document)
    (loads : Scanner.load tree root = .ok scanner) :
    prepare ⟨tree, vars⟩ (some root) document = .ok (scanner, document) := by
  have found : resolveDocument tree root document = .ok document := by
    simp [resolveDocument, absolute, isFile]
  unfold prepare
  split
  · rename_i e
    exact absurd (e.symm.trans loads) (by simp)
  · rename_i e
    obtain rfl := Except.ok.inj (e.symm.trans loads)
    exact congrArg (Except.map _) found

/-- What is printed for a document of a project. -/
lemma run_eq (rooted : root.isAbsolute) (absolute : document.isAbsolute) (isFile : tree.isFile document)
    (loads : Scanner.load tree root = .ok scanner) (vars : Variables) :
    let figures := (scanner.scan (.ofTree tree) document).figures
    run ⟨tree, vars⟩ ["scan", document.text, "--path", root.text, "--format", "json"] =
        .done (printed ((Message.figureSetUpdated figures).toText ++ "\n")) ∧
      run ⟨tree, vars⟩ ["gallery", document.text, "--path", root.text] = .done (printed (Html.page figures)) := by
  intro figures
  have prepared : prepare ⟨tree, vars⟩ (some root) document = .ok (scanner, document) := prepare_eq absolute isFile loads
  constructor
  · rw [run, parse_scan absolute rooted]
    simp only [execute, about, runScan, prepared]
    rfl
  · rw [run, parse_gallery absolute rooted]
    simp only [execute, about, runGallery, prepared]
    rfl

/-- For a project whose configuration is absent or is not refused, and a document of it, there is one numbered list of
figures: it is what `scan` prints and what `gallery` has the cards of, and a server that was started for the project
answers a request for the gallery with it, and sends it once, while no document is open and the files stay as they
are. The URI of the document asks for it. -/
theorem front_ends_show_one_list (rooted : root.isAbsolute) (absolute : document.isAbsolute)
    (normal : document.normalize = document) (isFile : tree.isFile document)
    (loads : Scanner.load tree root = .ok scanner) (markup : scanner.isMarkup document) :
    let figures := (scanner.scan (.ofTree tree) document).figures
    figures.map (·.ordinal) = List.range' 1 figures.length ∧
    (∀ vars, run ⟨tree, vars⟩ ["scan", document.text, "--path", root.text, "--format", "json"] =
      .done (printed ((Message.figureSetUpdated figures).toText ++ "\n"))) ∧
    (∀ vars, run ⟨tree, vars⟩ ["gallery", document.text, "--path", root.text] =
      .done (printed (String.ofList ((Html.beforeCards figures.length ++ figures.flatMap Html.card ++
        Html.afterCards figures.length).flatMap Html.Piece.render)))) ∧
    (∀ id, Incoming.AsksFor
      ⟨"typfig/openGallery", some (.object [("uri", .string (Uri.ofPath document).text)]), some id⟩ document) ∧
    ∀ first start events s around request, first.tree = tree → (∀ event ∈ events, event.tree = tree) →
      around.tree = tree → start.StartsAt root → s = fresh.after (.message first start :: events) →
      s.phase = .initialized → s.workspace.buffers = .empty → request.AsksFor document →
      ∃ id, request.id = some id ∧
        (s.receive around request).answer = .response ⟨id, .ok (.array (figures.map Figure.toJson))⟩ ∧
        (s.receive around request).step.sent = [.figureSet figures] := by
  intro figures
  refine ⟨scanner.map_ordinal_scan _ _, fun vars => (run_eq rooted absolute isFile loads vars).1, fun vars => ?_,
    fun id => Incoming.asksFor_ofPath absolute normal id, ?_⟩
  · rw [← Html.page_eq]
    exact (run_eq rooted absolute isFile loads vars).2
  · rintro first start events s around request rfl same again starts e phase closed asks
    have serves : s.Serves first.tree root := e ▸ (serves_of_startsAt starts).after same
    have reachable : s.Reachable := e ▸ Reachable.fresh.after (.message first start :: events)
    have figures' : figures = (scanner.scan (.ofTree around.tree) document).figures := by rw [again]
    rw [← again] at serves loads
    rw [figures']
    exact serves.gallery reachable phase closed loads markup asks

/-- A document with a figure in a project with a configuration; the client of the server had it open before. -/
theorem front_ends_show_one_list_reopened :
    let tree : FileTree := ⟨[(["w"], .directory), (["w", "p.png"], .file "".toUTF8),
      (["w", "a.md"], .file "#figure(image(\"p.png\"))".toUTF8),
      (["w", "typfig.toml"], .file "extension = \"md\"".toUTF8)], []⟩
    let around : Surroundings := ⟨tree, 0, .null⟩
    let uri := ("uri", Json.string "file:///w/a.md")
    let start : Incoming := ⟨"initialize", some (.object [("capabilities", .object []), ("rootUri", .string "file:///w")]),
      some (.nat 1)⟩
    let opening : Incoming := ⟨"textDocument/didOpen", some (.object [("textDocument", .object [
      uri, ("languageId", .string "typst"), ("version", .nat 1), ("text", .string "")])]), none⟩
    let closing : Incoming := ⟨"textDocument/didClose", some (.object [("textDocument", .object [uri])]), none⟩
    let request : Incoming := ⟨"typfig/openGallery", some (.object [uri]), some (.nat 2)⟩
    let s := fresh.after [.message around start, .message around opening, .message around closing]
    ∃ figures, figures.map (·.ordinal) = [1] ∧
      run ⟨tree, []⟩ ["scan", "/w/a.md", "--path", "/w", "--format", "json"] =
        .done (printed ((Message.figureSetUpdated figures).toText ++ "\n")) ∧
      (s.receive around request).answer = .response ⟨.nat 2, .ok (.array (figures.map Figure.toJson))⟩ ∧
      (s.receive around request).step.sent = [.figureSet figures] := by
  intro tree around uri start opening closing request s
  obtain ⟨scanner, loads, facts⟩ : ∃ scanner, Scanner.load tree ⟨"/w"⟩ = .ok scanner ∧ (scanner.isMarkup ⟨"/w/a.md"⟩,
      (scanner.scan (.ofTree tree) ⟨"/w/a.md"⟩).figures.length) = (true, 1) :=
    exists_ok_of_map (by decide +kernel)
  obtain ⟨markup, one⟩ := Prod.mk.inj facts
  obtain ⟨ordinals, scan, _, _, served⟩ := @front_ends_show_one_list tree ⟨"/w"⟩ ⟨"/w/a.md"⟩ scanner
    (by decide) (by decide) (by decide +kernel) (by decide +kernel) loads markup
  have starts : start.StartsAt ⟨"/w"⟩ := ⟨rfl, rfl, exists_ok_of_map (by decide +kernel)⟩
  have asks : request.AsksFor ⟨"/w/a.md"⟩ := ⟨rfl, rfl, exists_ok_of_map (by decide +kernel)⟩
  have closed : s.workspace.buffers.entries = [] := by decide +kernel
  obtain ⟨id, given, answer, sent⟩ := served around start [.message around opening, .message around closing] s around
    request rfl (by simp [Event.tree, around]) rfl starts rfl (by decide +kernel) (Buffers.eq_empty closed) asks
  obtain rfl := Option.some.inj given
  rw [one] at ordinals
  exact ⟨_, ordinals, scan [], answer, sent⟩

end CommandLine

end FigureGallery
