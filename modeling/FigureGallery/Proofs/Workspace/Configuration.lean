import FigureGallery.Proofs.Scanner.Agreement
import FigureGallery.Proofs.Workspace.Coherence

/-!
# Configured workspaces

What a workspace was last pointed at decides its root, its scanner, the extension and the delay; everything else that
happens is a matter of the session and of the texts. A configuration counts as a whole: when it cannot be read, or no
scanner can be made of it, every option is the default one. Reading it makes the session anew, which keeps the gallery as
it is and the active document if it still is a document.
-/

namespace FigureGallery

/-- No calls change the delay. -/
lemma Session.delay_run (s : Session) (calls : List Call) : (s.run calls).2.debouncer.delay = s.debouncer.delay := by
  induction calls generalizing s with
  | nil => rfl
  | cons c calls ih => exact (ih _).trans (s.delay_call c)

namespace Workspace

variable {w : Workspace} {tree : FileTree} {root : Path} {scanner : Scanner}

/-- Where operations read the configuration last. -/
def lastConfiguration (operations : List Operation) : Option (FileTree × Option Path) :=
  operations.foldl (fun last operation => operation.configuration?.or last) none

/-- A scanner of a project is for its root, with all options from the configuration, or with all of them default when
there is no configuration that a scanner can be made with. -/
lemma options_of_scannerAt (made : scannerAt tree root = some scanner) :
    scanner.projectRoot = tree.absolute root ∧
      ((∃ config, Config.load tree root = .ok (some config) ∧ scanner.options = .ofConfig config) ∨
        scanner.options = .default ∧ ∀ config, Config.load tree root = .ok (some config) →
          ∃ e, Scanner.make tree root (.ofConfig config) = .error e) := by
  unfold scannerAt at made
  split at made
  · rename_i loaded
    obtain rfl := Option.some.inj made
    unfold Scanner.load at loaded
    split at loaded
    · rename_i config e
      obtain ⟨projectRoot, options⟩ := Scanner.of_make loaded
      exact ⟨projectRoot, .inl ⟨config, e, options⟩⟩
    · rename_i e
      obtain ⟨projectRoot, options⟩ := Scanner.of_make loaded
      exact ⟨projectRoot, .inr ⟨options, fun config other => by simp [e] at other⟩⟩
    · simp at loaded
  · rename_i e failed
    obtain ⟨fallback, ok⟩ := Scanner.exists_make_default tree root
    rw [ok] at made
    obtain rfl := Option.some.inj made
    obtain ⟨projectRoot, options⟩ := Scanner.of_make ok
    refine ⟨projectRoot, .inr ⟨options, fun config loaded => ⟨e, ?_⟩⟩⟩
    unfold Scanner.load at failed
    rw [loaded] at failed
    exact failed

/-- A project always has a scanner. -/
lemma isSome_scannerAt (tree : FileTree) (root : Path) : (scannerAt tree root).isSome := by
  obtain ⟨scanner, made⟩ := Scanner.exists_make_default tree root
  unfold scannerAt
  split
  · rfl
  · simp only [made]
    rfl

/-- The document that is active in a session of a new configuration is the one that was active, if it is a document. -/
lemma active_renewed (session : Session) (scanner : Option Scanner) :
    (renewed session scanner).active = session.active.filter (renewed session scanner).accepts := by
  have inactive : (sessionFor scanner).active = none := by cases scanner <;> rfl
  cases e : session.active with
  | none => simp [renewed, e, inactive]
  | some document =>
    simp only [renewed, e, Option.elim_some, Session.withActive]
    split
    · rename_i accepts
      exact (Option.filter_some_pos accepts).symm
    · rename_i refuses
      exact inactive.trans (Option.filter_some_neg (by simpa using refuses)).symm

/-- A session of a new configuration has the delay of its scanner. -/
lemma delay_renewed (session : Session) (scanner : Option Scanner) :
    (renewed session scanner).debouncer.delay = (sessionFor scanner).debouncer.delay := by
  rw [renewed]
  cases session.active with
  | none => rfl
  | some document =>
    obtain ⟨active, e⟩ := Session.withActive_eq { sessionFor scanner with isOpen := session.isOpen } document
    rw [Option.elim_some, e]

/-- What a workspace was last pointed at, and what follows from that. -/
structure Configured (last : Option (FileTree × Option Path)) (w : Workspace) : Prop where
  root : w.root = last.bind Prod.snd
  scanner : w.scanner = last.bind fun (tree, root) => root.bind (scannerAt tree)
  delay : w.session.debouncer.delay = (sessionFor w.scanner).debouncer.delay
  settled : w.session.IsSettled

variable {last : Option (FileTree × Option Path)}

/-- An operation keeps to what was read last, which may be what it reads itself. -/
lemma Configured.step (ok : w.Configured last) (operation : Operation) :
    (w.step operation).Configured (operation.configuration?.or last) := by
  cases read : operation.configuration? with
  | some configuration =>
    cases operation with
    | configure tree root =>
      obtain rfl := Option.some.inj read
      have idle : (w.configure tree root).session.debouncer.isPending = false := w.not_isPending_configure tree root
      exact ⟨rfl, rfl, delay_renewed _ _, fun isPending => absurd (isPending.symm.trans idle) (by decide)⟩
    | _ => simp [Operation.configuration?] at read
  | none =>
    obtain ⟨buffers, calls, e⟩ := w.step_eq read
    rw [e]
    exact ⟨ok.root, ok.scanner, (w.session.delay_run calls).trans ok.delay, ok.settled.run calls⟩

/-- Operations keep to what was read last among them. -/
lemma Configured.run (ok : w.Configured last) (operations : List Operation) :
    (w.run operations).Configured (operations.foldl (fun last operation => operation.configuration?.or last) last) := by
  induction operations generalizing w last with
  | nil => exact ok
  | cons operation operations ih => exact ih (ok.step operation)

/-- A workspace that nothing has happened to is one without a project. -/
lemma configured_empty : empty.Configured none :=
  ⟨rfl, rfl, rfl, fun isPending => absurd isPending (by decide)⟩

/-- What holds of every workspace that operations make of the empty one. A scan is waited for only while the gallery is
open, and the active document is a document. There is a scanner exactly when there is a root, which is the one that was
configured last; its options are those of the configuration that was read there, or default ones if no scanner can be
made with that, and it gives the session the extension and the delay. Configuring the workspace keeps the texts, an open
gallery, and the active document exactly if it is a document then. -/
theorem configured_of_reachable (operations : List Operation) :
    let w := run empty operations
    (w.session.debouncer.isPending → w.session.isOpen) ∧
    (∀ document ∈ w.session.active, document.hasExtension w.session.extension) ∧
    (w.scanner.isSome ↔ w.root.isSome) ∧
    (∀ scanner ∈ w.scanner, ∃ tree root, lastConfiguration operations = some (tree, some root) ∧
      w.root = some root ∧ scanner.projectRoot = tree.absolute root ∧
      ((∃ config, Config.load tree root = .ok (some config) ∧ scanner.options = .ofConfig config) ∨
        scanner.options = .default ∧ ∀ config, Config.load tree root = .ok (some config) →
          ∃ e, Scanner.make tree root (.ofConfig config) = .error e) ∧
      w.session.extension = Path.bareExtension scanner.options.extension ∧
      w.session.debouncer.delay = scanner.options.debounceMs) ∧
    (w.scanner = none →
      w.session.extension = Config.default.extension ∧ w.session.debouncer.delay = Config.default.debounceMs) ∧
    ∀ tree root,
      (w.configure tree root).session.isOpen = w.session.isOpen ∧ (w.configure tree root).buffers = w.buffers ∧
      (w.configure tree root).session.active =
        w.session.active.filter fun document => document.hasExtension (w.configure tree root).session.extension := by
  intro w
  have ok : w.Configured (lastConfiguration operations) := configured_empty.run operations
  have coherent : w.Coherent := Reachable.coherent ⟨operations, rfl⟩
  refine ⟨ok.settled, coherent.active, ?_, fun scanner mem => ?_, fun none => ?_, fun tree root => ⟨?_, rfl, ?_⟩⟩
  · rw [ok.scanner, ok.root]
    cases lastConfiguration operations with
    | none => rfl
    | some last =>
      cases root : last.2 with
      | none => simp [root]
      | some root' => simp [root, isSome_scannerAt]
  · have made := ok.scanner.symm.trans mem
    obtain ⟨⟨tree, root?⟩, read, made⟩ := Option.bind_eq_some_iff.mp made
    obtain ⟨root, rfl, made⟩ := Option.bind_eq_some_iff.mp made
    obtain ⟨projectRoot, options⟩ := options_of_scannerAt made
    refine ⟨tree, root, read, ?_, projectRoot, options, ?_, ?_⟩
    · rw [ok.root, read]
      rfl
    · rw [coherent.extension, mem]
      rfl
    · rw [ok.delay, mem]
      rfl
  · rw [coherent.extension, ok.delay, none]
    exact ⟨by decide +kernel, rfl⟩
  · exact (renewed_eq _ _).1
  · exact active_renewed _ _

/-- A project with documents of another kind; in the end the workspace is no longer pointed at it. -/
theorem configured_of_reachable_extension :
    let tree : FileTree :=
      ⟨[(["w"], .directory), (["w", "typfig.toml"], .file "extension = \".md\"\ndebounce_ms = 40".toUTF8)], []⟩
    let operations : List Operation :=
      [.configure tree (some ⟨"/w"⟩), .openGallery none 0, .openDocument ⟨"/w/a.md"⟩ "" 5]
    let w := run empty operations
    let final := run empty (operations ++ [.configure tree none])
    w.session.debouncer.isPending ∧ w.session.isOpen ∧ w.session.active = some ⟨"/w/a.md"⟩ ∧
      Path.hasExtension ⟨"/w/a.md"⟩ w.session.extension ∧
      (∃ scanner, w.scanner = some scanner ∧ w.session.debouncer.delay = 40 ∧ scanner.options.debounceMs = 40 ∧
        w.session.extension = Path.bareExtension scanner.options.extension) ∧
      final.scanner = none ∧ final.session.extension = Config.default.extension ∧ final.session.active = none := by
  intro tree operations w final
  have waits : w.session.debouncer.isPending := by decide +kernel
  have active : w.session.active = some ⟨"/w/a.md"⟩ := by decide +kernel
  have delay : w.session.debouncer.delay = 40 := by decide +kernel
  obtain ⟨isOpen, document, hasScanner, options, _, kept⟩ := configured_of_reachable operations
  obtain ⟨scanner, made⟩ := Option.isSome_iff_exists.mp (hasScanner.mpr (by decide +kernel))
  obtain ⟨_, _, _, _, _, _, extension, same⟩ := options scanner made
  have debounce : scanner.options.debounceMs = 40 := by
    rw [← same]
    decide +kernel
  have last : final = w.configure tree none := run_append empty operations [.configure tree none]
  obtain ⟨_, _, _, _, default, _⟩ := configured_of_reachable (operations ++ [.configure tree none])
  have none : final.scanner = none := by
    rw [last]
    rfl
  refine ⟨waits, isOpen waits, active, document _ active, ⟨scanner, made, delay, debounce, extension⟩, none,
    (default none).1, ?_⟩
  rw [last, (kept tree .none).2.2]
  decide +kernel

end Workspace

end FigureGallery
