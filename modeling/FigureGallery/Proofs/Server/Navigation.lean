import FigureGallery.Proofs.Server.Handling
import FigureGallery.Proofs.Uri.File

/-!
# Lines that are shown

A request for a line of a file is answered with `true` when the client has shown the file, and with `false` when the user was
told of one error. Lines have 64 bits in the request, and 32 in what the client is asked for. What is lost there is not
noticed: a line that is too large for the client is answered with `true` too, but another line is shown.
-/

namespace FigureGallery.Server

/-- A URI that is read as it is written, and whose path has the bytes of the path of a file besides its escapes. -/
structure Locates (uri : Uri) (p : Path) : Prop where
  parse : Uri.parse? uri.text = some uri
  decode : Uri.decode uri.path = p.text.toUTF8.toList

/-- A request to the client to show a file, with nothing selected at the start of a line that is counted from zero. -/
def Outgoing.ShowsLine (message : Outgoing) (p : Path) (line : Nat) : Prop :=
  ∃ params uri, message.toJson.get? "method" = some (.string "window/showDocument") ∧
    message.toJson.get? "params" = some params ∧
    (params.get? "uri").bind uri? = some uri ∧ Locates uri p ∧
    params.get? "selection" = some (.object [("start", lineStart line), ("end", lineStart line)])

/-- Whether a message tells the user of an error. -/
def Outgoing.isError : Outgoing → Bool
  | .showMessage _ => true
  | _ => false

/-- A request for a line of a file, counted from one. -/
structure Incoming.Navigates (message : Incoming) (id : Json) (p : Path) (line : Nat) : Prop where
  method : message.method = "typfig/navigate"
  id : message.id = some id
  params : paramsOf Schema.navigate Navigate.ofJson? message.params = .ok ⟨p, line⟩

/-- A request is answered with `true`, and the client was asked for the line, counted from one, and for nothing else. -/
def Turn.Shows (turn : Turn) (id : Json) (p : Path) (line : Nat) : Prop :=
  turn.answer = .response ⟨id, .ok (.bool true)⟩ ∧
    ∃ message shown, turn.step.sent = [message] ∧ message.ShowsLine p shown ∧ shown + 1 = line

/-- A request is answered with `false`, and the user was told of one error. -/
def Turn.Reports (turn : Turn) (id : Json) : Prop :=
  turn.answer = .response ⟨id, .ok (.bool false)⟩ ∧
    ∃ text, turn.step.sent.filter Outgoing.isError = [.showMessage text]

/-- A line of a file that the client says it has shown. -/
structure IsShown (around : Surroundings) (p : Path) (line : Nat) : Prop where
  positive : line ≠ 0
  isFile : around.tree.isFile p
  success : hasShown around.reply

variable {s : Server} {around : Surroundings} {message : Incoming} {id : Json} {p : Path} {line : Nat}

lemma locates_ofPath (absolute : p.isAbsolute) : Locates (.ofPath p) p :=
  ⟨Uri.parse?_ofPath absolute, Uri.decode_ofPath p⟩

lemma Incoming.navigates_of_fits {j : Json} (fits : Json.Schema.integerMismatch? .size j = none)
    (value : j.nat? = some line) (id : Json) (p : Path) :
    Navigates ⟨"typfig/navigate", some (.object [("path", .string p.text), ("line", j)]), some id⟩ id p line where
  method := rfl
  id := rfl
  params := by
    have schema : Schema.navigate.mismatch? false (.object [("path", .string p.text), ("line", j)]) = none := by
      simp [Schema.navigate, Schema.plain, Schema.required, Json.Schema.mismatch?, Json.Schema.fieldMismatches,
        Json.Schema.firstByName, Json.Schema.missing?, Json.Schema.groupsMismatch?, fits, List.lookup_cons]
    have read : Navigate.ofJson? (.object [("path", .string p.text), ("line", j)]) = some ⟨p, line⟩ := by
      simp [Navigate.ofJson?, Json.record?, Json.keysDistinct, Json.string?, value, List.lookup_cons]
    rw [paramsOf, readAs, schema, read]
    rfl

/-- A client may ask for every line of 64 bits. -/
lemma Incoming.navigates (fits : line < Width.capacity 64) (id : Json) (p : Path) :
    Navigates ⟨"typfig/navigate", some (.object [("path", .string p.text), ("line", .nat line)]), some id⟩ id p line := by
  have size : Json.IntegerType.size.contains line := by
    simp [Json.IntegerType.contains, Width.fitsUnsigned, fits]
  refine navigates_of_fits ?_ ?_ id p
  · rw [Json.nat, Json.Schema.integerMismatch?, if_pos size]
  · simp [Json.nat, Json.nat?]

/-- The request for a file shows the line that it is sent with, and no other one. -/
lemma showsLine_showDocument_iff (absolute : p.isAbsolute) {number sent : Nat} :
    (Outgoing.showDocument number (.ofPath p) sent).ShowsLine p line ↔ sent = line := by
  constructor
  · rintro ⟨params, uri, _, params_eq, _, _, selection⟩
    obtain rfl := Option.some.inj params_eq
    have same : (sent : Int) = line := by simpa [Json.get?, lineStart, Json.nat, List.lookup_cons] using selection
    exact Int.ofNat_inj.mp same
  · rintro rfl
    refine ⟨_, .ofPath p, rfl, rfl, ?_, locates_ofPath absolute, rfl⟩
    exact Uri.parse?_ofPath absolute

/-- An initialized server answers a request for a line with what its step says. -/
lemma Incoming.Navigates.receive (navigates : message.Navigates id p line) (phase : s.phase = .initialized)
    (around : Surroundings) :
    s.receive around message =
      ⟨.response ⟨id, .ok (.bool (s.navigate around p line).1)⟩, (s.navigate around p line).2⟩ := by
  obtain ⟨method, name, params⟩ := navigates
  have known : Method.ofName? "typfig/navigate" = some .navigate := by decide +kernel
  have kind : (some id).isSome = Method.navigate.isRequest := rfl
  rw [Server.receive, if_neg (by simp [phase]), method, known, name]
  simp only [enter]
  rw [if_pos phase, take_of_kind kind, perform, params]
  rfl

/-- A line that is no line of a file is refused with one error. -/
lemma navigate_of_refused (refused : line = 0 ∨ ¬ around.tree.isFile p) :
    s.navigate around p line = (false, ⟨s, [.showMessage (Failure.navigation p line).message]⟩) := by
  have failed : NavigationTarget.make around.tree p line = .error (.navigation p line) := if_pos (by simpa using refused)
  rw [navigate, failed]

/-- A line of a file is asked for by its low bits, and an error follows when the client does not show the file. -/
lemma navigate_of_isFile (absolute : p.isAbsolute) (positive : line ≠ 0) (isFile : around.tree.isFile p) :
    s.navigate around p line = (hasShown around.reply, ⟨{ s with nextRequest := s.nextRequest + 1 },
      .showDocument s.nextRequest (.ofPath p) ((line - 1) % Width.capacity 32) ::
        if hasShown around.reply then [] else [.showMessage ("Cannot open file: " ++ p.text)]⟩) := by
  have made : NavigationTarget.make around.tree p line = .ok ⟨p, line⟩ := if_neg (by simp [positive, isFile])
  rw [navigate, made]
  simp only [showTarget, namedPath, if_pos absolute, NavigationTarget.zeroBasedLine]
  cases hasShown around.reply with
  | true => rfl
  | false => rfl

/-- The low bits of a line, counted from zero, are all of it exactly if it is a line that the client can show. -/
lemma mod_capacity_add_one_iff (positive : line ≠ 0) :
    (line - 1) % Width.capacity 32 + 1 = line ↔ line ≤ Width.capacity 32 := by
  have below : (line - 1) % Width.capacity 32 < Width.capacity 32 := Nat.mod_lt _ (by decide)
  constructor
  · omega
  · intro fits
    rw [Nat.mod_eq_of_lt (by omega)]
    omega

/-- A request for a line of a file is answered with `false`, and the user is told of one error, exactly if the line is zero,
there is no such file or the client does not show it. In all other cases the answer is `true`, and the client was asked for
nothing but the low 32 bits of the line; that is the line that was meant exactly if it is at most 2³². Nothing else of the
server changes than the number of its next request. -/
theorem shows_iff_fits (phase : s.phase = .initialized) (navigates : message.Navigates id p line)
    (absolute : p.isAbsolute) (around : Surroundings) :
    let turn := s.receive around message
    (∃ nextRequest, turn.step.server = { s with nextRequest }) ∧
    (turn.Reports id ↔ ¬ IsShown around p line) ∧
    (turn.Shows id p line ↔ IsShown around p line ∧ line ≤ Width.capacity 32) ∧
    (IsShown around p line → turn.answer = .response ⟨id, .ok (.bool true)⟩ ∧
      ∃ message, turn.step.sent = [message] ∧ message.ShowsLine p ((line - 1) % Width.capacity 32)) := by
  intro turn
  have turn_eq : turn = _ := navigates.receive phase around
  clear_value turn
  by_cases refused : line = 0 ∨ ¬ around.tree.isFile p
  · rw [navigate_of_refused refused] at turn_eq
    subst turn_eq
    have not_shown : ¬ IsShown around p line := fun shown => refused.elim shown.positive (absurd shown.isFile)
    refine ⟨⟨s.nextRequest, rfl⟩, iff_of_true ⟨rfl, _, rfl⟩ not_shown, iff_of_false ?_ (mt And.left not_shown),
      fun shown => absurd shown not_shown⟩
    rintro ⟨answer, _⟩
    cases answer
  · obtain ⟨positive, isFile⟩ := not_or.mp refused
    rw [navigate_of_isFile absolute positive (not_not.mp isFile)] at turn_eq
    subst turn_eq
    cases success : hasShown around.reply with
    | false =>
      have not_shown : ¬ IsShown around p line := fun shown => by
        have := shown.success
        simp [success] at this
      refine ⟨⟨_, rfl⟩, iff_of_true ⟨rfl, _, rfl⟩ not_shown, iff_of_false ?_ (mt And.left not_shown),
        fun shown => absurd shown not_shown⟩
      rintro ⟨answer, _⟩
      cases answer
    | true =>
      have shown : IsShown around p line := ⟨positive, not_not.mp isFile, success⟩
      refine ⟨⟨_, rfl⟩, iff_of_false ?_ (not_not.mpr shown), ?_, fun _ => ⟨rfl, _, rfl, ?_⟩⟩
      · rintro ⟨answer, _⟩
        cases answer
      · rw [and_iff_right shown, ← mod_capacity_add_one_iff positive]
        constructor
        · rintro ⟨_, message, line', sent, shows, rfl⟩
          obtain rfl := (List.cons.inj sent).1
          rw [(showsLine_showDocument_iff absolute).mp shows]
        · exact fun same => ⟨rfl, _, _, rfl, (showsLine_showDocument_iff absolute).mpr rfl, same⟩
      · exact (showsLine_showDocument_iff absolute).mpr rfl

/-- A file is asked for at the last line that the client can show, and then at the one after it: its first line is shown. -/
theorem shows_iff_fits_last :
    let around : Surroundings :=
      ⟨⟨[(["w"], .directory), (["w", "main.typ"], .file "".toUTF8)], []⟩, 0, .object [("success", .bool true)]⟩
    let start : Incoming := ⟨"initialize", some (.object [("capabilities", .object [])]), some (.nat 1)⟩
    let s := (fresh.receive around start).step.server
    let p : Path := ⟨"/w/main.typ"⟩
    let turn (line : Nat) := s.receive around
      ⟨"typfig/navigate", some (.object [("path", .string p.text), ("line", .nat line)]), some (.nat 2)⟩
    s.phase = .initialized ∧ (turn 4294967296).Shows (.nat 2) p 4294967296 ∧
      ¬ (turn 4294967297).Shows (.nat 2) p 4294967297 ∧ ¬ (turn 4294967297).Reports (.nat 2) ∧
      ∃ message, (turn 4294967297).step.sent = [message] ∧ message.ShowsLine p 0 := by
  intro around start s p turn
  have phase : s.phase = .initialized := by decide +kernel
  have isFile : around.tree.isFile p := by decide +kernel
  have shown (line : Nat) (positive : line ≠ 0) : IsShown around p line := ⟨positive, isFile, by decide +kernel⟩
  have navigates (line : Nat) (fits : line < Width.capacity 64) := Incoming.navigates fits (.nat 2) p
  obtain ⟨_, _, fits, _⟩ := shows_iff_fits phase (navigates 4294967296 (by decide)) (by decide) around
  obtain ⟨_, reports, shows, wrapped⟩ := shows_iff_fits phase (navigates 4294967297 (by decide)) (by decide) around
  refine ⟨phase, fits.mpr ⟨shown _ (by decide), by decide⟩, fun h => ?_, fun h => reports.mp h (shown _ (by decide)), ?_⟩
  · exact absurd (shows.mp h).2 (by decide)
  · exact (wrapped (shown _ (by decide))).2

end FigureGallery.Server
