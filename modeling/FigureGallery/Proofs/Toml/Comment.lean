import FigureGallery.Config
import Mathlib.Data.List.Basic
import Mathlib.Tactic.Lemma

/-!
# Documents of comments

A document in which every line is blank or a comment has no entries. As a configuration it leaves all settings at their
defaults.
-/

namespace FigureGallery.Toml

/-- Whether a line is blank but for a comment. -/
def isCommentLine (line : List Char) : Bool :=
  line.all isPrintable && (line.dropWhile isSpace).head?.all (· == '#')

/-- A text of comments. -/
inductive Commentary : List Char → Prop where
  | last {line} :
    isCommentLine line →
    Commentary line
  | line {line text} :
    isCommentLine line →
    Commentary text →
    Commentary (line ++ '\n' :: text)

variable {line rest text : List Char}

/-- A text is one of comments when all its lines are. -/
lemma Commentary.of_splitOn (lines : ∀ line ∈ text.splitOn '\n', isCommentLine line) : Commentary text := by
  have joined : ['\n'].intercalate (text.splitOn '\n') = text := List.intercalate_splitOn '\n'
  rw [← joined]
  generalize text.splitOn '\n' = parts at lines
  induction parts with
  | nil => exact .last rfl
  | cons first parts ih =>
    obtain ⟨comment, lines⟩ := List.forall_mem_cons.mp lines
    cases parts with
    | nil => simpa [List.intercalate] using Commentary.last comment
    | cons second parts =>
      have e : ['\n'].intercalate (first :: second :: parts) = first ++ '\n' :: ['\n'].intercalate (second :: parts) := by
        simp [List.intercalate]
      rw [e]
      exact .line comment (ih lines)

/-- A comment ends where its line ends. -/
lemma afterComment?_eq (comment : isCommentLine line) (ends : rest = [] ∨ ∃ more, rest = '\n' :: more) :
    afterComment? ((line ++ rest).dropWhile isSpace) = some rest := by
  have space : rest.dropWhile isSpace = rest := by
    obtain rfl | ⟨more, rfl⟩ := ends <;> rfl
  have printable : rest.dropWhile isPrintable = rest := by
    obtain rfl | ⟨more, rfl⟩ := ends <;> rfl
  obtain ⟨all, head⟩ := Bool.and_eq_true_iff.mp comment
  rw [List.dropWhile_append, space]
  cases e : line.dropWhile isSpace with
  | nil =>
    obtain rfl | ⟨more, rfl⟩ := ends <;> rfl
  | cons c cs =>
    rw [e] at head
    obtain rfl : c = '#' := eq_of_beq head
    have inside : ∀ c ∈ cs, isPrintable c := fun c mem =>
      List.all_eq_true.mp all c ((List.dropWhile_sublist isSpace).subset (e ▸ List.mem_cons_of_mem _ mem))
    change afterComment? ('#' :: (cs ++ rest)) = some rest
    rw [afterComment?, List.dropWhile_append_of_pos inside, printable]
    obtain rfl | ⟨more, rfl⟩ := ends <;> rfl

/-- Nothing of a text of comments is left when its lines are skipped. -/
lemma skipLines?_eq_nil (commentary : Commentary text) {fuel : Nat} (enough : text.length < fuel) :
    skipLines? fuel text = some [] := by
  induction commentary generalizing fuel with
  | @last line comment =>
    obtain ⟨fuel, rfl⟩ := Nat.exists_eq_add_one_of_ne_zero (Nat.ne_zero_of_lt enough)
    have after := afterComment?_eq comment (.inl rfl)
    rw [List.append_nil] at after
    rw [skipLines?, after]
    rfl
  | @line line text comment _ ih =>
    obtain ⟨fuel, rfl⟩ := Nat.exists_eq_add_one_of_ne_zero (Nat.ne_zero_of_lt enough)
    rw [List.length_append, List.length_cons] at enough
    rw [skipLines?, afterComment?_eq comment (.inr ⟨text, rfl⟩)]
    exact ih (by omega)

/-- A text of comments does not start with a byte order mark. -/
lemma Commentary.head?_ne (commentary : Commentary text) : text.head? ≠ some '\uFEFF' := by
  have other {line : List Char} (comment : isCommentLine line) : line.head? ≠ some '\uFEFF' := by
    intro first
    obtain ⟨cs, rfl⟩ := List.head?_eq_some_iff.mp first
    have head : ('\uFEFF' == '#') = true := (Bool.and_eq_true_iff.mp comment).2
    exact absurd head (by decide)
  cases commentary with
  | last comment => exact other comment
  | @line line _ comment _ =>
    cases line with
    | nil => simp
    | cons c cs => exact @other (c :: cs) comment

/-- A document of comments has no entries. -/
lemma parse_eq_nil (commentary : Commentary text) : parse text = some [] := by
  unfold parse
  dsimp only
  split
  · exact absurd rfl commentary.head?_ne
  · rw [lines?, skip?, skipLines?_eq_nil commentary (Nat.lt_succ_self _)]
    rfl

end FigureGallery.Toml

namespace FigureGallery.Config

/-- A configuration of comments leaves all settings at their defaults. -/
lemma ofText_of_commentary {text : String} (commentary : Toml.Commentary text.toList) : ofText text = .ok default := by
  have settings : ofEntries? [] = some default := by decide
  have named : Path.bareExtension default.extension ≠ "" := by decide
  rw [ofText, Toml.parse_eq_nil commentary, Option.bind_some, settings]
  exact if_neg named

end FigureGallery.Config
