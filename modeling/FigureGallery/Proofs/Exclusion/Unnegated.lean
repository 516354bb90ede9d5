import FigureGallery.Proofs.Exclusion.Seen

/-!
# Lines that are not negated

In a list of rules the last one that speaks of a path decides, and a path is asked about before the directories above it.
When no line is negated neither order matters: a path is excluded just when some line states a rule that speaks of the path
or of a directory above it.
-/

namespace FigureGallery.Exclusion

open FigureGallery.Path FileTree

variable {line : List Char} {lines lines' : List (List Char)} {rule : Rule} {rules : List Rule} {list : RuleList}
  {p q above root : Path} {tree : FileTree} {isDirectory : Bool}

/-- Whether a line is negated. -/
def IsNegated (line : List Char) : Prop :=
  line.head? = some '!'

instance (line : List Char) : Decidable (IsNegated line) :=
  inferInstanceAs (Decidable (line.head? = some '!'))

namespace Rule

/-- A rule reaches a path when it speaks of the path or of a directory above it. -/
inductive Reaches (rule : Rule) : Path → Bool → Prop where
  | own {p : Path} {isDirectory : Bool} :
    rule.appliesTo p isDirectory →
    Reaches rule p isDirectory
  | above {p above : Path} {isDirectory : Bool} :
    above ∈ p.ancestors →
    rule.appliesTo above true →
    Reaches rule p isDirectory

namespace Reaches

/-- What reaches a path reaches it as a directory. -/
lemma asDirectory (reaches : rule.Reaches p isDirectory) : rule.Reaches p true := by
  cases reaches with
  | own applies =>
    rw [appliesTo, Bool.and_eq_true] at applies
    exact .own (by rw [appliesTo, Bool.or_true, Bool.true_and, applies.2])
  | above mem applies => exact .above mem applies

/-- What reaches a path reaches everything below it. -/
lemma below (reaches : rule.Reaches p isDirectory) (mem : p ∈ q.ancestors) (other : Bool) : rule.Reaches q other := by
  cases reaches.asDirectory with
  | own applies => exact .above mem applies
  | above higher applies => exact .above (mem_ancestors_trans higher mem) applies

end Reaches

lemma trimLine_prefix (line : List Char) : trimLine line <+: line := by
  unfold trimLine
  split
  · exact List.prefix_rfl
  · rw [Text.trimEnd, ← List.reverse_suffix, List.reverse_reverse]
    exact List.dropWhile_suffix _

/-- Only lines that start with a `!` are read as lines of paths to be kept. -/
lemma readMarks_fst {shown : List Char} (keeps : (readMarks shown).1 = true) : shown.head? = some '!' := by
  unfold readMarks at keeps
  split at keeps <;> simp_all

/-- A line that is not negated states no rule that keeps. -/
lemma keeps_eq_false (plain : ¬ IsNegated line) (stated : ofLine? line = .ok (some rule)) : rule.keeps = false := by
  by_contra keeps
  unfold ofLine? at stated
  dsimp only at stated
  split at stated
  · simp at stated
  · cases read : Glob.read (openEnd (unbind (readMarks (trimLine line)).2.1
      (readDirectoryMark (readMarks (trimLine line)).2.2).2)) with
    | error e => simp [read, Except.map] at stated
    | ok glob =>
      rw [read] at stated
      obtain rfl := Option.some.inj (Except.ok.inj stated)
      obtain ⟨rest, whole⟩ := trimLine_prefix line
      have first := readMarks_fst ((Bool.not_eq_false _).mp keeps)
      refine plain ?_
      rw [IsNegated, ← whole, List.head?_append, first]
      rfl

end Rule

namespace RuleList

/-- Rules none of which keeps exclude a path that one of them speaks of, and say nothing of any other. -/
lemma verdictOf_eq (never : ∀ rule ∈ list.rules, rule.keeps = false) (p : Path) (isDirectory : Bool) :
    list.verdictOf p isDirectory =
      if list.rules.any (fun rule => rule.appliesTo p isDirectory) then .excluded else .silent := by
  unfold verdictOf
  cases found : list.rules.reverse.find? fun rule => rule.appliesTo p isDirectory with
  | none =>
    have silent : ¬ list.rules.any fun rule => rule.appliesTo p isDirectory := by
      simpa using List.find?_eq_none.mp found
    rw [if_neg silent]
  | some rule =>
    have mem := List.mem_reverse.mp (List.mem_of_find?_eq_some found)
    have applies : rule.appliesTo p isDirectory := by simpa using List.find?_some found
    rw [if_pos (List.any_eq_true.mpr ⟨rule, mem, applies⟩)]
    dsimp only
    rw [never rule mem, if_neg Bool.false_ne_true]

/-- The first of several verdicts that is not silent is that of exclusion if one of them is, unless one keeps. -/
lemma foldl_eq_excluded_iff {verdicts : List Verdict} {verdict : Verdict} (first : verdict ≠ .kept)
    (others : ∀ v ∈ verdicts, v ≠ .kept) :
    verdicts.foldl (fun found above => if found = .silent then above else found) verdict = .excluded ↔
      verdict = .excluded ∨ .excluded ∈ verdicts := by
  induction verdicts generalizing verdict with
  | nil => simp
  | cons v verdicts ih =>
    obtain ⟨next, others⟩ := List.forall_mem_cons.mp others
    rw [List.foldl_cons, List.mem_cons]
    cases verdict with
    | kept => exact absurd rfl first
    | excluded => rw [if_neg (by decide), ih (by decide) others]; simp
    | silent =>
      rw [if_pos rfl, ih next others]
      simp [eq_comm]

/-- When no rule keeps, a path is excluded just when a rule reaches it. -/
lemma excludes_iff (never : ∀ rule ∈ list.rules, rule.keeps = false) (p : Path) (isDirectory : Bool) :
    list.excludes p isDirectory ↔ ∃ rule ∈ list.rules, rule.Reaches (list.localPath p) isDirectory := by
  have spoken (q : Path) (d : Bool) :
      list.verdictOf q d = .excluded ↔ ∃ rule ∈ list.rules, rule.appliesTo q d := by
    rw [verdictOf_eq never, ← List.any_eq_true]
    split <;> simp_all
  have notKept (q : Path) (d : Bool) : list.verdictOf q d ≠ .kept := by
    rw [verdictOf_eq never]
    split <;> simp
  rw [excludes, beq_iff_eq, verdict, foldl_eq_excluded_iff (notKept _ _) (by simpa using fun _ _ => notKept _ _), spoken,
    List.mem_map]
  constructor
  · rintro (⟨rule, mem, applies⟩ | ⟨above, higher, e⟩)
    · exact ⟨rule, mem, .own applies⟩
    · obtain ⟨rule, mem, applies⟩ := (spoken above true).mp e
      exact ⟨rule, mem, .above higher applies⟩
  · rintro ⟨rule, mem, applies | ⟨higher, applies⟩⟩
    · exact .inl ⟨rule, mem, applies⟩
    · exact .inr ⟨_, higher, (spoken _ true).mpr ⟨rule, mem, applies⟩⟩

/-- A rule that reaches a path reaches all that is below it. -/
lemma reaches_of_isBelow (seenRoot : IsSeen root) (seen : IsSeen p) (seen' : IsSeen q) (inside : p.isBelow root)
    (below : q.isBelow p) (rules : List Rule) (tree : FileTree)
    (reaches : rule.Reaches ((make root rules).localPath p) (tree.isDirectory p)) :
    rule.Reaches ((make root rules).localPath q) (tree.isDirectory q) := by
  obtain higher | ⟨same, rfl | rfl⟩ := localPath_of_isBelow seenRoot seen seen' inside below rules
  · exact reaches.below higher _
  · exact reaches
  · rw [same]
    rw [tree.isDirectory_empty] at reaches
    cases tree.isDirectory q with
    | true => exact reaches.asDirectory
    | false => exact reaches

end RuleList

namespace Glob

/-- Patterns are refused when one that only its expression settles is nested too deep, wherever it stands. -/
lemma isSome_refusal?_iff {globs : List Glob} :
    (refusal? globs).isSome ↔ ∃ glob ∈ globs, glob.method ≠ .comparison ∧ glob.isTooDeep := by
  unfold refusal?
  cases found : globs.find? fun g => g.method = .extensionFirst && g.isTooDeep with
  | some glob =>
    have mem := List.mem_of_find?_eq_some found
    have holds : glob.method = .extensionFirst ∧ glob.isTooDeep := by simpa using List.find?_some found
    exact iff_of_true rfl ⟨glob, mem, by simp [holds.1], holds.2⟩
  | none =>
    have none : ∀ g ∈ globs, g.method = .extensionFirst → ¬ g.isTooDeep := by simpa using List.find?_eq_none.mp found
    rw [Option.isSome_map, List.findIdx?_isSome, List.any_filter, List.any_eq_true]
    refine exists_congr fun g => and_congr_right fun mem => ?_
    cases method : g.method with
    | comparison => simp
    | extensionFirst => simp [none g mem method]
    | expression => simp

end Glob

namespace Filter

/-- The lines of the ignore file in a directory, up to the first that is no text. -/
def ignoreLines (tree : FileTree) (root : Path) : List (List Char) :=
  match tree.readBytes (root.join ⟨".gitignore"⟩) with
  | .ok content => textLines content
  | .error _ => []

/-- The rule that a line states, if any. A malformed line states none. -/
def statedBy? (line : List Char) : Option Rule :=
  match Rule.ofLine? line with
  | .ok rule => rule
  | .error _ => none

/-- The rules that lines state. -/
def rulesOf (lines : List (List Char)) : List Rule :=
  lines.filterMap statedBy?

/-- The lines of an ignore file that are used: none when the pattern of one is nested too deep. -/
def usedLines (lines : List (List Char)) : List (List Char) :=
  if (refusal? (rulesOf lines)).isSome then [] else lines

lemma mem_rulesOf_iff : rule ∈ rulesOf lines ↔ ∃ line ∈ lines, Rule.ofLine? line = .ok (some rule) := by
  rw [rulesOf, List.mem_filterMap]
  refine exists_congr fun line => and_congr_right fun _ => ?_
  rw [statedBy?]
  cases Rule.ofLine? line <;> simp

lemma ignoreRules_eq : ignoreRules tree root = rulesOf (usedLines (ignoreLines tree root)) := by
  unfold ignoreRules ignoreLines usedLines
  cases tree.readBytes (root.join ⟨".gitignore"⟩) with
  | error e =>
    dsimp only
    rw [ite_self]
    rfl
  | ok content =>
    dsimp only
    rw [show rulesOfFile content = rulesOf (textLines content) from rfl]
    split <;> rfl

/-- Whether rules are refused depends on which lines there are only. -/
lemma refusal?_rulesOf_congr (same : ∀ line, line ∈ lines ↔ line ∈ lines') :
    (refusal? (rulesOf lines)).isSome = (refusal? (rulesOf lines')).isSome := by
  rw [Bool.eq_iff_iff]
  simp only [refusal?, Glob.isSome_refusal?_iff, List.mem_map, mem_rulesOf_iff, same]

/-- Used lines in another order are the used lines of the other order. -/
lemma mem_usedLines_congr (same : ∀ line, line ∈ lines ↔ line ∈ lines') (line : List Char) :
    line ∈ usedLines lines ↔ line ∈ usedLines lines' := by
  unfold usedLines
  rw [refusal?_rulesOf_congr same]
  split
  · rfl
  · exact same line

/-- A pattern that states a rule, or none, but is not malformed. -/
def IsReadable (pattern : String) : Prop :=
  ∃ stated, Rule.ofLine? pattern.toList = .ok stated

/-- Patterns that can be read state what their lines state. -/
lemma mapM_configuredRule? {patterns : List String} (readable : ∀ pattern ∈ patterns, IsReadable pattern) :
    patterns.mapM configuredRule? = .ok (patterns.map fun pattern => statedBy? pattern.toList) := by
  induction patterns with
  | nil => rfl
  | cons pattern patterns ih =>
    obtain ⟨⟨stated, line⟩, others⟩ := List.forall_mem_cons.mp readable
    have here : configuredRule? pattern = .ok (statedBy? pattern.toList) := by rw [configuredRule?, statedBy?, line]
    rw [List.mapM_cons, here, ih others]
    rfl

lemma isReadable_of_mapM {patterns : List String} {found : List (Option Rule)}
    (read : patterns.mapM configuredRule? = .ok found) : ∀ pattern ∈ patterns, IsReadable pattern := by
  induction patterns generalizing found with
  | nil => simp
  | cons pattern patterns ih =>
    rw [List.mapM_cons] at read
    cases line : Rule.ofLine? pattern.toList with
    | error e => simp [configuredRule?, line, bind, Except.bind] at read
    | ok stated =>
      cases others : patterns.mapM configuredRule? with
      | error e => simp [configuredRule?, line, others, bind, Except.bind] at read
      | ok found => exact List.forall_mem_cons.mpr ⟨⟨stated, line⟩, ih others⟩

/-- The patterns of a configuration can be used when none is malformed or nested too deep. -/
lemma configuredRules_eq_ok_iff {patterns : List String} : configuredRules patterns = .ok rules ↔
    (∀ pattern ∈ patterns, IsReadable pattern) ∧
      (refusal? (rulesOf (patterns.map String.toList))).isSome = false ∧ rulesOf (patterns.map String.toList) = rules := by
  unfold configuredRules
  cases read : patterns.mapM configuredRule? with
  | error e =>
    refine iff_of_false (by simp [bind, Except.bind]) ?_
    rintro ⟨readable, _⟩
    simp [mapM_configuredRule? readable] at read
  | ok found =>
    have readable := isReadable_of_mapM read
    obtain rfl := Except.ok.inj ((mapM_configuredRule? readable).symm.trans read)
    have rules : (patterns.map fun pattern => statedBy? pattern.toList).filterMap id =
        rulesOf (patterns.map String.toList) := by
      rw [rulesOf, List.filterMap_map, List.filterMap_map]
      rfl
    simp only [bind, Except.bind, rules, and_iff_right readable]
    cases refusal? (rulesOf (patterns.map String.toList)) <;> simp

/-- The lines of the ignore file that a filter goes by. -/
def linesInUse (tree : FileTree) (root : Path) (disableIgnoreFile : Bool) : List (List Char) :=
  if disableIgnoreFile then [] else usedLines (ignoreLines tree root)

variable {patterns : List String} {disableIgnoreFile : Bool} {filter : Filter}

lemma make_eq_ok_iff : make tree root patterns disableIgnoreFile = .ok filter ↔
    (∀ pattern ∈ patterns, IsReadable pattern) ∧ (refusal? (rulesOf (patterns.map String.toList))).isSome = false ∧
      ⟨root, .make root (rulesOf (linesInUse tree root disableIgnoreFile)),
        .make root (rulesOf (patterns.map String.toList))⟩ = filter := by
  have ignored : (if disableIgnoreFile then [] else ignoreRules tree root) =
      rulesOf (linesInUse tree root disableIgnoreFile) := by
    rw [linesInUse, ignoreRules_eq]
    split <;> rfl
  unfold make
  rw [ignored]
  cases configured : configuredRules patterns with
  | error e =>
    refine iff_of_false (by simp [Except.map]) ?_
    rintro ⟨readable, shallow, _⟩
    simp [configuredRules_eq_ok_iff.mpr ⟨readable, shallow, rfl⟩] at configured
  | ok rules =>
    obtain ⟨readable, shallow, rfl⟩ := configuredRules_eq_ok_iff.mp configured
    rw [and_iff_right readable, and_iff_right shallow]
    exact ⟨Except.ok.inj, congrArg Except.ok⟩

/-- The lines that a filter goes by: those of the ignore file that are in use, and the patterns of the configuration. -/
def allLines (tree : FileTree) (root : Path) (patterns : List String) (disableIgnoreFile : Bool) : List (List Char) :=
  linesInUse tree root disableIgnoreFile ++ patterns.map String.toList

/-- When no line is negated, a path below the root is excluded just when the rule of some line reaches it. -/
lemma excludes_iff (made : make tree root patterns disableIgnoreFile = .ok filter)
    (plain : ∀ line ∈ allLines tree root patterns disableIgnoreFile, ¬ IsNegated line) (current : FileTree) (p : Path) :
    filter.excludes current p ↔ p.isBelow root ∧
      ∃ line ∈ allLines tree root patterns disableIgnoreFile, ∃ rule, Rule.ofLine? line = .ok (some rule) ∧
        rule.Reaches ((RuleList.make root []).localPath p) (current.isDirectory p) := by
  obtain ⟨_, _, rfl⟩ := make_eq_ok_iff.mp made
  have never (chosen : List (List Char)) (part : chosen ⊆ allLines tree root patterns disableIgnoreFile) :
      ∀ rule ∈ rulesOf chosen, rule.keeps = false := by
    intro rule mem
    obtain ⟨line, mem, stated⟩ := mem_rulesOf_iff.mp mem
    exact Rule.keeps_eq_false (plain line (part mem)) stated
  have speaks (chosen : List (List Char)) (part : chosen ⊆ allLines tree root patterns disableIgnoreFile) :
      (RuleList.make root (rulesOf chosen)).excludes p (current.isDirectory p) ↔
        ∃ line ∈ chosen, ∃ rule, Rule.ofLine? line = .ok (some rule) ∧
          rule.Reaches ((RuleList.make root []).localPath p) (current.isDirectory p) := by
    rw [RuleList.excludes_iff (never chosen part)]
    constructor
    · rintro ⟨rule, mem, reaches⟩
      obtain ⟨line, mem, stated⟩ := mem_rulesOf_iff.mp mem
      exact ⟨line, mem, rule, stated, reaches⟩
    · rintro ⟨line, mem, rule, stated, reaches⟩
      exact ⟨rule, mem_rulesOf_iff.mpr ⟨line, mem, stated⟩, reaches⟩
  rw [excludes, Bool.and_eq_true, Bool.or_eq_true, speaks _ (List.subset_append_left _ _),
    speaks _ (List.subset_append_right _ _)]
  refine and_congr_right fun _ => ?_
  simp only [allLines, List.mem_append, or_and_right, exists_or]

end Filter

end FigureGallery.Exclusion
