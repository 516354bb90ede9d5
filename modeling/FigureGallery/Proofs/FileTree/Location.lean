import FigureGallery.FileTree
import FigureGallery.Proofs.Path.Normal

/-!
# Locations as paths

Every absolute path in normal form is the path of a location, a list of plain names, and looking up the path of a
location leads to that location or nowhere. So two absolute paths in normal form lead to one place only when they are
equal.
-/

namespace FigureGallery

open FigureGallery.Path

/-- A location whose names can be written in a path. -/
def Location.IsPlain (location : Location) : Prop :=
  ∀ name ∈ location, Plain name.toList

instance (location : Location) : Decidable location.IsPlain :=
  inferInstanceAs (Decidable (∀ name ∈ location, Plain name.toList))

/-- The location of the directory of an entry is plain. -/
lemma Location.IsPlain.above {location : Location} {name : String} (plain : Location.IsPlain (location ++ [name])) :
    location.IsPlain :=
  fun n mem => plain n (List.mem_append_left _ mem)

/-- The name of an entry is plain. -/
lemma Location.IsPlain.last {location : Location} {name : String} (plain : Location.IsPlain (location ++ [name])) :
    Plain name.toList :=
  plain name (List.mem_append_right _ List.mem_cons_self)

namespace FileTree

/-- Below the top the parts of the path of a location are its names. -/
lemma split_pathOf_eq {location : Location} (plain : location.IsPlain) (below : location ≠ []) :
    (pathOf location).split = (.root, location.map String.toList) := by
  have noSlash : ∀ s ∈ location.map String.toList, '/' ∉ s := by
    intro s mem
    obtain ⟨name, hn, rfl⟩ := List.mem_map.mp mem
    exact (plain name hn).no_slash
  unfold split pathOf ofSplit
  rw [String.toList_ofList]
  exact congrArg (Prod.mk Lead.root) (segments_joinSegments (by simpa using below) noSlash)

/-- The beginning and the parts of the path of a location. -/
lemma split_pathOf {location : Location} (plain : location.IsPlain) :
    (pathOf location).split.1 = .root ∧ trimIdle (pathOf location).split.2 = location.map String.toList := by
  cases location with
  | nil => exact ⟨rfl, rfl⟩
  | cons name names =>
    rw [split_pathOf_eq plain (by simp)]
    refine ⟨rfl, trimIdle_eq_self fun s mem => ?_⟩
    obtain ⟨name, hn, rfl⟩ := List.mem_map.mp mem
    exact (plain name hn).not_idle

/-- The path of a location goes from the top along its names. -/
lemma components_pathOf {location : Location} (plain : location.IsPlain) :
    (pathOf location).components = .root :: location.map .name := by
  have names : (location.map String.toList).filterMap component? = location.map .name := by
    induction location with
    | nil => rfl
    | cons name names ih =>
      obtain ⟨hn, plain⟩ := List.forall_mem_cons.mp plain
      rw [List.map_cons, List.filterMap_cons_some hn.component?, ih plain, String.ofList_toList, List.map_cons]
  obtain ⟨root, parts⟩ := split_pathOf plain
  rw [components, root, ← filterMap_trimIdle, parts, names]
  rfl

/-- A folded path from the top is made of plain names. -/
lemma names_of_folded {stack : List Component} (folded : Folded true stack) :
    ∃ names : Location, names.IsPlain ∧ stack = names.map .name := by
  generalize e : true = rooted at folded
  induction folded with
  | ups n h =>
    obtain rfl := h e.symm
    exact ⟨[], by simp [Location.IsPlain], rfl⟩
  | @name _ s plain _ ih =>
    obtain ⟨names, names_plain, rfl⟩ := ih
    exact ⟨s :: names, List.forall_mem_cons.mpr ⟨plain, names_plain⟩, rfl⟩

/-- Plain names are folded. -/
lemma folded_of_names (rooted : Bool) {names : Location} (plain : names.IsPlain) :
    Folded rooted (names.map .name) := by
  induction names with
  | nil => exact .nil
  | cons name names ih =>
    obtain ⟨hn, plain⟩ := List.forall_mem_cons.mp plain
    exact .name hn (ih plain)

/-- The normal form of an absolute path is the path of a location. -/
lemma exists_normalize_eq_pathOf {p : Path} (absolute : p.isAbsolute) :
    ∃ location : Location, location.IsPlain ∧ p.normalize = pathOf location := by
  have folded := folded_foldedSteps p
  rw [absolute] at folded
  obtain ⟨names, plain, e⟩ := names_of_folded folded
  refine ⟨names.reverse, fun name mem => plain name (List.mem_reverse.mp mem), ?_⟩
  have steps : p.foldedSteps = names.reverse.map .name := by
    rw [List.map_reverse, ← e, List.reverse_reverse]
  rw [Path.normalize, if_pos absolute, steps, List.map_map]
  rfl

/-- The path of a location is absolute. -/
lemma isAbsolute_pathOf (location : Location) : (pathOf location).isAbsolute := by
  simp [isAbsolute, pathOf, ofSplit]

/-- The path of a location is in normal form. -/
lemma normalize_pathOf {location : Location} (plain : location.IsPlain) :
    (pathOf location).normalize = pathOf location := by
  have reversed : Location.IsPlain location.reverse := fun name mem => plain name (List.mem_reverse.mp mem)
  have folded := (folded_of_names true reversed).foldl_reverse
  rw [List.map_reverse, List.reverse_reverse] at folded
  have steps : (pathOf location).foldedSteps = location.map .name := by
    rw [foldedSteps, isAbsolute_pathOf, components_pathOf plain, List.foldl_cons, foldStep, folded,
      List.reverse_reverse]
  rw [Path.normalize, if_pos (isAbsolute_pathOf location), steps, List.map_map]
  rfl

/-- The top has no file name. -/
lemma fileName?_pathOf_nil : (pathOf []).fileName? = none := by
  have plain : Location.IsPlain [] := by simp [Location.IsPlain]
  rw [fileName?, (split_pathOf plain).2]
  rfl

/-- The file name of a location is its last name. -/
lemma fileName?_pathOf_concat {location : Location} {name : String} (plain : Location.IsPlain (location ++ [name])) :
    (pathOf (location ++ [name])).fileName? = some name := by
  have hn := plain.last
  rw [fileName?, (split_pathOf plain).2, List.map_append, List.map_singleton, List.getLast?_concat]
  simp [hn.not_up]

/-- Nothing is above the top. -/
lemma parent?_pathOf_nil : (pathOf []).parent? = none := by
  have plain : Location.IsPlain [] := by simp [Location.IsPlain]
  obtain ⟨root, parts⟩ := split_pathOf plain
  rw [parent?, parts, root]
  rfl

/-- Above the path of a location is that of the location without its last name. -/
lemma parent?_pathOf_concat {location : Location} {name : String} (plain : Location.IsPlain (location ++ [name])) :
    (pathOf (location ++ [name])).parent? = some (pathOf location) := by
  have above : ∀ s ∈ location.map String.toList, isIdle s = false := by
    intro s mem
    obtain ⟨name, hn, rfl⟩ := List.mem_map.mp mem
    exact (plain name (List.mem_append_left _ hn)).not_idle
  obtain ⟨root, parts⟩ := split_pathOf plain
  rw [parent?, parts, root, List.map_append, List.map_singleton, List.reverse_concat]
  simp only [List.reverse_reverse, trimIdle_eq_self above]
  rfl

/-- The directory of a location lacks its last name. -/
lemma directory_pathOf_concat {location : Location} {name : String} (plain : Location.IsPlain (location ++ [name])) :
    (pathOf (location ++ [name])).directory = pathOf location := by
  rw [directory, parent?_pathOf_concat plain, Option.getD_some]

/-- The paths above the path of a location are those of the locations above it. -/
lemma exists_of_mem_ancestors {location : Location} (plain : location.IsPlain) {p : Path}
    (mem : p ∈ (pathOf location).ancestors) : ∃ above : Location, above.IsPlain ∧ p = pathOf above := by
  rw [ancestors] at mem
  generalize (pathOf location).components.length = n at mem
  induction n generalizing location with
  | zero => simp [ancestorsUpTo] at mem
  | succ n ih =>
    rw [ancestorsUpTo] at mem
    obtain rfl | ⟨init, last, rfl⟩ := List.eq_nil_or_concat location
    · simp [parent?_pathOf_nil] at mem
    · rw [List.concat_eq_append] at plain mem
      have above := plain.above
      rw [parent?_pathOf_concat plain] at mem
      obtain rfl | mem := List.mem_cons.mp mem
      · exact ⟨init, above, rfl⟩
      · exact ih above mem

/-- A path as a project sees it: that of a location, or the empty one. -/
inductive IsSeen : Path → Prop where
  | empty :
    IsSeen ⟨""⟩
  | pathOf {location : Location} :
    location.IsPlain →
    IsSeen (pathOf location)

/-- The path of a location is below another when the location starts with the other. -/
lemma isBelow_pathOf_iff {location above : Location} (plain : location.IsPlain) (plain' : above.IsPlain) :
    (pathOf location).isBelow (pathOf above) ↔ above <+: location := by
  have names : Function.Injective Component.name := fun _ _ e => Component.name.inj e
  rw [isBelow, List.isPrefixOf_iff_prefix, components_pathOf plain, components_pathOf plain', List.cons_prefix_cons,
    List.prefix_map_iff_of_injective names, and_iff_right rfl]

/-- The empty path is below no location. -/
lemma not_isBelow_pathOf {location : Location} (plain : location.IsPlain) : ¬ (⟨""⟩ : Path).isBelow (pathOf location) := by
  rw [isBelow, List.isPrefixOf_iff_prefix, components_pathOf plain, components_eq_nil.mpr rfl]
  simp

lemma isDirectory_empty (tree : FileTree) : tree.isDirectory ⟨""⟩ = false := by
  simp [isDirectory, node?, locate, start, Except.bind]

/-- One more name is written behind a slash. -/
lemma toList_pathOf_concat (location : Location) (name : String) :
    (pathOf (location ++ [name])).text.toList =
      (if location = [] then [] else (pathOf location).text.toList) ++ '/' :: name.toList := by
  rw [pathOf, ofSplit, String.toList_ofList, List.map_append, List.map_singleton]
  split
  · rename_i h
    simp [h]
  · rename_i h
    rw [joinSegments_concat (by simpa using h), pathOf, ofSplit, String.toList_ofList, List.cons_append]

/-- A name in the directory of a location. -/
lemma join_pathOf {location : Location} (plain : location.IsPlain) {name : String} (hn : Plain name.toList) :
    (pathOf location).join ⟨name⟩ = pathOf (location ++ [name]) := by
  have relative := hn.not_isAbsolute
  have text : ((pathOf location).join ⟨name⟩).text.toList = (pathOf (location ++ [name])).text.toList := by
    rw [toList_pathOf_concat]
    obtain rfl | ⟨init, last, rfl⟩ := List.eq_nil_or_concat location
    · simp [join, relative, pathOf, ofSplit]
    · rw [List.concat_eq_append] at plain ⊢
      have ends : (pathOf (init ++ [last])).text.toList.getLast?.all (· == '/') = false := by
        have hl := plain.last
        obtain e | ⟨cs, c, e⟩ := List.eq_nil_or_concat last.toList
        · exact absurd e hl.ne_nil
        · have hc : c ≠ '/' := by
            rintro rfl
            exact hl.no_slash (by simp [e])
          have last : ('/' :: (cs ++ [c])).getLast? = some c := by
            rw [← List.cons_append, List.getLast?_concat]
          simp [toList_pathOf_concat, e, hc, last]
      simp [join, relative, ends]
  exact Path.mk.injEq _ _ ▸ String.toList_inj.mp text

end FileTree

end FigureGallery
