import ApiIndex.Files.Path
import Mathlib.Data.List.Basic
import Mathlib.Order.Compare

namespace ApiIndex.Files

/-!
# Components of paths

The order of paths is a linear order of their components.  The components of a
path are its pieces without those that do not count, so a name that is put
behind a path is one more component, and names between slashes can be told
apart.
-/

section Order

namespace Component

/-- The text by which components of one rank are compared. -/
def label : Component → String
  | .name text => text
  | _ => ""

/-- Components are compared by rank and then by label. -/
theorem compare_eq :
    compare = compareLex (compareOn rank) (compareOn label) := by
  funext left right
  cases left <;> cases right <;> rfl

instance : Std.TransCmp compare := by
  rw [compare_eq]
  infer_instance

instance : Std.LawfulEqCmp compare where
  eq_of_compare := by
    intro left right same
    rw [compare_eq, compareLex, Ordering.then_eq_eq] at same
    obtain ⟨sameRank, sameLabel⟩ := same
    have ranks : left.rank = right.rank :=
      Std.LawfulEqOrd.eq_of_compare sameRank
    have labels : left.label = right.label :=
      Std.LawfulEqOrd.eq_of_compare sameLabel
    cases left <;> cases right <;> simp_all [rank, label]

end Component

/-- Paths are compared like words. -/
theorem comparePaths_eq :
    comparePaths = List.compareLex Component.compare := by
  funext left right
  induction left generalizing right with
  | nil =>
      cases right <;> rfl
  | cons component left inductionHypothesis =>
      cases right with
      | nil =>
          rfl
      | cons other right =>
          rw [comparePaths, List.compareLex_cons_cons, inductionHypothesis]

instance : Std.TransCmp comparePaths := by
  rw [comparePaths_eq]
  infer_instance

instance : Std.LawfulEqCmp comparePaths := by
  rw [comparePaths_eq]
  infer_instance

/-- One path comes before another. -/
def Precedes
    (left right : List Component) :
    Prop :=
  comparePaths left right = .lt

instance : Std.Irrefl Precedes where
  irrefl := by
    intro path before
    have same := @Std.ReflCmp.compare_self _ comparePaths _ path
    rw [before] at same
    contradiction

instance : Std.Antisymm Precedes where
  antisymm := by
    intro left right before after
    have same := @Std.ReflCmp.compare_self _ comparePaths _ left
    have both : comparePaths left left = .lt :=
      Std.TransCmp.lt_trans before after
    rw [both] at same
    contradiction

end Order

section Pieces

variable {text left right : List Char} {names : List (List Char)}

/-- A text has a first piece. -/
theorem exists_pieces
    (text : List Char) :
    ∃ first more, pieces text = first :: more := by
  induction text with
  | nil =>
      exact ⟨[], [], rfl⟩
  | cons character rest inductionHypothesis =>
      obtain ⟨first, more, split⟩ := inductionHypothesis
      rw [pieces, split]
      by_cases slash : character = '/'
      · exact ⟨[], first :: more, if_pos slash⟩
      · exact ⟨character :: first, more, if_neg slash⟩

/-- A slash ends a piece. -/
theorem pieces_slash
    (rest : List Char) :
    pieces ('/' :: rest) = [] :: pieces rest := by
  obtain ⟨first, more, split⟩ := exists_pieces rest
  rw [pieces, split]
  exact if_pos rfl

/-- A character that is no slash belongs to the first piece. -/
theorem pieces_cons
    {character : Char}
    {first : List Char}
    {more : List (List Char)}
    (noSlash : character ≠ '/')
    (split : pieces text = first :: more) :
    pieces (character :: text) = (character :: first) :: more := by
  rw [pieces, split]
  exact if_neg noSlash

/-- The pieces on both sides of a slash. -/
theorem pieces_append_slash
    (left right : List Char) :
    pieces (left ++ '/' :: right) = pieces left ++ pieces right := by
  induction left with
  | nil =>
      exact pieces_slash right
  | cons character left inductionHypothesis =>
      by_cases slash : character = '/'
      · subst character
        rw [List.cons_append, pieces_slash, inductionHypothesis, pieces_slash]
        rfl
      · obtain ⟨first, more, split⟩ := exists_pieces left
        rw [split] at inductionHypothesis
        rw [List.cons_append, pieces_cons slash split,
          pieces_cons slash inductionHypothesis]
        rfl

/-- A text without a slash is one piece. -/
theorem pieces_of_noSlash
    (noSlash : '/' ∉ text) :
    pieces text = [text] := by
  induction text with
  | nil =>
      rfl
  | cons character rest inductionHypothesis =>
      rw [List.mem_cons, not_or] at noSlash
      exact pieces_cons (Ne.symm noSlash.1) (inductionHypothesis noSlash.2)

/-- Texts without a slash are found again between the slashes. -/
theorem pieces_intercalate
    (nonempty : names ≠ [])
    (noSlash : ∀ name ∈ names, '/' ∉ name) :
    pieces (['/'].intercalate names) = names := by
  induction names with
  | nil =>
      contradiction
  | cons name names inductionHypothesis =>
      have single := pieces_of_noSlash (noSlash name List.mem_cons_self)
      cases names with
      | nil =>
          rw [List.intercalate_singleton, single]
      | cons next rest =>
          have others :=
            inductionHypothesis (List.cons_ne_nil next rest)
              fun other member =>
                noSlash other (List.mem_cons_of_mem name member)
          rw [List.intercalate_cons_cons, List.append_assoc,
            List.singleton_append, pieces_append_slash, single, others]
          rfl

end Pieces

/-- A name that can stand for one entry of a directory: it is one piece of a
path, and not one that leads nowhere or up. -/
structure IsName
    (name : String) : Prop where
  nonempty : name ≠ ""
  noSlash : '/' ∉ name.toList
  notHere : name ≠ "."
  notUp : name ≠ ".."

section Components

variable {path name : String} {first : List Char} {more : List (List Char)}

/-- The component of the first piece of a path: nothing before a slash is the
root, and a dot stays. -/
def firstComponent?
    (only : Bool)
    (piece : List Char) :
    Option Component :=
  if piece = [] then
    if only then
      none
    else
      some .root
  else if piece = ['.'] then
    some .here
  else
    innerComponent? piece

/-- Nothing stands before the first slash only if it starts the path. -/
theorem exists_slash_of_pieces
    {text : List Char}
    (split : pieces text = [] :: more) :
    text = [] ∧ more = [] ∨ ∃ rest, text = '/' :: rest := by
  cases text with
  | nil =>
      exact .inl ⟨rfl, (List.cons.inj split).2.symm⟩
  | cons character rest =>
      by_cases slash : character = '/'
      · exact .inr ⟨rest, slash ▸ rfl⟩
      · obtain ⟨next, others, splitRest⟩ := exists_pieces rest
        rw [pieces_cons slash splitRest] at split
        simp at split

/-- The components of a path from its pieces. -/
theorem components_of_pieces
    (split : pieces path.toList = first :: more) :
    components path =
      (firstComponent? more.isEmpty first).toList ++
        more.filterMap innerComponent? := by
  unfold components
  split
  · rename_i rest isText
    rw [isText, pieces_slash] at split
    obtain ⟨rfl, rfl⟩ := List.cons.inj split
    obtain ⟨next, others, isRest⟩ := exists_pieces rest
    simp [firstComponent?, isRest]
  · rename_i noRoot
    rw [split]
    by_cases dot : first = ['.']
    · subst dot
      rfl
    · have inner :
          firstComponent? more.isEmpty first = innerComponent? first := by
        by_cases empty : first = []
        · subst empty
          rcases exists_slash_of_pieces split with ⟨-, rfl⟩ | ⟨rest, isText⟩
          · rfl
          · exact absurd isText (noRoot rest)
        · rw [firstComponent?, if_neg empty, if_neg dot]
      rw [inner]
      split
      · rename_i isDot
        exact absurd (List.cons.inj isDot).1 dot
      · cases value : innerComponent? first <;> simp [value]

/-- A name is one piece, and the piece counts. -/
theorem IsName.counts
    (isName : IsName name) :
    pieces name.toList = [name.toList] ∧
    name.toList ≠ [] ∧ name.toList ≠ ['.'] ∧ name.toList ≠ ['.', '.'] := by
  obtain ⟨nonempty, noSlash, notHere, notUp⟩ := isName
  refine ⟨pieces_of_noSlash noSlash, ?_, ?_, ?_⟩
  · exact fun isEmpty => nonempty (String.toList_inj.mp isEmpty)
  · exact fun isHere => notHere (String.toList_inj.mp isHere)
  · exact fun isUp => notUp (String.toList_inj.mp isUp)

/-- A name is one component. -/
theorem IsName.innerComponent?_toList
    (isName : IsName name) :
    innerComponent? name.toList = some (.name name) := by
  obtain ⟨-, nonempty, notHere, notUp⟩ := isName.counts
  simp [innerComponent?, nonempty, notHere, notUp]

/-- The first piece of a path that is not empty counts as if more pieces
followed. -/
theorem firstComponent?_of_nonempty
    {text : List Char}
    (nonempty : text ≠ [])
    (split : pieces text = first :: more) :
    firstComponent? more.isEmpty first = firstComponent? false first := by
  by_cases empty : first = []
  · subst empty
    rcases exists_slash_of_pieces split with ⟨isEmpty, -⟩ | ⟨rest, rfl⟩
    · exact absurd isEmpty nonempty
    · obtain ⟨next, others, isRest⟩ := exists_pieces rest
      rw [pieces_slash, isRest] at split
      obtain ⟨-, rfl⟩ := List.cons.inj split
      rfl
  · simp [firstComponent?, empty]

/-- A name as the last piece is one more component. -/
theorem components_of_last_piece
    {joined : String}
    {rest : List (List Char)}
    (isName : IsName name)
    (nonempty : path.toList ≠ [])
    (split : pieces path.toList = first :: rest)
    (splitJoined :
      pieces joined.toList = first :: (more ++ [name.toList]))
    (sameInner :
      rest.filterMap innerComponent? = more.filterMap innerComponent?) :
    components joined = components path ++ [.name name] := by
  have notOnly : (more ++ [name.toList]).isEmpty = false := by
    simp
  rw [components_of_pieces split, components_of_pieces splitJoined, notOnly,
    firstComponent?_of_nonempty nonempty split, sameInner]
  simp [isName.innerComponent?_toList]

/-- A name behind a path is one more component. -/
theorem components_join
    (path : String)
    (isName : IsName name) :
    components (join path name) = components path ++ [.name name] := by
  obtain ⟨single, nonempty, notHere, -⟩ := isName.counts
  unfold join
  split
  · rename_i noLast
    have isEmpty : path = "" :=
      String.toList_inj.mp (List.getLast?_eq_none_iff.mp noLast)
    have noComponents : components "" = [] := rfl
    rw [isEmpty, components_of_pieces single, noComponents]
    simp [firstComponent?, nonempty, notHere, isName.innerComponent?_toList]
  · -- The path ends in a slash: its last piece is empty, and the name takes
    -- the place of it.
    rename_i lastSlash
    obtain ⟨before, isText⟩ := List.getLast?_eq_some_iff.mp lastSlash
    obtain ⟨first, more, splitBefore⟩ := exists_pieces before
    have split : pieces path.toList = first :: (more ++ [[]]) := by
      rw [isText, pieces_append_slash, splitBefore]
      rfl
    have splitJoined :
        pieces (path ++ name).toList = first :: (more ++ [name.toList]) := by
      rw [String.toList_append, isText, List.append_assoc,
        List.singleton_append, pieces_append_slash, splitBefore, single]
      rfl
    have sameInner :
        (more ++ [[]]).filterMap innerComponent? =
          more.filterMap innerComponent? := by
      rw [List.filterMap_append]
      exact List.append_nil _
    exact
      components_of_last_piece isName (by simp [isText]) split splitJoined
        sameInner
  · rename_i last _ hasLast
    obtain ⟨first, more, split⟩ := exists_pieces path.toList
    have splitJoined :
        pieces (path ++ "/" ++ name).toList =
          first :: (more ++ [name.toList]) := by
      have isText :
          (path ++ "/" ++ name).toList =
            path.toList ++ '/' :: name.toList := by
        simp
      rw [isText, pieces_append_slash, split, single]
      rfl
    have isSome : path.toList ≠ [] := by
      intro isEmpty
      rw [isEmpty] at hasLast
      contradiction
    exact components_of_last_piece isName isSome split splitJoined rfl

/-- The piece that a component is, if it takes a step. -/
def Component.piece? : Component → Option (List Char)
  | .root => none
  | .here => none
  | .up => some ['.', '.']
  | .name text => some text.toList

/-- Whether following a piece takes a step. -/
def isStep
    (piece : List Char) :
    Bool :=
  piece ≠ [] ∧ piece ≠ ['.']

/-- The component of a piece keeps the piece if it takes a step. -/
theorem innerComponent?_bind_piece?
    (piece : List Char) :
    (innerComponent? piece).bind Component.piece? =
      if isStep piece then some piece else none := by
  by_cases isUp : piece = ['.', '.']
  · subst isUp
    rfl
  · by_cases noStep : piece = [] ∨ piece = ['.']
    · rcases noStep with rfl | rfl <;> rfl
    · rw [innerComponent?, if_neg noStep, if_neg isUp]
      rw [not_or] at noStep
      simp [Component.piece?, isStep, noStep]

/-- The steps of a path can be read off its components. -/
theorem filterMap_piece?_components
    (path : String) :
    (components path).filterMap Component.piece? =
      (pieces path.toList).filter isStep := by
  have later
      (all : List (List Char)) :
      (all.filterMap innerComponent?).filterMap Component.piece? =
        all.filter isStep := by
    simp only [List.filterMap_filterMap, innerComponent?_bind_piece?]
    exact congrFun List.filterMap_eq_filter all
  obtain ⟨first, more, split⟩ := exists_pieces path.toList
  rw [components_of_pieces split, split, List.filterMap_append, later]
  have atFirst :
      (firstComponent? more.isEmpty first).toList.filterMap
          Component.piece? =
        [first].filter isStep := by
    by_cases empty : first = []
    · subst empty
      cases more <;> rfl
    · by_cases dot : first = ['.']
      · subst dot
        rfl
      · rw [firstComponent?, if_neg empty, if_neg dot, ← later]
        rfl
  rw [atFirst, ← List.filter_append]
  rfl

end Components

end ApiIndex.Files
