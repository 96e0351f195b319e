import ApiIndex.Files.Tree
import ApiIndex.Proofs.Files.Path

namespace ApiIndex.Files

/-!
# Resolving paths

A path is resolved piece by piece.  What one piece does depends on the place
alone; the number of links only decides whether a link may still be followed.
So a path that resolves can be cut anywhere, and pieces that take no step can be
left out.  Hence paths with the same components lead to the same place, if they
lead anywhere.
-/

namespace FileSystem

/-- What a piece stands for at a place: another place, or a link. -/
inductive Move where
  | step (next : Place)
  | link (target : String)

/-- What a piece does at a place. -/
def move
    (system : FileSystem)
    (place : Place)
    (piece : List Char) :
    Except Fault Move :=
  match system.entry? place with
  | some (.directory entries) =>
      if isStep piece then
        if piece = ['.', '.'] then
          .ok (.step place.tail)
        else
          match (Entry.directory entries).child? (String.ofList piece) with
          | none =>
              .error .notFound
          | some (.link target) =>
              .ok (.link target)
          | some _ =>
              .ok (.step (String.ofList piece :: place))
      else
        .ok (.step place)
  | _ =>
      .error .notDirectory

/-- Following a path is one move and the rest of the way. -/
theorem follow_cons
    (system : FileSystem)
    (links : Nat)
    (place : Place)
    (piece : List Char)
    (rest : List (List Char)) :
    system.follow links place (piece :: rest) =
      match system.move place piece with
      | .error fault =>
          .error fault
      | .ok (.step next) =>
          system.follow links next rest
      | .ok (.link target) =>
          match links with
          | 0 =>
              .error .tooManyLinks
          | left + 1 =>
              if target.isEmpty then
                .error .notFound
              else
                system.follow left (origin place target.toList)
                  (pieces target.toList ++ rest) := by
  cases isHere : system.entry? place with
  | none =>
      simp only [follow, move, isHere]
  | some entry =>
      cases entry with
      | file content =>
          simp only [follow, move, isHere]
      | link target =>
          simp only [follow, move, isHere]
      | directory entries =>
          by_cases stays : piece = [] ∨ piece = ['.']
          · have noStep : isStep piece = false := by
              simpa [isStep, imp_iff_not_or] using stays
            simp only [follow, move, isHere, if_pos stays, noStep,
              Bool.false_eq_true, ↓reduceIte]
          · have counts : isStep piece = true := by
              simpa [isStep] using stays
            by_cases rises : piece = ['.', '.']
            · simp only [follow, move, isHere, if_neg stays, if_pos rises,
                if_pos counts]
            · simp only [follow, move, isHere, if_neg stays, if_neg rises,
                if_pos counts]
              cases isChild :
                (Entry.directory entries).child? (String.ofList piece) with
              | none =>
                  rfl
              | some child =>
                  cases child <;> rfl

/-- A path leads from one place to another within a number of links. -/
inductive Follows
    (system : FileSystem) :
    Nat → Place → List (List Char) → Place → Prop where
  | done
      {links : Nat}
      {place : Place} :
      Follows system links place [] place
  | step
      {links : Nat}
      {place next last : Place}
      {piece : List Char}
      {rest : List (List Char)}
      (moves : system.move place piece = .ok (.step next))
      (follows : Follows system links next rest last) :
      Follows system links place (piece :: rest) last
  | link
      {links : Nat}
      {place last : Place}
      {piece : List Char}
      {target : String}
      {rest : List (List Char)}
      (moves : system.move place piece = .ok (.link target))
      (nonempty : target.isEmpty = false)
      (follows :
        Follows system links (origin place target.toList)
          (pieces target.toList ++ rest) last) :
      Follows system (links + 1) place (piece :: rest) last

/-- A path that resolves leads to where it is resolved. -/
theorem follows_of_follow
    {system : FileSystem}
    {links : Nat}
    {place last : Place}
    {path : List (List Char)}
    (found : system.follow links place path = .ok last) :
    Follows system links place path last := by
  -- A link lengthens the path but takes one link off, so the induction is on
  -- the links first.
  induction links using Nat.strongRecOn generalizing place path with
  | ind links fewerLinks =>
      induction path generalizing place with
      | nil =>
          rw [follow] at found
          cases found
          exact .done
      | cons piece rest shorter =>
          rw [follow_cons] at found
          cases moves : system.move place piece with
          | error fault =>
              rw [moves] at found
              contradiction
          | ok move =>
              rw [moves] at found
              cases move with
              | step next =>
                  exact .step moves (shorter found)
              | link target =>
                  cases links with
                  | zero =>
                      contradiction
                  | succ left =>
                      cases empty : target.isEmpty with
                      | true =>
                          simp [empty] at found
                      | false =>
                          simp only [empty, Bool.false_eq_true, ↓reduceIte]
                            at found
                          exact
                            .link moves empty
                              (fewerLinks left (Nat.lt_succ_self left) found)

namespace Follows

variable
  {system : FileSystem}
  {links : Nat}
  {place last other : Place}
  {path more trimmed : List (List Char)}

/-- A path is resolved to where it leads. -/
theorem follow_eq
    (follows : Follows system links place path last) :
    system.follow links place path = .ok last := by
  induction follows with
  | done =>
      rw [follow]
  | step moves _ inductionHypothesis =>
      rw [follow_cons, moves]
      exact inductionHypothesis
  | link moves nonempty _ inductionHypothesis =>
      rw [follow_cons, moves]
      simp only [nonempty, Bool.false_eq_true, ↓reduceIte]
      exact inductionHypothesis

/-- A path leads to one place only. -/
theorem unique
    (follows : Follows system links place path last)
    (followsOther : Follows system links place path other) :
    last = other :=
  Except.ok.inj (follows.follow_eq.symm.trans followsOther.follow_eq)

/-- One more link does no harm. -/
theorem succ
    (follows : Follows system links place path last) :
    Follows system (links + 1) place path last := by
  induction follows with
  | done =>
      exact .done
  | step moves _ inductionHypothesis =>
      exact .step moves inductionHypothesis
  | link moves nonempty _ inductionHypothesis =>
      exact .link moves nonempty inductionHypothesis

/-- A path that leads somewhere can be cut anywhere. -/
theorem split
    (follows : Follows system links place (path ++ more) last) :
    ∃ middle, Follows system links place path middle ∧
      Follows system links middle more last := by
  generalize whole : path ++ more = all at follows
  induction follows generalizing path with
  | done =>
      rw [List.append_eq_nil_iff] at whole
      obtain ⟨rfl, rfl⟩ := whole
      exact ⟨_, .done, .done⟩
  | @step links place next last piece rest moves follows inductionHypothesis =>
      rcases List.append_eq_cons_iff.mp whole with
        ⟨rfl, rfl⟩ | ⟨others, rfl, isRest⟩
      · exact ⟨place, .done, .step moves follows⟩
      · obtain ⟨middle, before, after⟩ := inductionHypothesis isRest.symm
        exact ⟨middle, .step moves before, after⟩
  | @link links place last piece target rest moves nonempty follows
      inductionHypothesis =>
      rcases List.append_eq_cons_iff.mp whole with
        ⟨rfl, rfl⟩ | ⟨others, rfl, isRest⟩
      · exact ⟨place, .done, .link moves nonempty follows⟩
      · rw [isRest, ← List.append_assoc] at inductionHypothesis
        obtain ⟨middle, before, after⟩ := inductionHypothesis rfl
        -- Behind the cut all links may be followed again.
        exact ⟨middle, .link moves nonempty before, after.succ⟩

/-- Some pieces that take no step are left out. -/
inductive Trimmed :
    List (List Char) → List (List Char) → Prop where
  | nil :
      Trimmed [] []
  | skip
      {piece : List Char}
      {path trimmed : List (List Char)}
      (noStep : isStep piece = false)
      (rest : Trimmed path trimmed) :
      Trimmed (piece :: path) trimmed
  | keep
      {piece : List Char}
      {path trimmed : List (List Char)}
      (rest : Trimmed path trimmed) :
      Trimmed (piece :: path) (piece :: trimmed)

/-- Pieces may be left out behind the target of a link. -/
theorem Trimmed.behind
    (isTrimmed : Trimmed path trimmed)
    (target : List (List Char)) :
    Trimmed (target ++ path) (target ++ trimmed) := by
  induction target with
  | nil =>
      exact isTrimmed
  | cons piece target inductionHypothesis =>
      exact .keep inductionHypothesis

/-- All pieces that take no step may be left out. -/
theorem trimmed_filter
    (path : List (List Char)) :
    Trimmed path (path.filter isStep) := by
  induction path with
  | nil =>
      exact .nil
  | cons piece path inductionHypothesis =>
      cases step : isStep piece with
      | true =>
          rw [List.filter_cons_of_pos step]
          exact .keep inductionHypothesis
      | false =>
          rw [List.filter_cons_of_neg (by simp [step])]
          exact .skip step inductionHypothesis

/-- A piece that takes no step stays at the place. -/
theorem move_of_noStep
    {piece : List Char}
    {move : Move}
    (noStep : isStep piece = false)
    (moves : system.move place piece = .ok move) :
    move = .step place := by
  unfold FileSystem.move at moves
  split at moves
  · rw [noStep, if_neg Bool.false_ne_true] at moves
    exact (Except.ok.inj moves).symm
  · contradiction

/-- A path leads to the same place without pieces that take no step. -/
theorem trim
    (follows : Follows system links place path last)
    (isTrimmed : Trimmed path trimmed) :
    Follows system links place trimmed last := by
  induction follows generalizing trimmed with
  | done =>
      cases isTrimmed
      exact .done
  | step moves _ inductionHypothesis =>
      cases isTrimmed with
      | skip noStep rest =>
          cases move_of_noStep noStep moves
          exact inductionHypothesis rest
      | keep rest =>
          exact .step moves (inductionHypothesis rest)
  | link moves nonempty _ inductionHypothesis =>
      cases isTrimmed with
      | skip noStep rest =>
          cases move_of_noStep noStep moves
      | keep rest =>
          -- The target of the link comes in front and stays as it is.
          exact .link moves nonempty (inductionHypothesis (rest.behind _))

end Follows

section Components

variable {system : FileSystem} {path : String} {place last other : Place}

/-- Where following components starts. -/
def start
    (place : Place) :
    List Component →
      Place
  | .root :: _ =>
      []
  | _ =>
      place

/-- Only a slash at the start of a path makes it start at the root. -/
theorem start_filterMap_innerComponent?
    (place : Place)
    (all : List (List Char)) :
    start place (all.filterMap innerComponent?) = place := by
  cases isInner : all.filterMap innerComponent? with
  | nil =>
      rfl
  | cons component rest =>
      have member : component ∈ all.filterMap innerComponent? := by
        rw [isInner]
        exact List.mem_cons_self
      obtain ⟨piece, -, isComponent⟩ := List.mem_filterMap.mp member
      cases component with
      | root =>
          unfold innerComponent? at isComponent
          split at isComponent
          · cases isComponent
          · split at isComponent <;> cases isComponent
      | here =>
          rfl
      | up =>
          rfl
      | name text =>
          rfl

/-- A path and its components start at the same place. -/
theorem origin_eq_start
    (place : Place)
    (path : String) :
    origin place path.toList = start place (components path) := by
  unfold components
  split
  · rename_i rest isText
    rw [isText]
    rfl
  · rename_i noRoot
    have atPlace : origin place path.toList = place := by
      unfold origin
      split
      · rename_i rest isText
        exact absurd isText (noRoot rest)
      · rfl
    rw [atPlace]
    split
    · rfl
    · exact (start_filterMap_innerComponent? place _).symm

/-- Components lead from the working directory to a place. -/
def LeadsTo
    (system : FileSystem)
    (path : List Component)
    (place : Place) :
    Prop :=
  Follows system linkLimit (start system.workingDirectory path)
    (path.filterMap Component.piece?) place

/-- A path leads where its components lead. -/
theorem leadsTo_of_resolveFrom
    (found :
      system.resolveFrom system.workingDirectory path = .ok place) :
    LeadsTo system (components path) place := by
  unfold resolveFrom at found
  split at found
  · contradiction
  · rw [LeadsTo, filterMap_piece?_components, ← origin_eq_start]
    exact (follows_of_follow found).trim (Follows.trimmed_filter _)

/-- Names behind components lead on from the place that the components lead
to. -/
theorem LeadsTo.follows_names
    {path : List Component}
    {names : List String}
    (leads : LeadsTo system (path ++ names.map .name) last)
    (leadsBefore : LeadsTo system path place) :
    Follows system linkLimit place (names.map String.toList) last := by
  have sameStart :
      start system.workingDirectory (path ++ names.map .name) =
        start system.workingDirectory path := by
    cases path with
    | nil =>
        cases names <;> rfl
    | cons component path =>
        cases component <;> rfl
  have steps :
      (names.map Component.name).filterMap Component.piece? =
        names.map String.toList := by
    rw [List.filterMap_map]
    exact congrFun List.filterMap_eq_map names
  rw [LeadsTo, sameStart, List.filterMap_append, steps] at leads
  obtain ⟨middle, before, after⟩ := leads.split
  rwa [before.unique leadsBefore] at after

end Components

end FileSystem

end ApiIndex.Files
