import ApiIndex.Proofs.Bracket.Marks
import Mathlib.Data.List.Forall2
import Mathlib.Data.List.Induction

namespace ApiIndex.Bracket

open ApiIndex.Text

/-!
# Questions to a scan

A scan answers with offsets.  Each answer is described by a division of the
text: the first and the last occurrence of a character at top level, the pieces
between the occurrences of a separator, and the closer of an opener.

The descriptions speak of the text alone.  That every text has such a division
is proved beside them, so an answer is computed by dividing the text and
rewriting with the division.
-/

/-- Nowhere in the text does the character occur at top level. -/
def NoneTop
    (character : Char)
    (text : List Char) :
    Prop :=
  ∀ before after,
    text = before ++ character :: after → ¬ Level before

/-- A division of a text at all occurrences of a separator at top level. -/
structure Pieces
    (separator : Char)
    (text : List Char)
    (pieces : List (List Char)) : Prop where
  nonempty : pieces ≠ []
  joined : text = [separator].intercalate pieces
  level : ∀ piece ∈ pieces, Level piece
  whole : ∀ piece ∈ pieces, NoneTop separator piece

/-- A character that does not occur at all does not occur at top level. -/
theorem NoneTop.of_not_mem
    {character : Char}
    {text : List Char}
    (absent : character ∉ text) :
    NoneTop character text := by
  rintro before after rfl
  simp at absent

/-- Behind a level text, only the occurrences in the rest count. -/
theorem NoneTop.append
    {character : Char}
    {left right : List Char}
    (leftLevel : Level left)
    (leftNone : NoneTop character left)
    (rightNone : NoneTop character right) :
    NoneTop character (left ++ right) := by
  intro before after shape level
  rcases List.append_eq_append_iff.mp shape with
      ⟨between, rfl, rightShape⟩ | ⟨between, leftShape, restShape⟩
  · exact rightNone between after rightShape
      ((Level.append_iff leftLevel).mp level)
  · cases between with
    | nil =>
        exact rightNone [] after (by simpa using restShape.symm) .nil
    | cons first between =>
        obtain ⟨rfl, rfl⟩ := List.cons.inj restShape
        exact leftNone before between leftShape level

/-- Behind a level text, nothing stands at top level that does not do so in
the whole. -/
theorem NoneTop.of_append
    {character : Char}
    {left middle right : List Char}
    (noneTop : NoneTop character (left ++ middle ++ right))
    (leftLevel : Level left) :
    NoneTop character middle := by
  rintro before after rfl level
  exact noneTop (left ++ before) (after ++ right) (by simp)
    ((Level.append_iff leftLevel).mpr level)

/-- Between two brackets nothing but the opener stands at top level. -/
theorem NoneTop.wrap
    {character : Char}
    {interior : List Char}
    {family : Family}
    (covered : Covered family interior)
    (notOpener : character ≠ family.opener) :
    NoneTop character
      (family.opener :: interior ++ [family.closer]) := by
  intro before after shape level
  cases before with
  | nil =>
      exact notOpener (List.cons.inj shape).1.symm
  | cons first before =>
      simp only [List.cons_append, List.cons.injEq] at shape
      obtain ⟨rfl, insideShape⟩ := shape
      have short : before.length ≤ interior.length := by
        have lengths := congrArg List.length insideShape
        simp only [List.length_append, List.length_cons,
          List.length_nil] at lengths
        omega
      have isFront : before <+: interior :=
        List.prefix_of_prefix_length_le
          ⟨character :: after, insideShape.symm⟩
          (List.prefix_append interior [family.closer]) short
      have enough := covered before isFront
      have equal := level family
      simp only [openers_cons_opener, closers_cons_opener,
        ↓reduceIte] at equal
      omega

/-- A separator neither opens nor closes a family. -/
theorem neither_of_isSeparator
    {separator : Char}
    (separates : isSeparator separator = true) :
    Family.ofOpener? separator = none ∧
      Family.ofCloser? separator = none := by
  simp only [isSeparator, Bool.or_eq_true, beq_iff_eq] at separates
  rcases separates with (rfl | rfl) | rfl <;> decide

/-- One more character adds an occurrence at top level only if it is the
character and stands at top level. -/
theorem noneTop_append_singleton_iff
    {character last : Char}
    {text : List Char} :
    NoneTop character (text ++ [last]) ↔
      NoneTop character text ∧ ¬ (last = character ∧ Level text) := by
  constructor
  · intro noneTop
    refine ⟨?_, ?_⟩
    · rintro before after rfl
      exact noneTop before (after ++ [last]) (by simp)
    · rintro ⟨rfl, level⟩
      exact noneTop text [] rfl level
  · rintro ⟨noneTop, notLast⟩ before after shape level
    rcases List.eq_nil_or_concat after with rfl | ⟨others, final, rfl⟩
    · obtain ⟨rfl, same⟩ := List.append_inj' shape rfl
      exact notLast ⟨by simpa using same, level⟩
    · have shorter : text = before ++ character :: others := by
        have regrouped :
            text ++ [last] =
              (before ++ character :: others) ++ [final] := by
          simpa using shape
        exact (List.append_inj' regrouped rfl).1
      exact noneTop before others shorter level

/-- A character either does not occur at top level or has a first occurrence
there. -/
theorem noneTop_or_exists_first
    (character : Char)
    (text : List Char) :
    NoneTop character text ∨
      ∃ before after,
        text = before ++ character :: after ∧
          Level before ∧ NoneTop character before := by
  induction text using List.reverseRecOn with
  | nil =>
      exact .inl (.of_not_mem (by simp))
  | append_singleton text last inductionHypothesis =>
      rcases inductionHypothesis with
          noneTop | ⟨before, after, rfl, level, isFirst⟩
      · by_cases atLast : last = character ∧ Level text
        · obtain ⟨rfl, level⟩ := atLast
          exact .inr ⟨text, [], rfl, level, noneTop⟩
        · exact .inl
            (noneTop_append_singleton_iff.mpr ⟨noneTop, atLast⟩)
      · exact .inr ⟨before, after ++ [last], by simp, level, isFirst⟩

/-- A separator either does not occur at top level or has a last occurrence
there. -/
theorem noneTop_or_exists_last
    {separator : Char}
    (separates : isSeparator separator = true)
    (text : List Char) :
    NoneTop separator text ∨
      ∃ before after,
        text = before ++ separator :: after ∧
          Level before ∧ NoneTop separator after := by
  induction text using List.reverseRecOn with
  | nil =>
      exact .inl (.of_not_mem (by simp))
  | append_singleton text last inductionHypothesis =>
      by_cases atLast : last = separator ∧ Level text
      · obtain ⟨rfl, level⟩ := atLast
        exact .inr ⟨text, [], rfl, level, .of_not_mem (by simp)⟩
      · rcases inductionHypothesis with
            noneTop | ⟨before, after, rfl, level, isLast⟩
        · exact .inl
            (noneTop_append_singleton_iff.mpr ⟨noneTop, atLast⟩)
        · have neither := neither_of_isSeparator separates
          refine .inr ⟨before, after ++ [last], by simp, level, ?_⟩
          apply noneTop_append_singleton_iff.mpr
          refine ⟨isLast, ?_⟩
          rintro ⟨rfl, afterLevel⟩
          exact atLast ⟨rfl, (Level.append_iff level).mpr
            ((Level.cons_iff neither.1 neither.2).mpr afterLevel)⟩

namespace Pieces

variable {separator : Char}

/-- A text without the separator at top level is one piece. -/
theorem singleton
    {text : List Char}
    (level : Level text)
    (noneTop : NoneTop separator text) :
    Pieces separator text [text] where
  nonempty := by
    simp
  joined := by
    simp
  level := by
    simpa using level
  whole := by
    simpa using noneTop

/-- A piece before the separator comes before the pieces behind it. -/
theorem cons
    {piece rest : List Char}
    {pieces : List (List Char)}
    (level : Level piece)
    (noneTop : NoneTop separator piece)
    (divided : Pieces separator rest pieces) :
    Pieces separator (piece ++ separator :: rest) (piece :: pieces) where
  nonempty := by
    simp
  joined := by
    rw [List.intercalate_cons_of_ne_nil divided.nonempty,
      ← divided.joined]
    simp
  level := by
    simpa using ⟨level, divided.level⟩
  whole := by
    simpa using ⟨noneTop, divided.whole⟩

/-- A division into two or more pieces is one behind the first separator. -/
theorem tail
    {text piece next : List Char}
    {pieces : List (List Char)}
    (divided : Pieces separator text (piece :: next :: pieces)) :
    ∃ rest,
      text = piece ++ separator :: rest ∧
        Pieces separator rest (next :: pieces) := by
  refine ⟨[separator].intercalate (next :: pieces), ?_, ?_⟩
  · rw [divided.joined, List.intercalate_cons_cons]
    simp
  · exact {
      nonempty := by
        simp
      joined := rfl
      level := fun other member => divided.level other (by simp_all)
      whole := fun other member => divided.whole other (by simp_all)
    }

/-- A division starts with its first piece. -/
theorem exists_eq_append
    {text piece : List Char}
    {pieces : List (List Char)}
    (divided : Pieces separator text (piece :: pieces)) :
    ∃ rest, text = piece ++ rest := by
  cases pieces with
  | nil =>
      exact ⟨[], by simpa using divided.joined⟩
  | cons next pieces =>
      obtain ⟨rest, shape, -⟩ := divided.tail
      exact ⟨separator :: rest, shape⟩

/-- The pieces of a balanced text are balanced one by one. -/
theorem balanced
    (separates : isSeparator separator = true)
    {text : List Char}
    {pieces : List (List Char)}
    (balanced : Balanced text)
    (divided : Pieces separator text pieces) :
    ∀ piece ∈ pieces, Balanced piece := by
  have neither := neither_of_isSeparator separates
  induction pieces generalizing text with
  | nil =>
      simp
  | cons piece pieces inductionHypothesis =>
      cases pieces with
      | nil =>
          have same : text = piece := by
            simpa using divided.joined
          simpa [← same] using balanced
      | cons next pieces =>
          obtain ⟨rest, rfl, restDivided⟩ := divided.tail
          have parts := balanced.split (divided.level piece (by simp))
          have behind :=
            @Balanced.split [separator] rest parts.2
              ((Level.cons_iff neither.1 neither.2).mpr .nil)
          rw [List.forall_mem_cons]
          exact ⟨parts.1, inductionHypothesis behind.2 restDivided⟩

/-- Every level text can be divided into pieces. -/
theorem exists_of_level
    (separates : isSeparator separator = true)
    {text : List Char}
    (level : Level text) :
    ∃ pieces, Pieces separator text pieces := by
  induction size : text.length using Nat.strongRecOn generalizing text with
  | ind length inductionHypothesis =>
      rcases noneTop_or_exists_first separator text with
          noneTop | ⟨before, after, rfl, beforeLevel, isFirst⟩
      · exact ⟨[text], .singleton level noneTop⟩
      · have neither := neither_of_isSeparator separates
        have afterLevel : Level after := by
          rw [Level.append_iff beforeLevel,
            Level.cons_iff neither.1 neither.2] at level
          exact level
        have shorter : after.length < length := by
          rw [← size]
          simp
          omega
        obtain ⟨pieces, divided⟩ :=
          inductionHypothesis _ shorter afterLevel rfl
        exact ⟨before :: pieces, .cons beforeLevel isFirst divided⟩

end Pieces

/-- An opener or a separator is marked with the depth before it. -/
theorem markAt?_of_leads
    {character : Char}
    (closesNothing : Family.ofCloser? character = none)
    (leads :
      (Family.ofOpener? character).isSome ∨ isSeparator character = true)
    (front : List Char) :
    markAt? front character =
      some ⟨byteSize front, character, Depth.behind front⟩ := by
  simp [markAt?, closesNothing, leads]

/-- Behind a level text, a mark that stands at top level belongs to an
occurrence at top level. -/
theorem isTopLevel_eq_false_of_noneTop
    {front text : List Char}
    {character : Char}
    {mark : Mark}
    (member : mark ∈ marksBehind front text)
    (closesNothing : Family.ofCloser? character = none)
    (covered : ∀ family, Covered family (front ++ text))
    (frontLevel : Level front)
    (noneTop : NoneTop character text) :
    mark.isTopLevel character = false := by
  obtain ⟨before, here, after, rfl, isMark⟩ :=
    mem_marksBehind_iff.mp member
  apply Bool.eq_false_iff.mpr
  intro isTop
  simp only [Mark.isTopLevel, Bool.and_eq_true, beq_iff_eq,
    (eq_of_markAt? isMark).2] at isTop
  obtain ⟨rfl, topDepth⟩ := isTop
  have depth : mark.depth = Depth.behind (front ++ before) := by
    simp only [markAt?, closesNothing, Option.isSome_none,
      Bool.false_eq_true, ↓reduceIte] at isMark
    split at isMark
    · cases isMark
      rfl
    · contradiction
  have coveredBefore :
      ∀ family, Covered family (front ++ before) := by
    intro family
    have whole := covered family
    rw [← List.append_assoc] at whole
    exact whole.of_append
  rw [depth, Depth.isTop_behind_iff coveredBefore,
    Level.append_iff frontLevel] at topDepth
  exact noneTop before after rfl topDepth

/-- An opener or a separator at top level has a mark at top level. -/
theorem isTopLevel_of_level
    {front : List Char}
    {character : Char}
    (covered : ∀ family, Covered family front)
    (level : Level front) :
    (Mark.mk (byteSize front) character
      (Depth.behind front)).isTopLevel character = true := by
  simpa [Mark.isTopLevel, Depth.isTop_behind_iff covered] using level

/-- Where a character does not occur at top level, no mark answers to it. -/
theorem find?_marksBehind_eq_none
    {text : List Char}
    {character : Char}
    (closesNothing : Family.ofCloser? character = none)
    (covered : ∀ family, Covered family text)
    (noneTop : NoneTop character text) :
    (marksBehind [] text).find? (·.isTopLevel character) = none := by
  apply List.find?_eq_none.mpr
  intro mark member
  simp [isTopLevel_eq_false_of_noneTop member closesNothing
    covered .nil noneTop]

/-- There is no first occurrence where there is none at top level. -/
theorem findTop?_eq_none
    {text : List Char}
    {character : Char}
    (closesNothing : Family.ofCloser? character = none)
    (balanced : Balanced text)
    (noneTop : NoneTop character text) :
    (marked text).findTop? character (marked text).whole = none := by
  have marks := marksIn_marked_front text []
  rw [List.append_nil] at marks
  rw [whole_marked, Scan.findTop?, marks,
    find?_marksBehind_eq_none closesNothing
      (fun family => (balanced family).covered) noneTop]
  rfl

/-- The first occurrence at top level is found at its offset. -/
theorem findTop?_eq_some
    {before after : List Char}
    {character : Char}
    (closesNothing : Family.ofCloser? character = none)
    (leads :
      (Family.ofOpener? character).isSome ∨ isSeparator character = true)
    (balanced : Balanced (before ++ character :: after))
    (level : Level before)
    (noneTop : NoneTop character before) :
    (marked (before ++ character :: after)).findTop? character
        (marked (before ++ character :: after)).whole =
      some (byteSize before) := by
  have covered : ∀ family, Covered family before :=
    fun family => (balanced family).covered.of_append
  have marks := marksIn_marked_front (before ++ character :: after) []
  rw [List.append_nil] at marks
  rw [whole_marked, Scan.findTop?, marks, marksBehind_append]
  simp [marksBehind, markAt?_of_leads closesNothing leads,
    find?_marksBehind_eq_none closesNothing covered noneTop,
    isTopLevel_of_level covered level]

section Separators

variable {separator : Char}

/-- There is no last occurrence where there is none at top level. -/
theorem findLastTop?_eq_none
    {text back : List Char}
    (separates : isSeparator separator = true)
    (balanced : Balanced (text ++ back))
    (noneTop : NoneTop separator text) :
    (marked (text ++ back)).findLastTop? separator
        ⟨0, byteSize text⟩ =
      none := by
  have neither := neither_of_isSeparator separates
  rw [Scan.findLastTop?, marksIn_marked_front, Option.map_eq_none_iff,
    List.find?_eq_none]
  intro mark member
  simp [isTopLevel_eq_false_of_noneTop (List.mem_reverse.mp member)
    neither.2 (fun family => (balanced family).covered.of_append)
    .nil noneTop]

/-- The last occurrence at top level is found at its offset. -/
theorem findLastTop?_eq_some
    {before after back : List Char}
    (separates : isSeparator separator = true)
    (balanced : Balanced (before ++ separator :: after ++ back))
    (level : Level before)
    (noneTop : NoneTop separator after) :
    (marked (before ++ separator :: after ++ back)).findLastTop?
        separator ⟨0, byteSize (before ++ separator :: after)⟩ =
      some (byteSize before) := by
  have neither := neither_of_isSeparator separates
  have coveredAll :
      ∀ family, Covered family ((before ++ [separator]) ++ after) := by
    intro family
    have whole := (balanced family).covered.of_append
    simpa using whole
  have covered : ∀ family, Covered family before :=
    fun family => (coveredAll family).of_append.of_append
  have frontLevel : Level (before ++ [separator]) :=
    (Level.append_iff level).mpr
      ((Level.cons_iff neither.1 neither.2).mpr .nil)
  have noneBehind :
      (marksBehind (before ++ [separator]) after).reverse.find?
          (·.isTopLevel separator) =
        none := by
    apply List.find?_eq_none.mpr
    intro mark member
    simp [isTopLevel_eq_false_of_noneTop (List.mem_reverse.mp member)
      neither.2 coveredAll frontLevel noneTop]
  rw [Scan.findLastTop?, marksIn_marked_front, marksBehind_append]
  simp [marksBehind, noneBehind, isTopLevel_of_level covered level,
    markAt?_of_leads neither.2 (.inr separates)]

/-- A span covers a piece of the text that starts at top level. -/
def Stands
    (text : List Char)
    (span : Span)
    (piece : List Char) :
    Prop :=
  ∃ front back,
    text = front ++ piece ++ back ∧ Level front ∧
      span = ⟨byteSize front, byteSize (front ++ piece)⟩

/-- Marks that are not the separator at top level do not cut. -/
theorem piecesFrom_append
    {stop start : Nat}
    {marks more : List Mark}
    (noneTop : ∀ mark ∈ marks, mark.isTopLevel separator = false) :
    Scan.piecesFrom separator stop start (marks ++ more) =
      Scan.piecesFrom separator stop start more := by
  induction marks with
  | nil =>
      rfl
  | cons mark rest inductionHypothesis =>
      have here := noneTop mark (by simp)
      have later :
          ∀ other ∈ rest, other.isTopLevel separator = false :=
        fun other member => noneTop other (by simp [member])
      simp [Scan.piecesFrom, here, inductionHypothesis later]

/-- Cutting at the marks of a text that starts at top level gives spans of its
pieces. -/
private theorem forall₂_piecesFrom
    {text front middle back : List Char}
    {pieces : List (List Char)}
    (separates : isSeparator separator = true)
    (placed : text = front ++ middle ++ back)
    (covered : ∀ family, Covered family (front ++ middle))
    (frontLevel : Level front)
    (divided : Pieces separator middle pieces) :
    List.Forall₂ (Stands text)
      (Scan.piecesFrom separator (byteSize (front ++ middle))
        (byteSize front) (marksBehind front middle))
      pieces := by
  have neither := neither_of_isSeparator separates
  induction pieces generalizing front middle with
  | nil =>
      exact (divided.nonempty rfl).elim
  | cons piece pieces inductionHypothesis =>
      have pieceLevel := divided.level piece (by simp)
      have pieceWhole := divided.whole piece (by simp)
      cases pieces with
      | nil =>
          have same : middle = piece := by
            simpa using divided.joined
          subst piece
          have noneTop :
              ∀ mark ∈ marksBehind front middle,
                mark.isTopLevel separator = false :=
            fun mark member =>
              isTopLevel_eq_false_of_noneTop member neither.2 covered
                frontLevel pieceWhole
          rw [← List.append_nil (marksBehind front middle),
            piecesFrom_append noneTop]
          exact .cons ⟨front, back, placed, frontLevel, rfl⟩ .nil
      | cons next pieces =>
          obtain ⟨rest, rfl, restDivided⟩ := divided.tail
          have coveredPiece :
              ∀ family, Covered family (front ++ piece) := by
            intro family
            have whole := covered family
            rw [← List.append_assoc] at whole
            exact whole.of_append
          have noneTop :
              ∀ mark ∈ marksBehind front piece,
                mark.isTopLevel separator = false :=
            fun mark member =>
              isTopLevel_eq_false_of_noneTop member neither.2
                coveredPiece frontLevel pieceWhole
          have level : Level (front ++ piece) :=
            (Level.append_iff frontLevel).mpr pieceLevel
          have cut :
              front ++ (piece ++ separator :: rest) =
                front ++ piece ++ [separator] ++ rest := by
            simp
          have offset :
              byteSize (front ++ piece) + separator.utf8Size =
                byteSize (front ++ piece ++ [separator]) := by
            simp [Nat.add_assoc]
          rw [marksBehind_append, piecesFrom_append noneTop, marksBehind,
            markAt?_of_leads neither.2 (.inr separates)]
          simp only [Option.toList_some, List.singleton_append,
            Scan.piecesFrom, isTopLevel_of_level coveredPiece level,
            ↓reduceIte, offset]
          refine .cons ?_ ?_
          · exact ⟨front, separator :: rest ++ back,
              by simp [placed], frontLevel, rfl⟩
          · rw [cut] at covered ⊢
            refine inductionHypothesis ?_ covered ?_ restDivided
            · simp [placed]
            · exact (Level.append_iff level).mpr
                ((Level.cons_iff neither.1 neither.2).mpr .nil)

/-- The spans between the separators at top level cover the pieces of the
text. -/
theorem splitTop_pieces
    {front middle back : List Char}
    {pieces : List (List Char)}
    (separates : isSeparator separator = true)
    (covered : ∀ family, Covered family (front ++ middle))
    (frontLevel : Level front)
    (divided : Pieces separator middle pieces) :
    List.Forall₂ (Stands (front ++ middle ++ back))
      ((marked (front ++ middle ++ back)).splitTop separator
        ⟨byteSize front, byteSize (front ++ middle)⟩)
      pieces := by
  rw [Scan.splitTop, marksIn_marked]
  exact forall₂_piecesFrom separates rfl covered frontLevel divided

/-- Cutting at marks gives pieces that end at the stop or at a mark of the
separator. -/
private theorem stop_of_mem_piecesFrom
    {stop start : Nat}
    {marks : List Mark}
    {span : Span}
    (member : span ∈ Scan.piecesFrom separator stop start marks) :
    span.stop = stop ∨
      ∃ mark ∈ marks,
        mark.character = separator ∧ span.stop = mark.offset := by
  induction marks generalizing start with
  | nil =>
      rw [Scan.piecesFrom, List.mem_singleton] at member
      exact .inl (congrArg Span.stop member)
  | cons mark rest inductionHypothesis =>
      have behind
          (inRest :
            span.stop = stop ∨
              ∃ other ∈ rest,
                other.character = separator ∧
                  span.stop = other.offset) :
          span.stop = stop ∨
            ∃ other ∈ mark :: rest,
              other.character = separator ∧
                span.stop = other.offset := by
        rcases inRest with atStop | ⟨other, isLater, atOther⟩
        · exact .inl atStop
        · exact .inr ⟨other, List.mem_cons_of_mem mark isLater, atOther⟩
      rw [Scan.piecesFrom] at member
      split at member
      · next isTop =>
          rw [Mark.isTopLevel, Bool.and_eq_true, beq_iff_eq] at isTop
          rcases List.mem_cons.mp member with isFirst | isLater
          · exact .inr ⟨mark, by simp, isTop.1,
              congrArg Span.stop isFirst⟩
          · exact behind (inductionHypothesis isLater)
      · exact behind (inductionHypothesis member)

/-- A piece between separators ends where the next separator stands, or with
the span that is divided. -/
theorem stop_of_mem_splitTop
    {front middle back : List Char}
    {span : Span}
    (member :
      span ∈
        (marked (front ++ middle ++ back)).splitTop separator
          ⟨byteSize front, byteSize (front ++ middle)⟩) :
    span.stop = byteSize (front ++ middle) ∨
      StandsAt (front ++ middle ++ back) span.stop separator := by
  rw [Scan.splitTop, marksIn_marked] at member
  rcases stop_of_mem_piecesFrom member with
      atStop | ⟨mark, isMark, rfl, atMark⟩
  · exact .inl atStop
  · obtain ⟨before, character, after, rfl, isHere⟩ :=
      mem_marksBehind_iff.mp isMark
    obtain ⟨sameOffset, rfl⟩ := eq_of_markAt? isHere
    exact .inr ⟨front ++ before, after ++ back, by simp,
      by rw [atMark, sameOffset]⟩

end Separators

/-- Inside a text that is balanced in a family, no closer of the family comes
back to the depth around the text. -/
private theorem closer_deeper
    {front interior : List Char}
    {family : Family}
    {mark : Mark}
    (covered : Covered family front)
    (balanced : BalancedIn family interior)
    (member : mark ∈ marksBehind (front ++ [family.opener]) interior)
    (closes : mark.character = family.closer) :
    (Depth.behind front).get family < mark.depth.get family := by
  obtain ⟨before, character, after, rfl, isMark⟩ :=
    mem_marksBehind_iff.mp member
  have sameCharacter : character = family.closer := by
    rw [← closes]
    exact (eq_of_markAt? isMark).2.symm
  subst character
  rw [markAt?_closer] at isMark
  cases isMark
  have enough := covered.closers_le
  have within :=
    balanced.covered (before ++ [family.closer]) (by simp)
  simp only [openers_append, closers_append, openers_cons_closer,
    closers_cons_closer, openers_nil, closers_nil,
    ↓reduceIte] at within
  simp only [Depth.get_behind, openers_append, closers_append,
    openers_cons_opener, closers_cons_opener, openers_cons_closer,
    closers_cons_closer, openers_nil, closers_nil, ↓reduceIte]
  omega

/-- The closer of an opener is the one behind the text that is balanced in
their family. -/
theorem closerOf?_eq_some
    {front interior back : List Char}
    {family : Family}
    (covered : Covered family front)
    (balanced : BalancedIn family interior) :
    (marked
        (front ++ family.opener :: interior ++
          family.closer :: back)).closerOf? (byteSize front) =
      some (byteSize (front ++ family.opener :: interior)) := by
  have regrouped :
      front ++ family.opener :: interior ++ family.closer :: back =
        front ++ family.opener :: (interior ++ family.closer :: back) := by
    simp
  have noneInside :
      (marksBehind (front ++ [family.opener]) interior).find?
          (fun mark =>
            mark.character == family.closer &&
              mark.depth.get family ==
                (Depth.behind front).get family) =
        none := by
    apply List.find?_eq_none.mpr
    intro mark member
    simp only [Bool.and_eq_true, beq_iff_eq, not_and]
    intro closes
    exact Nat.ne_of_gt (closer_deeper covered balanced member closes)
  have backAtLevel :
      (Depth.behind
          (front ++ [family.opener] ++ interior ++
            [family.closer])).get family =
        (Depth.behind front).get family := by
    have level := balanced.level
    simp only [Depth.get_behind, openers_append, closers_append,
      openers_cons_opener, closers_cons_opener, openers_cons_closer,
      closers_cons_closer, openers_nil, closers_nil, ↓reduceIte]
    omega
  have skipped :
      ∀ mark ∈ marksBehind [] front,
        decide (mark.offset < byteSize front) = true := by
    intro mark member
    simpa using (offset_of_mem_marksBehind member).2
  simp only [Scan.closerOf?, marked, regrouped, marksBehind_append,
    List.nil_append, marksBehind, markAt?_opener, Option.toList_some,
    List.singleton_append, List.dropWhile_append_of_pos skipped]
  simp only [Nat.lt_irrefl, decide_false, Bool.false_eq_true,
    not_false_eq_true, List.dropWhile_cons_of_neg, ↓reduceIte,
    Family.ofOpener?_opener, Scan.closerAfter?, List.find?_append,
    noneInside, Option.none_or, markAt?_closer, Option.toList_some,
    List.find?_cons, backAtLevel, BEq.rfl, Bool.and_self,
    Option.some_or, Option.map_some]
  simp

end ApiIndex.Bracket
