import ApiIndex.Proofs.Json.Grammar
import ApiIndex.Proofs.Text.Run
import Mathlib.Data.List.Induction
import Mathlib.Tactic.IntervalCases

namespace ApiIndex.Json

open ApiIndex.Text (isAsciiDigit stops_dropWhile takeWhile_dropWhile_run)

/-!
# Reading what is written

A reader takes exactly the text that writes a value and leaves the rest alone,
as long as the rest does not go on with a number.  The bound on the number of
steps is never met: twice the length of a text is enough for every value in it.
Hence a text that writes a value is read as that value, in whatever layout it is
written.
-/

/-- No character of a number follows. -/
def EndsNumber
    (rest : List Char) :
    Prop :=
  ∀ first, rest.head? = some first →
    isAsciiDigit first = false ∧
      first ≠ '.' ∧ first ≠ 'e' ∧ first ≠ 'E'

section Blanks

variable {blank text rest : List Char}

/-- Blanks are skipped up to the first other character. -/
theorem skipGap_append
    (isBlank : IsBlank blank)
    (stops : ∀ first, text.head? = some first → isGap first = false) :
    skipGap (blank ++ text) = text :=
  (takeWhile_dropWhile_run isBlank stops).2

theorem skipGap_append_cons
    {first : Char}
    (isBlank : IsBlank blank)
    (stops : isGap first = false)
    (rest : List Char) :
    skipGap (blank ++ first :: rest) = first :: rest :=
  skipGap_append isBlank (by simpa using stops)

theorem skipGap_of_isBlank
    (isBlank : IsBlank blank) :
    skipGap blank = [] := by
  simpa using @skipGap_append blank [] isBlank (by simp)

theorem EndsNumber.cons
    {first : Char}
    (ends :
      isAsciiDigit first = false ∧
        first ≠ '.' ∧ first ≠ 'e' ∧ first ≠ 'E')
    (rest : List Char) :
    EndsNumber (first :: rest) := by
  intro other isFirst
  obtain rfl := Option.some.inj isFirst
  exact ends

/-- No number goes on behind blanks and another character that ends it. -/
theorem EndsNumber.blank_append
    (isBlank : IsBlank blank)
    (ends : EndsNumber rest) :
    EndsNumber (blank ++ rest) := by
  cases blank with
  | nil =>
      exact ends
  | cons first blank =>
      have gap := isBlank first List.mem_cons_self
      simp only [isGap, Bool.or_eq_true, beq_iff_eq] at gap
      apply EndsNumber.cons
      rcases gap with ((rfl | rfl) | rfl) | rfl <;> decide

end Blanks

section Numbers

variable {digits whole fraction exponent rest : List Char}

theorem readDigits_append
    (isDigits : IsDigits digits)
    (stops :
      ∀ first, rest.head? = some first → isAsciiDigit first = false) :
    readDigits (digits ++ rest) = (digits, rest) := by
  obtain ⟨run, stopped⟩ :=
    takeWhile_dropWhile_run isDigits.decimal stops
  rw [readDigits, run, stopped]

theorem readWhole?_append
    (isWhole : IsWhole whole)
    (stops :
      ∀ first, rest.head? = some first → isAsciiDigit first = false) :
    readWhole? (whole ++ rest) = some (whole, rest) := by
  have found := readDigits_append isWhole.toIsDigits stops
  cases whole with
  | nil =>
      exact (isWhole.nonempty rfl).elim
  | cons first others =>
      by_cases isZero : first = '0'
      · subst first
        obtain rfl : others = [] := by
          simpa using isWhole.leading rfl
        rfl
      · rw [List.cons_append] at found ⊢
        rw [readWhole?]
        · simp only [found]
        · intro other same
          exact isZero (List.cons.inj same).1

theorem readFraction?_append
    (isFraction : IsFraction fraction)
    (stops :
      ∀ first, rest.head? = some first →
        isAsciiDigit first = false ∧ first ≠ '.') :
    readFraction? (fraction ++ rest) = some (fraction, rest) := by
  cases isFraction with
  | missing =>
      rw [List.nil_append, readFraction?]
      rintro other rfl
      exact (stops '.' rfl).2 rfl
  | @point digits isDigits =>
      have found :=
        readDigits_append isDigits fun first isFirst =>
          (stops first isFirst).1
      cases digits with
      | nil =>
          exact (isDigits.nonempty rfl).elim
      | cons digit digits =>
          rw [List.cons_append, readFraction?, found]

/-- A sign is read as such, and digits are read as no sign. -/
theorem readSign_append
    {sign : List Char}
    (isSign : sign = [] ∨ sign = ['+'] ∨ sign = ['-'])
    (isDigits : IsDigits digits) :
    readSign (sign ++ digits ++ rest) = (sign, digits ++ rest) := by
  rcases isSign with rfl | rfl | rfl
  · cases digits with
    | nil =>
        exact (isDigits.nonempty rfl).elim
    | cons digit digits =>
        have decimal := isDigits.decimal digit List.mem_cons_self
        rw [List.nil_append, List.cons_append, readSign]
        · rintro other same
          rw [(List.cons.inj same).1] at decimal
          exact absurd decimal (by decide)
        · rintro other same
          rw [(List.cons.inj same).1] at decimal
          exact absurd decimal (by decide)
  · rfl
  · rfl

theorem readExponent?_append
    (isExponent : IsExponent exponent)
    (ends : EndsNumber rest) :
    readExponent? (exponent ++ rest) = some (exponent, rest) := by
  cases isExponent with
  | missing =>
      cases rest with
      | nil =>
          rfl
      | cons first rest =>
          obtain ⟨-, -, notSmall, notLarge⟩ := ends first rfl
          simp [readExponent?, notSmall, notLarge]
  | @marked mark sign digits isMark isSign isDigits =>
      have signed := @readSign_append digits rest sign isSign isDigits
      have found :=
        readDigits_append isDigits fun first isFirst =>
          (ends first isFirst).1
      simp only [List.cons_append, readExponent?, isMark, ↓reduceIte,
        signed, found]
      cases digits with
      | nil =>
          exact (isDigits.nonempty rfl).elim
      | cons digit digits =>
          rfl

/-- A fraction starts with a point. -/
theorem IsFraction.head?_append
    {first : Char}
    (isFraction : IsFraction fraction)
    (isFirst : (fraction ++ rest).head? = some first) :
    first = '.' ∨ rest.head? = some first := by
  cases isFraction with
  | missing =>
      exact .inr isFirst
  | point isDigits =>
      exact .inl (Option.some.inj isFirst).symm

/-- An exponent starts with its mark. -/
theorem IsExponent.head?_append
    {first : Char}
    (isExponent : IsExponent exponent)
    (isFirst : (exponent ++ rest).head? = some first) :
    (first = 'e' ∨ first = 'E') ∨ rest.head? = some first := by
  cases isExponent with
  | missing =>
      exact .inr isFirst
  | marked isMark isSign isDigits =>
      obtain rfl := Option.some.inj isFirst
      exact .inl isMark

/-- The parts of a number are read one behind the other. -/
theorem readUnsigned?_append
    (isWhole : IsWhole whole)
    (isFraction : IsFraction fraction)
    (isExponent : IsExponent exponent)
    (ends : EndsNumber rest) :
    readUnsigned? (whole ++ fraction ++ exponent ++ rest) =
      some
        (if fraction = [] ∧ exponent = [] then
            .natural (decimalValue whole)
          else
            .number (String.ofList (whole ++ fraction ++ exponent)),
          rest) := by
  have behindFraction :
      ∀ first, (exponent ++ rest).head? = some first →
        isAsciiDigit first = false ∧ first ≠ '.' := by
    intro first isFirst
    rcases isExponent.head?_append isFirst with (rfl | rfl) | isRest
    · decide
    · decide
    · exact ⟨(ends first isRest).1, (ends first isRest).2.1⟩
  have behindWhole :
      ∀ first, (fraction ++ (exponent ++ rest)).head? = some first →
        isAsciiDigit first = false := by
    intro first isFirst
    rcases isFraction.head?_append isFirst with rfl | isRest
    · decide
    · exact (behindFraction first isRest).1
  have readWhole := readWhole?_append isWhole behindWhole
  have readFraction := readFraction?_append isFraction behindFraction
  have readExponent := readExponent?_append isExponent ends
  simp only [List.append_assoc, readUnsigned?, readWhole, readFraction,
    readExponent, Option.bind_eq_bind, Option.bind_some]
  split <;> rfl

/-- A digit is the one that its value is written with. -/
theorem digitChar_of_isAsciiDigit
    {digit : Char}
    (decimal : isAsciiDigit digit = true) :
    digit.toNat - '0'.toNat < 10 ∧
      Nat.digitChar (digit.toNat - '0'.toNat) = digit := by
  simp only [isAsciiDigit, Bool.and_eq_true, decide_eq_true_eq] at decimal
  have least : 48 ≤ digit.toNat := decimal.1
  have greatest : digit.toNat ≤ 57 := decimal.2
  have zero : '0'.toNat = 48 := rfl
  refine ⟨by omega, ?_⟩
  obtain ⟨value, shape⟩ := Nat.exists_eq_add_of_le least
  have isSmall : value < 10 := by omega
  rw [← Char.ofNat_toNat digit, shape]
  interval_cases value <;> rfl

theorem decimalValue_append_singleton
    (digits : List Char)
    (digit : Char) :
    decimalValue (digits ++ [digit]) =
      10 * decimalValue digits + (digit.toNat - '0'.toNat) := by
  simp [decimalValue, Nat.mul_comm]

/-- Without its last digit, a whole number is still one, and not zero. -/
theorem IsWhole.of_append_singleton
    {digit : Char}
    (isWhole : IsWhole (digits ++ [digit]))
    (nonempty : digits ≠ []) :
    IsWhole digits ∧ digits ≠ ['0'] := by
  have notZero : digits.head? ≠ some '0' := by
    intro isZero
    have alone := isWhole.leading (by
      rw [List.head?_append, isZero]
      rfl)
    have lengths := congrArg List.length alone
    have positive := List.length_pos_iff.mpr nonempty
    simp only [List.length_append, List.length_singleton] at lengths
    omega
  refine ⟨⟨⟨nonempty, fun other member => ?_⟩,
    fun isZero => (notZero isZero).elim⟩, ?_⟩
  · exact isWhole.decimal other (List.mem_append_left _ member)
  · rintro rfl
    exact notZero rfl

/-- The digits of a whole number are the ones that its value is written
with. -/
theorem toDigits_decimalValue
    (isWhole : IsWhole digits) :
    Nat.toDigits 10 (decimalValue digits) = digits := by
  induction digits using List.reverseRecOn with
  | nil =>
      exact (isWhole.nonempty rfl).elim
  | append_singleton digits digit inductionHypothesis =>
      obtain ⟨isSmall, written⟩ :=
        digitChar_of_isAsciiDigit (isWhole.decimal digit (by simp))
      rw [decimalValue_append_singleton]
      by_cases isEmpty : digits = []
      · subst digits
        simp only [decimalValue, List.foldl_nil, Nat.mul_zero,
          Nat.zero_add, List.nil_append]
        rw [Nat.toDigits_of_lt_base isSmall, written]
      · obtain ⟨others, notZero⟩ :=
          isWhole.of_append_singleton isEmpty
        have leading := inductionHypothesis others
        have positive : 0 < decimalValue digits := by
          apply Nat.pos_of_ne_zero
          intro isZero
          rw [isZero, Nat.toDigits_zero] at leading
          exact notZero leading.symm
        rw [← Nat.toDigits_append_toDigits (by decide) positive isSmall,
          leading, Nat.toDigits_of_lt_base isSmall, written]

/-- Digits stand behind no sign. -/
theorem readNumber?_of_isDigits
    (isDigits : IsDigits digits)
    (rest : List Char) :
    readNumber? (digits ++ rest) = readUnsigned? (digits ++ rest) := by
  cases digits with
  | nil =>
      exact (isDigits.nonempty rfl).elim
  | cons first digits =>
      have decimal := isDigits.decimal first List.mem_cons_self
      rw [List.cons_append, readNumber?]
      rintro other same
      rw [(List.cons.inj same).1] at decimal
      exact absurd decimal (by decide)

theorem readNumber?_of_isWhole
    (isWhole : IsWhole whole)
    (ends : EndsNumber rest) :
    readNumber? (whole ++ rest) =
      some (.natural (decimalValue whole), rest) := by
  rw [readNumber?_of_isDigits isWhole.toIsDigits]
  simpa using readUnsigned?_append isWhole .missing .missing ends

theorem readNumber?_of_isNumber
    {literal : List Char}
    (isNumber : IsNumber literal)
    (ends : EndsNumber rest) :
    readNumber? (literal ++ rest) =
      some (.number (String.ofList literal), rest) := by
  cases isNumber with
  | @negative whole fraction exponent isWhole isFraction isExponent =>
      have found := readUnsigned?_append isWhole isFraction isExponent ends
      have dash (digits : List Char) :
          "-" ++ String.ofList digits = String.ofList ('-' :: digits) := by
        simp
      rw [List.cons_append, readNumber?, found]
      split
      · next natural =>
          have repr :
              (decimalValue whole).repr = String.ofList whole := by
            rw [← String.toList_inj, Nat.toList_repr,
              toDigits_decimalValue isWhole, String.toList_ofList]
          simp only [literalOf, repr, dash, natural.1, natural.2,
            List.append_nil, Option.map_some]
      · simp only [literalOf, dash, Option.map_some]
  | @unsigned whole fraction exponent isWhole isFraction isExponent
      notNatural =>
      have found := readUnsigned?_append isWhole isFraction isExponent ends
      have unsigned :=
        readNumber?_of_isDigits isWhole.toIsDigits
          (fraction ++ (exponent ++ rest))
      rw [if_neg notNatural] at found
      simp only [List.append_assoc] at found unsigned ⊢
      rw [unsigned, found]

end Numbers

section Strings

/-- The pieces of a literal are read up to its closing quotation mark. -/
theorem readPieces?_append
    {pieces : List Piece}
    {inside : List Char}
    (spells : Spells pieces inside)
    (rest : List Char) :
    readPieces? (inside ++ '"' :: rest) = some (pieces, rest) := by
  induction spells with
  | nil =>
      rfl
  | @plain character pieces text noQuote noEscape noControl _
      inductionHypothesis =>
      have isPlain :
          ¬ (character = '\\' ∨ character.toNat < 0x20) := by
        simp only [noEscape, false_or]
        omega
      rw [List.cons_append, readPieces?, if_neg isPlain]
      · simp only [inductionHypothesis]
      · exact noQuote
      · intro _ _ _ _ _ same
        exact (noEscape same).elim
      · intro _ _ same
        exact (noEscape same).elim
  | @letter letter character pieces text escapes _ inductionHypothesis =>
      rw [List.cons_append, List.cons_append, readPieces?]
      · simp only [escapes, inductionHypothesis]
      · rintro _ _ _ _ _ rfl
        simp [letterEscape?] at escapes
  | @unit first second third fourth unit pieces text digits _
      inductionHypothesis =>
      simp only [List.cons_append, readPieces?, digits,
        inductionHypothesis]

theorem readString?_append
    {value : Option String}
    {text : List Char}
    (writes : WritesString value text) :
    ∃ inside,
      text = '"' :: inside ∧
        ∀ rest, readString? (inside ++ rest) = some (value, rest) := by
  cases writes with
  | @quoted pieces inside spells =>
      refine ⟨inside ++ ['"'], rfl, fun rest => ?_⟩
      have found := readPieces?_append spells rest
      rw [readString?, List.append_assoc, List.singleton_append, found]
      rfl

end Strings

section Starts

/-- A number starts with a digit. -/
theorem IsDigits.exists_cons
    {digits : List Char}
    (isDigits : IsDigits digits) :
    ∃ first rest,
      digits = first :: rest ∧ isGap first = false ∧ first ≠ ']' := by
  cases digits with
  | nil =>
      exact (isDigits.nonempty rfl).elim
  | cons first rest =>
      have decimal := isDigits.decimal first List.mem_cons_self
      refine ⟨first, rest, rfl, ?_, ?_⟩
      · apply Bool.eq_false_iff.mpr
        intro gap
        simp only [isGap, Bool.or_eq_true, beq_iff_eq] at gap
        rcases gap with ((rfl | rfl) | rfl) | rfl <;>
          exact absurd decimal (by decide)
      · rintro rfl
        exact absurd decimal (by decide)

/-- A value starts with a character of its own. -/
theorem WritesValue.exists_cons
    {value : Json}
    {text : List Char}
    (writes : WritesValue value text) :
    ∃ first rest,
      text = first :: rest ∧ isGap first = false ∧ first ≠ ']' := by
  cases writes with
  | natural isWhole =>
      exact isWhole.exists_cons
  | number isNumber =>
      cases isNumber with
      | negative =>
          exact ⟨'-', _, rfl, by decide, by decide⟩
      | unsigned isWhole =>
          obtain ⟨first, rest, rfl, starts⟩ := isWhole.exists_cons
          exact ⟨first, _, rfl, starts⟩
  | string writes =>
      obtain ⟨inside, rfl, -⟩ := readString?_append writes
      exact ⟨'"', inside, rfl, by decide, by decide⟩
  | _ =>
      exact ⟨_, _, rfl, by decide, by decide⟩

theorem Separated.exists_cons_of_values
    {items : List Json}
    {text : List Char}
    (writes : Separated WritesValue items text) :
    ∃ first rest,
      text = first :: rest ∧ isGap first = false ∧ first ≠ ']' := by
  cases writes with
  | last writes =>
      exact writes.exists_cons
  | more writes =>
      obtain ⟨first, rest, rfl, starts⟩ := writes.exists_cons
      exact ⟨first, _, rfl, starts⟩

theorem Separated.exists_cons_of_members
    {members : List (Option String × Json)}
    {text : List Char}
    (writes : Separated WritesMember members text) :
    ∃ rest, text = '"' :: rest := by
  have ofMember
      {member : Option String × Json}
      {text : List Char}
      (writes : WritesMember member text) :
      ∃ rest, text = '"' :: rest := by
    cases writes with
    | pair writesKey =>
        obtain ⟨inside, rfl, -⟩ := readString?_append writesKey
        exact ⟨_, rfl⟩
  cases writes with
  | last writes =>
      exact ofMember writes
  | more writes =>
      obtain ⟨rest, rfl⟩ := ofMember writes
      exact ⟨_, rfl⟩

end Starts

/-- Within a number of steps, every text that is not too long is read: values,
and items and members up to the bracket that ends them. -/
structure ReadsWithin
    (steps : Nat) : Prop where
  value :
    ∀ {value : Json} {text rest : List Char},
      WritesValue value text →
        2 * text.length ≤ steps →
          EndsNumber rest →
            readValue? steps (text ++ rest) = some (value, rest)
  items :
    ∀ {items : List Json} {text after rest : List Char},
      Separated WritesValue items text →
        IsBlank after →
          2 * text.length + 1 ≤ steps →
            readItems? steps (text ++ after ++ ']' :: rest) =
              some (items, rest)
  members :
    ∀ {members : List (Option String × Json)}
      {text after rest : List Char},
      Separated WritesMember members text →
        IsBlank after →
          2 * text.length + 1 ≤ steps →
            readMembers? steps (text ++ after ++ '\x7d' :: rest) =
              some (members, rest)

namespace ReadsWithin

variable {steps : Nat}

/-- What starts like a number is read as one. -/
theorem readValue?_of_digit_or_dash
    {first : Char}
    (starts : isAsciiDigit first = true ∨ first = '-')
    (rest : List Char) :
    readValue? (steps + 1) (first :: rest) = readNumber? (first :: rest) := by
  rw [readValue?]
  -- No other sort of value starts like this.
  all_goals
    intro _ same
    rw [(List.cons.inj same).1] at starts
    exact absurd starts (by decide)

theorem readValue?_of_isDigits
    {digits : List Char}
    (isDigits : IsDigits digits)
    (rest : List Char) :
    readValue? (steps + 1) (digits ++ rest) =
      readNumber? (digits ++ rest) := by
  cases digits with
  | nil =>
      exact (isDigits.nonempty rfl).elim
  | cons first digits =>
      exact readValue?_of_digit_or_dash
        (.inl (isDigits.decimal first List.mem_cons_self)) _

theorem readValue?_of_isNumber
    {literal : List Char}
    (isNumber : IsNumber literal)
    (rest : List Char) :
    readValue? (steps + 1) (literal ++ rest) =
      readNumber? (literal ++ rest) := by
  cases isNumber with
  | negative =>
      exact readValue?_of_digit_or_dash (.inr rfl) _
  | unsigned isWhole =>
      rw [List.append_assoc, List.append_assoc]
      exact readValue?_of_isDigits isWhole.toIsDigits _

section Step

variable {rest : List Char}

/-- A value is read if its items or members are, with one step less. -/
theorem value_succ
    {value : Json}
    {text : List Char}
    (within : ReadsWithin steps)
    (writes : WritesValue value text)
    (enough : 2 * text.length ≤ steps + 1)
    (ends : EndsNumber rest) :
    readValue? (steps + 1) (text ++ rest) = some (value, rest) := by
  cases writes with
  | null =>
      simp [readValue?]
  | yes =>
      simp [readValue?]
  | no =>
      simp [readValue?]
  | natural isWhole =>
      rw [readValue?_of_isDigits isWhole.toIsDigits,
        readNumber?_of_isWhole isWhole ends]
  | number isNumber =>
      rw [readValue?_of_isNumber isNumber,
        readNumber?_of_isNumber isNumber ends]
  | string writes =>
      obtain ⟨inside, rfl, found⟩ := readString?_append writes
      simp [readValue?, found]
  | @emptyArray blank isBlank =>
      have skipped :=
        @skipGap_append_cons blank ']' isBlank (by decide) rest
      simp [readValue?, skipped]
  | @array items before text after blankBefore writes blankAfter =>
      have found :=
        @within.items items text after rest writes blankAfter (by
          simp only [List.length_cons, List.length_append] at enough
          omega)
      obtain ⟨first, others, rfl, noGap, notEnd⟩ :=
        writes.exists_cons_of_values
      have skipped :=
        skipGap_append_cons blankBefore noGap
          (others ++ after ++ ']' :: rest)
      simp only [List.append_assoc, List.cons_append,
        List.nil_append] at found skipped ⊢
      rw [readValue?, skipped]
      split
      · next _ closes =>
          exact (notEnd (List.cons.inj closes).1).elim
      · rw [found]
        rfl
  | @emptyObject blank isBlank =>
      have skipped :=
        @skipGap_append_cons blank '\x7d' isBlank (by decide) rest
      simp [readValue?, skipped]
  | @object members before text after blankBefore writes blankAfter =>
      have found :=
        @within.members members text after rest writes blankAfter (by
          simp only [List.length_cons, List.length_append] at enough
          omega)
      obtain ⟨others, rfl⟩ := writes.exists_cons_of_members
      have skipped :=
        @skipGap_append_cons before '"' blankBefore (by decide)
          (others ++ after ++ '\x7d' :: rest)
      simp only [List.append_assoc, List.cons_append,
        List.nil_append] at found skipped ⊢
      rw [readValue?, skipped]
      split
      · next _ closes =>
          exact absurd (List.cons.inj closes).1 (by decide)
      · rw [found]
        rfl

/-- Items are read one by one, with one step less each. -/
theorem items_succ
    {items : List Json}
    {text after : List Char}
    (within : ReadsWithin steps)
    (writes : Separated WritesValue items text)
    (blankAfter : IsBlank after)
    (enough : 2 * text.length ≤ steps) :
    readItems? (steps + 1) (text ++ after ++ ']' :: rest) =
      some (items, rest) := by
  cases writes with
  | @last item text writes =>
      have ends : EndsNumber (after ++ ']' :: rest) :=
        .blank_append blankAfter (.cons (by decide) rest)
      have found := within.value writes enough ends
      have skipped :=
        @skipGap_append_cons after ']' blankAfter (by decide) rest
      rw [List.append_assoc, readItems?, found]
      simp only [skipped]
  | @more item items text before behind others writes blankBefore
      blankBehind more =>
      simp only [List.length_append, List.length_cons] at enough
      have ends :
          EndsNumber
            (before ++ ',' :: (behind ++ (others ++ (after ++ ']' :: rest)))) :=
        .blank_append blankBefore (.cons (by decide) _)
      have found := within.value writes (by omega) ends
      have skipped :=
        @skipGap_append_cons before ',' blankBefore (by decide)
          (behind ++ (others ++ (after ++ ']' :: rest)))
      have foundMore :=
        @within.items items others after rest more blankAfter (by omega)
      obtain ⟨first, remaining, rfl, noGap, -⟩ :=
        more.exists_cons_of_values
      have skippedMore :=
        skipGap_append_cons blankBehind noGap
          (remaining ++ (after ++ ']' :: rest))
      simp only [List.append_assoc, List.cons_append]
        at found skipped foundMore ⊢
      rw [readItems?, found]
      simp only [skipped, skippedMore, foundMore, Option.map_some]

/-- A member is read as its key and its value; what follows decides whether it
is the last one. -/
theorem readMembers?_member
    {member : Option String × Json}
    {text tail : List Char}
    (within : ReadsWithin steps)
    (writes : WritesMember member text)
    (enough : 2 * text.length ≤ steps)
    (ends : EndsNumber tail) :
    readMembers? (steps + 1) (text ++ tail) =
      match skipGap tail with
      | ',' :: more =>
          (readMembers? steps (skipGap more)).map fun (members, rest) =>
            (member :: members, rest)
      | '\x7d' :: rest =>
          some ([member], rest)
      | _ =>
          none := by
  cases writes with
  | @pair key value keyText before behind text writesKey blankBefore
      blankBehind writes =>
      simp only [List.length_append, List.length_cons] at enough
      obtain ⟨inside, rfl, foundKey⟩ := readString?_append writesKey
      have foundKey := foundKey (before ++ ':' :: (behind ++ (text ++ tail)))
      have found := within.value writes (by omega) ends
      have skipped :=
        @skipGap_append_cons before ':' blankBefore (by decide)
          (behind ++ (text ++ tail))
      obtain ⟨first, remaining, rfl, noGap, -⟩ := writes.exists_cons
      have skippedValue :=
        skipGap_append_cons blankBehind noGap (remaining ++ tail)
      simp only [List.append_assoc, List.cons_append]
        at found foundKey skipped ⊢
      rw [readMembers?]
      simp only [foundKey, skipped, skippedValue]
      split
      · rename_i noValue
        rw [found] at noValue
        contradiction
      · rename_i other afterValue isValue
        rw [found] at isValue
        cases isValue
        rfl

/-- Members are read one by one, with one step less each. -/
theorem members_succ
    {members : List (Option String × Json)}
    {text after : List Char}
    (within : ReadsWithin steps)
    (writes : Separated WritesMember members text)
    (blankAfter : IsBlank after)
    (enough : 2 * text.length ≤ steps) :
    readMembers? (steps + 1) (text ++ after ++ '\x7d' :: rest) =
      some (members, rest) := by
  cases writes with
  | @last member text writes =>
      have ends : EndsNumber (after ++ '\x7d' :: rest) :=
        .blank_append blankAfter (.cons (by decide) rest)
      have skipped :=
        @skipGap_append_cons after '\x7d' blankAfter (by decide) rest
      rw [List.append_assoc, within.readMembers?_member writes enough ends]
      simp only [skipped]
  | @more member members text before behind others writes blankBefore
      blankBehind more =>
      simp only [List.length_append, List.length_cons] at enough
      have ends :
          EndsNumber
            (before ++
              ',' :: (behind ++ (others ++ (after ++ '\x7d' :: rest)))) :=
        .blank_append blankBefore (.cons (by decide) _)
      have found := within.readMembers?_member writes (by omega) ends
      have skipped :=
        @skipGap_append_cons before ',' blankBefore (by decide)
          (behind ++ (others ++ (after ++ '\x7d' :: rest)))
      have foundMore :=
        @within.members members others after rest more blankAfter
          (by omega)
      obtain ⟨remaining, rfl⟩ := more.exists_cons_of_members
      have skippedMore :=
        @skipGap_append_cons behind '"' blankBehind (by decide)
          (remaining ++ (after ++ '\x7d' :: rest))
      simp only [List.append_assoc, List.cons_append]
        at found skipped foundMore ⊢
      rw [found]
      simp only [skipped, skippedMore, foundMore, Option.map_some]

end Step

/-- The bound on the number of steps is the only reason why a text is not
read. -/
theorem of_steps
    (steps : Nat) :
    ReadsWithin steps := by
  induction steps with
  | zero =>
      refine ⟨?_, ?_, ?_⟩
      · intro value text rest writes enough
        obtain ⟨first, others, rfl, -⟩ := writes.exists_cons
        simp at enough
      · intro items text after rest _ _ enough
        omega
      · intro members text after rest _ _ enough
        omega
  | succ steps within =>
      refine ⟨within.value_succ, ?_, ?_⟩
      · intro items text after rest writes blankAfter enough
        exact within.items_succ writes blankAfter (by omega)
      · intro members text after rest writes blankAfter enough
        exact within.members_succ writes blankAfter (by omega)

end ReadsWithin

/-- A text is read as the value that it writes. -/
theorem parse?_of_writes
    {value : Json}
    {text : String}
    (writes : Writes value text) :
    parse? text = some value := by
  cases writes with
  | @between before text after blankBefore writes blankAfter =>
      have atEnd : EndsNumber [] := by
        simp [EndsNumber]
      have ends : EndsNumber after := by
        simpa using EndsNumber.blank_append blankAfter atEnd
      have found :=
        (ReadsWithin.of_steps
          (2 * (before ++ text ++ after).length + 1)).value writes
            (by simp; omega) ends
      obtain ⟨first, others, rfl, noGap, -⟩ := writes.exists_cons
      have skipped := skipGap_append_cons blankBefore noGap (others ++ after)
      simp only [List.cons_append, List.append_assoc] at found
      simp only [parse?, String.toList_ofList, List.append_assoc,
        List.cons_append, skipped, found, skipGap_of_isBlank blankAfter,
        ↓reduceIte]

/-- A text writes one value only. -/
theorem Writes.unique
    {value other : Json}
    {text : String}
    (writes : Writes value text)
    (writesOther : Writes other text) :
    value = other :=
  Option.some.inj
    ((parse?_of_writes writes).symm.trans (parse?_of_writes writesOther))

end ApiIndex.Json
