import Mathlib.Data.List.TakeWhile
import Radar.JsonGrammar

/-!
# Parsers of JSON texts

A `JsonParser` finds the value of every document that spells one.  The
recursive-descent parser below is one.  Its functions return a result together
with the rest of the text; the functions that call each other are bounded by
the length of the text.
-/

namespace Json

/-! ## Functions of the parser -/

/-- Leave out the whitespace in front. -/
def skipBlank (text : List Char) : List Char := text.dropWhile isBlank

/-- A row of digits, as long as possible. -/
def parseDigits (text : List Char) : Option (Digits × List Char) :=
  if found : text.takeWhile Char.isDigit ≠ [] then
    some
      ({ chars := text.takeWhile Char.isDigit
         notEmpty := found
         areDigits := fun _ => List.mem_takeWhile_imp },
        text.dropWhile Char.isDigit)
  else
    none

/-- A minus sign in front, if there is one. -/
def parseMinus : List Char → Bool × List Char
  | '-' :: text => (true, text)
  | text => (false, text)

/-- A fraction, if there is one. -/
def parseFraction : List Char → Option (Option Digits × List Char)
  | '.' :: text => (parseDigits text).map fun (digits, rest) => (digits, rest)
  | text => some (none, text)

/-- The sign of an exponent. -/
def parseSign : List Char → Sign × List Char
  | '+' :: text => (.plus, text)
  | '-' :: text => (.minus, text)
  | text => (.absent, text)

/-- What follows the letter of an exponent. -/
def parsePower
    (capital : Bool)
    (text : List Char) :
    Option (Option Exponent × List Char) :=
  (parseDigits (parseSign text).2).map fun (digits, rest) =>
    (some { capital, sign := (parseSign text).1, digits }, rest)

/-- An exponent, if there is one. -/
def parseExponent : List Char → Option (Option Exponent × List Char)
  | 'e' :: text => parsePower false text
  | 'E' :: text => parsePower true text
  | text => some (none, text)

/-- A number. -/
def parseNumeral (text : List Char) : Option (Numeral × List Char) := do
  let (whole, afterWhole) ← parseDigits (parseMinus text).2
  if noLeadingZero : whole.chars.head? = some '0' → whole.chars = ['0'] then
    let (fraction, afterFraction) ← parseFraction afterWhole
    let (exponent, rest) ← parseExponent afterFraction
    let negative := (parseMinus text).1
    some ({ negative, whole, noLeadingZero, fraction, exponent }, rest)
  else
    none

/-- A character that is written as one or two code units. -/
def parseUnits : List Char → Option (Char × List Char)
  | first :: second :: third :: fourth :: rest => do
      let unit ← codeUnit first second third fourth
      if IsScalar unit then
        some (Char.ofNat unit, rest)
      else
        match rest with
        | '\\' :: 'u' :: first :: second :: third :: fourth :: rest => do
            let low ← codeUnit first second third fourth
            if IsPair unit low then
              some (pairChar unit low, rest)
            else
              none
        | _ => none
  | _ => none

/-- A character of a string. -/
def parseChar : List Char → Option (Char × List Char)
  | '\\' :: 'u' :: text => parseUnits text
  | '\\' :: letter :: text =>
      (unescape letter).map fun character => (character, text)
  | character :: text =>
      if 32 ≤ character.toNat ∧ character ≠ '"' ∧ character ≠ '\\' then
        some (character, text)
      else
        none
  | [] => none

/-- The characters of a string up to the closing quote. -/
def parseChars : Nat → List Char → Option (List Char × List Char)
  | 0, _ => none
  | _ + 1, '"' :: text => some ([], text)
  | fuel + 1, text => do
      let (character, text) ← parseChar text
      let (characters, text) ← parseChars fuel text
      some (character :: characters, text)

/-- A string. -/
def parseString : List Char → Option (String × List Char)
  | '"' :: text =>
      (parseChars text.length text).map fun (characters, rest) =>
        (String.ofList characters, rest)
  | _ => none

/-- A value that is neither an array nor an object. -/
def parseScalar (text : List Char) : Option (Json × List Char) :=
  match text with
  | 'n' :: 'u' :: 'l' :: 'l' :: rest => some (.null, rest)
  | 't' :: 'r' :: 'u' :: 'e' :: rest => some (.bool true, rest)
  | 'f' :: 'a' :: 'l' :: 's' :: 'e' :: rest => some (.bool false, rest)
  | '"' :: _ =>
      (parseString text).map fun (content, rest) => (.string content, rest)
  | _ => (parseNumeral text).map fun (numeral, rest) => (numeral.value, rest)

/-- The name of a member with the colon behind it. -/
def parseName (text : List Char) : Option (String × List Char) := do
  let (name, text) ← parseString (skipBlank text)
  match skipBlank text with
  | ':' :: text => some (name, skipBlank text)
  | _ => none

mutual

/-- A value. -/
def parseValue : Nat → List Char → Option (Json × List Char)
  | 0, _ => none
  | fuel + 1, '[' :: text =>
      match skipBlank text with
      | ']' :: rest => some (.array [], rest)
      | _ =>
          (parseElements fuel text).map fun (values, rest) =>
            (.array values, rest)
  | fuel + 1, '{' :: text =>
      match skipBlank text with
      | '}' :: rest => some (.object [], rest)
      | _ =>
          (parseMembers fuel text).map fun (members, rest) =>
            (.object members, rest)
  | _ + 1, text => parseScalar text

/-- The elements of an array up to the closing bracket. -/
def parseElements : Nat → List Char → Option (List Json × List Char)
  | 0, _ => none
  | fuel + 1, text => do
      let (value, text) ← parseValue fuel (skipBlank text)
      match skipBlank text with
      | ']' :: rest => some ([value], rest)
      | ',' :: text =>
          (parseElements fuel text).map fun (values, rest) =>
            (value :: values, rest)
      | _ => none

/-- The members of an object up to the closing brace. -/
def parseMembers : Nat → List Char → Option (List (String × Json) × List Char)
  | 0, _ => none
  | fuel + 1, text => do
      let (name, text) ← parseName text
      let (value, text) ← parseValue fuel text
      match skipBlank text with
      | '}' :: rest => some ([(name, value)], rest)
      | ',' :: text =>
          (parseMembers fuel text).map fun (members, rest) =>
            ((name, value) :: members, rest)
      | _ => none

end

/-- A document: a value with whitespace around it. -/
def parseDocument (text : List Char) : Option Json := do
  let (value, rest) ← parseValue (text.length + 1) (skipBlank text)
  if skipBlank rest = [] then
    some value
  else
    none

/-! ## What the functions read -/

/-- A character that can follow a value. -/
def isDelimiter (character : Char) : Bool :=
  isBlank character || character = ',' || character = ']' || character = '}'

/-- A text that can follow a value. -/
def Delimited (rest : List Char) : Prop :=
  ∀ character ∈ rest.head?, isDelimiter character

@[simp] theorem Delimited.nil : Delimited [] :=
  fun _ member => absurd member (by simp)

/-- Whitespace and a delimiter can follow a value. -/
theorem Delimited.append
    {blank rest : List Char}
    {character : Char}
    (isBlank : Blank blank)
    (delimiter : isDelimiter character) :
    Delimited (blank ++ character :: rest) := by
  intro first member
  cases blank with
  | nil =>
      rw [List.nil_append, List.head?_cons, Option.mem_some_iff] at member
      exact member ▸ delimiter
  | cons head tail =>
      rw [List.cons_append, List.head?_cons, Option.mem_some_iff] at member
      have headBlank := isBlank head List.mem_cons_self
      simp [isDelimiter, ← member, headBlank]

/-- Whitespace can follow a value. -/
theorem Delimited.of_blank
    {blank : List Char}
    (isBlank : Blank blank) :
    Delimited blank := by
  intro first member
  have inBlank : first ∈ blank := List.mem_of_mem_head? member
  simp [isDelimiter, isBlank first inBlank]

/-- A delimiter is no part of a number. -/
theorem not_part_of_isDelimiter
    {character : Char}
    (delimiter : isDelimiter character) :
    character.isDigit = false ∧ character ≠ '.' ∧ character ≠ 'e' ∧
      character ≠ 'E' := by
  simp only [isDelimiter, isBlank, Bool.or_eq_true,
    decide_eq_true_eq] at delimiter
  rcases delimiter with (((((rfl | rfl) | rfl) | rfl) | rfl) | rfl) | rfl <;>
    decide

@[simp] theorem skipBlank_append
    {blank : List Char}
    (isBlank : Blank blank)
    (text : List Char) :
    skipBlank (blank ++ text) = skipBlank text :=
  List.dropWhile_append_of_pos isBlank

@[simp] theorem skipBlank_blank
    {blank : List Char}
    (isBlank : Blank blank) :
    skipBlank blank = [] := by
  have skipped := skipBlank_append isBlank []
  rwa [List.append_nil] at skipped

/-- A text that starts with no whitespace is left as it is. -/
theorem skipBlank_cons
    {character : Char}
    (notBlank : isBlank character = false)
    (text : List Char) :
    skipBlank (character :: text) = character :: text := by
  simp [skipBlank, notBlank]

/-- Whitespace is skipped up to the character behind it. -/
theorem skipBlank_before
    {blank : List Char}
    (blankBefore : Blank blank)
    (character : Char)
    (notBlank : isBlank character = false)
    (text : List Char) :
    skipBlank (blank ++ character :: text) = character :: text := by
  rw [skipBlank_append blankBefore, skipBlank_cons notBlank]

/-- A row of digits is read to its end. -/
theorem parseDigits_append
    (digits : Digits)
    {rest : List Char}
    (stops : ∀ character ∈ rest.head?, character.isDigit = false) :
    parseDigits (digits.chars ++ rest) = some (digits, rest) := by
  obtain ⟨taken, dropped⟩ :=
    DecimalText.span_digits digits.areDigits stops
  simp only [parseDigits, taken, dropped]
  exact dif_pos digits.notEmpty

/-- Digits start with a digit. -/
theorem exists_digit (digits : Digits) :
    ∃ first rest, digits.chars = first :: rest ∧ first.isDigit := by
  obtain ⟨first, rest, same⟩ :=
    List.exists_cons_of_ne_nil digits.notEmpty
  exact ⟨first, rest, same, digits.areDigits first (by simp [same])⟩

/-- Digits have no sign in front. -/
theorem parseMinus_digits (digits : Digits) (rest : List Char) :
    parseMinus (digits.chars ++ rest) = (false, digits.chars ++ rest) := by
  obtain ⟨first, later, same, digit⟩ := exists_digit digits
  rw [same, List.cons_append, parseMinus]
  rintro text ⟨⟩
  exact absurd digit (by decide)

/-- The sign of an exponent is read. -/
theorem parseSign_text (sign : Sign) (digits : Digits) (rest : List Char) :
    parseSign (sign.text ++ (digits.chars ++ rest)) =
      (sign, digits.chars ++ rest) := by
  cases sign with
  | plus => rfl
  | minus => rfl
  | absent =>
      obtain ⟨first, later, same, digit⟩ := exists_digit digits
      rw [Sign.text, List.nil_append, same, List.cons_append, parseSign] <;>
        · rintro text ⟨⟩
          exact absurd digit (by decide)

/-- An exponent is read to its end. -/
theorem parseExponent_append
    (exponent : Option Exponent)
    {rest : List Char}
    (delimited : Delimited rest) :
    parseExponent (Numeral.exponentText exponent ++ rest) =
      some (exponent, rest) := by
  cases exponent with
  | none =>
      rw [Numeral.exponentText, List.nil_append]
      cases rest with
      | nil => rfl
      | cons head tail =>
          have notPart := not_part_of_isDelimiter (delimited head rfl)
          rw [parseExponent]
          · rintro text ⟨⟩
            exact notPart.2.2.1 rfl
          · rintro text ⟨⟩
            exact notPart.2.2.2 rfl
  | some exponent =>
      obtain ⟨capital, sign, digits⟩ := exponent
      have power :
          parsePower capital (sign.text ++ (digits.chars ++ rest)) =
            some (some { capital, sign, digits }, rest) := by
        have read : parseDigits (digits.chars ++ rest) = some (digits, rest) :=
          parseDigits_append digits fun character member =>
            (not_part_of_isDelimiter (delimited character member)).1
        simp [parsePower, parseSign_text, read]
      cases capital <;>
        simpa [Numeral.exponentText, Exponent.text, parseExponent] using power

/-- A fraction is read to its end. -/
theorem parseFraction_append
    (fraction : Option Digits)
    {rest : List Char}
    (noDigit : ∀ character ∈ rest.head?, character.isDigit = false)
    (noPoint : ∀ character ∈ rest.head?, character ≠ '.') :
    parseFraction (Numeral.fractionText fraction ++ rest) =
      some (fraction, rest) := by
  cases fraction with
  | none =>
      rw [Numeral.fractionText, List.nil_append]
      cases rest with
      | nil => rfl
      | cons head tail =>
          rw [parseFraction]
          rintro text ⟨⟩
          exact noPoint '.' rfl rfl
  | some digits =>
      simp [Numeral.fractionText, parseFraction,
        parseDigits_append digits noDigit]

/-- What follows the digits of a number does not start with a digit. -/
theorem exponentText_stops
    (exponent : Option Exponent)
    {rest : List Char}
    (delimited : Delimited rest) :
    ∀ character ∈ (Numeral.exponentText exponent ++ rest).head?,
      character.isDigit = false ∧ character ≠ '.' := by
  intro character member
  cases exponent with
  | none =>
      have notPart := not_part_of_isDelimiter (delimited character member)
      exact ⟨notPart.1, notPart.2.1⟩
  | some exponent =>
      have isLetter :
          (if exponent.capital then 'E' else 'e') = character := by
        simpa [Numeral.exponentText, Exponent.text] using member
      rw [← isLetter]
      cases exponent.capital <;> decide

/-- What follows the whole part of a number does not start with a digit. -/
theorem fractionText_stops
    (numeral : Numeral)
    {rest : List Char}
    (delimited : Delimited rest) :
    ∀ character ∈
        (Numeral.fractionText numeral.fraction ++
          (Numeral.exponentText numeral.exponent ++ rest)).head?,
      character.isDigit = false := by
  intro character member
  cases fraction : numeral.fraction with
  | none =>
      rw [fraction] at member
      exact (exponentText_stops numeral.exponent delimited character member).1
  | some digits =>
      have isPoint : '.' = character := by
        simpa [fraction, Numeral.fractionText] using member
      rw [← isPoint]
      decide

/-- A number is read to its end. -/
theorem parseNumeral_append
    (numeral : Numeral)
    {rest : List Char}
    (delimited : Delimited rest) :
    parseNumeral (numeral.text ++ rest) = some (numeral, rest) := by
  obtain ⟨negative, whole, noLeadingZero, fraction, exponent⟩ := numeral
  have minus (text : List Char) :
      parseMinus
          ((if negative then ['-'] else []) ++ (whole.chars ++ text)) =
        (negative, whole.chars ++ text) := by
    cases negative with
    | true => rfl
    | false => exact parseMinus_digits whole text
  have wholeRead :=
    parseDigits_append whole
      (fractionText_stops
        { negative, whole, noLeadingZero, fraction, exponent } delimited)
  have stops := exponentText_stops exponent delimited
  have fractionRead :=
    parseFraction_append fraction
      (fun character member => (stops character member).1)
      (fun character member => (stops character member).2)
  have exponentRead := parseExponent_append exponent delimited
  simp only [Numeral.text, List.append_assoc, parseNumeral, minus,
    wholeRead, fractionRead, exponentRead, Option.bind_eq_bind,
    Option.bind_some]
  exact dif_pos noLeadingZero

/-- A character of a string is read to its end. -/
theorem SpellsChar.parseChar_append
    {text : List Char}
    {character : Char}
    (spelled : SpellsChar text character)
    (rest : List Char) :
    parseChar (text ++ rest) = some (character, rest) := by
  cases spelled with
  | plain printable notQuote notBackslash =>
      rw [List.singleton_append, parseChar]
      · exact if_pos ⟨printable, notQuote, notBackslash⟩
      · exact fun _ isBackslash _ => notBackslash isBackslash
      · exact fun _ _ isBackslash _ => notBackslash isBackslash
  | @escape letter _ escaped =>
      have notUnit : letter ≠ 'u' := by
        rintro rfl
        simp [unescape] at escaped
      rw [List.cons_append, List.cons_append, List.nil_append, parseChar,
        escaped, Option.map_some]
      rintro ⟨⟩
      exact notUnit rfl
  | unit digits scalar =>
      simp [parseChar, parseUnits, digits, scalar]
  | pair highDigits lowDigits surrogates =>
      have notScalar : ¬ IsScalar _ := fun scalar =>
        scalar.elim (Nat.not_lt.mpr surrogates.1.1) fun above =>
          absurd surrogates.1.2 (by omega)
      simp [parseChar, parseUnits, highDigits, lowDigits, notScalar,
        surrogates]

/-- Enough fuel for a text is enough for one call. -/
theorem exists_fuel
    {length fuel : Nat}
    (enough : length < fuel) :
    ∃ later, fuel = later + 1 :=
  Nat.exists_eq_succ_of_ne_zero (Nat.ne_zero_of_lt enough)

/-- The characters of a string are read up to the closing quote. -/
theorem SpellsChars.parseChars_append
    {text characters : List Char}
    (spelled : SpellsChars text characters)
    (rest : List Char) :
    ∀ fuel, text.length < fuel →
      parseChars fuel (text ++ '"' :: rest) = some (characters, rest) := by
  induction spelled with
  | nil =>
      intro fuel enough
      obtain ⟨fuel, rfl⟩ := exists_fuel enough
      rfl
  | @cons text texts characters character first later inductionHypothesis =>
      intro fuel enough
      obtain ⟨fuel, rfl⟩ := exists_fuel enough
      have notEmpty : 0 < text.length := by cases first <;> simp
      have notQuote :
          ∀ later, text ++ texts ++ '"' :: rest ≠ '"' :: later := by
        rintro later same
        cases first with
        | plain _ notQuote _ => exact notQuote (List.cons.inj same).1
        | escape _ => exact absurd (List.cons.inj same).1 (by decide)
        | unit _ _ => exact absurd (List.cons.inj same).1 (by decide)
        | pair _ _ _ => exact absurd (List.cons.inj same).1 (by decide)
      have laterRead :=
        inductionHypothesis fuel (by
          rw [List.length_append] at enough
          omega)
      rw [parseChars]
      · rw [List.append_assoc, first.parseChar_append]
        simp [laterRead]
      · exact notQuote

/-- A string is read to its end. -/
theorem SpellsString.parseString_append
    {text : List Char}
    {content : String}
    (spelled : SpellsString text content)
    (rest : List Char) :
    parseString (text ++ rest) = some (content, rest) := by
  cases spelled with
  | @quoted text characters spelled =>
      have read :=
        spelled.parseChars_append rest (text ++ '"' :: rest).length (by simp)
      simp only [List.length_append, List.length_cons] at read
      simp [parseString, read]

/-- A string starts with a quote. -/
theorem SpellsString.head
    {text : List Char}
    {content : String}
    (spelled : SpellsString text content) :
    ∃ rest, text = '"' :: rest := by
  cases spelled with
  | quoted spelled => exact ⟨_, rfl⟩

/-- The name of a member is read up to its value. -/
theorem SpellsString.parseName_append
    {before text between after : List Char}
    {name : String}
    (blankBefore : Blank before)
    (spelled : SpellsString text name)
    (blankBetween : Blank between)
    (blankAfter : Blank after)
    (rest : List Char) :
    parseName (before ++ (text ++ (between ++ ':' :: (after ++ rest)))) =
      some (name, skipBlank rest) := by
  have noBlank (rest : List Char) :
      skipBlank (text ++ rest) = text ++ rest := by
    obtain ⟨later, rfl⟩ := spelled.head
    exact skipBlank_cons rfl _
  simp [parseName, skipBlank_append blankBefore, noBlank,
    spelled.parseString_append, skipBlank_before blankBetween ':' rfl,
    skipBlank_append blankAfter]

/-- A number starts with a digit or a minus sign. -/
theorem Numeral.head (numeral : Numeral) :
    ∃ first rest, numeral.text = first :: rest ∧
      (first = '-' ∨ first.isDigit) := by
  obtain ⟨first, rest, same, digit⟩ := exists_digit numeral.whole
  rw [Numeral.text, same]
  cases numeral.negative with
  | true => exact ⟨'-', _, rfl, Or.inl rfl⟩
  | false => exact ⟨first, _, rfl, Or.inr digit⟩

/-- A character that starts a number starts nothing else. -/
theorem starts_number
    {first : Char}
    (start : first = '-' ∨ first.isDigit) :
    isBlank first = false ∧ first ≠ '[' ∧ first ≠ '{' ∧ first ≠ '"' ∧
      first ≠ 'n' ∧ first ≠ 't' ∧ first ≠ 'f' ∧ first ≠ ']' := by
  rcases start with rfl | digit
  · decide
  · have notBlank : isBlank first = false := by
      by_contra blank
      simp only [isBlank, Bool.not_eq_false, Bool.or_eq_true,
        decide_eq_true_eq] at blank
      rcases blank with ((rfl | rfl) | rfl) | rfl <;>
        exact absurd digit (by decide)
    refine ⟨notBlank, ?_, ?_, ?_, ?_, ?_, ?_, ?_⟩ <;>
      · rintro rfl
        exact absurd digit (by decide)

/-- A number is read as a scalar. -/
theorem parseScalar_numeral
    (numeral : Numeral)
    {rest : List Char}
    (delimited : Delimited rest) :
    parseScalar (numeral.text ++ rest) = some (numeral.value, rest) := by
  have read := parseNumeral_append numeral delimited
  obtain ⟨first, later, same, start⟩ := numeral.head
  obtain ⟨-, -, -, notQuote, notNull, notTrue, notFalse, -⟩ :=
    starts_number start
  rw [same, List.cons_append] at read ⊢
  rw [parseScalar, read, Option.map_some]
  · exact fun _ isNull => notNull (List.cons.inj isNull).1
  · exact fun _ isTrue => notTrue (List.cons.inj isTrue).1
  · exact fun _ isFalse => notFalse (List.cons.inj isFalse).1
  · exact fun _ isQuote => notQuote (List.cons.inj isQuote).1

/-- A character that starts a value is no whitespace and closes no array. -/
theorem Spells.head
    {text : List Char}
    {value : Json}
    (spelled : Spells text (.value value)) :
    ∃ first rest, text = first :: rest ∧ isBlank first = false ∧
      first ≠ ']' := by
  cases spelled with
  | number numeral =>
      obtain ⟨first, rest, same, start⟩ := numeral.head
      have others := starts_number start
      exact ⟨first, rest, same, others.1, others.2.2.2.2.2.2.2⟩
  | string spelled =>
      obtain ⟨rest, same⟩ := spelled.head
      exact ⟨'"', rest, same, by decide, by decide⟩
  | null => exact ⟨_, _, rfl, by decide, by decide⟩
  | boolTrue => exact ⟨_, _, rfl, by decide, by decide⟩
  | boolFalse => exact ⟨_, _, rfl, by decide, by decide⟩
  | emptyArray _ => exact ⟨_, _, rfl, by decide, by decide⟩
  | array _ => exact ⟨_, _, rfl, by decide, by decide⟩
  | emptyObject _ => exact ⟨_, _, rfl, by decide, by decide⟩
  | object _ => exact ⟨_, _, rfl, by decide, by decide⟩

/-- There is no whitespace in front of a value. -/
theorem Spells.skipBlank_text
    {text : List Char}
    {value : Json}
    (spelled : Spells text (.value value))
    (rest : List Char) :
    skipBlank (text ++ rest) = text ++ rest := by
  obtain ⟨first, tail, rfl, notBlank, -⟩ := spelled.head
  exact skipBlank_cons notBlank _

/-- Elements do not start with a closing bracket. -/
theorem Spells.elements_notClosed
    {text : List Char}
    {values : List Json}
    (spelled : Spells text (.elements values))
    (rest : List Char) :
    ∀ later, skipBlank (text ++ rest) ≠ ']' :: later := by
  intro later closed
  cases spelled with
  | lastElement blankBefore spelled _ =>
      obtain ⟨first, tail, rfl, notBlank, notBracket⟩ := spelled.head
      rw [List.append_assoc, List.append_assoc, List.cons_append,
        skipBlank_before blankBefore first notBlank] at closed
      exact notBracket (List.cons.inj closed).1
  | element blankBefore spelled _ _ =>
      obtain ⟨first, tail, rfl, notBlank, notBracket⟩ := spelled.head
      rw [List.append_assoc, List.append_assoc, List.cons_append,
        skipBlank_before blankBefore first notBlank] at closed
      exact notBracket (List.cons.inj closed).1

/-- Members do not start with a closing brace. -/
theorem Spells.members_notClosed
    {text : List Char}
    {members : List (String × Json)}
    (spelled : Spells text (.members members))
    (rest : List Char) :
    ∀ later, skipBlank (text ++ rest) ≠ '}' :: later := by
  intro later closed
  cases spelled with
  | lastMember blankBefore named _ _ _ _ =>
      obtain ⟨tail, rfl⟩ := named.head
      rw [List.append_assoc, List.append_assoc, List.cons_append,
        skipBlank_before blankBefore '"' rfl] at closed
      exact absurd (List.cons.inj closed).1 (by decide)
  | member blankBefore named _ _ _ _ _ =>
      obtain ⟨tail, rfl⟩ := named.head
      rw [List.append_assoc, List.append_assoc, List.cons_append,
        skipBlank_before blankBefore '"' rfl] at closed
      exact absurd (List.cons.inj closed).1 (by decide)

/-- What the functions of the parser do with a text that spells a phrase. -/
def Reads (text : List Char) : Phrase → Prop
  | .value value =>
      ∀ fuel rest, text.length < fuel → Delimited rest →
        parseValue fuel (text ++ rest) = some (value, rest)
  | .elements values =>
      ∀ fuel rest, text.length < fuel →
        parseElements fuel (text ++ rest) = some (values, rest)
  | .members members =>
      ∀ fuel rest, text.length < fuel →
        parseMembers fuel (text ++ rest) = some (members, rest)

/-- A scalar is read as a value. -/
theorem Reads.scalar
    {text : List Char}
    {value : Json}
    (noArray : ∀ later, text ≠ '[' :: later)
    (noObject : ∀ later, text ≠ '{' :: later)
    (notEmpty : text ≠ [])
    (read :
      ∀ rest, Delimited rest →
        parseScalar (text ++ rest) = some (value, rest)) :
    Reads text (.value value) := by
  intro fuel rest enough delimited
  obtain ⟨fuel, rfl⟩ := exists_fuel enough
  obtain ⟨first, tail, rfl⟩ := List.exists_cons_of_ne_nil notEmpty
  rw [List.cons_append, parseValue]
  · exact read rest delimited
  · rintro later ⟨⟩
    exact noArray _ rfl
  · rintro later ⟨⟩
    exact noObject _ rfl

/-- Without a closing bracket the elements of an array are read. -/
theorem parseValue_elements
    {fuel : Nat}
    {text : List Char}
    (notClosed : ∀ later, skipBlank text ≠ ']' :: later) :
    parseValue (fuel + 1) ('[' :: text) =
      (parseElements fuel text).map fun (values, rest) =>
        (.array values, rest) := by
  rw [parseValue]
  split
  case h_1 later closed => exact absurd closed (notClosed later)
  case h_2 => rfl

/-- Without a closing brace the members of an object are read. -/
theorem parseValue_members
    {fuel : Nat}
    {text : List Char}
    (notClosed : ∀ later, skipBlank text ≠ '}' :: later) :
    parseValue (fuel + 1) ('{' :: text) =
      (parseMembers fuel text).map fun (members, rest) =>
        (.object members, rest) := by
  rw [parseValue]
  split
  case h_1 later closed => exact absurd closed (notClosed later)
  case h_2 => rfl

/-- What spells a phrase is read to its end. -/
theorem Spells.reads
    {text : List Char}
    {phrase : Phrase}
    (spelled : Spells text phrase) :
    Reads text phrase := by
  induction spelled with
  | null =>
      exact Reads.scalar (by simp) (by simp) (by simp) fun _ _ => rfl
  | boolTrue =>
      exact Reads.scalar (by simp) (by simp) (by simp) fun _ _ => rfl
  | boolFalse =>
      exact Reads.scalar (by simp) (by simp) (by simp) fun _ _ => rfl
  | number numeral =>
      obtain ⟨first, tail, same, start⟩ := numeral.head
      obtain ⟨-, notArray, notObject, -⟩ := starts_number start
      refine
        Reads.scalar ?_ ?_ (by simp [same])
          fun rest delimited => parseScalar_numeral numeral delimited
      · intro later isArray
        exact notArray (List.cons.inj (same.symm.trans isArray)).1
      · intro later isObject
        exact notObject (List.cons.inj (same.symm.trans isObject)).1
  | @string text content spelled =>
      obtain ⟨tail, rfl⟩ := spelled.head
      refine Reads.scalar (by simp) (by simp) (by simp) fun rest _ => ?_
      have read := spelled.parseString_append rest
      rw [List.cons_append] at read ⊢
      simp [parseScalar, read]
  | @emptyArray blank isBlank =>
      intro fuel rest enough _
      obtain ⟨fuel, rfl⟩ := exists_fuel enough
      simp [parseValue, skipBlank_before isBlank ']' rfl]
  | @array text values elements inductionHypothesis =>
      intro fuel rest enough _
      obtain ⟨fuel, rfl⟩ := exists_fuel enough
      have read :=
        inductionHypothesis fuel rest (Nat.lt_of_succ_lt_succ enough)
      rw [List.cons_append,
        parseValue_elements (elements.elements_notClosed rest), read,
        Option.map_some]
  | @emptyObject blank isBlank =>
      intro fuel rest enough _
      obtain ⟨fuel, rfl⟩ := exists_fuel enough
      simp [parseValue, skipBlank_before isBlank '}' rfl]
  | @object text members spelled inductionHypothesis =>
      intro fuel rest enough _
      obtain ⟨fuel, rfl⟩ := exists_fuel enough
      have read :=
        inductionHypothesis fuel rest (Nat.lt_of_succ_lt_succ enough)
      rw [List.cons_append,
        parseValue_members (spelled.members_notClosed rest), read,
        Option.map_some]
  | @lastElement before text after value blankBefore spelled blankAfter
      inductionHypothesis =>
      intro fuel rest enough
      obtain ⟨fuel, rfl⟩ := exists_fuel enough
      have valueRead :=
        inductionHypothesis fuel (after ++ ']' :: rest)
          (by simp at enough; omega)
          (Delimited.append blankAfter (by decide))
      simp [parseElements, skipBlank_append blankBefore,
        spelled.skipBlank_text, valueRead, skipBlank_before blankAfter ']' rfl]
  | @element before text after texts value values blankBefore spelled blankAfter
      later inductionHypothesis laterHypothesis =>
      intro fuel rest enough
      obtain ⟨fuel, rfl⟩ := exists_fuel enough
      have valueRead :=
        inductionHypothesis fuel (after ++ ',' :: (texts ++ rest))
          (by simp at enough; omega)
          (Delimited.append blankAfter (by decide))
      have laterRead :=
        laterHypothesis fuel rest (by simp at enough; omega)
      simp [parseElements, skipBlank_append blankBefore,
        spelled.skipBlank_text, valueRead, skipBlank_before blankAfter ',' rfl,
        laterRead]
  | @lastMember before nameText between colonAfter text after name value
      blankBefore named blankBetween blankColon spelled blankAfter
      inductionHypothesis =>
      intro fuel rest enough
      obtain ⟨fuel, rfl⟩ := exists_fuel enough
      have nameRead :=
        named.parseName_append blankBefore blankBetween blankColon
          (text ++ (after ++ '}' :: rest))
      have valueRead :=
        inductionHypothesis fuel (after ++ '}' :: rest)
          (by simp at enough; omega)
          (Delimited.append blankAfter (by decide))
      simp [parseMembers, nameRead, spelled.skipBlank_text, valueRead,
        skipBlank_before blankAfter '}' rfl]
  | @member before nameText between colonAfter text after texts name value
      members blankBefore named blankBetween blankColon spelled blankAfter later
      inductionHypothesis laterHypothesis =>
      intro fuel rest enough
      obtain ⟨fuel, rfl⟩ := exists_fuel enough
      have nameRead :=
        named.parseName_append blankBefore blankBetween blankColon
          (text ++ (after ++ ',' :: (texts ++ rest)))
      have valueRead :=
        inductionHypothesis fuel (after ++ ',' :: (texts ++ rest))
          (by simp at enough; omega)
          (Delimited.append blankAfter (by decide))
      have laterRead :=
        laterHypothesis fuel rest (by simp at enough; omega)
      simp [parseMembers, nameRead, spelled.skipBlank_text, valueRead,
        skipBlank_before blankAfter ',' rfl, laterRead]

/-- Every document that spells a value is read as that value. -/
theorem Document.parseDocument_eq
    {text : List Char}
    {value : Json}
    (document : Document text value) :
    parseDocument text = some value := by
  cases document with
  | @document before text after _ blankBefore spelled blankAfter =>
      have read :=
        spelled.reads ((before ++ (text ++ after)).length + 1) after
          (by simp; omega) (Delimited.of_blank blankAfter)
      simp only [parseDocument, skipBlank_append blankBefore,
        spelled.skipBlank_text, read, Option.bind_eq_bind, Option.bind_some,
        skipBlank_blank blankAfter, if_true]

/-! ## What the parser refuses -/

/-- An object is read whatever comes behind it. -/
theorem Spells.parseValue_object
    {text : List Char}
    {members : List (String × Json)}
    (spelled : Spells text (.members members))
    {fuel : Nat}
    (enough : text.length < fuel)
    (rest : List Char) :
    parseValue (fuel + 1) ('{' :: (text ++ rest)) =
      some (.object members, rest) := by
  have read : parseMembers fuel (text ++ rest) = some (members, rest) :=
    spelled.reads fuel rest enough
  rw [parseValue_members (spelled.members_notClosed rest), read,
    Option.map_some]

/-- Elements without a comma or a bracket behind an object are refused. -/
theorem parseElements_eq_none
    {text rest : List Char}
    {members : List (String × Json)}
    (spelled : Spells text (.members members))
    (noBracket : ∀ later, skipBlank rest ≠ ']' :: later)
    (noComma : ∀ later, skipBlank rest ≠ ',' :: later)
    {fuel : Nat}
    (enough : ('{' :: text).length < fuel) :
    parseElements (fuel + 1) ('{' :: (text ++ rest)) = none := by
  obtain ⟨fuel, rfl⟩ := exists_fuel enough
  have object : skipBlank ('{' :: (text ++ rest)) = '{' :: (text ++ rest) :=
    skipBlank_cons rfl _
  rw [parseElements, object,
    spelled.parseValue_object (Nat.lt_of_succ_lt_succ enough)]
  simp only [Option.bind_eq_bind, Option.bind_some]

/-- Elements are refused if the first one is. -/
theorem parseElements_of_value
    {text : List Char}
    {fuel : Nat}
    (refused : parseValue fuel (skipBlank text) = none) :
    parseElements (fuel + 1) text = none := by
  simp [parseElements, refused]

/-- Elements are refused if those behind the first one are. -/
theorem parseElements_of_later
    {before text after texts : List Char}
    {value : Json}
    (blankBefore : Blank before)
    (spelled : Spells text (.value value))
    (blankAfter : Blank after)
    {fuel : Nat}
    (enough : text.length < fuel)
    (refused : parseElements fuel texts = none) :
    parseElements (fuel + 1)
        (before ++ (text ++ (after ++ ',' :: texts))) =
      none := by
  have valueRead :
      parseValue fuel (text ++ (after ++ ',' :: texts)) =
        some (value, after ++ ',' :: texts) :=
    spelled.reads fuel _ enough (Delimited.append blankAfter (by decide))
  simp [parseElements, skipBlank_append blankBefore, spelled.skipBlank_text,
    valueRead, skipBlank_before blankAfter ',' rfl, refused]

/-- An object is refused if its members are. -/
theorem parseValue_of_members
    {text : List Char}
    {fuel : Nat}
    (notClosed : ∀ later, skipBlank text ≠ '}' :: later)
    (refused : parseMembers fuel text = none) :
    parseValue (fuel + 1) ('{' :: text) = none := by
  rw [parseValue_members notClosed, refused, Option.map_none]

/-- A member behind which the others are refused is refused. -/
theorem parseMembers_of_later
    {before nameText between colonAfter text after texts : List Char}
    {name : String}
    {value : Json}
    (blankBefore : Blank before)
    (named : SpellsString nameText name)
    (blankBetween : Blank between)
    (blankColon : Blank colonAfter)
    (spelled : Spells text (.value value))
    (blankAfter : Blank after)
    {fuel : Nat}
    (enough : text.length < fuel)
    (refused : parseMembers fuel texts = none) :
    parseMembers (fuel + 1)
        (before ++ (nameText ++ (between ++ ':' ::
          (colonAfter ++ (text ++ (after ++ ',' :: texts)))))) =
      none := by
  have nameRead :=
    named.parseName_append blankBefore blankBetween blankColon
      (text ++ (after ++ ',' :: texts))
  have valueRead :
      parseValue fuel (text ++ (after ++ ',' :: texts)) =
        some (value, after ++ ',' :: texts) :=
    spelled.reads fuel _ enough (Delimited.append blankAfter (by decide))
  simp [parseMembers, nameRead, spelled.skipBlank_text, valueRead,
    skipBlank_before blankAfter ',' rfl, refused]

/-- A member with an array whose elements are refused is refused. -/
theorem parseMembers_of_elements
    {before nameText between colonAfter text : List Char}
    {name : String}
    (blankBefore : Blank before)
    (named : SpellsString nameText name)
    (blankBetween : Blank between)
    (blankColon : Blank colonAfter)
    (notClosed : ∀ later, skipBlank text ≠ ']' :: later)
    {fuel : Nat}
    (refused : parseElements fuel text = none) :
    parseMembers (fuel + 2)
        (before ++ (nameText ++ (between ++ ':' ::
          (colonAfter ++ '[' :: text)))) =
      none := by
  have nameRead :=
    named.parseName_append blankBefore blankBetween blankColon ('[' :: text)
  have bracket : skipBlank ('[' :: text) = '[' :: text := skipBlank_cons rfl _
  have valueRefused : parseValue (fuel + 1) ('[' :: text) = none := by
    rw [parseValue_elements notClosed, refused, Option.map_none]
  simp [parseMembers, nameRead, bracket, valueRefused]

/-- No document starts with an object whose members are refused. -/
theorem not_document_of_members
    {text : List Char}
    (notClosed : ∀ later, skipBlank text ≠ '}' :: later)
    (refused : parseMembers ('{' :: text).length text = none)
    (value : Json) :
    ¬ Document ('{' :: text) value := by
  intro document
  have brace : skipBlank ('{' :: text) = '{' :: text := skipBlank_cons rfl _
  have valueRefused :
      parseValue (('{' :: text).length + 1) ('{' :: text) = none :=
    parseValue_of_members notClosed refused
  have parsed := document.parseDocument_eq
  rw [parseDocument, brace, valueRefused] at parsed
  cases parsed

/-- The text of an object with members is an opening brace and the members. -/
theorem Spells.exists_members
    {text : List Char}
    {member : String × Json}
    {members : List (String × Json)}
    (spelled : Spells text (.value (.object (member :: members)))) :
    ∃ inside,
      text = '{' :: inside ∧
        Spells inside (.members (member :: members)) := by
  generalize same : Phrase.value (.object (member :: members)) = phrase
    at spelled
  cases spelled with
  | object inside =>
      cases same
      exact ⟨_, rfl, inside⟩
  | number numeral =>
      have number := Phrase.value.inj same
      rw [Numeral.value] at number
      split at number <;> cases number
  | _ => cases same

/-! ## The contract -/

/-- A parser that finds the value of every document. -/
structure Parser where
  parse : List Char → Option Json
  complete :
    ∀ {text value}, Document text value → parse text = some value

/-- The recursive-descent parser. -/
def Parser.recursiveDescent : Parser where
  parse := parseDocument
  complete := Document.parseDocument_eq

example :
    (parseDocument "[1, -2.50, true]".toList).isSome := by
  decide +kernel

end Json
