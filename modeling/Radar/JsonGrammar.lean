import Radar.DecimalText
import Radar.Json

/-!
# The grammar of JSON texts

Which texts spell which values.  Numbers are read as exact fractions.  A
number without a fraction and an exponent is an integer.
-/

namespace Json

/-! ## Whitespace -/

/-- The four characters that may stand between tokens. -/
def isBlank (character : Char) : Bool :=
  character = ' ' || character = '\t' || character = '\n' || character = '\r'

/-- A row of such characters. -/
def Blank (text : List Char) : Prop :=
  ∀ character ∈ text, isBlank character

instance (text : List Char) : Decidable (Blank text) :=
  decidable_of_iff (text.all isBlank = true) List.all_eq_true

@[simp] theorem Blank.nil : Blank [] :=
  fun _ member => absurd member List.not_mem_nil

@[simp] theorem Blank.space : Blank [' '] := by
  intro character member
  rw [List.mem_singleton.mp member]
  decide

/-! ## Numbers -/

/-- The sign of an exponent. -/
inductive Sign where
  | absent
  | plus
  | minus

/-- The text of a sign. -/
def Sign.text : Sign → List Char
  | absent => []
  | plus => ['+']
  | minus => ['-']

/-- The exponent of a number. -/
structure Exponent where
  capital : Bool
  sign : Sign
  digits : Digits

namespace Exponent

/-- The text of an exponent. -/
def text (exponent : Exponent) : List Char :=
  (if exponent.capital then 'E' else 'e') ::
    (exponent.sign.text ++ exponent.digits.chars)

/-- The factor that an exponent stands for. -/
def factor (exponent : Exponent) : Rat :=
  match exponent.sign with
  | .minus => 1 / 10 ^ exponent.digits.value
  | _ => 10 ^ exponent.digits.value

end Exponent

/-- A number in the form in which it is written. -/
structure Numeral where
  negative : Bool
  whole : Digits
  noLeadingZero : whole.chars.head? = some '0' → whole.chars = ['0']
  fraction : Option Digits
  exponent : Option Exponent

namespace Numeral

/-- The fraction of a number with its point. -/
def fractionText : Option Digits → List Char
  | none => []
  | some digits => '.' :: digits.chars

/-- The exponent of a number, if it has one. -/
def exponentText : Option Exponent → List Char
  | none => []
  | some exponent => exponent.text

/-- The text of a number. -/
def text (numeral : Numeral) : List Char :=
  (if numeral.negative then ['-'] else []) ++
    (numeral.whole.chars ++
      (fractionText numeral.fraction ++ exponentText numeral.exponent))

/-- The digits behind the point as a fraction. -/
def fractionValue : Option Digits → Rat
  | none => 0
  | some digits => digits.value / 10 ^ digits.chars.length

/-- The value of a number. -/
def value (numeral : Numeral) : Json :=
  match numeral.fraction, numeral.exponent with
  | none, none =>
      .integer
        ((if numeral.negative then -1 else 1) * (numeral.whole.value : Int))
  | fraction, exponent =>
      .decimal
        ((if numeral.negative then -1 else 1) *
          (numeral.whole.value + fractionValue fraction) *
            exponent.elim 1 Exponent.factor)

end Numeral

/-! ## Strings -/

/-- What a letter behind a backslash stands for. -/
def unescape : Char → Option Char
  | '"' => some '"'
  | '\\' => some '\\'
  | '/' => some '/'
  | 'b' => some '\x08'
  | 'f' => some '\x0c'
  | 'n' => some '\n'
  | 'r' => some '\r'
  | 't' => some '\t'
  | _ => none

/-- The value of a hexadecimal digit. -/
def hexDigit (character : Char) : Option Nat :=
  if character.isDigit then
    some (character.toNat - 48)
  else if 'a' ≤ character ∧ character ≤ 'f' then
    some (character.toNat - 87)
  else if 'A' ≤ character ∧ character ≤ 'F' then
    some (character.toNat - 55)
  else
    none

/-- The code unit that four hexadecimal digits stand for. -/
def codeUnit (first second third fourth : Char) : Option Nat := do
  let first ← hexDigit first
  let second ← hexDigit second
  let third ← hexDigit third
  let fourth ← hexDigit fourth
  return ((first * 16 + second) * 16 + third) * 16 + fourth

/-- A code unit that is a character by itself. -/
def IsScalar (unit : Nat) : Prop := unit < 0xD800 ∨ 0xE000 ≤ unit

instance (unit : Nat) : Decidable (IsScalar unit) :=
  inferInstanceAs (Decidable (_ ∨ _))

/-- Two code units that are a character together. -/
def IsPair (high low : Nat) : Prop :=
  (0xD800 ≤ high ∧ high < 0xDC00) ∧ 0xDC00 ≤ low ∧ low < 0xE000

instance (high low : Nat) : Decidable (IsPair high low) :=
  inferInstanceAs (Decidable (_ ∧ _))

/-- The character of two code units. -/
def pairChar (high low : Nat) : Char :=
  Char.ofNat (0x10000 + (high - 0xD800) * 0x400 + (low - 0xDC00))

/-- The texts of a character inside a string. -/
inductive SpellsChar : List Char → Char → Prop where
  | plain
      {character : Char}
      (printable : 32 ≤ character.toNat)
      (notQuote : character ≠ '"')
      (notBackslash : character ≠ '\\') :
      SpellsChar [character] character
  | escape
      {letter character : Char}
      (escaped : unescape letter = some character) :
      SpellsChar ['\\', letter] character
  | unit
      {first second third fourth : Char}
      {unit : Nat}
      (digits : codeUnit first second third fourth = some unit)
      (scalar : IsScalar unit) :
      SpellsChar ['\\', 'u', first, second, third, fourth] (Char.ofNat unit)
  | pair
      {first second third fourth : Char}
      {first' second' third' fourth' : Char}
      {high low : Nat}
      (highDigits : codeUnit first second third fourth = some high)
      (lowDigits : codeUnit first' second' third' fourth' = some low)
      (surrogates : IsPair high low) :
      SpellsChar
        ['\\', 'u', first, second, third, fourth,
          '\\', 'u', first', second', third', fourth']
        (pairChar high low)

/-- The texts of a row of characters inside a string. -/
inductive SpellsChars : List Char → List Char → Prop where
  | nil : SpellsChars [] []
  | cons
      {text texts characters : List Char}
      {character : Char}
      (first : SpellsChar text character)
      (later : SpellsChars texts characters) :
      SpellsChars (text ++ texts) (character :: characters)

/-- The texts of a string: its characters between quotes. -/
inductive SpellsString : List Char → String → Prop where
  | quoted
      {text characters : List Char}
      (spelled : SpellsChars text characters) :
      SpellsString ('"' :: (text ++ ['"'])) (String.ofList characters)

/-! ## Values -/

/--
What a piece of text can be: a value, the elements of an array with the closing
bracket, or the members of an object with the closing brace.
-/
inductive Phrase where
  | value (value : Json)
  | elements (values : List Json)
  | members (members : List (String × Json))

/-- The texts of values. -/
inductive Spells : List Char → Phrase → Prop where
  | null : Spells ['n', 'u', 'l', 'l'] (.value .null)
  | boolTrue : Spells ['t', 'r', 'u', 'e'] (.value (.bool true))
  | boolFalse : Spells ['f', 'a', 'l', 's', 'e'] (.value (.bool false))
  | number (numeral : Numeral) : Spells numeral.text (.value numeral.value)
  | string
      {text : List Char}
      {content : String}
      (spelled : SpellsString text content) :
      Spells text (.value (.string content))
  | emptyArray
      {blank : List Char}
      (isBlank : Blank blank) :
      Spells ('[' :: (blank ++ [']'])) (.value (.array []))
  | array
      {text : List Char}
      {values : List Json}
      (elements : Spells text (.elements values)) :
      Spells ('[' :: text) (.value (.array values))
  | emptyObject
      {blank : List Char}
      (isBlank : Blank blank) :
      Spells ('{' :: (blank ++ ['}'])) (.value (.object []))
  | object
      {text : List Char}
      {members : List (String × Json)}
      (spelled : Spells text (.members members)) :
      Spells ('{' :: text) (.value (.object members))
  | lastElement
      {before text after : List Char}
      {value : Json}
      (blankBefore : Blank before)
      (spelled : Spells text (.value value))
      (blankAfter : Blank after) :
      Spells (before ++ (text ++ (after ++ [']']))) (.elements [value])
  | element
      {before text after texts : List Char}
      {value : Json}
      {values : List Json}
      (blankBefore : Blank before)
      (spelled : Spells text (.value value))
      (blankAfter : Blank after)
      (later : Spells texts (.elements values)) :
      Spells (before ++ (text ++ (after ++ ',' :: texts)))
        (.elements (value :: values))
  | lastMember
      {before nameText between colonAfter text after : List Char}
      {name : String}
      {value : Json}
      (blankBefore : Blank before)
      (named : SpellsString nameText name)
      (blankBetween : Blank between)
      (blankColon : Blank colonAfter)
      (spelled : Spells text (.value value))
      (blankAfter : Blank after) :
      Spells
        (before ++ (nameText ++ (between ++ ':' ::
          (colonAfter ++ (text ++ (after ++ ['}']))))))
        (.members [(name, value)])
  | member
      {before nameText between colonAfter text after texts : List Char}
      {name : String}
      {value : Json}
      {members : List (String × Json)}
      (blankBefore : Blank before)
      (named : SpellsString nameText name)
      (blankBetween : Blank between)
      (blankColon : Blank colonAfter)
      (spelled : Spells text (.value value))
      (blankAfter : Blank after)
      (later : Spells texts (.members members)) :
      Spells
        (before ++ (nameText ++ (between ++ ':' ::
          (colonAfter ++ (text ++ (after ++ ',' :: texts))))))
        (.members ((name, value) :: members))

/-- The documents that spell a value. -/
inductive Document : List Char → Json → Prop where
  | document
      {before text after : List Char}
      {value : Json}
      (blankBefore : Blank before)
      (spelled : Spells text (.value value))
      (blankAfter : Blank after) :
      Document (before ++ (text ++ after)) value

/-! ## Printed values -/

/-- The form in which `%u` writes a number. -/
def Numeral.ofNat (number : Nat) : Numeral where
  negative := false
  whole := Digits.ofNat number
  noLeadingZero := Digits.head_ofNat
  fraction := none
  exponent := none

/-- The form in which `%.nf` writes a number. -/
def Numeral.fixed (places : Nat) (number : Rat) : Numeral where
  negative := number < 0
  whole := Digits.ofNat (DecimalText.scaled places number / 10 ^ places)
  noLeadingZero := Digits.head_ofNat
  fraction :=
    some (Digits.padded places (DecimalText.scaled places number % 10 ^ places))
  exponent := none

/-- `%u` prints an integer. -/
theorem Spells.unsigned (number : Nat) :
    Spells (Nat.toDigits 10 number) (.value (.integer number)) := by
  have value : (Numeral.ofNat number).value = .integer number := by
    simp [Numeral.ofNat, Numeral.value]
  have text : (Numeral.ofNat number).text = Nat.toDigits 10 number := by
    simp [Numeral.ofNat, Numeral.text, Numeral.fractionText,
      Numeral.exponentText, Digits.ofNat]
  rw [← value, ← text]
  exact Spells.number _

/-- `%.nf` prints the rounded number. -/
theorem Spells.fixed
    {places : Nat}
    (positive : 0 < places)
    (number : Rat) :
    Spells (DecimalText.printFixed places number)
      (.value (.decimal (DecimalText.rounded places number))) := by
  have length :
      (Digits.padded places
        (DecimalText.scaled places number % 10 ^ places)).chars.length =
          places :=
    Digits.length_padded positive (Nat.mod_lt _ (Nat.pow_pos (by decide)))
  have value :
      (Numeral.fixed places number).value =
        .decimal (DecimalText.rounded places number) := by
    simp only [Numeral.fixed, Numeral.value, Numeral.fractionValue,
      Digits.value_ofNat, Digits.value_padded, length, decide_eq_true_eq,
      DecimalText.scaled_split, DecimalText.rounded, Option.elim_none,
      mul_one]
  have text :
      (Numeral.fixed places number).text =
        DecimalText.printFixed places number := by
    simp [Numeral.fixed, Numeral.text, Numeral.fractionText,
      Numeral.exponentText, DecimalText.printFixed]
  rw [← value, ← text]
  exact Spells.number _

/-- `%.nf` prints a `double` that is finite as a rounded number. -/
theorem Spells.printFixed
    {places : Nat}
    (positive : 0 < places)
    {value : DecimalText.Double}
    (finite : value.isFinite = true) :
    Spells (value.printFixed places)
      (.value (.decimal (DecimalText.rounded places value.toRat))) := by
  cases value with
  | finite value => exact Spells.fixed positive value
  | negativeZero =>
      let zero : Numeral := { Numeral.fixed places 0 with negative := true }
      have value : zero.value = .decimal (DecimalText.rounded places 0) := by
        simp [zero, Numeral.fixed, Numeral.value, Numeral.fractionValue,
          DecimalText.rounded, DecimalText.scaled, DecimalText.roundHalfEven]
      have text :
          zero.text = '-' :: DecimalText.printFixed places 0 := by
        simp [zero, Numeral.fixed, Numeral.text, Numeral.fractionText,
          Numeral.exponentText, DecimalText.printFixed]
      rw [DecimalText.Double.toRat, DecimalText.Double.printFixed, ← value,
        ← text]
      exact Spells.number zero
  | infinite | nan => cases finite

/-- A name between quotes, if it needs no escapes. -/
theorem SpellsString.plain
    (name : String)
    (printable :
      ∀ character ∈ name.toList,
        32 ≤ character.toNat ∧ character ≠ '"' ∧ character ≠ '\\') :
    SpellsString ('"' :: (name.toList ++ ['"'])) name := by
  have spelled : SpellsChars name.toList name.toList := by
    generalize name.toList = characters at printable
    induction characters with
    | nil => exact SpellsChars.nil
    | cons first later inductionHypothesis =>
        have start := printable first List.mem_cons_self
        exact
          SpellsChars.cons (SpellsChar.plain start.1 start.2.1 start.2.2)
            (inductionHypothesis fun character member =>
              printable character (List.mem_cons_of_mem _ member))
  have quoted := SpellsString.quoted spelled
  rwa [String.ofList_toList] at quoted

/-! ## Rows of values -/

/-- Elements with a comma and a space between them. -/
theorem Spells.joined
    {texts : List (List Char)}
    {values : List Json}
    (notEmpty : values ≠ [])
    (spelled :
      List.Forall₂ (fun text value => Spells text (.value value))
        texts values) :
    Spells ([',', ' '].intercalate texts ++ [']']) (.elements values) := by
  suffices behind :
      ∀ before, Blank before →
        Spells (before ++ ([',', ' '].intercalate texts ++ [']']))
          (.elements values) by
    simpa using behind [] Blank.nil
  induction spelled with
  | nil => exact absurd rfl notEmpty
  | @cons text value texts values first later inductionHypothesis =>
      intro before blankBefore
      cases later with
      | nil => simpa using Spells.lastElement blankBefore first Blank.nil
      | cons second others =>
          have rest :=
            inductionHypothesis (List.cons_ne_nil _ _) [' '] Blank.space
          simpa [List.intercalate_cons_cons] using
            Spells.element blankBefore first Blank.nil rest

/-! ## Characters of a document -/

/-- A text without the character that ends C strings. -/
def NulFree (text : List Char) : Prop := '\x00' ∉ text

@[simp] theorem NulFree.nil : NulFree [] := List.not_mem_nil

@[simp] theorem nulFree_cons (character : Char) (text : List Char) :
    NulFree (character :: text) ↔ character ≠ '\x00' ∧ NulFree text := by
  simp [NulFree, eq_comm]

@[simp] theorem nulFree_append (first second : List Char) :
    NulFree (first ++ second) ↔ NulFree first ∧ NulFree second := by
  simp [NulFree]

theorem Blank.nulFree {text : List Char} (blank : Blank text) :
    NulFree text :=
  fun member => absurd (blank _ member) (by decide)

theorem nulFree_digits (digits : Digits) : NulFree digits.chars :=
  fun member => absurd (digits.areDigits _ member) (by decide)

/-- Numbers contain no such character. -/
theorem Numeral.nulFree (numeral : Numeral) : NulFree numeral.text := by
  have fraction : NulFree (fractionText numeral.fraction) := by
    cases numeral.fraction with
    | none => exact NulFree.nil
    | some digits => simp [fractionText, nulFree_digits digits]
  have exponent : NulFree (exponentText numeral.exponent) := by
    rcases numeral.exponent with _ | ⟨capital, sign, digits⟩
    · exact NulFree.nil
    · have digitsFree := nulFree_digits digits
      cases capital <;> cases sign <;>
        simpa [exponentText, Exponent.text, Sign.text] using digitsFree
  have whole := nulFree_digits numeral.whole
  cases negative : numeral.negative <;>
    simp [text, negative, whole, fraction, exponent]

/-- Hexadecimal digits contain no such character. -/
theorem nulFree_codeUnit
    {first second third fourth : Char}
    {unit : Nat}
    (digits : codeUnit first second third fourth = some unit) :
    NulFree [first, second, third, fourth] := by
  have noDigit : hexDigit '\x00' = none := by decide
  simp only [nulFree_cons, NulFree.nil, and_true]
  refine ⟨?_, ?_, ?_, ?_⟩ <;>
    · rintro rfl
      simp [codeUnit, noDigit] at digits

/-- Characters of strings are written without such a character. -/
theorem SpellsChar.nulFree
    {text : List Char}
    {character : Char}
    (spelled : SpellsChar text character) :
    NulFree text := by
  cases spelled with
  | plain printable _ _ =>
      rw [nulFree_cons]
      refine ⟨?_, NulFree.nil⟩
      rintro rfl
      exact absurd printable (by decide)
  | @escape letter _ escaped =>
      simp only [nulFree_cons, NulFree.nil, and_true]
      refine ⟨by decide, ?_⟩
      rintro rfl
      simp [unescape] at escaped
  | unit digits _ =>
      have hexFree := nulFree_codeUnit digits
      simpa using hexFree
  | pair highDigits lowDigits _ =>
      have highFree := nulFree_codeUnit highDigits
      have lowFree := nulFree_codeUnit lowDigits
      simp only [nulFree_cons, NulFree.nil, and_true] at highFree lowFree
      simp [highFree, lowFree]

/-- Strings are written without such a character. -/
theorem SpellsString.nulFree
    {text : List Char}
    {content : String}
    (spelled : SpellsString text content) :
    NulFree text := by
  cases spelled with
  | @quoted text _ spelled =>
      have inside : NulFree text := by
        induction spelled with
        | nil => exact NulFree.nil
        | cons first later inductionHypothesis =>
            exact (nulFree_append _ _).mpr ⟨first.nulFree, inductionHypothesis⟩
      simp [inside]

/-- Values are written without such a character. -/
theorem Spells.nulFree
    {text : List Char}
    {phrase : Phrase}
    (spelled : Spells text phrase) :
    NulFree text := by
  induction spelled with
  | null => simp
  | boolTrue => simp
  | boolFalse => simp
  | number numeral => exact numeral.nulFree
  | string spelled => exact spelled.nulFree
  | emptyArray isBlank => simp [isBlank.nulFree]
  | array elements inductionHypothesis => simp [inductionHypothesis]
  | emptyObject isBlank => simp [isBlank.nulFree]
  | object spelled inductionHypothesis => simp [inductionHypothesis]
  | lastElement blankBefore _ blankAfter inductionHypothesis =>
      simp [blankBefore.nulFree, blankAfter.nulFree, inductionHypothesis]
  | element blankBefore _ blankAfter _ valueFree laterFree =>
      simp [blankBefore.nulFree, blankAfter.nulFree, valueFree, laterFree]
  | lastMember blankBefore named blankBetween blankColon _ blankAfter
      inductionHypothesis =>
      simp [blankBefore.nulFree, named.nulFree, blankBetween.nulFree,
        blankColon.nulFree, blankAfter.nulFree, inductionHypothesis]
  | member blankBefore named blankBetween blankColon _ blankAfter _ valueFree
      laterFree =>
      simp [blankBefore.nulFree, named.nulFree, blankBetween.nulFree,
        blankColon.nulFree, blankAfter.nulFree, valueFree, laterFree]

/-- Documents contain no character that ends C strings. -/
theorem Document.nulFree
    {text : List Char}
    {value : Json}
    (document : Document text value) :
    NulFree text := by
  cases document with
  | document blankBefore spelled blankAfter =>
      simp [blankBefore.nulFree, spelled.nulFree, blankAfter.nulFree]

end Json
