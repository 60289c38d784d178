/-!
# Numbers in expressions

The texts that are accepted as floating-point numbers: an optional sign, and then digits with at
most one point among or around them and an optional exponent, or one of the words `inf`,
`infinity` and `nan` in any case.
-/

namespace SchemaDiagram.Decimal

/-- Whether a text is an exponent: a letter e, an optional sign and digits. -/
def isExponent : List Char → Bool
  | [] => false
  | e :: rest =>
    let ds := match rest with
      | '+' :: ds | '-' :: ds => ds
      | ds => ds
    (e == 'e' || e == 'E') && !ds.isEmpty && ds.all Char.isDigit

/-- Whether a text is a number without a sign. -/
def isUnsigned (s : List Char) : Bool :=
  let whole := s.takeWhile Char.isDigit
  let rest := s.dropWhile Char.isDigit
  let (fraction, rest) := match rest with
    | '.' :: rest => (rest.takeWhile Char.isDigit, rest.dropWhile Char.isDigit)
    | rest => ([], rest)
  !(whole.isEmpty && fraction.isEmpty) && (rest.isEmpty || isExponent rest)

/-- Whether a text is one of the words for numbers that are not finite. -/
def isSpecial (s : List Char) : Bool :=
  s.map Char.toLower ∈ ["inf".toList, "infinity".toList, "nan".toList]

/-- Whether a text is a number. -/
def isNumber (s : List Char) : Bool :=
  let magnitude := match s with
    | '+' :: rest | '-' :: rest => rest
    | rest => rest
  isUnsigned magnitude || isSpecial magnitude

end SchemaDiagram.Decimal
