/-
# The parameters of a function without a name

Plain parameters come first, then those with a default value; a slash may end the first ones, a star
begins those that are given by name, and two stars take the rest.  `value` reads a default value.
-/
import CrateSync.Console.Action.Reading

namespace CrateSync.Action.Reading

/-! ## Single parameters -/

/-- Reads the name of a parameter. -/
def parameterName : Reading Unit :=
  within 1 (name *> pure ())

/-- Reads the comma behind a parameter; behind the last one a colon may follow instead. -/
def parameterEnd : Reading Unit :=
  symbol "," <|> before (symbol ":")

/-- Reads a default value. -/
def defaultValue (value : Reading Term) : Reading Unit :=
  within 1 do
    (symbol "=" *> value *> pure ())
    <|> hinting (hint .missingDefault (symbol "=" *> before (symbol ")" <|> symbol ",")))

/-- Reads a parameter without a default value. -/
def plainParameter : Reading Unit :=
  within 1 (parameterName *> parameterEnd)

/-- Reads a parameter with a default value. -/
def valuedParameter (value : Reading Term) : Reading Unit :=
  within 1 (parameterName *> defaultValue value *> parameterEnd)

/-- Reads a parameter with a default value or without. -/
def anyParameter (value : Reading Term) : Reading Unit :=
  within 1 (parameterName *> optional (defaultValue value) *> parameterEnd)

/-! ## Parameters up to a slash -/

/-- Reads plain parameters and a slash. -/
def plainUpToSlash : Reading Unit :=
  within 1 (several plainParameter *> symbol "/" *> parameterEnd)

/-- Reads parameters of which the last one has a default value, and a slash. -/
def valuedUpToSlash (value : Reading Term) : Reading Unit :=
  within 1 do
    let _ ← many plainParameter
    let _ ← several (valuedParameter value)
    symbol "/"
    parameterEnd

/-- Reads parameters and a slash. -/
def anyUpToSlash (value : Reading Term) : Reading Unit :=
  plainUpToSlash <|> valuedUpToSlash value

/-! ## Parameters behind stars -/

/-- Reads two stars and the last parameter. -/
def doubleStarred : Reading Unit :=
  within 1 do
    hinting (do
      let named := symbol "**" *> parameterName
      hint .doubleStarDefault (named *> symbol "=")
      hint .parameterLate (named *> symbol "," *> parameterName)
      hint .parameterLate (named *> symbol "," *> oneOf ["*", "**", "/"]))
    <|> (symbol "**" *> plainParameter)

/-- Reads a star and the parameters behind it. -/
def starredParameters (value : Reading Term) : Reading Unit :=
  within 1 do
    let anyParameter := anyParameter value
    hinting (do
      hint .starAlone (symbol "*"
        *> (symbol ":" <|> (symbol "," *> (symbol ":" <|> symbol "**"))))
      hint .starDefault (symbol "*" *> parameterName *> symbol "=")
      let star := symbol "*" *> (plainParameter <|> symbol ",")
      hint .secondStar (star *> many anyParameter *> star))
    <|> (symbol "*" *> plainParameter *> many anyParameter *> optional doubleStarred *> pure ())
    <|> (symbol "*" *> symbol "," *> several anyParameter *> optional doubleStarred *> pure ())
    <|> doubleStarred

/-! ## All parameters -/

/-- Looks for mistakes in parameters. -/
def parameterHints (value : Reading Term) : Reading Unit := do
  let anyParameters := many (anyParameter value)
  hint .plainLate do
    let _ ← many plainParameter
    valuedUpToSlash value <|> (several (valuedParameter value) *> pure ())
    plainParameter
  hint .wrappedParameters do
    let _ ← many plainParameter
    symbol "("
    let _ ← separated parameterName
    let _ ← optional (symbol ",")
    symbol ")"
  hint .leadingSlash (symbol "/" *> symbol ",")
  hint .secondSlash (anyUpToSlash value *> anyParameters *> symbol "/")
  hint .slashBehindStar do
    let _ ← optional (anyUpToSlash value)
    let _ ← anyParameters
    symbol "*"
    symbol "," <|> plainParameter
    let _ ← anyParameters
    symbol "/"
  hint .slashBeforeStar (several (anyParameter value) *> symbol "/" *> symbol "*")

/-- Reads parameters. -/
def parameters (value : Reading Term) : Reading Unit :=
  within 1 do
    let valued := valuedParameter value
    let starred := optional (starredParameters value)
    hinting (parameterHints value)
    <|> within 1 (
      (plainUpToSlash *> many plainParameter *> many valued *> starred *> pure ())
      <|> (valuedUpToSlash value *> many valued *> starred *> pure ())
      <|> (several plainParameter *> many valued *> starred *> pure ())
      <|> (several valued *> starred *> pure ())
      <|> starredParameters value)

end CrateSync.Action.Reading
