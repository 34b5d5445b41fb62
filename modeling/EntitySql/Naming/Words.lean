/-
  Names made of several words, in snake case (`user_account`) and in camel case (`userAccount`).
-/
import EntitySql.Text.Case

namespace EntitySql.Naming

open Text

/-- A new word starts with the capital `c` after `previous` when that is a small letter, a digit, or
a capital and a small letter follows. So acronyms stay together: `HTTPServer` is two words. -/
def startsWord (previous : Option Char) (c : Char) (next : Option Char) : Bool :=
  isUpper c && match previous with
    | none => false
    | some p => isLower p || p.isDigit || (isUpper p && next.any isLower)

/-- Snake case of the rest of a name, given the character before it. -/
def snakeFrom (previous : Option Char) : List Char → List Char
  | [] => []
  | c :: rest =>
    (if startsWord previous c rest.head? then ['_'] else []) ++ lowerChar c ++
      snakeFrom (some c) rest

/-- The name in small letters with an underscore in front of each word but the first. -/
def snake (name : String) : String := String.ofList (snakeFrom none name.toList)

/-- Camel case of the rest of a name. `started` says that something has been written, `capital`
that an underscore was passed since. -/
def camelFrom (started capital : Bool) : List Char → List Char
  | [] => []
  | c :: rest =>
    if c = '_' then camelFrom started started rest
    else (if capital then upperChar c else lowerChar c) ++ camelFrom true false rest

/-- A name without underscores that has letters of both cases is taken to be in camel case. -/
def isCamel (name : List Char) : Bool :=
  !name.contains '_' && name.any isLower && name.any isUpper

/-- The name without underscores, each word but the first with a capital. In a name that is in
camel case already, only the first letter is made small. -/
def camel (name : String) : String :=
  if isCamel name.toList then
    match name.toList with
    | [] => ""
    | c :: rest => String.ofList (lowerChar c ++ rest)
  else String.ofList (camelFrom false false name.toList)

end EntitySql.Naming
