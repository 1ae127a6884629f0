import Debuggee.Text.Letter

namespace Debuggee.Expression

open Text

/--
Walks a text with the character before it. A word is the longest run of word characters, so it
begins at a word character with none before it.
-/
def fixFrom (isRegister : List Char → Bool) (before : Option Char) : List Char → List Char
  | [] => []
  | c :: cs =>
    let rest := c :: fixFrom isRegister (some c) cs
    let begins := isWordPart c && !before.any isWordPart
    if begins && before ≠ some '$' && isRegister (c :: cs.takeWhile isWordPart) then '$' :: rest
    else rest

def isRegister (names : List String) (word : List Char) : Bool :=
  ("sp" :: "pc" :: names).contains (String.ofList word)

def fix (names : List String) (expression : String) : String :=
  String.ofList (fixFrom (isRegister names) none expression.toList)

end Debuggee.Expression
