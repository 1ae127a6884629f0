import Debuggee.Text.Search

namespace Debuggee.Text.Path

def isAbsolute : List Char → Bool
  | '/' :: _ => true
  | _ => false

def join (base path : List Char) : List Char :=
  if isAbsolute path then path
  else if base.isEmpty || base.getLast? = some '/' then base ++ path
  else base ++ '/' :: path

def isName (piece : List Char) : Bool := !piece.isEmpty && piece ≠ ['.']

def components (path : List Char) : List (List Char) := (pieces '/' path).filter isName

def step (kept : List (List Char)) (component : List Char) : List (List Char) :=
  if component = ['.', '.'] then kept.dropLast else kept ++ [component]

def ofComponents (names : List (List Char)) : List Char :=
  '/' :: List.intercalate ['/'] names

def absolute (workingDirectory path : List Char) : List Char :=
  ofComponents ((components (join workingDirectory path)).foldl step [])

end Debuggee.Text.Path
