import Debuggee.Text.Ranges

namespace Debuggee.Text

def blankRanges : Ranges := [
  (0x9, 0xd), (0x20, 0x20), (0x85, 0x85), (0xa0, 0xa0), (0x1680, 0x1680), (0x2000, 0x200a),
  (0x2028, 0x2029), (0x202f, 0x202f), (0x205f, 0x205f), (0x3000, 0x3000)]

def isBlank (c : Char) : Bool := blankRanges.holds c

def trimStart (cs : List Char) : List Char := cs.dropWhile isBlank

def trimEnd (cs : List Char) : List Char := (cs.reverse.dropWhile isBlank).reverse

def trim (cs : List Char) : List Char := trimEnd (trimStart cs)

def words : List Char → List (List Char)
  | [] => []
  | c :: cs =>
    if isBlank c then words cs
    else match cs, words cs with
      | [], _ => [[c]]
      | d :: _, ws => if isBlank d then [c] :: ws else (c :: ws.headD []) :: ws.tail

theorem words_cons_of_isBlank {c : Char} (h : isBlank c = true) (cs : List Char) :
    words (c :: cs) = words cs := by
  simp [words, h]

/--
A line ends before a line feed, or before a carriage return and line feed together, or where the
text ends; nothing after the last line feed is no line.
-/
def lines : List Char → List (List Char)
  | [] => []
  | '\r' :: '\n' :: cs => [] :: lines cs
  | '\n' :: cs => [] :: lines cs
  | c :: cs => match lines cs with
    | [] => [[c]]
    | l :: ls => (c :: l) :: ls

@[simp] theorem lines_cons_lineFeed (cs : List Char) : lines ('\n' :: cs) = [] :: lines cs := by
  simp [lines]

def column (width : Nat) (text : String) : String :=
  text ++ String.ofList (List.replicate (width - text.length) ' ')

end Debuggee.Text
