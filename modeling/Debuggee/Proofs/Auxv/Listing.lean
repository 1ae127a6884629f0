import Debuggee.Auxv.Listing
import Debuggee.Proofs.Text.Numeral
import Debuggee.Proofs.Text.Words
import Mathlib.Data.List.TakeWhile

namespace Debuggee.AuxvListing

open Text

abbrev hexMark : List Char := ['0', 'x']

def decimalWord (places : Nat) (n : UInt64) : List Char :=
  Numeral.padded places (Numeral.decimal n.toNat)

def hexWord (places : Nat) (n : UInt64) : List Char :=
  hexMark ++ Numeral.padded places (Numeral.hex n.toNat)

theorem decimalWord?_decimalWord (places : Nat) (n : UInt64) :
    decimalWord? (decimalWord places n) = some n.toNat := by
  rw [decimalWord?, decimalWord, if_pos (Numeral.isDigits_padded places n.toNat)]
  exact Numeral.read?_padded (by decide) (by decide) n.toNat_lt_size places

theorem isHexDigit_digitChar {d : Nat} (hd : d < 16) :
    ((Nat.digitChar d).isDigit || ('a' ≤ Nat.digitChar d && Nat.digitChar d ≤ 'f')) = true := by
  interval_cases d <;> decide

theorem hexWord?_hexWord (places : Nat) (n : UInt64) :
    hexWord? (hexWord places n) = some n.toNat := by
  have hdigits : ∀ c ∈ Numeral.padded places (Numeral.hex n.toNat),
      (c.isDigit || ('a' ≤ c && c ≤ 'f')) = true := by
    intro c hc
    obtain ⟨d, hd, rfl⟩ := Numeral.mem_padded (by decide) hc
    exact isHexDigit_digitChar hd
  have hstrip : stripStart? hexMark (hexWord places n) =
      some (Numeral.padded places (Numeral.hex n.toNat)) := by
    simp [stripStart?, hexWord]
  rw [hexWord?, hstrip, Option.bind_eq_bind, Option.bind_some,
    List.takeWhile_eq_self_iff.2 hdigits]
  exact Numeral.read?_padded (by decide) (by decide) n.toNat_lt_size places

theorem hexWord?_of_not_prefix {word : List Char} (h : ¬hexMark <+: word) :
    hexWord? word = none := by
  have hstrip : stripStart? hexMark word = none := by
    simpa [stripStart?, List.isPrefixOf_iff_prefix] using h
  rw [hexWord?, hstrip]
  rfl

theorem not_prefix_decimalWord (places : Nat) (n : UInt64) : ¬hexMark <+: decimalWord places n := by
  intro h
  have hx : 'x' ∈ decimalWord places n := h.subset (.tail _ (.head _))
  obtain ⟨d, hd, heq⟩ := Numeral.mem_padded (by decide) hx
  interval_cases d <;> simp [Nat.digitChar] at heq

theorem decimalWord?_of_not_isDigit {word : List Char} {c : Char} (hc : c ∈ word)
    (h : c.isDigit = false) : decimalWord? word = none := by
  have hall : Numeral.isDigits word = false := by
    simpa [Numeral.isDigits] using fun _ => ⟨c, hc, h⟩
  rw [decimalWord?, hall]
  rfl

inductive IsEntry : UInt64 × UInt64 → List Char → Prop
  | hex {kind value description head tail} (places places' : Nat) :
      (∀ word ∈ description, ¬hexMark <+: word) →
      Laid (decimalWord places kind :: (description ++ [hexWord places' value])) head →
      Parted tail → IsEntry (kind, value) (head ++ tail)
  | decimal {kind value description line} (places places' : Nat) :
      (∀ word ∈ description, ¬hexMark <+: word) →
      Laid (decimalWord places kind :: (description ++ [decimalWord places' value])) line →
      IsEntry (kind, value) line

inductive IsNoise : List Char → Prop
  | blank {line} : Laid [] line → IsNoise line
  | words {first rest line c} : c ∈ first → c.isDigit = false → Laid (first :: rest) line →
      IsNoise line

theorem parseLine?_of_words {first : List Char} {rest : List (List Char)} {line : List Char}
    (h : words line = first :: rest) {kind value : UInt64}
    (hfirst : decimalWord? first = some kind.toNat)
    (hrest : (rest.findSome? hexWord? = some value.toNat) ∨
      rest.findSome? hexWord? = none ∧ rest.getLast?.bind decimalWord? = some value.toNat) :
    parseLine? line = some (kind, value) := by
  rw [parseLine?, h]
  rcases hrest with hhex | ⟨hhex, hlast⟩
  · simp [hfirst, hhex]
  · simp [hfirst, hhex, hlast]

theorem IsEntry.parseLine?_eq {pair : UInt64 × UInt64} {line : List Char} (h : IsEntry pair line) :
    parseLine? line = some pair := by
  have hskip {description : List (List Char)} (h : ∀ word ∈ description, ¬hexMark <+: word) :
      description.findSome? hexWord? = none :=
    List.findSome?_eq_none_iff.2 fun word hword => hexWord?_of_not_prefix (h word hword)
  cases h with
  | @hex kind value description head tail places places' hdescription hlaid htail =>
    have hwords := words_append head htail
    rw [hlaid.words_eq] at hwords
    refine parseLine?_of_words hwords (decimalWord?_decimalWord ..) (.inl ?_)
    simp [List.findSome?_append, hskip hdescription, hexWord?_hexWord]
  | @decimal kind value description line places places' hdescription hlaid =>
    have hlast := hexWord?_of_not_prefix (not_prefix_decimalWord places' value)
    refine parseLine?_of_words hlaid.words_eq (decimalWord?_decimalWord ..) (.inr ⟨?_, ?_⟩)
    · simp [List.findSome?_append, hskip hdescription, hlast]
    · simp [decimalWord?_decimalWord]

theorem IsNoise.parseLine?_eq {line : List Char} (h : IsNoise line) : parseLine? line = none := by
  cases h with
  | blank hlaid => rw [parseLine?, hlaid.words_eq]
  | words hc hdigit hlaid =>
    simp [parseLine?, hlaid.words_eq, decimalWord?_of_not_isDigit hc hdigit]

/-- These lines were written for these pairs, with noise between them. -/
inductive Lists : List (UInt64 × UInt64) → List (List Char) → Prop
  | nil : Lists [] []
  | entry {pair pairs line lines} : IsEntry pair line → '\n' ∉ line → Lists pairs lines →
      Lists (pair :: pairs) (line :: lines)
  | noise {pairs line lines} : IsNoise line → '\n' ∉ line → Lists pairs lines →
      Lists pairs (line :: lines)

def listing (lines : List (List Char)) : String := String.ofList (['\n'].intercalate lines)

theorem parseLine?_return (line : List Char) : parseLine? (line ++ ['\r']) = parseLine? line := by
  have hwords : words (line ++ ['\r']) = words line := by
    rw [words_append _ (parted_cons (by decide) []), show words ['\r'] = [] by decide,
      List.append_nil]
  rw [parseLine?, parseLine?, hwords]

theorem parse_eq (text : String) :
    parse text = (text.toList.splitOn '\n').filterMap parseLine? :=
  filterMap_lines rfl parseLine?_return _

theorem parse_append (a b : String) : parse (a ++ "\n" ++ b) = parse a ++ parse b := by
  have htext : (a ++ "\n" ++ b).toList = a.toList ++ '\n' :: b.toList := by simp
  rw [parse_eq, parse_eq, parse_eq, htext, List.splitOn_append_cons_self, List.filterMap_append]

theorem Lists.filterMap_eq {pairs : List (UInt64 × UInt64)} {lines : List (List Char)}
    (h : Lists pairs lines) : lines.filterMap parseLine? = pairs := by
  induction h with
  | nil => rfl
  | entry hentry _ _ ih => rw [List.filterMap_cons, hentry.parseLine?_eq, ih]
  | noise hnoise _ _ ih => rw [List.filterMap_cons, hnoise.parseLine?_eq, ih]

theorem Lists.not_mem {pairs : List (UInt64 × UInt64)} {lines : List (List Char)}
    (h : Lists pairs lines) : ∀ line ∈ lines, '\n' ∉ line := by
  induction h with
  | nil => simp
  | entry _ hline _ ih => exact List.forall_mem_cons.2 ⟨hline, ih⟩
  | noise _ hline _ ih => exact List.forall_mem_cons.2 ⟨hline, ih⟩

theorem Lists.parse_eq {pairs : List (UInt64 × UInt64)} {lines : List (List Char)}
    (h : Lists pairs lines) : parse (listing lines) = pairs := by
  rw [AuxvListing.parse_eq, listing, String.toList_ofList]
  cases lines with
  | nil => cases h; decide
  | cons line lines =>
    rw [List.splitOn_intercalate '\n' h.not_mem (List.cons_ne_nil line lines), h.filterMap_eq]

/--
A listing gives back the pairs it was written for, and where two texts meet at a line feed each is
read as it would be alone.
-/
theorem parse_listing :
    (∀ pairs lines, Lists pairs lines → parse (listing lines) = pairs) ∧
      ∀ a b : String, parse (a ++ "\n" ++ b) = parse a ++ parse b :=
  ⟨fun _ _ h => h.parse_eq, parse_append⟩

theorem parse_listing_program :
    let noise := "No auxiliary vector found.".toList
    let pageSize := "6    AT_PAGESZ            System page size               4096".toList
    let fileName := "31   AT_EXECFN            File name of executable        0x7fffffffefe3".toList
    let path := " \"/bin/true\"".toList
    Lists [(6, 4096), (31, 0x7fffffffefe3)] [noise, pageSize, fileName ++ path, []] ∧
      parse (listing [noise, pageSize, fileName ++ path, []]) =
        [(6, 4096), (31, 0x7fffffffefe3)] := by
  intro noise pageSize fileName path
  have hsaid : Laid ["No".toList, "auxiliary".toList, "vector".toList, "found.".toList] noise :=
    laid_iff.2 (by decide +kernel)
  have hnoise : IsNoise noise := .words (show 'N' ∈ "No".toList by decide +kernel) rfl hsaid
  have hpage : ∀ word ∈ ["AT_PAGESZ".toList, "System".toList, "page".toList, "size".toList],
      ¬hexMark <+: word := by decide +kernel
  have hpageSize : IsEntry (6, 4096) pageSize :=
    .decimal 0 0 hpage (laid_iff.2 (by decide +kernel))
  have hfile : ∀ word ∈ ["AT_EXECFN".toList, "File".toList, "name".toList, "of".toList,
      "executable".toList], ¬hexMark <+: word := by decide +kernel
  have hfileName : IsEntry (31, 0x7fffffffefe3) (fileName ++ path) :=
    .hex 0 0 hfile (laid_iff.2 (by decide +kernel)) (parted_cons rfl _)
  have hend : IsNoise [] := .blank (laid_iff.2 rfl)
  have hlists := Lists.noise hnoise (by decide +kernel) <| .entry hpageSize (by decide +kernel) <|
    .entry hfileName (by decide +kernel) <| .noise hend (by decide) .nil
  exact ⟨hlists, parse_listing.1 _ _ hlists⟩

end Debuggee.AuxvListing
