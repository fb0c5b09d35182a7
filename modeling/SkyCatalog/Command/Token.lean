import SkyCatalog.Numeral.Integer
import SkyCatalog.Numeral.Real

/-!
# Tokens — the pieces of a line, taken from the left

A line is read by taking one token after another off its front. Each function skips the
white space before the token and gives the token and the text right after it, or nothing
when the next token does not have the required shape. A token is never split: a word runs
up to the next white space, and the bracket that closes a name ends its word too.
-/

namespace SkyCatalog.Token

open SkyCatalog.Text (isBlank skipBlanks)

def inWord (c : Char) : Bool := !isBlank c

/-- A word: a run of characters other than white space. -/
def word? (s : List Char) : Option (List Char × List Char) :=
  let s := skipBlanks s
  if s.isEmpty then none else some (s.takeWhile inWord, s.dropWhile inWord)

/-- A text that is at its end, or goes on with white space. -/
def atBreak : List Char → Bool
  | [] => true
  | c :: _ => isBlank c

def inName (c : Char) : Bool := c != ']'

/-- A name: what stands between square brackets, at least one character. -/
def name? (s : List Char) : Option (List Char × List Char) :=
  match skipBlanks s with
  | '[' :: s =>
    match s.takeWhile inName, s.dropWhile inName with
    | c :: cs, _ :: rest => if atBreak rest then some (c :: cs, rest) else none
    | _, _ => none
  | _ => none

/-- A word that denotes something. -/
def numeral? {α : Type} (denote : List Char → Option α) (s : List Char) :
    Option (α × List Char) :=
  (word? s).bind fun (w, rest) => (denote w).map (·, rest)

/-- A word that denotes a real number. -/
def real? (s : List Char) : Option (Binary64 × List Char) := numeral? Numeral.real? s

/-- A word that denotes a whole number. -/
def integer? (s : List Char) : Option (Int × List Char) := numeral? Numeral.integer? s

example : word? "  add x".toList = some ("add".toList, " x".toList) := by decide
example : name? " [Milky Way] x".toList = some ("Milky Way".toList, " x".toList) := by decide
example : name? "[a]b".toList = none := by decide
example : name? "[] x".toList = none := by decide

end SkyCatalog.Token
