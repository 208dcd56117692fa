import DeskCalculator.Number.Literal
import DeskCalculator.Text.Blank

/-! A cursor is a place in a text: how many characters lie before it, and the
characters still to be read. -/

namespace DeskCalculator.Expression

structure Cursor where
  position : Nat
  rest : List Char
deriving DecidableEq, Repr

namespace Cursor

def start (text : List Char) : Cursor :=
  ⟨0, text⟩

def isAtEnd (cursor : Cursor) : Bool :=
  cursor.rest.isEmpty

def length (cursor : Cursor) : Nat :=
  cursor.position + cursor.rest.length

def peek (cursor : Cursor) : Option Char :=
  cursor.rest.head?

def bump (cursor : Cursor) : Option Char × Cursor :=
  match cursor.rest with
  | [] => (none, cursor)
  | character :: rest => (some character, ⟨cursor.position + 1, rest⟩)

def skipBlanks (cursor : Cursor) : Cursor :=
  ⟨cursor.position + (cursor.rest.takeWhile Text.isBlank).length,
    cursor.rest.dropWhile Text.isBlank⟩

/-- Passes the blanks ahead, and the expected character if it comes next. -/
def eat (expected : Char) (cursor : Cursor) : Bool × Cursor :=
  let cursor := cursor.skipBlanks
  match cursor.rest with
  | [] => (false, cursor)
  | character :: rest =>
      if character == expected then (true, ⟨cursor.position + 1, rest⟩)
      else (false, cursor)

/-- Passes the longest run of digits with at most one point. -/
def takeLiteral (cursor : Cursor) : List Char × Cursor :=
  let (literal, rest) := Number.splitLiteral cursor.rest
  (literal, ⟨cursor.position + literal.length, rest⟩)

example : (start "1.2.3".toList).takeLiteral = ("1.2".toList, ⟨3, ".3".toList⟩) := by decide

end Cursor

end DeskCalculator.Expression
