import Retag.Text.Basic

/-!
# Cursors

A place in a text: the characters before it, nearest first, and the characters
after it. The number of characters left is kept with them, so that two places of
one text are compared without walking the text; it is the length of the rest by
construction.

A text has as many cursors as characters and one more. `Cursor.first` is the one
before the first character and `next?` leads from one to the following.
-/

namespace Retag.Text

/-- A place in a text. -/
structure Cursor where
  /-- The characters before the place, the nearest one first. -/
  before : List Char
  rest : List Char
  /-- The number of characters after the place. -/
  left : Nat
  left_eq : left = rest.length
  deriving DecidableEq

namespace Cursor

/-- The place before the first character. -/
def first (text : Text) : Cursor := ⟨[], text, text.length, rfl⟩

/-- The place between two pieces of a text. -/
def between (before rest : List Char) : Cursor :=
  ⟨before.reverse, rest, rest.length, rfl⟩

/-- The whole text that a cursor stands in. -/
def text (c : Cursor) : Text := c.before.reverse ++ c.rest

/-- The number of characters before the place. -/
def index (c : Cursor) : Nat := c.before.length

/-- The character after the place, and the place behind it. -/
def next? (c : Cursor) : Option (Char × Cursor) :=
  match h : c.rest with
  | [] => none
  | x :: rest => some (x, ⟨x :: c.before, rest, c.left - 1, by simp [c.left_eq, h]⟩)

/-- The place `count` characters earlier, if there is one. -/
def back? (c : Cursor) : Nat → Option Cursor
  | 0 => some c
  | count + 1 =>
    match c.before with
    | [] => none
    | x :: before =>
      (⟨before, x :: c.rest, c.left + 1, by simp [c.left_eq]⟩ : Cursor).back? count

/-- The text between a place and a later place of the same text. -/
def upTo (c d : Cursor) : Text := c.rest.take (c.left - d.left)

/-- Whether nothing stands before the place. -/
def isFirst (c : Cursor) : Bool := c.before.isEmpty

/-- Whether nothing stands after the place. -/
def isLast (c : Cursor) : Bool := c.rest.isEmpty

@[simp] theorem rest_first (t : Text) : (first t).rest = t := rfl

@[simp] theorem left_first (t : Text) : (first t).left = t.length := rfl

theorem next?_eq_none {c : Cursor} (hRest : c.rest = []) : c.next? = none := by
  obtain ⟨before, rest, left, hLeft⟩ := c
  subst hRest
  rfl

/-- Stepping over a character moves it from the rest to what was before. -/
theorem next?_cons {c : Cursor} {x : Char} {rest : List Char}
    (hRest : c.rest = x :: rest) :
    ∃ d, c.next? = some (x, d) ∧ d.before = x :: c.before ∧ d.rest = rest := by
  obtain ⟨before, whole, left, hLeft⟩ := c
  subst hRest
  exact ⟨_, rfl, rfl, rfl⟩

/-- A cursor is determined by the pieces on its two sides. -/
theorem ext_pieces {c d : Cursor} (hBefore : c.before = d.before)
    (hRest : c.rest = d.rest) :
    c = d := by
  obtain ⟨cb, cr, cl, hc⟩ := c
  obtain ⟨db, dr, dl, hd⟩ := d
  simp only at hBefore hRest
  subst hBefore hRest hc hd
  rfl

/-- Stepping keeps the text. -/
theorem text_next? {c d : Cursor} {x : Char} (hNext : c.next? = some (x, d)) :
    d.text = c.text := by
  obtain ⟨before, rest, left, hLeft⟩ := c
  cases rest with
  | nil => simp [next?] at hNext
  | cons y rest =>
    simp only [next?, Option.some.injEq, Prod.mk.injEq] at hNext
    obtain ⟨_, rfl⟩ := hNext
    simp [text]

/-- Stepping leaves one character less. -/
theorem left_next? {c d : Cursor} {x : Char} (hNext : c.next? = some (x, d)) :
    c.left = d.left + 1 := by
  obtain ⟨before, rest, left, hLeft⟩ := c
  cases rest with
  | nil => simp [next?] at hNext
  | cons y rest =>
    simp only [next?, Option.some.injEq, Prod.mk.injEq] at hNext
    obtain ⟨_, rfl⟩ := hNext
    simp only [List.length_cons] at hLeft
    simp only [hLeft, Nat.add_sub_cancel]

end Cursor

end Retag.Text
