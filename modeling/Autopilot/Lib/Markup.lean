/-
Markup that is put together from pieces.

A piece is text of the template, a value that is escaped where text stands, or an
attribute with an escaped value. An escaped value has none of the characters that
end a text or an attribute value, so the attributes of a fragment are the ones its
pieces say.
-/
import Mathlib.Data.List.Basic
import Mathlib.Tactic.Common

set_option autoImplicit false

namespace Markup

/-- A piece of markup over characters `α`, with attributes named by `ν`. -/
inductive Piece (ν α : Type) where
  /-- Text of the template. -/
  | raw (text : List α)
  | text (value : List α)
  /-- An attribute, with a space before it. -/
  | attribute (name : ν) (value : List α)

/-- What is written of the pieces: the text of a name, how a character is escaped, and
what stands around a value. -/
structure Writing (ν α : Type) where
  name : ν → List α
  escape : α → List α
  space : List α
  opening : List α
  closing : List α

variable {ν α : Type}

namespace Writing

variable (w : Writing ν α)

def escaped (value : List α) : List α := value.flatMap w.escape

def piece : Piece ν α → List α
  | .raw text => text
  | .text value => w.escaped value
  | .attribute name value => w.space ++ w.name name ++ w.opening ++ w.escaped value ++ w.closing

/-- The text of a fragment. -/
def written (pieces : List (Piece ν α)) : List α := pieces.flatMap w.piece

end Writing

/-- The values of the attributes with the given names, in their order. -/
def attributes (is : ν → Bool) (pieces : List (Piece ν α)) : List (List α) :=
  pieces.filterMap fun
    | .attribute name value => if is name then some value else none
    | _ => none

section attributes

variable (is : ν → Bool)

@[simp] theorem attributes_append (pieces pieces' : List (Piece ν α)) :
    attributes is (pieces ++ pieces') = attributes is pieces ++ attributes is pieces' := by
  simp [attributes]

end attributes

end Markup
