import Tidebook.Library.Codec

/-! # Records

Positional binary records described by data: the names and types of their fields, in order.
-/

namespace Tidebook.Library

inductive FieldType where
  | bytes (width : Nat)
  | number (width : Nat)
  | flag
  | text
  | choice (names : List String) (few : names.length ≤ 256)
  deriving DecidableEq

theorem two_few (first second : String) : [first, second].length ≤ 256 := by simp

theorem three_few (first second third : String) : [first, second, third].length ≤ 256 := by simp

structure Field where
  name : String
  type : FieldType
  deriving DecidableEq

/-- A record type under its name. -/
structure Declaration where
  name : String
  fields : List Field
  deriving DecidableEq

def FieldType.Value : FieldType → Type
  | .bytes width => Codec.Block width
  | .number width => Fin (256 ^ width)
  | .flag => Bool
  | .text => Codec.Text
  | .choice names _ => Fin names.length

instance FieldType.decidableEq : (type : FieldType) → DecidableEq type.Value
  | .bytes width => inferInstanceAs (DecidableEq (Codec.Block width))
  | .number width => inferInstanceAs (DecidableEq (Fin (256 ^ width)))
  | .flag => inferInstanceAs (DecidableEq Bool)
  | .text => inferInstanceAs (DecidableEq (Subtype _))
  | .choice names _ => inferInstanceAs (DecidableEq (Fin names.length))

def Codec.flag : Codec Bool :=
  (Codec.tag 2 (by decide)).narrow (fun choice => some (choice = 1))
    (fun value => if value then 1 else 0) (by decide) (by decide)

def FieldType.codec : (type : FieldType) → Codec type.Value
  | .bytes width => Codec.block width
  | .number width => Codec.number width
  | .flag => Codec.flag
  | .text => Codec.text
  | .choice names few => Codec.tag names.length few

def Record : List Field → Type
  | [] => PUnit
  | field :: rest => field.type.Value × Record rest

instance Record.decidableEq : (fields : List Field) → DecidableEq (Record fields)
  | [] => inferInstanceAs (DecidableEq PUnit)
  | field :: rest =>
      letI := Record.decidableEq rest
      inferInstanceAs (DecidableEq (field.type.Value × Record rest))

/-- The fields one after another, without names or separators. -/
def Record.codec : (fields : List Field) → Codec (Record fields)
  | [] => Codec.empty
  | field :: rest => field.type.codec.pair (Record.codec rest)

end Tidebook.Library
