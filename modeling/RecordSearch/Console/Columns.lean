import RecordSearch.Text.ColumnRanges
import RecordSearch.Text.Word

/-! The columns that a text takes on a screen. A character that takes none belongs to the glyph
before it, and so does what a joiner joins to it. -/
namespace RecordSearch.Console

/-- The columns of a character by itself. Controls take none. -/
def columnsOf (c : Char) : Nat :=
  if c.toNat < 128 then (if 32 ≤ c.toNat && c.toNat < 127 then 1 else 0)
  else if inRanges Text.columnlessRanges c.toNat then 0
  else if inRanges Text.wideRanges c.toNat then 2
  else 1

/-- The character that joins the next one to the glyph before it. -/
def joiner : Char := '\u200d'

/-- The character that asks for the glyph before it as a picture. -/
def pictureSign : Char := '\ufe0f'

structure Glyph where
  text : Text
  columns : Nat
  deriving DecidableEq, Repr

/-- The glyphs of a text, with the last character of the last glyph that has columns and may still
take another. -/
structure Glyphs where
  reversed : List Glyph := []
  last : Option Char := none
  /-- Whether the next character is joined to the last glyph. -/
  joins : Bool := false

namespace Glyphs

/-- Puts characters into the last glyph, and makes one of them if there is none. -/
def extend (c : Char) (columns : Nat) : List Glyph → List Glyph
  | [] => [⟨[c], 0⟩]
  | glyph :: before => ⟨glyph.text ++ [c], glyph.columns + columns⟩ :: before

def push (glyphs : Glyphs) (c : Char) : Glyphs :=
  if glyphs.joins then { glyphs with reversed := extend c 0 glyphs.reversed, joins := false }
  else if c == joiner then
    { glyphs with reversed := extend c 0 glyphs.reversed, joins := !glyphs.reversed.isEmpty }
  else if c == pictureSign then
    if glyphs.last.any fun last => inRanges Text.widenedRanges last.toNat then
      { glyphs with reversed := extend c 1 glyphs.reversed, last := none }
    else { glyphs with reversed := extend c 0 glyphs.reversed }
  else
    match columnsOf c with
    | 0 => { glyphs with reversed := extend c 0 glyphs.reversed }
    | columns => { glyphs with reversed := ⟨[c], columns⟩ :: glyphs.reversed, last := some c }

def ofText (text : Text) : List Glyph := (text.foldl push {}).reversed.reverse

def columns (glyphs : List Glyph) : Nat := (glyphs.map Glyph.columns).foldr (· + ·) 0

/-- The glyphs that fit into so many columns. Half a glyph is a space. -/
def fit : (width : Nat) → List Glyph → Text
  | _, [] => []
  | width, glyph :: rest =>
    if glyph.columns ≤ width then glyph.text ++ fit (width - glyph.columns) rest
    else List.replicate width ' '

/-- The glyphs in parts of at most so many columns each, behind a part that has some already. -/
def chop (width : Nat) : (part : Text) → (used : Nat) → List Glyph → List Text
  | part, used, [] => if used = 0 then [] else [part]
  | part, used, glyph :: rest =>
    if width < used + glyph.columns then part :: chop width glyph.text glyph.columns rest
    else chop width (part ++ glyph.text) (used + glyph.columns) rest

end Glyphs

def columns (text : Text) : Nat := Glyphs.columns (Glyphs.ofText text)

def fit (width : Nat) (text : Text) : Text := Glyphs.fit width (Glyphs.ofText text)

def chop (width : Nat) (text : Text) : List Text := Glyphs.chop width [] 0 (Glyphs.ofText text)

def padTo (width : Nat) (text : Text) : Text := text ++ List.replicate (width - columns text) ' '

end RecordSearch.Console
