import TypeScaffold.Console.WidthTable
import TypeScaffold.Text.Casing
import TypeScaffold.Text.Pieces

/-!
# Cells

The console is a grid of cells. Characters that are drawn together form a cluster, which is never
taken apart: a character with those drawn over it, and characters put together by a joiner, which
take no cell beyond those of the first. A selector turns some symbols of one cell into emoji of two.
-/

namespace TypeScaffold.Console

open Text WidthTable

def charWidth (c : Char) : Nat :=
  let code := c.toNat
  if code < 32 ∨ code = 127 then 0
  else if code < 127 then 1
  else if inRanges emptyRanges code then 0
  else if inRanges wideRanges code then 2
  else 1

/-- The character that puts its two neighbours together. -/
def joiner : Char :=
  Char.ofNat 0x200D

/-- The character that asks for the emoji of the symbol before it. -/
def emojiSelector : Char :=
  Char.ofNat 0xFE0F

/-- Whether the selector adds a cell to the last character that takes one. -/
def isWidened (last : Option Char) : Bool :=
  last.any (fun c => inRanges emojiRanges c.toNat)

/-- The cells that characters take; `last` is the last one before them that takes a cell and has not
been asked for its emoji. -/
def cellsAfter (last : Option Char) : List Char → Nat
  | [] => 0
  | c :: rest =>
      if c = joiner then
        match rest with
        | [] => 0
        | _ :: rest => cellsAfter last rest
      else if c = emojiSelector then
        (if isWidened last then 1 else 0) + cellsAfter none rest
      else
        let width := charWidth c
        if width = 0 then cellsAfter last rest else width + cellsAfter (some c) rest

def cells (line : List Char) : Nat :=
  cellsAfter none line

/-- Characters that are drawn together, and the cells that they take. -/
structure Cluster where
  chars : List Char
  width : Nat
  deriving DecidableEq, Repr

/-- A cluster with more characters and cells. -/
def Cluster.extend (cluster : Cluster) (chars : List Char) (width : Nat) : Cluster :=
  ⟨cluster.chars ++ chars, cluster.width + width⟩

/-- The clusters of a line that go on with `cluster`; `last` is as for `cellsAfter`. -/
def clustersAfter (cluster : Cluster) (last : Option Char) : List Char → List Cluster
  | [] => [cluster]
  | c :: rest =>
      if c = joiner then
        match rest with
        | [] => [cluster.extend [c] 0]
        | next :: rest => clustersAfter (cluster.extend [c, next] 0) last rest
      else if c = emojiSelector then
        clustersAfter (cluster.extend [c] (if isWidened last then 1 else 0)) none rest
      else
        let width := charWidth c
        if width = 0 then clustersAfter (cluster.extend [c] 0) last rest
        else cluster :: clustersAfter ⟨[c], width⟩ (some c) rest

/-- The clusters of a line. Whatever comes first begins one. -/
def clusters : List Char → List Cluster
  | [] => []
  | c :: rest =>
      let width := charWidth c
      clustersAfter ⟨[c], width⟩ (if width = 0 then none else some c) rest

/-- The pieces that each fit into the width, filled one after the other; `piece` is the one at hand,
which takes `used` cells. -/
def chopAfter (width : Nat) (piece : List Char) (used : Nat) : List Cluster → List (List Char)
  | [] => if used = 0 then [] else [piece]
  | cluster :: rest =>
      if width < used + cluster.width then
        piece :: chopAfter width cluster.chars cluster.width rest
      else
        chopAfter width (piece ++ cluster.chars) (used + cluster.width) rest

/-- The pieces of a word that each fit into the width. The first is empty if not even the first
cluster fits. -/
def chop (width : Nat) (word : List Char) : List (List Char) :=
  chopAfter width [] 0 (clusters word)

/-- The clusters that fit into the width; half of a wide one becomes a blank. -/
def keep (width : Nat) : List Cluster → List Char
  | [] => []
  | cluster :: rest =>
      if width = 0 then []
      else if cluster.width ≤ width then cluster.chars ++ keep (width - cluster.width) rest
      else [' ']

def cut (width : Nat) (line : List Char) : List Char :=
  if width < cells line then keep width (clusters line) else line

/-- The line cut off at the width, with an ellipsis in its last cell if anything is lost. -/
def abbreviate (width : Nat) (line : List Char) : List Char :=
  if width < cells line then keep (width - 1) (clusters line) ++ ['…'] else line

/-- A line filled up with blanks to a width. -/
def padRight (width : Nat) (line : List Char) : List Char :=
  line ++ List.replicate (width - cells line) ' '

/-- A line in the middle of a width; an odd blank goes to the right. -/
def centre (width : Nat) (line : List Char) : List Char :=
  padRight width (List.replicate ((width - cells line) / 2) ' ' ++ line)

/-- The parts of a line between tabs put together, each but the last with at least one blank behind
it and up to the next multiple of eight cells; `column` cells stand before. -/
def fillTabs (column : Nat) : List (List Char) → List Char
  | [] => []
  | [part] => part
  | part :: rest =>
      let stop := column + cells (part ++ [' '])
      let blanks := (8 - stop % 8) % 8
      part ++ ' ' :: List.replicate blanks ' ' ++ fillTabs (stop + blanks) rest

/-- The line with blanks for its tabs. -/
def expandTabs (line : List Char) : List Char :=
  fillTabs 0 (splitOn '\t' line)

end TypeScaffold.Console
