import ShaderDowngrade.Text.Basic
import ShaderDowngrade.Text.Width

/-!
# Cutting texts by cells

A text is cut between clusters: a cluster is a character that takes cells, with everything behind
it that takes none or is drawn into it. A cut through the middle of a wide cluster leaves a space
for the half that is kept.
-/

namespace ShaderDowngrade

/-- Characters that are drawn together. -/
structure Cluster where
  chars : Text
  /-- The number of cells that they take. -/
  width : Nat
deriving DecidableEq, Repr

namespace Cells

/-- The clusters of a text behind others, which are given latest first: `last` is the latest
character that takes a cell, and `joined` tells whether a joiner stands right before the text. -/
def clustersAfter (found : List Cluster) (last : Option Char) (joined : Bool) :
    Text → List Cluster
  | [] => found.reverse
  | c :: cs =>
    match found with
    | [] =>
      let width := Width.ofChar c
      clustersAfter [⟨[c], width⟩] (if width = 0 then none else some c) false cs
    | latest :: earlier =>
      let drawnIn (more : Nat) : List Cluster :=
        ⟨latest.chars ++ [c], latest.width + more⟩ :: earlier
      if joined then clustersAfter (drawnIn 0) last false cs
      else if c = Width.joiner then clustersAfter (drawnIn 0) last true cs
      else if c = Width.emojiSelector then
        clustersAfter (drawnIn (Width.widening last)) none false cs
      else if Width.ofChar c = 0 then clustersAfter (drawnIn 0) last false cs
      else clustersAfter (⟨[c], Width.ofChar c⟩ :: found) (some c) false cs

/-- The clusters of a text. -/
def clusters (text : Text) : List Cluster := clustersAfter [] none false text

/-- As many clusters as there is room for, and a space for half of one. -/
def cropClusters : (room : Nat) → List Cluster → Text
  | 0, _ => []
  | _, [] => []
  | room + 1, k :: ks =>
    if k.width ≤ room + 1 then k.chars ++ cropClusters (room + 1 - k.width) ks else [' ']

/-- The text, cut off behind `width` cells if it is longer. -/
def crop (width : Nat) (text : Text) : Text :=
  if Width.ofText text ≤ width then text else cropClusters width (clusters text)

/-- Clusters in lines of at most `width` cells, behind a line that has been begun and takes `used`
cells. -/
def fillLines (width : Nat) (line : Text) (used : Nat) : List Cluster → List Text
  | [] => [line]
  | k :: ks =>
    if width < used + k.width then line :: fillLines width k.chars k.width ks
    else fillLines width (line ++ k.chars) (used + k.width) ks

/-- The text in lines of at most `width` cells each. -/
def fold (width : Nat) (text : Text) : List Text := fillLines width [] 0 (clusters text)

end Cells

end ShaderDowngrade
