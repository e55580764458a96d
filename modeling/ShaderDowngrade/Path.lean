/-!
# Paths

A path is a list of components below the current directory, the root `/`, or the root `//`. Empty
components and `.` are dropped when a path is read; `..` is kept, since what it leads to depends on
the files.
-/

namespace ShaderDowngrade

/-- A path in normal form. -/
structure Path where
  /-- The slashes it begins with: none, one, or exactly two. -/
  root : List Char
  /-- The components, outermost first. -/
  components : List (List Char)
deriving DecidableEq, Repr

namespace Path

/-- The text cut at its slashes. -/
def splitSlashes : List Char → List (List Char)
  | [] => [[]]
  | c :: cs =>
    if c = '/' then [] :: splitSlashes cs
    else
      match splitSlashes cs with
      | [] => [[c]]
      | w :: ws => (c :: w) :: ws

/-- Whether a component counts. -/
def isProper (w : List Char) : Bool := w ≠ [] ∧ w ≠ ['.']

/-- The slashes that a written path begins with, as far as they count: three and more are one. -/
def rootOf : List Char → List Char
  | '/' :: '/' :: '/' :: _ => ['/']
  | '/' :: '/' :: _ => ['/', '/']
  | '/' :: _ => ['/']
  | _ => []

/-- Reads a written path. -/
def ofChars (cs : List Char) : Path := ⟨rootOf cs, (splitSlashes cs).filter isProper⟩

/-- Reads a written path. -/
def ofString (s : String) : Path := ofChars s.toList

/-- The path in its shortest spelling. -/
def toString (p : Path) : String :=
  if p.root.isEmpty && p.components.isEmpty then "."
  else String.ofList (p.root ++ ['/'].intercalate p.components)

/-- The last component, empty if there is none. -/
def name (p : Path) : List Char := p.components.getLast?.getD []

/-- The number of bytes of the path in its shortest spelling. -/
def byteSize (p : Path) : Nat := p.toString.utf8ByteSize

/-- Whether a NUL stands in the path. -/
def hasNul (p : Path) : Bool := p.components.any (·.contains '\x00')

/-- The path that names lead to from a path. -/
def below (p : Path) (names : List (List Char)) : Path :=
  { p with components := p.components ++ names }

/-- Whether a path, the way it is written, ends so that it leads to directories only. -/
def asksForDirectory (written : String) : Bool :=
  (splitSlashes written.toList).getLast?.any (!isProper ·)

/-- The path without its last component. -/
def parent (p : Path) : Path := { p with components := p.components.dropLast }

/-- The part of a name from its last dot on. A dot in the first or last place begins none. -/
def suffixOf (name : List Char) : List Char :=
  let back := name.reverse.takeWhile (· != '.')
  let stem := name.length - back.length
  if back.isEmpty ∨ stem ≤ 1 then [] else '.' :: back.reverse

/-- The part of the last component from its last dot on. -/
def suffix (p : Path) : List Char := suffixOf p.name

theorem splitSlashes_ne_nil (cs : List Char) : splitSlashes cs ≠ [] := by
  cases cs with
  | nil => simp [splitSlashes]
  | cons c cs => unfold splitSlashes; split <;> (try split) <;> simp

end Path

end ShaderDowngrade
