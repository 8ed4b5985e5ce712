import SqlShell.Text.Cluster
/-!
# Typing a line

A line of input may hold backspaces, each of which takes back what looks like one character. Lines are kept as bytes,
and the size of each cluster in a single byte, so that nothing but the remainder of a larger cluster is taken back.
-/

namespace SqlShell

/-- A line while it is typed: its characters and the sizes of the clusters that can be taken back, the last ones
first. -/
structure Typing where
  characters : List Char
  sizes : List Nat
deriving DecidableEq, Inhabited

namespace Typing

/-- A line before anything is typed. -/
def empty : Typing :=
  ⟨[], []⟩

/-- A text without so many bytes at its start. A character goes with its first byte. -/
def dropBytes (count : Nat) : List Char → List Char
  | [] => []
  | c :: rest => if count = 0 then c :: rest else dropBytes (count - c.utf8Size) rest

/-- The size of a cluster, as it is remembered. -/
def size (cluster : List Char) : Nat :=
  cluster.foldl (fun size c => size + c.utf8Size) 0 % 256

/-- The line after one more cluster. -/
def push (line : Typing) (cluster : List Char) : Typing :=
  if cluster = ['\x08'] then ⟨dropBytes (line.sizes.headD 0) line.characters, line.sizes.drop 1⟩
  else ⟨cluster.reverse ++ line.characters, size cluster :: line.sizes⟩

/-- What is left of a line of input when every backspace has taken back its cluster. -/
def typed (line : List Char) : String :=
  String.ofList (((Text.clusters line).foldl push empty).characters.reverse)

end Typing

end SqlShell
