/-! Paths: their parts, and their text without redundant parts. -/

namespace ProofWire.Path

/-- The rows of characters between slashes. -/
def parts : List Char → List (List Char)
  | [] => [[]]
  | '/' :: rest => [] :: parts rest
  | c :: rest =>
    match parts rest with
    | [] => [[c]]
    | part :: others => (c :: part) :: others

/-- A part that leads nowhere else. -/
def isRedundant (part : List Char) : Bool :=
  part.isEmpty || part == ['.']

/-- The slashes that an absolute path keeps at its start: two where it has exactly two, else one. -/
def root (path : List Char) : List Char :=
  match (path.takeWhile (· == '/')).length with
  | 0 => []
  | 2 => ['/', '/']
  | _ => ['/']

/-- A path without empty parts and parts that name the directory itself; nothing left is that directory. -/
def normal (path : String) : String :=
  let text := path.toList
  let kept := (parts text).filter fun part => !isRedundant part
  let result := root text ++ ['/'].intercalate kept
  if result.isEmpty then "." else String.ofList result

end ProofWire.Path
