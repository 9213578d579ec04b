/-
ArgTaint.Path — slash-separated paths.

* `Path.clean` — the shortest path with the same meaning: no empty and no `.`
  element, no `..` that could be taken back, `.` for nothing at all.
* `Path.join` — paths one after the other, cleaned; empty ones do not count.
* `Path.dir` — the directory of a path.
* `Path.absolute` — a path seen from a working directory; a path that is
  absolute stays as it is.
-/

namespace ArgTaint.Path

/-- Does the path start at the root? -/
def isAbsolute (p : String) : Bool := p.toList.head? = some '/'

/-- The elements between the slashes of a path, empty ones included. -/
def elements : List Char → List (List Char)
  | [] => [[]]
  | c :: rest =>
    if c = '/' then [] :: elements rest
    else
      match elements rest with
      | [] => [[c]]
      | e :: es => (c :: e) :: es

/-- The elements that are left when `.` and empty elements are dropped and
`..` takes back the element before it; `kept` holds them last first. At the
root `..` takes back nothing. -/
def resolve (rooted : Bool) (kept : List (List Char)) : List (List Char) → List (List Char)
  | [] => kept.reverse
  | e :: rest =>
    if e = [] ∨ e = ['.'] then resolve rooted kept rest
    else if e = ['.', '.'] then
      match kept with
      | [] => if rooted then resolve rooted [] rest else resolve rooted [e] rest
      | k :: more =>
        if k = ['.', '.'] then resolve rooted (e :: kept) rest else resolve rooted more rest
    else resolve rooted (e :: kept) rest

def joinElements : List (List Char) → List Char
  | [] => []
  | [e] => e
  | e :: rest => e ++ '/' :: joinElements rest

/-- The shortest path with the same meaning. -/
def clean (p : String) : String :=
  let rooted := isAbsolute p
  let body := joinElements (resolve rooted [] (elements p.toList))
  if rooted then String.ofList ('/' :: body)
  else if body.isEmpty then "."
  else String.ofList body

/-- The paths one after the other, cleaned; the empty text when all are
empty. -/
def join (ps : List String) : String :=
  match ps.filter (· ≠ "") with
  | [] => ""
  | ps => clean ("/".intercalate ps)

/-- The text up to and with the last slash. -/
def upToLastSlash (p : List Char) : List Char :=
  (p.reverse.dropWhile (· ≠ '/')).reverse

def dir (p : String) : String := clean (String.ofList (upToLastSlash p.toList))

/-- The path seen from the working directory. -/
def absolute (working p : String) : String :=
  if isAbsolute p then p else join [working, p]

end ArgTaint.Path
