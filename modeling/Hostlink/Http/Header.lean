/-!
# Header maps

Headers are kept by the exact spelling of their names, while a look-up does not distinguish ASCII
letter case.
-/

namespace Hostlink.Http

/-- Headers by name, in the order in which a look-up goes through them. -/
abbrev Headers := List (String × String)

/-- A name without distinction of ASCII letter case. -/
def foldName (name : String) : List Char := name.toList.map Char.toLower

/-- Whether two names are the same header name. -/
def sameName (a b : String) : Bool := foldName a = foldName b

/-- Sets a header; one of exactly the same spelling is replaced. -/
def Headers.set (headers : Headers) (name value : String) : Headers :=
  match headers with
  | [] => [(name, value)]
  | (n, v) :: rest => if n = name then (n, value) :: rest else (n, v) :: Headers.set rest name value

/-- The headers that a list of lines gives; of one spelling the last line counts. -/
def Headers.ofLines (lines : List (String × String)) : Headers :=
  lines.foldl (fun headers (name, value) => headers.set name value) []

/-- The value of the first header with a name, letter case aside. -/
def Headers.find? (headers : Headers) (name : String) : Option String :=
  (List.find? (fun (n, _) => sameName n name) headers).map (·.2)

end Hostlink.Http
