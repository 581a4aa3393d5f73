import CloudSpeech.Url
/-!
# Reading URLs

A text is cut into the parts of a URL from the outside: the fragment, the query, the scheme, the
host with what stands around it, and the segments of the path.  Every part is brought to its
written form, so that a URL that has been written reads back as itself.
-/

namespace CloudSpeech.Url

/-- What stands before the first character `mark`, and what stands after it if there is one. -/
def cut (mark : Char) : List Char → List Char × Option (List Char)
  | [] => ([], none)
  | c :: rest => if c = mark then ([], some rest) else (c :: (cut mark rest).1, (cut mark rest).2)

/-- What stands before the last character `mark`, if there is one, and what stands after it. -/
def cutLast (mark : Char) (chars : List Char) : Option (List Char) × List Char :=
  match cut mark chars.reverse with
  | (back, front) => (front.map List.reverse, back.reverse)

/-! ## Scheme -/

def inScheme (c : Char) : Bool := c.isAlphanum || c = '+' || c = '-' || c = '.'

/-- The scheme, in small letters, and what follows its colon. -/
def scheme? (chars : List Char) : Option (String × List Char) :=
  match cut ':' chars with
  | (first :: name, some rest) =>
      if first.isAlpha ∧ name.all inScheme then
        some (String.ofList ((first :: name).map Char.toLower), rest)
      else none
  | _ => none

/-! ## Authority -/

/-- Cuts off the number after a host, whose colon is the first one outside brackets. -/
def cutNumber (inside : Bool) : List Char → List Char × Option (List Char)
  | [] => ([], none)
  | c :: rest =>
      if c = ':' ∧ !inside then ([], some rest)
      else
        let (host, number) := cutNumber (c = '[' || (inside && c ≠ ']')) rest
        (c :: host, number)

/-- Reads the number after a host.  No digits, or those of the number that the scheme has anyway,
say nothing. -/
def portNumber? (scheme : String) (digits : List Char) : Option (Option Nat) :=
  if digits.isEmpty then some none
  else
    match V4.digits? 10 digits with
    | none => none
    | some number =>
        if 65535 < number then none
        else some (if defaultPortNumber? scheme = some number then none else some number)

/-- Reads a user: the name, and after a colon the password, which counts only if it is not empty. -/
def user (chars : List Char) : List Char × Option (List Char) :=
  let (name, password) := cut ':' chars
  (Percent.encode Percent.inUserinfo name,
    (password.filter (!·.isEmpty)).map (Percent.encode Percent.inUserinfo))

/-- Reads what stands between the two slashes and the path.  A web address has a host; elsewhere
it may lack one if it has neither a user nor a number. -/
def authority? (scheme : String) (chars : List Char) : Option Authority := do
  let (named, place) := cutLast '@' chars
  let (username, password) := user (named.getD [])
  let (hostText, numberText) := cutNumber false place
  if hostText.isEmpty ∧
      (isSpecial scheme ∨ numberText.isSome ∨ !username.isEmpty ∨ password.isSome) then none
  let host ← if isSpecial scheme then Host.read? hostText else Host.readNamed? hostText
  let portNumber ← portNumber? scheme (numberText.getD [])
  pure { username, password, host, portNumber }

/-! ## Path -/

/-- Whether a segment stands for the directory that it is in. -/
def isHere (segment : List Char) : Bool :=
  [".", "%2e"].contains (String.ofList (segment.map Char.toLower))

/-- Whether a segment stands for the directory above. -/
def isAbove (segment : List Char) : Bool :=
  ["..", ".%2e", "%2e.", "%2e%2e"].contains (String.ofList (segment.map Char.toLower))

/-- Whether a segment names a drive: a letter and a colon, or a bar in its place. -/
def isDrive : List Char → Bool
  | [letter, mark] => letter.isAlpha && (mark = ':' || mark = '|')
  | _ => false

/-- The names without the last one, given last first.  A drive stays. -/
def leave (scheme : String) : List (List Char) → List (List Char)
  | [] => []
  | [name] => if isFile scheme && isDrive name then [name] else []
  | _ :: names => names

/-- A segment that is no dot segment, in its written form. -/
def written (scheme : String) (names : List (List Char)) (segment : List Char) : List Char :=
  match segment with
  | [letter, _] =>
      if isFile scheme && names.isEmpty && isDrive segment then [letter, ':']
      else Percent.encode Percent.inPath segment
  | _ => Percent.encode Percent.inPath segment

/-- The names that segments lead to, where those before are given last first.  A path that ends
with a dot segment ends with a slash. -/
def follow (scheme : String) (names : List (List Char)) : List (List Char) → List (List Char)
  | [] => names.reverse
  | segment :: rest =>
      let dots := isHere segment || isAbove segment
      let names := if isAbove segment then leave scheme names else names
      if dots then
        if rest.isEmpty then ([] :: names).reverse else follow scheme names rest
      else follow scheme (written scheme names segment :: names) rest

def isSeparator (scheme : String) (c : Char) : Bool := c = '/' || (isSpecial scheme && c = '\\')

/-- The path of a file has no empty segments at its front. -/
def withoutBlankFront : List (List Char) → List (List Char)
  | [] :: next :: rest => withoutBlankFront (next :: rest)
  | names => names

def segments (scheme : String) (chars : List Char) : Path :=
  let names := follow scheme [] (Text.split (isSeparator scheme) chars)
  .segments (if isFile scheme then withoutBlankFront names else names)

/-- Reads a path that follows a host, which may be empty outside web addresses. -/
def pathAfterHost (scheme : String) : List Char → Path
  | [] => if isSpecial scheme then .segments [[]] else .segments []
  | c :: rest => if isSeparator scheme c then segments scheme rest else segments scheme (c :: rest)

/-! ## The whole -/

/-- A host and a path, from what follows the slashes. -/
def located? (scheme : String) (chars : List Char) : Option (Option Authority × Path) :=
  let isPlace (c : Char) : Bool := !isSeparator scheme c
  (authority? scheme (chars.takeWhile isPlace)).map fun authority =>
    (some authority, pathAfterHost scheme (chars.dropWhile isPlace))

/-- The host and path of a file, from what follows two slashes.  This host itself need not be
named. -/
def locatedFile? (chars : List Char) : Option (Option Authority × Path) :=
  let isPlace (c : Char) : Bool := !isSeparator "file" c
  let place := chars.takeWhile isPlace
  let path := chars.dropWhile isPlace
  if isDrive place then some (none, segments "file" chars)
  else if place.isEmpty then some (none, pathAfterHost "file" path)
  else
    (Host.read? place).map fun host =>
      (if host = .domain "localhost".toList then none else some { host },
        pathAfterHost "file" path)

/-- The host and path that follow the colon after a scheme. -/
def location? (scheme : String) (chars : List Char) : Option (Option Authority × Path) :=
  if isFile scheme then
    match chars with
    | a :: b :: rest =>
        if isSeparator scheme a && isSeparator scheme b then locatedFile? rest
        else some (none, pathAfterHost scheme (a :: b :: rest))
    | chars => some (none, pathAfterHost scheme chars)
  else if isSpecial scheme then located? scheme (chars.dropWhile (isSeparator scheme))
  else
    match chars with
    | '/' :: '/' :: rest => located? scheme rest
    | '/' :: rest => some (none, segments scheme rest)
    | chars => some (none, .free (Percent.encode Percent.inFree chars))

/-- Whether a character may surround a URL without being part of it. -/
def isMargin (c : Char) : Bool := c.toNat ≤ 0x20

/-- The characters of a text that count: none at the margins, and no tabs and line breaks
anywhere. -/
def content (text : String) : List Char :=
  let trimmed := ((text.toList.dropWhile isMargin).reverse.dropWhile isMargin).reverse
  trimmed.filter fun c => c ≠ '\t' && c ≠ '\n' && c ≠ '\r'

def read? (text : String) : Option Url := do
  let (scheme, rest) ← scheme? (content text)
  let (front, fragment) := cut '#' rest
  let (place, query) := cut '?' front
  let (authority, path) ← location? scheme place
  let inQuery := if isSpecial scheme then Percent.inSpecialQuery else Percent.inQuery
  pure { scheme, authority, path, query := query.map (Percent.encode inQuery),
         fragment := fragment.map (Percent.encode Percent.inFragment) }

end CloudSpeech.Url
