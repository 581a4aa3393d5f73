/-!
# Media types

The kind of a body: two names with a slash between them, and parameters, of which one may name the
encoding of a text.
-/

namespace CloudSpeech.Http.MediaType

/-- Whether a character may stand in a name. -/
def isToken (c : Char) : Bool :=
  c.isAlphanum ||
    ['!', '#', '$', '%', '&', '\x27', '*', '+', '-', '.', '^', '_', '\x60', '|', '~'].contains c

abbrev Parameter := List Char × List Char

/-- What follows a parameter between quotes: spaces, then a semicolon or the end. -/
def afterQuoted? (chars : List Char) : Option (List Char) :=
  match chars.dropWhile (· = ' ') with
  | [] => some []
  | ';' :: rest => some rest
  | _ => none

/-- The value of a parameter, and what follows its semicolon. -/
def value? : List Char → Option (List Char × List Char)
  | '"' :: rest =>
      match rest.dropWhile (· ≠ '"') with
      | '"' :: after => (afterQuoted? after).map fun more => (rest.takeWhile (· ≠ '"'), more)
      | _ => none
  | chars =>
      match chars.dropWhile isToken with
      | [] => some (chars, [])
      | ';' :: rest =>
          if (chars.takeWhile isToken).isEmpty then none else some (chars.takeWhile isToken, rest)
      | _ => none

/-- The first parameter, and what follows its semicolon. -/
def parameter? (chars : List Char) : Option (Parameter × List Char) :=
  let chars := chars.dropWhile (· = ' ')
  match chars.takeWhile isToken, chars.dropWhile isToken with
  | first :: name, '=' :: rest =>
      (value? rest).map fun (value, more) => (((first :: name).map Char.toLower, value), more)
  | _, _ => none

def parameters? (chars : List Char) : Option (List Parameter) :=
  if (chars.dropWhile (· = ' ')).isEmpty then some []
  else
    match parameter? chars with
    | none => none
    | some (first, rest) =>
        if rest.length < chars.length then (parameters? rest).map (first :: ·) else none
termination_by chars.length

def read? (text : String) : Option (List Parameter) :=
  match text.toList.takeWhile isToken, text.toList.dropWhile isToken with
  | _ :: _, '/' :: rest =>
      match rest.takeWhile isToken, rest.dropWhile isToken with
      | _ :: _, [] => some []
      | _ :: _, ';' :: rest => parameters? rest
      | _, _ => none
  | _, _ => none

def charset? (text : String) : Option String := do
  let parameters ← read? text
  let (_, label) ← parameters.find? fun (name, _) => name = "charset".toList
  pure (String.ofList label)

end CloudSpeech.Http.MediaType
