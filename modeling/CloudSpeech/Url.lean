import CloudSpeech.Url.Host
/-!
# URLs

A URL names a scheme, perhaps a host, a path, and perhaps a query and a fragment.  Its parts are
kept as they stand in its one written form: percent-encoded, with a path free of dot segments, and
without a number after the host that the scheme has anyway.
-/

namespace CloudSpeech

namespace Url

/-- Who is asked: a host, perhaps a number that tells which of its services, and perhaps a user. -/
structure Authority where
  username : List Char := []
  password : Option (List Char) := none
  host : Host
  portNumber : Option Nat := none
  deriving DecidableEq, Repr

inductive Path where
  /-- Segments, each after a slash. -/
  | segments (names : List (List Char))
  /-- A text without structure. -/
  | free (text : List Char)
  deriving DecidableEq, Repr

def Path.text : Path → List Char
  | segments names => names.flatMap ('/' :: ·)
  | free text => text

end Url

structure Url where
  scheme : String
  authority : Option Url.Authority
  path : Url.Path
  query : Option (List Char) := none
  fragment : Option (List Char) := none
  deriving DecidableEq, Repr

namespace Url

/-- The number after the host that a scheme has anyway. -/
def defaultPortNumber? (scheme : String) : Option Nat :=
  match scheme with
  | "http" => some 80
  | "ws" => some 80
  | "https" => some 443
  | "wss" => some 443
  | "ftp" => some 21
  | _ => none

def isFile (scheme : String) : Bool := scheme = "file"

/-- Whether the URLs of a scheme have a host and a path like web addresses. -/
def isSpecial (scheme : String) : Bool := (defaultPortNumber? scheme).isSome || isFile scheme

/-- Whether requests can be sent to the URLs of a scheme. -/
def isWeb (scheme : String) : Bool := scheme = "http" || scheme = "https"

/-- A part with a mark before it, if there is one. -/
def marked (mark : Char) (part : Option (List Char)) : List Char :=
  match part with
  | some chars => mark :: chars
  | none => []

def Authority.userText (authority : Authority) : List Char :=
  if authority.username.isEmpty ∧ authority.password = none then []
  else authority.username ++ marked ':' authority.password ++ ['@']

def Authority.hostText (authority : Authority) : List Char :=
  authority.host.text ++ marked ':' (authority.portNumber.map (Nat.toDigits 10))

/-- What stands between scheme and path.  A path that begins with an empty segment is kept from
being read as a host. -/
def authorityText (url : Url) : List Char :=
  match url.authority with
  | some authority => ['/', '/'] ++ authority.userText ++ authority.hostText
  | none =>
      if isFile url.scheme then ['/', '/']
      else
        match url.path with
        | .segments ([] :: _ :: _) => ['/', '.']
        | _ => []

/-- The path and the query, as a server is asked for them. -/
def target (url : Url) : List Char := url.path.text ++ marked '?' url.query

def text (url : Url) : String :=
  String.ofList (url.scheme.toList ++ [':'] ++ url.authorityText ++ url.target
    ++ marked '#' url.fragment)

def hasHost (url : Url) : Bool := url.authority.any fun authority => !authority.host.isEmpty

/-- The user that a URL names, decoded. -/
structure User where
  name : String
  password : Option String
  deriving DecidableEq, Repr

/-- A URL without its user, and the user.  A name that does not decode to a text is left where it
is. -/
def takeUser (url : Url) : Url × Option User :=
  match url.authority with
  | none => (url, none)
  | some authority =>
      match Text.Utf8.strict? (Percent.decode authority.username) with
      | none => (url, none)
      | some name =>
          let password :=
            authority.password.bind fun chars => Text.Utf8.strict? (Percent.decode chars)
          if name = "" ∧ password = none then (url, none)
          else
            ({ url with authority := some { authority with username := [], password := none } },
              some ⟨name, password⟩)

end Url

end CloudSpeech
