import SchemaSeed.Url.Host

/-!
URLs: reading their parts, changing them and writing them down. Tabs and line breaks are no part of
a URL, nor are the blanks and control characters around it.
-/

set_option autoImplicit false
set_option relaxedAutoImplicit false

namespace SchemaSeed

open SchemaSeed.Url SchemaSeed.Number

/-- A URL. User name, password, path, query and fragment are held in their written form. -/
structure Url where
  scheme : String
  /-- Whether two slashes and an authority follow the scheme. -/
  hasAuthority : Bool := true
  username : List Char := []
  password : List Char := []
  /-- The host in its written form; a URL may have none. -/
  host : List Char := []
  port : Option Nat := none
  /-- The parts of the path, each of which follows a slash. -/
  path : List (List Char) := []
  /-- What stands in place of a path that does not begin with a slash. -/
  tail : List Char := []
  query : Option (List Char) := none
  fragment : Option (List Char) := none
  deriving DecidableEq, Repr

namespace Url

/-- A tab or a line break. -/
def isIgnored (c : Char) : Bool := c = '\t' || c = '\n' || c = '\r'

/-- A blank or a control character. -/
def isEdge (c : Char) : Bool := c.toNat ≤ 0x20

/-- The characters that count. -/
def clean (cs : List Char) : List Char := cs.filter fun c => !isIgnored c

/-- A text without the blanks and control characters around it. -/
def trimEdges (cs : List Char) : List Char :=
  ((cs.dropWhile isEdge).reverse.dropWhile isEdge).reverse

/-- Whether the rules of well-known schemes hold; each of them has a port of its own. -/
def isWellKnown (scheme : String) : Bool :=
  ["http", "https", "ws", "wss", "ftp", "file"].contains scheme

/-- The port that a scheme implies. -/
def defaultPort? (scheme : String) : Option Nat :=
  match scheme with
  | "http" => some 80
  | "ws" => some 80
  | "https" => some 443
  | "wss" => some 443
  | "ftp" => some 21
  | _ => none

/-! ### Paths -/

/-- Whether a part of a path is a dot, also an escaped one. -/
def isDot (cs : List Char) : Bool :=
  cs = ['.'] || cs = ['%', '2', 'e'] || cs = ['%', '2', 'E']

/-- Whether a part of a path is two dots. -/
def isDoubleDot (cs : List Char) : Bool :=
  match cs with
  | '.' :: rest => isDot rest
  | '%' :: '2' :: 'e' :: rest => isDot rest
  | '%' :: '2' :: 'E' :: rest => isDot rest
  | _ => false

/-- Whether a part of a path is the letter of a drive. -/
def isDriveLetter (cs : List Char) : Bool :=
  match cs with
  | [a, b] => a.isAlpha && (b = ':' || b = '|')
  | _ => false

/-- The path without its last part; the letter of a drive stays. -/
def parent (parts : List (List Char)) : List (List Char) :=
  match parts.getLast? with
  | some last => if isDriveLetter last then parts else parts.dropLast
  | none => parts

/-- Puts parts to a path: a dot stands for the place itself, two dots for the one above. -/
def addParts (path : List (List Char)) : List (List Char) → List (List Char)
  | [] => path
  | [last] =>
    if isDoubleDot last then parent path ++ [[]]
    else if isDot last then path ++ [[]]
    else path ++ [last]
  | part :: rest =>
    if isDoubleDot part then addParts (parent path) rest
    else if isDot part then addParts path rest
    else addParts (path ++ [part]) rest

/-- The path that a text stands for; a slash at its start is implied. -/
def pathOf (cs : List Char) : List (List Char) :=
  match encode pathSet cs with
  | [] => []
  | '/' :: rest => addParts [] (splitChars '/' rest)
  | written => addParts [] (splitChars '/' written)

/-! ### Reading -/

/-- A character of a scheme. -/
def isSchemeChar (c : Char) : Bool := c.isAlphanum || c = '+' || c = '-' || c = '.'

/-- The scheme in lower case, and what follows its colon. -/
def cutScheme (cs : List Char) : Option (String × List Char) :=
  let scheme := cs.takeWhile isSchemeChar
  match scheme, cs.dropWhile isSchemeChar with
  | c :: _, ':' :: rest =>
    if c.isAlpha then some (String.ofList (scheme.map Char.toLower), rest) else none
  | _, _ => none

/-- A character that ends the authority. -/
def endsAuthority (wellKnown : Bool) (c : Char) : Bool :=
  c = '/' || c = '?' || c = '#' || (wellKnown && c = '\\')

/-- What stands before and after the last `@`. -/
def cutAtLast (cs : List Char) : Option (List Char × List Char) :=
  if cs.contains '@' then
    let after := (cs.reverse.takeWhile (· ≠ '@')).reverse
    some (cs.take (cs.length - after.length - 1), after)
  else none

/-- The host, which ends at the first colon outside brackets, and the rest. -/
def cutHost (wellKnown : Bool) : Bool → List Char → List Char × List Char
  | _, [] => ([], [])
  | inBrackets, c :: rest =>
    if (c = ':' ∧ !inBrackets) ∨ endsAuthority wellKnown c then ([], c :: rest)
    else
      let inside := if c = '[' then true else if c = ']' then false else inBrackets
      let (host, after) := cutHost wellKnown inside rest
      (c :: host, after)

/-- The port after a colon and what follows it; a port without digits is none. -/
def cutPort (cs : List Char) : Except UrlFault (Option Nat × List Char) :=
  let digits := cs.takeWhile Char.isDigit
  let rest := cs.dropWhile Char.isDigit
  let port := digitsValue 0 digits
  if 65535 < port then .error .badPort
  else
    match rest with
    | [] => .ok (if digits.isEmpty then none else some port, [])
    | c :: _ =>
      if endsAuthority true c then .ok (if digits.isEmpty then none else some port, rest)
      else .error .badPort

/-- Sets path, query and fragment from what follows the authority. -/
def withRest (u : Url) (cs : List Char) : Url :=
  let main := cs.takeWhile (· ≠ '#')
  let path := main.takeWhile (· ≠ '?')
  { u with
    path := pathOf (if isWellKnown u.scheme then path.map fun c => if c = '\\' then '/' else c
      else path)
    query := match main.dropWhile (· ≠ '?') with
      | _ :: query => some (encode querySet query)
      | [] => none
    fragment := match cs.dropWhile (· ≠ '#') with
      | _ :: fragment => some (encode fragmentSet fragment)
      | [] => none }

/-- Sets user name and password; an empty one is none. -/
def withCredentials (u : Url) (cs : List Char) : Url :=
  { u with
    username := encode userinfoSet (cs.takeWhile (· ≠ ':'))
    password := encode userinfoSet ((cs.dropWhile (· ≠ ':')).drop 1) }

/-- The user name and the password of an authority, with what follows its last `@`. -/
def readCredentials (scheme : String) (authority after : List Char) :
    Except UrlFault (Url × List Char) :=
  match cutAtLast authority with
  | none => .ok ({ scheme }, authority)
  | some (credentials, named) =>
    if credentials.isEmpty && named.isEmpty && !after.isEmpty then .error .emptyHost
    else .ok (({ scheme } : Url).withCredentials credentials, named)

/-- The written form of the host that a text names. -/
def readHost (wellKnown : Bool) (cs : List Char) : Except UrlFault (List Char) :=
  if wellKnown then if cs.isEmpty then .error .emptyHost else Host.domain cs
  else Host.opaqueHost cs

/-- The port, if there is a colon, and what follows it. -/
def readPort (cs : List Char) : Except UrlFault (Option Nat × List Char) :=
  match cs with
  | ':' :: rest => cutPort rest
  | _ => .ok (none, cs)

/-- Sets the host and what follows it. Without a host there is no port, and there are no user name
and password. -/
def withHost (u : Url) (host rest : List Char) : Except UrlFault Url :=
  if host.isEmpty && rest.head? = some ':' then .error .emptyHost
  else
    match readPort rest with
    | .error fault => .error fault
    | .ok (port, rest) =>
      if host.isEmpty && !(u.username.isEmpty && u.password.isEmpty) then .error .emptyHost
      else
        .ok ({ u with host, port := if port = defaultPort? u.scheme then none else port }.withRest
          rest)

/-- Reads what follows the two slashes. -/
def readAuthority (scheme : String) (cs : List Char) : Except UrlFault Url := do
  let wellKnown := isWellKnown scheme
  let authority := cs.takeWhile fun c => !endsAuthority wellKnown c
  let after := cs.dropWhile fun c => !endsAuthority wellKnown c
  let (u, named) ← readCredentials scheme authority after
  let (hostText, rest) := cutHost wellKnown false (named ++ after)
  u.withHost (← readHost wellKnown hostText) rest

/-- Reads a URL of the scheme for files, whose host ends with its name. -/
def readFile (cs : List Char) : Except UrlFault Url := do
  let isSlash := fun (c : Char) => c = '/' || c = '\\'
  let start : Url := { scheme := "file" }
  match cs with
  | a :: b :: rest =>
    if isSlash a && isSlash b then
      let hostText := rest.takeWhile fun c => !endsAuthority true c
      let after := rest.dropWhile fun c => !endsAuthority true c
      if hostText.isEmpty || isDriveLetter hostText then
        return start.withRest rest
      let host ← Host.domain hostText
      let named := { start with host := if host = "localhost".toList then [] else host }
      return named.withRest after
    else return start.withRest cs
  | _ => return start.withRest cs

/-- Reads a URL. -/
def parse (text : String) : Except UrlFault Url :=
  match cutScheme (clean (trimEdges text.toList)) with
  | none => .error .noScheme
  | some (scheme, rest) =>
    if scheme = "file" then readFile rest
    else if isWellKnown scheme then
      readAuthority scheme (rest.dropWhile fun c => c = '/' || c = '\\')
    else
      match rest with
      | '/' :: '/' :: after => readAuthority scheme after
      | _ =>
        let u := ({ scheme, hasAuthority := false } : Url).withRest rest
        let tail := (rest.takeWhile (· ≠ '#')).takeWhile (· ≠ '?')
        if tail.head? = some '/' then .ok u
        else .ok { u with path := [], tail := encode controlSet tail }

/-! ### Changing -/

/-- The URL with another port; one without a host cannot have a port. -/
def setPort? (u : Url) (port : Nat) : Option Url :=
  if u.host.isEmpty || u.scheme = "file" then none
  else some { u with port := if defaultPort? u.scheme = some port then none else some port }

/-- The URL with another user name; one without a host cannot have any. -/
def setUsername? (u : Url) (name : String) : Option Url :=
  if u.host.isEmpty || u.scheme = "file" then none
  else some { u with username := encode userinfoSet name.toList }

/-- The URL with another password; one without a host cannot have any. -/
def setPassword? (u : Url) (password : String) : Option Url :=
  if u.host.isEmpty || u.scheme = "file" then none
  else some { u with password := encode userinfoSet password.toList }

/-- The URL with another path. A text that begins like a query or a fragment is no path. -/
def setPath (u : Url) (text : String) : Url :=
  match clean text.toList with
  | '?' :: _ => { u with path := [] }
  | '#' :: _ => { u with path := [] }
  | cs => { u with path := pathOf cs }

/-! ### Writing -/

/-- The written form of user name and password. -/
def printCredentials (u : Url) : List Char :=
  if u.username.isEmpty && u.password.isEmpty then []
  else u.username ++ (if u.password.isEmpty then [] else ':' :: u.password) ++ ['@']

/-- The written form of a query or a fragment. -/
def printOption (mark : Char) (part : Option (List Char)) : List Char :=
  match part with
  | some cs => mark :: cs
  | none => []

/-- The written form of the path. -/
def printPath (u : Url) : List Char := u.tail ++ u.path.flatMap fun part => '/' :: part

/-- The written form of a URL. -/
def print (u : Url) : String :=
  let authority := if u.hasAuthority then
      ['/', '/'] ++ u.printCredentials ++ u.host ++
        (match u.port with
          | some port => ':' :: (toString port).toList
          | none => [])
    else []
  String.ofList (u.scheme.toList ++ ':' :: authority ++ u.printPath ++
    printOption '?' u.query ++ printOption '#' u.fragment)

end Url

end SchemaSeed
