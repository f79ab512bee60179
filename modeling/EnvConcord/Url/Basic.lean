import EnvConcord.Url.Host

/-!
# URLs

A URL is a scheme followed by a host and a path, or by a path alone.  The schemes of
the web and of files have rules of their own for slashes and hosts.  Tabs and line
breaks are ignored everywhere, blanks and control characters at both ends.
-/

namespace EnvConcord.Url

/-- The rules that a scheme follows. -/
inductive SchemeKind
  | file
  /-- A scheme of the web, which needs a host. -/
  | web
  | other
  deriving DecidableEq, Repr

/-- The schemes of the web. -/
def webSchemes : List String := ["http", "https", "ws", "wss", "ftp"]

/-- The rules of a scheme in lower case. -/
def SchemeKind.ofName (scheme : List Char) : SchemeKind :=
  let name := String.ofList scheme
  if name == "file" then .file else if webSchemes.contains name then .web else .other

/-- Whether a character continues a scheme. -/
def isSchemeChar (c : Char) : Bool := c.isAlphanum || c == '+' || c == '-' || c == '.'

/-- The scheme at the head of a text in lower case, and what follows its colon. -/
def splitScheme? (cs : List Char) : Option (List Char × List Char) :=
  match cs with
  | c :: _ =>
      if c.isAlpha then
        match cs.dropWhile isSchemeChar with
        | ':' :: rest => some ((cs.takeWhile isSchemeChar).map Char.toLower, rest)
        | _ => none
      else none
  | [] => none

/-- Whether a character ends the part of a URL that names the host. -/
def endsAuthority (kind : SchemeKind) (c : Char) : Bool :=
  c == '/' || c == '?' || c == '#' || (kind != .other && c == '\\')

/-- The user part in front of the last `@` of an authority, and what follows it. -/
def splitUser (authority : List Char) : Option (List Char) × List Char :=
  if authority.contains '@' then
    let reversed := authority.reverse
    (some ((reversed.dropWhile (· != '@')).drop 1).reverse,
      (reversed.takeWhile (· != '@')).reverse)
  else (none, authority)

/-- The host at the head of an authority, and what follows it: a colon outside of
brackets ends it. -/
def splitHost (inside : Bool) : List Char → List Char × List Char
  | [] => ([], [])
  | c :: rest =>
      if c == ':' && !inside then ([], c :: rest)
      else
        let inside := if c == '[' then true else if c == ']' then false else inside
        let (host, after) := splitHost inside rest
        (c :: host, after)

/-- Whether a text is a port: decimal digits, or none, of a number of sixteen bits. A
backslash ends it. -/
def isPort (cs : List Char) : Bool :=
  let digits := cs.takeWhile (· != '\\')
  digits.all Char.isDigit && Text.digitsValue digits ≤ 65535

/-- Whether a user part leaves a trace: a name or a password. -/
def hasUser (user : List Char) : Bool := !user.isEmpty && user != [':']

/-- Whether what stands between the double slash and the path names a host. -/
def isAuthority (kind : SchemeKind) (authority : List Char) (atEnd : Bool) : Bool :=
  let (user, rest) := splitUser authority
  let (host, after) := splitHost false rest
  let hostFits := if kind == .web then isHost host else isOpaqueHost host
  let portFits :=
    match after with
    | ':' :: port => isPort port && !host.isEmpty
    | _ => true
  let emptyFits :=
    !host.isEmpty ||
      (kind == .other &&
        match user with
        | some user => !hasUser user && (atEnd || !user.isEmpty)
        | none => true)
  hostFits && portFits && emptyFits

/-- Whether a text is a drive letter of a file path. -/
def isDrive (cs : List Char) : Bool :=
  match cs with
  | [c, mark] => c.isAlpha && (mark == ':' || mark == '|')
  | _ => false

/-- Whether the host of a file is empty, a drive, or a host. -/
def isFileHost (cs : List Char) : Bool :=
  let host := cs.takeWhile fun c => !endsAuthority .file c
  host.isEmpty || isDrive host || isHost host

/-- Whether what follows a scheme and its colon completes a URL. -/
def completes (kind : SchemeKind) (cs : List Char) : Bool :=
  let isSlash (c : Char) : Bool := c == '/' || c == '\\'
  let authority (cs : List Char) : Bool :=
    let inside := cs.takeWhile fun c => !endsAuthority kind c
    isAuthority kind inside (inside.length == cs.length)
  match kind with
  | .web => authority (cs.dropWhile isSlash)
  | .file =>
      match cs with
      | a :: b :: rest => if isSlash a && isSlash b then isFileHost rest else true
      | _ => true
  | .other =>
      match cs with
      | '/' :: '/' :: rest => authority rest
      | _ => true

/-- The characters that count: none of the ignored ones. -/
def significant (cs : List Char) : List Char :=
  let isOuter (c : Char) : Bool := c.toNat ≤ 32
  let trimmed := ((cs.dropWhile isOuter).reverse.dropWhile isOuter).reverse
  trimmed.filter fun c => c != '\t' && c != '\n' && c != '\r'

/-- Whether a text is a URL. -/
def isUrl (cs : List Char) : Bool :=
  match splitScheme? (significant cs) with
  | some (scheme, rest) => completes (SchemeKind.ofName scheme) rest
  | none => false

end EnvConcord.Url
