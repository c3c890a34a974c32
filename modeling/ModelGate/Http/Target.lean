/-!
# Request targets

The path that the target of an HTTP request names, and the texts that can be a method. A target is
a path with an optional query, an absolute address, an authority alone, or an asterisk.
-/

namespace ModelGate.Http

def isTokenChar (c : Char) : Bool :=
  c.isAlphanum || "!#$%&'*+-.^_\x60|~".contains c

def isMethod (text : String) : Bool :=
  !text.isEmpty && text.toList.all isTokenChar

def isPathChar (c : Char) : Bool :=
  let n := c.toNat
  n == 0x21 || (0x24 ≤ n && n ≤ 0x3B) || n == 0x3D || (0x40 ≤ n && n ≤ 0x5F) ||
    (0x61 ≤ n && n ≤ 0x7A) || n == 0x7C || 0x7E ≤ n || c == '"' || c == '\x7b' || c == '\x7d'

def isQueryChar (c : Char) : Bool :=
  let n := c.toNat
  n == 0x21 || (0x24 ≤ n && n ≤ 0x3B) || n == 0x3D || 0x3F ≤ n

/-- Whether a character ends a path: a question mark or a number sign. -/
def endsPath (c : Char) : Bool :=
  c == '?' || c == '#'

/-- The path in front of a query and a fragment; nothing is asked of a fragment. -/
def pathOf? (cs : List Char) : Option (List Char) :=
  let path := cs.takeWhile (!endsPath ·)
  let query := match cs.dropWhile (!endsPath ·) with
    | '?' :: rest => rest.takeWhile (· != '#')
    | _ => []
  if path.all isPathChar && query.all isQueryChar then some path else none

def endsAuthority (c : Char) : Bool :=
  c == '/' || c == '?' || c == '#'

def isAuthorityChar (c : Char) : Bool :=
  c.isAlphanum || "!$&'()*+,-.:;=@[]_~%".contains c

/-- What is known of an authority part way through. -/
structure AuthorityScan where
  /-- The colons since the last user part or the last address in brackets. -/
  colons : Nat
  opened : Bool
  closed : Bool
  /-- Whether there is a percent sign outside of user parts and addresses. -/
  percent : Bool
  /-- Whether the last character is an at sign. -/
  atLast : Bool

/-- Takes one more character of an authority. -/
def AuthorityScan.next? (s : AuthorityScan) (c : Char) : Option AuthorityScan :=
  if !isAuthorityChar c then none
  else if c == ':' then
    if s.colons < 8 then some { s with colons := s.colons + 1, atLast := false } else none
  else if c == '[' then
    if s.percent || s.opened then none else some { s with opened := true, atLast := false }
  else if c == ']' then
    if !s.opened || s.closed then none
    else some { s with closed := true, colons := 0, percent := false, atLast := false }
  else if c == '@' then some { s with colons := 0, percent := false, atLast := true }
  else some { s with percent := s.percent || c == '%', atLast := false }

/-- Whether a text is an authority: users, hosts and at most one port. -/
def isAuthority (cs : List Char) : Bool :=
  (cs.foldlM AuthorityScan.next? ⟨0, false, false, false, false⟩).any fun s =>
    s.opened == s.closed && decide (s.colons ≤ 1) && !s.atLast && !s.percent

def isSchemeChar (c : Char) : Bool :=
  c.isAlphanum || "+-.~".contains c

/-- What follows the scheme of an absolute address, if there is one; a scheme is not longer than
64 characters. -/
def afterScheme? (cs : List Char) : Option (Option (List Char)) :=
  let scheme := cs.takeWhile isSchemeChar
  match cs.drop scheme.length with
  | ':' :: '/' :: '/' :: rest =>
    if cs.length ≤ 3 then some none
    else if scheme.length ≤ 64 then some (some rest) else none
  | _ => some none

/-- The path of a target that does not start with a slash. -/
def absolutePath? (cs : List Char) : Option (List Char) := do
  match ← afterScheme? cs with
  | none => if isAuthority cs then return [] else none
  | some rest =>
    let authority := rest.takeWhile (!endsAuthority ·)
    if authority.isEmpty || !isAuthority authority then none
    let path ← pathOf? (rest.dropWhile (!endsAuthority ·))
    return if path.isEmpty then ['/'] else path

/-- The path of a target, if it is one. -/
def targetPath? (target : String) : Option String :=
  if 65534 < target.utf8ByteSize then none
  else
    match target.toList with
    | [] => none
    | ['*'] => some "*"
    | '/' :: rest => (pathOf? ('/' :: rest)).map String.ofList
    | cs => (absolutePath? cs).map String.ofList

end ModelGate.Http
