import Mathlib.Data.List.DropRight

/-! URL references that begin with a slash, resolved against a base URL as the parser of the URL
standard resolves them. The parsing of hosts is a parameter: it takes whether the host is an opaque
one, and the text of the host. -/

namespace CyberLegends.Lib

/-- A URL record. A path holds its segments. -/
structure Url where
  scheme : String
  username : List Char := []
  password : List Char := []
  host : Option (List Char) := none
  port : Option Nat := none
  opaquePath : Bool := false
  path : List (List Char) := []
  query : Option (List Char) := none
  fragment : Option (List Char) := none
  deriving DecidableEq

namespace Url

/-! ### Characters -/

/-- The special schemes with their default ports. -/
def specialSchemes : List (String × Option Nat) :=
  [("ftp", some 21), ("file", none), ("http", some 80), ("https", some 443), ("ws", some 80),
    ("wss", some 443)]

def isSpecial (scheme : String) : Bool := (specialSchemes.lookup scheme).isSome

def defaultPort (scheme : String) : Option Nat := (specialSchemes.lookup scheme).join

/-- A backslash is as good as a slash in a special URL. -/
def isSlash (special : Bool) (c : Char) : Bool := c = '/' || special && c = '\x5c'

/-- What ends an authority. -/
def isEnd (special : Bool) (c : Char) : Bool := isSlash special c || c = '?' || c = '#'

def c0ControlSet (c : Char) : Bool := c.toNat ≤ 0x1f || 0x7e < c.toNat

def fragmentSet (c : Char) : Bool := c0ControlSet c || c ∈ [' ', '\x22', '<', '>', '\x60']

def querySet (c : Char) : Bool := c0ControlSet c || c ∈ [' ', '\x22', '#', '<', '>']

def specialQuerySet (c : Char) : Bool := querySet c || c = '\x27'

def pathSet (c : Char) : Bool := querySet c || c ∈ ['?', '^', '\x60', '\x7b', '\x7d']

def userinfoSet (c : Char) : Bool :=
  pathSet c || c ∈ ['/', ':', ';', '=', '@', '[', '\x5c', ']', '|']

def hexDigit (n : Nat) : Char := (Nat.digitChar n).toUpper

def percentEncode (encodeSet : Char → Bool) (c : Char) : List Char :=
  if encodeSet c then
    (String.utf8EncodeChar c).flatMap fun byte =>
      ['%', hexDigit (byte.toNat / 16), hexDigit (byte.toNat % 16)]
  else [c]

def encode (encodeSet : Char → Bool) (text : List Char) : List Char :=
  text.flatMap (percentEncode encodeSet)

/-- The input of the parser: without trailing controls and spaces, tabs and newlines. -/
def clean (input : List Char) : List Char :=
  (input.rdropWhile fun c => c.toNat ≤ 0x20).filter fun c => c ∉ ['\t', '\n', '\r']

/-! ### Paths, queries and fragments -/

def isSingleDot (segment : List Char) : Bool :=
  segment.map Char.toLower ∈ [['.'], ['%', '2', 'e']]

def isDoubleDot (segment : List Char) : Bool :=
  segment.map Char.toLower ∈
    [['.', '.'], ['.', '%', '2', 'e'], ['%', '2', 'e', '.'], ['%', '2', 'e', '%', '2', 'e']]

def isWindowsDriveLetter : List Char → Bool
  | [letter, c] => letter.isAlpha && (c = ':' || c = '|')
  | _ => false

def isNormalizedDriveLetter : List Char → Bool
  | [letter, c] => letter.isAlpha && c = ':'
  | _ => false

def startsWithDriveLetter (input : List Char) : Bool :=
  isWindowsDriveLetter (input.take 2) && (input.drop 2).head?.all (isEnd true)

section

variable (url : Url)

def pushSegment (segment : List Char) : Url := { url with path := url.path ++ [segment] }

def shortenPath : Url :=
  match url.path with
  | [segment] =>
    if url.scheme = "file" && isNormalizedDriveLetter segment then url else { url with path := [] }
  | path => { url with path := path.dropLast }

/-- The end of a segment, at a slash or at the end of the path. -/
def closeSegment (segment : List Char) (slash : Bool) : Url :=
  if isDoubleDot segment then
    if slash then url.shortenPath else url.shortenPath.pushSegment []
  else if isSingleDot segment then if slash then url else url.pushSegment []
  else if url.scheme = "file" && url.path.isEmpty && isWindowsDriveLetter segment then
    url.pushSegment (segment.take 1 ++ [':'])
  else url.pushSegment segment

def fragmentState (input : List Char) : Url :=
  { url with fragment := some (encode fragmentSet input) }

def queryState (input : List Char) : Url :=
  let encodeSet := if isSpecial url.scheme then specialQuerySet else querySet
  let url := { url with query := some (encode encodeSet (input.takeWhile (· ≠ '#'))) }
  match input.dropWhile (· ≠ '#') with
  | [] => url
  | _ :: rest => url.fragmentState rest

def pathState (url : Url) (segment : List Char) : List Char → Url
  | [] => url.closeSegment segment false
  | c :: rest =>
    if isSlash (isSpecial url.scheme) c then pathState (url.closeSegment segment true) [] rest
    else if c = '?' then (url.closeSegment segment false).queryState rest
    else if c = '#' then (url.closeSegment segment false).fragmentState rest
    else pathState url (segment ++ percentEncode pathSet c) rest

def pathStartState (input : List Char) : Url :=
  if isSpecial url.scheme then
    match input with
    | c :: rest => if isSlash true c then url.pathState [] rest else url.pathState [] input
    | [] => url.pathState [] []
  else
    match input with
    | [] => url
    | '?' :: rest => url.queryState rest
    | '#' :: rest => url.fragmentState rest
    | '/' :: rest => url.pathState [] rest
    | input => url.pathState [] input

/-- The assignment of a new query. -/
def setSearch (search : List Char) : Url :=
  match search with
  | [] => { url with query := none }
  | search =>
    let query := (if search.head? = some '?' then search.tail else search).filter
      fun c => c ∉ ['\t', '\n', '\r']
    let encodeSet := if isSpecial url.scheme then specialQuerySet else querySet
    { url with query := some (encode encodeSet query) }

end

/-! ### Authorities -/

section

variable (hostParse : Bool → List Char → Option (List Char)) (scheme : String)

/-- The text of a host, up to a colon outside brackets or the end of the authority, and what
follows. -/
def hostText (special inside : Bool) : List Char → List Char × List Char
  | [] => ([], [])
  | c :: rest =>
    if c = ':' && !inside || isEnd special c then ([], c :: rest)
    else
      let (text, rest) :=
        hostText special (if c = '[' then true else if c = ']' then false else inside) rest
      (c :: text, rest)

def readNat (digits : List Char) : Nat :=
  digits.foldl (fun value digit => 10 * value + (digit.toNat - '0'.toNat)) 0

/-- A port, none for the default one, and what follows. -/
def portState (input : List Char) : Option (Option Nat × List Char) :=
  let digits := input.takeWhile Char.isDigit
  let rest := input.dropWhile Char.isDigit
  if !rest.head?.all (isEnd (isSpecial scheme)) then none
  else if digits = [] then some (none, rest)
  else if 65535 < readNat digits then none
  else
    some (if defaultPort scheme = some (readNat digits) then none else some (readNat digits), rest)

/-- The host and the port that the input begins with, and what follows. -/
def hostState (input : List Char) : Option (List Char × Option Nat × List Char) :=
  let special := isSpecial scheme
  let (text, rest) := hostText special false input
  match rest with
  | ':' :: rest =>
    if text = [] then none
    else do
      let host ← hostParse (!special) text
      let (port, rest) ← portState scheme rest
      return (host, port, rest)
  | rest =>
    if special && text = [] then none
    else do
      let host ← hostParse (!special) text
      return (host, none, rest)

/-- The text before the last at sign of an authority, if there is one. -/
def userinfo (special : Bool) (input : List Char) : Option (List Char) :=
  let text := input.takeWhile (!isEnd special ·)
  if '@' ∈ text then some (text.rdropWhile (· ≠ '@')).dropLast else none

/-- An authority: credentials that may be missing, the host and the port. -/
structure Authority where
  username : List Char := []
  password : List Char := []
  host : List Char
  port : Option Nat
  deriving DecidableEq

/-- The authority that the input begins with, and what follows. -/
def authorityState (input : List Char) : Option (Authority × List Char) :=
  match userinfo (isSpecial scheme) input with
  | none => do
    let (host, port, rest) ← hostState hostParse scheme input
    return ({ host, port }, rest)
  | some credentials =>
    let input := input.drop (credentials.length + 1)
    if input.head?.all (isEnd (isSpecial scheme)) then none
    else do
      let (host, port, rest) ← hostState hostParse scheme input
      let username := encode userinfoSet (credentials.takeWhile (· ≠ ':'))
      let password := encode userinfoSet ((credentials.dropWhile (· ≠ ':')).tail)
      return ({ username, password, host, port }, rest)

/-- The authority that stands after the slashes of a reference, if it has any besides the first, and
what follows. -/
def namedAuthority (rest : List Char) : Option (Option (Authority × List Char)) :=
  let special := isSpecial scheme
  if rest.head?.any (isSlash special) then
    some (authorityState hostParse scheme
      (if special then rest.dropWhile (isSlash true) else rest.tail))
  else none

end

/-! ### References -/

section

variable (hostParse : Bool → List Char → Option (List Char)) (base : Url)

/-- A host after the slashes of a file URL. -/
def fileHostState (input : List Char) : Option Url :=
  let text := input.takeWhile (!isEnd true ·)
  let rest := input.dropWhile (!isEnd true ·)
  let url : Url := { scheme := base.scheme, host := some [] }
  if isWindowsDriveLetter text then some (url.pathState text rest)
  else if text = [] then some (url.pathStartState rest)
  else do
    let host ← hostParse false text
    let host := if host = "localhost".toList then [] else host
    return { url with host := some host }.pathStartState rest

def fileSlashState (rest : List Char) : Option Url :=
  if rest.head?.any (isSlash true) then fileHostState hostParse base rest.tail
  else
    let path :=
      match base.path.head? with
      | some segment =>
        if !startsWithDriveLetter rest && isNormalizedDriveLetter segment then [segment] else []
      | none => []
    some ({ scheme := base.scheme, host := base.host, path : Url }.pathState [] rest)

/-- The URL that a reference denotes which is a slash and then `input`. -/
def resolve (input : List Char) : Option Url :=
  let rest := clean input
  if base.opaquePath then none
  else if base.scheme = "file" then fileSlashState hostParse base rest
  else
    match namedAuthority hostParse base.scheme rest with
    | some named => do
      let (authority, rest) ← named
      let url : Url :=
        { scheme := base.scheme, username := authority.username, password := authority.password
          host := some authority.host, port := authority.port }
      return url.pathStartState rest
    | none =>
      let url : Url :=
        { scheme := base.scheme, username := base.username, password := base.password
          host := base.host, port := base.port }
      some (url.pathState [] rest)

end

/-! ### What a path leaves alone -/

/-- All of a URL that comes before its path. -/
def beforePath (url : Url) : String × List Char × List Char × Option (List Char) × Option Nat :=
  (url.scheme, url.username, url.password, url.host, url.port)

section

variable (url : Url)

@[simp] theorem pushSegment_beforePath (segment : List Char) :
    (url.pushSegment segment).beforePath = url.beforePath := rfl

@[simp] theorem shortenPath_beforePath : url.shortenPath.beforePath = url.beforePath := by
  unfold shortenPath
  split
  · split <;> rfl
  · rfl

@[simp] theorem closeSegment_beforePath (segment : List Char) (slash : Bool) :
    (url.closeSegment segment slash).beforePath = url.beforePath := by
  unfold closeSegment
  split
  · split <;> simp
  · split
    · split <;> simp
    · split <;> simp

@[simp] theorem fragmentState_beforePath (input : List Char) :
    (url.fragmentState input).beforePath = url.beforePath := rfl

@[simp] theorem queryState_beforePath (input : List Char) :
    (url.queryState input).beforePath = url.beforePath := by
  unfold queryState
  dsimp only
  split <;> rfl

/-- No path leads to another host: its dot segments and slashes are its own. -/
@[simp] theorem pathState_beforePath (segment input : List Char) :
    (url.pathState segment input).beforePath = url.beforePath := by
  induction input generalizing url segment with
  | nil => simp [pathState]
  | cons c rest ih =>
    rw [pathState]
    split
    · rw [ih, closeSegment_beforePath]
    · split
      · simp
      · split
        · simp
        · exact ih ..

@[simp] theorem pathStartState_beforePath (input : List Char) :
    (url.pathStartState input).beforePath = url.beforePath := by
  unfold pathStartState
  split
  · split
    · split <;> simp
    · simp
  · split <;> simp

theorem pathState_scheme (segment input : List Char) :
    (url.pathState segment input).scheme = url.scheme :=
  congrArg Prod.fst (pathState_beforePath ..)

theorem pathStartState_scheme (input : List Char) : (url.pathStartState input).scheme = url.scheme :=
  congrArg Prod.fst (pathStartState_beforePath ..)

@[simp] theorem setSearch_beforePath (search : List Char) :
    (url.setSearch search).beforePath = url.beforePath := by
  unfold setSearch
  split <;> rfl

end

/-! ### Where a reference leads -/

section

variable {hostParse : Bool → List Char → Option (List Char)} {base : Url} {input : List Char}

/-- Against a base that is no file, a reference without another slash stays where the base is, and
one with more slashes leads to the authority that it names, if that is one. -/
theorem resolve_beforePath (hostParse : Bool → List Char → Option (List Char)) (input : List Char)
    (noFile : base.scheme ≠ "file") (hierarchical : base.opaquePath = false) :
    (resolve hostParse base input).map beforePath =
      match namedAuthority hostParse base.scheme (clean input) with
      | none => some base.beforePath
      | some named => named.map fun (authority, _) =>
        (base.scheme, authority.username, authority.password, some authority.host,
          authority.port) := by
  unfold resolve
  dsimp only
  rw [hierarchical, if_neg Bool.false_ne_true, if_neg noFile]
  cases namedAuthority hostParse base.scheme (clean input) with
  | none => exact congrArg some (pathState_beforePath ..)
  | some named =>
    cases named with
    | none => rfl
    | some found => exact congrArg some (pathStartState_beforePath ..)

theorem fileSlashState_scheme {rest : List Char} {url : Url}
    (result : fileSlashState hostParse base rest = some url) : url.scheme = base.scheme := by
  unfold fileSlashState at result
  split at result
  · unfold fileHostState at result
    dsimp only at result
    split at result
    · cases result
      exact pathState_scheme ..
    · split at result
      · cases result
        exact pathStartState_scheme ..
      · obtain ⟨host, -, found⟩ := Option.bind_eq_some_iff.mp result
        cases found
        exact pathStartState_scheme ..
  · cases result
    exact pathState_scheme ..

/-- A reference without a scheme keeps that of the base. -/
theorem resolve_scheme {url : Url} (result : resolve hostParse base input = some url) :
    url.scheme = base.scheme := by
  by_cases file : base.scheme = "file"
  · unfold resolve at result
    simp only [file] at result
    split at result
    · cases result
    · exact fileSlashState_scheme result
  · cases hierarchical : base.opaquePath with
    | true => simp [resolve, hierarchical] at result
    | false =>
      have before := resolve_beforePath hostParse input file hierarchical
      rw [result] at before
      split at before
      · exact congrArg Prod.fst (Option.some.inj before)
      · obtain ⟨named, -, same⟩ := Option.map_eq_some_iff.mp before.symm
        exact congrArg Prod.fst same.symm

theorem resolve_hierarchical {url : Url} (result : resolve hostParse base input = some url) :
    base.opaquePath = false := by
  by_contra opaquePath
  simp [resolve, opaquePath] at result

end

end Url

end CyberLegends.Lib
