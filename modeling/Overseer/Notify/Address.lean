import Overseer.Notify.Server

set_option autoImplicit false

namespace Overseer.Notify

structure Address where
  scheme : String
  -- An address with slashes before a server that is not named has the empty name.
  server : Option Server
  port : Option Nat
  path : String
  query : Option String
  fragment : Option String
deriving DecidableEq, Repr

namespace Address

def webSchemes : List (String × Option Nat) :=
  [("http", some 80), ("https", some 443), ("ws", some 80), ("wss", some 443), ("ftp", some 21),
   ("file", none)]

def isWeb (scheme : String) : Bool := (webSchemes.lookup scheme).isSome

def endsServer (web : Bool) (c : Char) : Bool :=
  c = '/' || (web && c = '\\') || c = '?' || c = '#'

def isSlash (web : Bool) (c : Char) : Bool := c = '/' || (web && c = '\\')

def afterUser (cs : List Char) : List Char × Bool :=
  ((cs.reverse.takeWhile (· ≠ '@')).reverse, cs.contains '@')

def splitPort : Bool → List Char → List Char × Option (List Char)
  | _, [] => ([], none)
  | inside, c :: cs =>
    if c = ':' && !inside then ([], some cs)
    else
      let inside := if c = '[' then true else if c = ']' then false else inside
      let (server, port) := splitPort inside cs
      (c :: server, port)

def readPort (usual : Option Nat) : Option (List Char) → Option (Option Nat)
  | none => some none
  | some [] => some none
  | some cs =>
    match Server.numeral? 10 cs with
    | none => none
    | some n => if n < 65536 then some (if some n = usual then none else some n) else none

def isHere (segment : List Char) : Bool :=
  [['.'], ['%', '2', 'e']].contains (segment.map Char.toLower)

def isUp (segment : List Char) : Bool :=
  [['.', '.'], ['.', '%', '2', 'e'], ['%', '2', 'e', '.'], ['%', '2', 'e', '%', '2', 'e']].contains
    (segment.map Char.toLower)

def walk : List (List Char) → List (List Char) → List (List Char)
  | walked, [] => walked
  | walked, [last] =>
    if isUp last then [] :: walked.drop 1
    else if isHere last then [] :: walked
    else last :: walked
  | walked, s :: rest =>
    if isUp s then walk (walked.drop 1) rest
    else if isHere s then walk walked rest
    else walk (s :: walked) rest

def inPath (c : Char) : Bool := [' ', '"', '<', '>', '`', '#', '?', '\x7b', '\x7d'].contains c

def inQuery (web : Bool) (c : Char) : Bool :=
  [' ', '"', '#', '<', '>'].contains c || (web && c = '\'')

def inFragment (c : Char) : Bool := [' ', '"', '<', '>', '`'].contains c

def pathText (web : Bool) (cs : List Char) : List Char :=
  let slashed := cs.map fun c => if isSlash web c then '/' else c
  '/' :: List.intercalate ['/']
    ((walk [] (Files.pieces '/' slashed)).reverse.map (Text.Percent.encode inPath))

def part (special : Char → Bool) (cs : List Char) : String :=
  String.ofList (Text.Percent.encode special cs)

def tail (web : Bool) (cs : List Char) : Option String × Option String :=
  let query := match cs with
    | '?' :: rest => some (part (inQuery web) (rest.takeWhile (· ≠ '#')))
    | _ => none
  let fragment := match cs.dropWhile (· ≠ '#') with
    | _ :: rest => some (part inFragment rest)
    | [] => none
  (query, fragment)

def isTail (c : Char) : Bool := c = '?' || c = '#'

def finish (web : Bool) (scheme : String) (server : Option Server) (port : Option Nat)
    (cs : List Char) : Address :=
  let (query, fragment) := tail web (cs.dropWhile (!isTail ·))
  let path := match cs.takeWhile (!isTail ·) with
    | [] => if web then pathText web [] else []
    | c :: rest =>
      if isSlash web c then pathText web rest
      else if web then pathText web (c :: rest)
      else Text.Percent.encode (fun _ => false) (c :: rest)
  ⟨scheme, server, port, String.ofList path, query, fragment⟩

def readServer (scheme : String) (cs : List Char) : Option Address :=
  let web := isWeb scheme
  let (afterSign, signed) := afterUser (cs.takeWhile (!endsServer web ·))
  let rest := cs.dropWhile (!endsServer web ·)
  let (name, portText) := splitPort false afterSign
  let server := if web then Server.ofChars? name else Server.ofForeign? name
  match if scheme = "file" && name.isEmpty then some (.name "") else server,
      readPort ((webSchemes.lookup scheme).getD none) portText with
  | some server, some port =>
    if name.isEmpty && signed then none else some (finish web scheme (some server) port rest)
  | _, _ => none

def scheme? (cs : List Char) : Option (String × List Char) :=
  let isPart (c : Char) : Bool := c.isAlphanum || c = '+' || c = '-' || c = '.'
  match cs, cs.dropWhile isPart with
  | c :: _, ':' :: rest =>
    if c.isAlpha then some (String.ofList ((cs.takeWhile isPart).map Char.toLower), rest) else none
  | _, _ => none

def isEdge (c : Char) : Bool := c.toNat ≤ 0x20

-- Line ends and tabs are left out, and blanks at both ends.
def cleaned (cs : List Char) : List Char :=
  ((cs.dropWhile isEdge).reverse.dropWhile isEdge).reverse.filter
    fun c => c ≠ '\t' && c ≠ '\n' && c ≠ '\r'

def read? (s : String) : Option Address :=
  match scheme? (cleaned s.toList) with
  | none => none
  | some (scheme, rest) =>
    if scheme = "file" then
      match rest with
      | a :: b :: cs =>
        if isSlash true a && isSlash true b then readServer scheme cs
        else some (finish true scheme (some (.name "")) none rest)
      | _ => some (finish true scheme (some (.name "")) none rest)
    else if isWeb scheme then readServer scheme (rest.dropWhile (isSlash true))
    else match rest with
      | '/' :: '/' :: cs => readServer scheme cs
      | _ => some (finish false scheme none none rest)

def hasServer (a : Address) : Bool := a.server.isSome && a.server ≠ some (.name "")

def isSendable (a : Address) : Bool :=
  (a.scheme = "http" || a.scheme = "https") &&
    match a.server with
    | some (.name s) => !s.toList.any ['"', '`', '\x7b', '\x7d'].contains
    | _ => true

def text (a : Address) : String :=
  a.scheme ++ ":" ++
  (match a.server with
   | none => ""
   | some s => "//" ++ s.text) ++
  (match a.port with
   | none => ""
   | some n => ":" ++ Text.Numeral.text n) ++
  a.path ++
  (match a.query with
   | none => ""
   | some q => "?" ++ q) ++
  (match a.fragment with
   | none => ""
   | some f => "#" ++ f)

end Address

end Overseer.Notify
