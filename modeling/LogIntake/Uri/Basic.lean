import LogIntake.Connection.Credentials
import LogIntake.Text.Halves
import LogIntake.Text.Trim

/-!
# Addresses of files

* `Uri`: a scheme, an authority and a path; a local file has no authority.
* `Uri.redacted`: the written form without the secret.
* `redact`: a text without the secret it may hold, whether or not it is an address.
* `Uri.parse`: an address from its text.
-/

namespace LogIntake

/-- The address of a file. -/
structure Uri where
  scheme : String
  user : Option String := none
  /-- The user and the secret written into the address. -/
  embedded : Option Credentials := none
  host : Option String := none
  port : Option Nat := none
  path : String
deriving DecidableEq, Repr

namespace Uri

/-- The mark between a scheme and what follows it. -/
def schemeMark : List Char := "://".toList

/-- The written form of an address, without its secret. -/
def redacted (uri : Uri) : String :=
  uri.scheme ++ "://" ++
    match uri.host with
    | none => uri.path
    | some host =>
      (uri.user.map (· ++ "@")).getD "" ++ host ++
        (uri.port.map fun port => ":" ++ String.ofList (Nat.toDigits 10 port)).getD "" ++ uri.path

/-- The written form of an address with a given user, secret, host, port and path. -/
def write (scheme : String) (user secret : Option String) (host : String) (port : Option Nat)
    (path : String) : String :=
  scheme ++ "://" ++
    (user.map fun user => user ++ (secret.map (":" ++ ·)).getD "" ++ "@").getD "" ++ host ++
    (port.map fun port => ":" ++ String.ofList (Nat.toDigits 10 port)).getD "" ++ path

/-- The address of a local file. -/
def ofPath (path : String) : Uri :=
  { scheme := "file", path }

end Uri

/-- A text without the secret that an address in it may hold: of what stands before the last `@` of
the authority, only the part before the first colon is kept. -/
def redact (text : List Char) : List Char :=
  match Text.splitAtText? Uri.schemeMark text with
  | none => text
  | some (scheme, rest) =>
    let authority := rest.takeWhile (· != '/')
    match Text.splitLast? '@' authority with
    | none => text
    | some (before, after) =>
      scheme ++ Uri.schemeMark ++ before.takeWhile (· != ':') ++ '@' :: after ++
        rest.drop authority.length

namespace Uri

/-! ## Reading -/

/-- A character that may stand in a scheme. -/
def isSchemeChar (c : Char) : Bool :=
  Text.isAsciiLetter c || Text.isAsciiDigit c || c == '+' || c == '-' || c == '.'

/-- The number of a port: decimal digits, which a plus sign may precede, for a number of 16 bits. -/
def port? (s : List Char) : Option Nat :=
  let digits := match s with
    | '+' :: rest => rest
    | _ => s
  if digits.isEmpty || !digits.all Text.isAsciiDigit then none
  else
    let n := digits.foldl (fun n c => n * 10 + Text.digitValue c) 0
    if n < 65536 then some n else none

/-- The host and the port of an authority. What follows the last colon must be a port. -/
def hostPort? (s : List Char) : Option (List Char × Option Nat) :=
  match Text.splitLast? ':' s with
  | none => some (s, none)
  | some (host, port) => (port? port).map fun port => (host, some port)

/-- The user of an authority, and the credentials if it holds a secret too. -/
def userInfo (s : List Char) : String × Option Credentials :=
  match Text.splitFirst? ':' s with
  | none => (String.ofList s, none)
  | some (user, secret) =>
    (String.ofList user, some ⟨String.ofList user, String.ofList secret⟩)

/-- The address with a scheme of its own and what follows the scheme, unless the host is missing or
the port is no number. -/
def ofAuthority? (scheme : String) (rest : List Char) : Option Uri := do
  let authority := rest.takeWhile (· != '/')
  let path := rest.drop authority.length
  let (info, place) := match Text.splitLast? '@' authority with
    | none => (none, authority)
    | some (info, place) => (some (userInfo info), place)
  let (host, port) ← hostPort? place
  if host.isEmpty then none
  else
    return {
      scheme
      user := (info.map (·.1)).filter (· ≠ "")
      embedded := info.bind (·.2)
      host := some (String.ofList host)
      port
      path := if path.isEmpty then "/" else String.ofList path }

/-- Reads an address, with white space around it set aside. A text without a scheme is the path of a
local file. What is refused is given back without its secret. -/
def parse (text : String) : Except String Uri :=
  let s := Text.trim text.toList
  if s.isEmpty then .error ""
  else
    match Text.splitAtText? schemeMark s with
    | none => .ok (ofPath (String.ofList s))
    | some (scheme, rest) =>
      if scheme.isEmpty || !scheme.all isSchemeChar then .error (String.ofList (redact s))
      else
        let scheme := String.ofList (scheme.map Text.asciiLower)
        if scheme = "file" then
          let path :=
            if "localhost".toList.isPrefixOf rest then rest.drop "localhost".length else rest
          if path.isEmpty then .error (String.ofList s) else .ok (ofPath (String.ofList path))
        else
          match ofAuthority? scheme rest with
          | some uri => .ok uri
          | none => .error (String.ofList (redact s))

end Uri

end LogIntake
