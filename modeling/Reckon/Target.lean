import Reckon.Host
import Reckon.Text.Quoted

/-!
# Targets of requests

A target is a reference: a scheme, an authority and a path, of which only the path must be
there, and then a query and a fragment, which do not matter.  A reference that names a scheme
and a host stands for itself, though a host in brackets cannot be followed.  Any other one is
relative to the root of the service, whatever its authority.  Dots among the components of a
path lead nowhere or back by one component.  Escapes are decoded twice, once when the request
is made and once when it is received.
-/

namespace Reckon.Target

/-- Why a target is no reference that can be followed. -/
inductive Defect where
  | tooLong
  | control (character : Char) (position : Nat)
  | badHost (defect : Host.Defect) (host : String)
  | badNumber (number : String)
  | doubleSlash
  | colon
  | unknownScheme (scheme : String)
  /-- What stands behind the first colon of an authority is no number. -/
  | unreadableNumber (text : String)
  deriving DecidableEq, Repr

def Defect.message : Defect → String
  | tooLong => "URL too long"
  | control character position =>
      s!"Invalid non-printable ASCII character in URL, {Text.quoted character.toString} " ++
        s!"at position {position}."
  | badHost defect host => s!"Invalid {defect.label}: {Text.quoted host}"
  | badNumber number => s!"Invalid port: {Text.quoted number}"
  | doubleSlash => "Relative URLs cannot have a path starting with '//'"
  | colon => "Relative URLs cannot have a path starting with ':'"
  | unknownScheme scheme => Text.quoted scheme
  | unreadableNumber text =>
      let quotation := (Text.quoted text).toList.take 200
      s!"invalid literal for int() with base 10: {String.ofList quotation}"

/-- The most characters that a target may have. -/
abbrev longest : Nat := 65536

/-- Whether a character of ASCII is no printable one. -/
def isControl (c : Char) : Bool :=
  c < ' ' || c = '\x7f'

/-- The scheme of a reference in front of a colon, empty if there is none, and the rest. -/
def splitScheme (text : List Char) : List Char × List Char :=
  let name := text.takeWhile fun c => c.isAlphanum || c = '+' || c = '.' || c = '-'
  match text.drop name.length with
  | ':' :: rest => if name.head?.all Char.isAlpha then (name, rest) else ([], text)
  | _ => ([], text)

/-- The authority of a reference behind two slashes, empty if there is none, and the rest. -/
def splitAuthority : List Char → List Char × List Char
  | '/' :: '/' :: rest =>
      let authority := rest.takeWhile fun c => c ≠ '/' && c ≠ '?' && c ≠ '#'
      (authority, rest.drop authority.length)
  | text => ([], text)

/-- Who is asked for a path. -/
structure Authority where
  user : List Char
  host : List Char
  /-- The number of the entrance to the host. -/
  number : List Char

/-- The parts of an authority: the user stands in front of the last at sign, the number behind
the first colon; in brackets a colon belongs to the host. -/
def Authority.ofText (text : List Char) : Authority :=
  let behindUser := (text.reverse.takeWhile (· ≠ '@')).reverse
  let user := (text.take (text.length - behindUser.length)).dropLast
  let bracketed :=
    if behindUser.head? = some '[' then
      (behindUser.reverse.dropWhile (· ≠ ']')).reverse
    else
      []
  let host := if bracketed.isEmpty then behindUser.takeWhile (· ≠ ':') else bracketed
  let rest := behindUser.drop host.length
  { user, host, number := if rest.head? = some ':' then rest.drop 1 else rest }

def Authority.isEmpty (authority : Authority) : Bool :=
  authority.user.isEmpty && authority.host.isEmpty && authority.number.isEmpty

/-- The components of a path that are left behind one more component. -/
def follow (kept : List String) (component : String) : List String :=
  if component = "." then
    kept
  else if component = ".." then
    if kept = [""] then kept else kept.dropLast
  else
    kept ++ [component]

/-- A path without components of dots. -/
def withoutDots (path : List Char) : List Char :=
  ("/".intercalate (((String.ofList path).splitOn "/").foldl follow [])).toList

/-- A text with its escapes decoded.  An escape that stands for no character of ASCII is
replaced. -/
def decodeEscapes : List Char → List Char
  | [] => []
  | c :: rest =>
      if c = '%' then
        match rest with
        | a :: b :: behind =>
            match Text.hexadecimalDigit? a, Text.hexadecimalDigit? b with
            | some high, some low =>
                let code := 16 * high + low
                (if code < 0x80 then .ofNat code else '\uFFFD') :: decodeEscapes behind
            | _, _ => c :: decodeEscapes (a :: b :: behind)
        | rest => c :: rest
      else
        c :: decodeEscapes rest

/-- A path without the slashes at its end, and then without a line feed there. -/
def withoutEnd (path : List Char) : List Char :=
  let path := (path.reverse.dropWhile (· = '/')).reverse
  if path.getLast? = some '\n' then path.dropLast else path

/-- The number of an entrance that a scheme takes for granted. -/
def usualNumber? : String → Option Int
  | "http" => some 80
  | "https" => some 443
  | _ => none

/-- What stands behind the first colon of an authority whose host is in brackets, with the
number of the entrance if it is not the usual one.  This is never a number, as the colon belongs
to the host. -/
def behindColon (scheme : String) (authority : Authority) : String :=
  let number? := Text.writtenInteger? (String.ofList authority.number)
  let entrance :=
    match number? with
    | some number => if usualNumber? scheme = some number then "" else s!":{number}"
    | none => ""
  let rest := (authority.host.dropWhile (· ≠ ':')).drop 1
  String.ofList rest ++ entrance

/-- The path that a reference leads to, as it is sent. -/
def sentPath (text : List Char) : Except Defect (List Char) := do
  let (scheme, behindScheme) := splitScheme text
  let (authorityText, behindAuthority) := splitAuthority behindScheme
  let path := behindAuthority.takeWhile fun c => c ≠ '?' && c ≠ '#'
  let authority := Authority.ofText authorityText
  if let some defect := Host.defect? authority.host then
    throw (.badHost defect (String.ofList authority.host))
  let number := String.ofList authority.number
  if !number.isEmpty && (Text.writtenInteger? number).isNone then
    throw (.badNumber number)
  let bare := scheme.isEmpty && authority.isEmpty
  if bare && ['/', '/'].isPrefixOf path then
    throw .doubleSlash
  if bare && path.head? = some ':' then
    throw .colon
  let path := if bare then path else withoutDots path
  if scheme.isEmpty || authority.host.isEmpty then
    return withoutDots ('/' :: path.dropWhile (· = '/'))
  let scheme := String.ofList scheme
  let plainScheme := scheme.map Char.toLower
  if (usualNumber? plainScheme).isNone then
    throw (.unknownScheme plainScheme)
  if Host.isBracketed authority.host then
    throw (.unreadableNumber (behindColon scheme authority))
  return path

/-- The path that a target asks for. -/
def path (target : String) : Except Defect String := do
  let text := target.toList
  if longest < text.length then
    throw .tooLong
  match text.find? isControl with
  | some character => throw (.control character (text.takeWhile (!isControl ·)).length)
  | none =>
      let sent ← sentPath text
      return String.ofList (withoutEnd (decodeEscapes (decodeEscapes sent)))

end Reckon.Target
