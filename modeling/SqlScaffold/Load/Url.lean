import SqlScaffold.Load.Document
import SqlScaffold.Text.Normal

/-!
Addresses of documents. An address needs a scheme and a host part; a host between brackets has to
be an address of version six or of a later version, and the compatible normal form of a host part
may hold no more marks than the host part itself.
-/

namespace SqlScaffold.Load

open Number Text

inductive HostError where
  | unbalanced
  | future
  | versionFour
  | noAddress (host : String)
  | hiddenMark (host : String)
  deriving DecidableEq, Repr

def HostError.message : HostError → String
  | unbalanced => "Invalid IPv6 URL"
  | future => "IPvFuture address is invalid"
  | versionFour => "An IPv4 address cannot be in brackets"
  | noAddress host => quoted host ++ " does not appear to be an IPv4 or IPv6 address"
  | hiddenMark host =>
    "netloc '" ++ host ++ "' contains invalid characters under NFKC normalization"

def isHexDigit (c : Char) : Bool := (hexValue? c).isSome

def isOctet (digits : List Char) : Bool :=
  !digits.isEmpty && digits.all Char.isDigit && decide (digits.length ≤ 3) &&
    (digits.length == 1 || digits.head? != some '0') &&
    decide (valueOfDigits digits ≤ 255)

def isVersionFour (host : List Char) : Bool :=
  (splitChars '.' host).length == 4 && (splitChars '.' host).all isOctet

def isGroup (digits : List Char) : Bool :=
  !digits.isEmpty && digits.all isHexDigit && decide (digits.length ≤ 4)

/-- The groups between colons, with a version four address at the end as two groups; `none` if
that address is malformed. -/
def groupsOf (host : List Char) : Option (List (List Char)) :=
  let parts := splitChars ':' host
  match parts.getLast? with
  | none => some parts
  | some last =>
    if last.contains '.' then
      if isVersionFour last then some (parts.dropLast ++ [['0'], ['0']]) else none
    else some parts

def areGroups (groups : List (List Char)) : Bool :=
  let inner := groups.tail.dropLast
  let first := groups.head?.getD []
  let last := groups.getLast?.getD []
  let gaps := inner.countP List.isEmpty
  if decide (groups.length < 3) || decide (9 < groups.length) || decide (1 < gaps) then false
  else if gaps = 1 then
    let outerFine := (!first.isEmpty || (groups.getD 1 []).isEmpty) &&
      (!last.isEmpty || (inner.getLast?.getD []).isEmpty)
    let written := groups.countP fun group => !group.isEmpty
    outerFine && decide (written < 8) && (groups.filter fun group => !group.isEmpty).all isGroup
  else groups.length == 8 && groups.all isGroup

def isVersionSix (host : List Char) : Bool :=
  let address := host.takeWhile (· != '%')
  let zone := host.drop (address.length + 1)
  let zoned := decide (address.length < host.length)
  !(zoned && (zone.isEmpty || zone.contains '%')) &&
    match groupsOf address with
    | none => false
    | some groups => areGroups groups

def isFuture (host : List Char) : Bool :=
  let version := host.tail.takeWhile isHexDigit
  let behind := host.tail.drop version.length
  !version.isEmpty && behind.head? == some '.' && !behind.tail.isEmpty &&
    !behind.tail.contains '\n'

def checkBracketed (host : List Char) : Except HostError Unit :=
  if host.head? = some 'v' then if isFuture host then .ok () else .error .future
  else if isVersionFour host then .error .versionFour
  else if isVersionSix host then .ok ()
  else .error (.noAddress (String.ofList host))

def behindUser (host : List Char) : List Char :=
  (splitLastChars '@' host).elim host Prod.snd

/-- The name of a host in a host part with brackets. Nothing but a user may stand before a bracket,
and nothing but a number after it: this is looked at since patch release
3.11.12 of the reader whose rules these are. -/
def bracketedName (host : List Char) : Except HostError (List Char) :=
  let behind := behindUser host
  if behind.contains '[' then
    let name := (behind.drop 1).takeWhile (· != ']')
    let after := behind.drop (name.length + 2)
    if behind.head? = some '[' ∧ (after.isEmpty ∨ after.head? = some ':') then .ok name
    else .error .unbalanced
  else .ok (behind.takeWhile (· != ':'))

def checkBrackets (host : List Char) : Except HostError Unit :=
  if host.contains '[' != host.contains ']' then .error .unbalanced
  else if host.contains '[' then bracketedName host >>= checkBracketed
  else .ok ()

def hostMarks : List Char := ['/', '?', '#']

def separators : List Char := ['/', '?', '#', '@', ':']
def hostSeparators : List Char := ['@', ':', '#', '?']

def checkMarks (host : List Char) : Except HostError Unit :=
  let name := String.ofList (host.filter fun c => !hostSeparators.contains c)
  let normal := normalForm name
  if normal ≠ name ∧ normal.toList.any separators.contains then
    .error (.hiddenMark (String.ofList host))
  else .ok ()

def checkHost (host : List Char) : Except HostError Unit := do
  checkBrackets host
  checkMarks host

def isSchemePart (c : Char) : Bool := c.isAlphanum || ['+', '-', '.'].contains c

def afterScheme? (chars : List Char) : Option (List Char) :=
  let scheme := chars.takeWhile (· != ':')
  let starts := (scheme.head?.map Char.isAlpha).getD false
  if decide (scheme.length < chars.length) && starts && scheme.all isSchemePart then
    some (chars.drop (scheme.length + 1))
  else none

def hostOf (chars : List Char) : List Char :=
  match chars with
  | '/' :: '/' :: rest => rest.takeWhile fun c => !hostMarks.contains c
  | _ => []

def ignoredMarks : List Char := ['\t', '\r', '\n']

/-- Whether an address has a scheme and a host part. Controls and blanks before it and line breaks
and tabs inside do not count. -/
def isUrl (url : String) : Except HostError Bool := do
  let trimmed := url.toList.dropWhile fun c => c.toNat ≤ 0x20
  let chars := trimmed.filter fun c => !ignoredMarks.contains c
  let scheme := afterScheme? chars
  let host := hostOf (scheme.getD chars)
  checkHost host
  .ok (scheme.isSome && !host.isEmpty)

end SqlScaffold.Load
