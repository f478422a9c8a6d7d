import AxeVoice.Foundation.WideString

/-!
# Dial destinations

The syntax check of a typed destination: a bare dial string, or a SIP URI with
a user, a DNS shaped host and an optional port.  The result carries the
normalized destination, which is the input itself wherever it names a scheme.
-/

namespace AxeVoice.Sip

open Foundation

variable {width : WCharWidth}

inductive AddressError where
  | none
  | empty
  | whitespace
  | invalidScheme
  | invalidUser
  | invalidHost
  | invalidPort
  deriving DecidableEq, Repr

structure AddressResult (width : WCharWidth) where
  error : AddressError
  normalized : WString width := []
  deriving DecidableEq, Repr

def AddressResult.valid (result : AddressResult width) : Bool := result.error = .none

def hostAlnum (unit : WChar width) : Bool :=
  unit.within 'a' 'z' || unit.within 'A' 'Z' || unit.within '0' '9'

/-- The loop over the host: the length of the current label, and whether it ends well so far. -/
def validSipHostFrom : WString width → Nat → Bool → Bool
  | [], label, lastAlnum => label ≠ 0 && lastAlnum
  | unit :: rest, label, lastAlnum =>
      if unit = wide width '.' then
        if label = 0 || !lastAlnum then false else validSipHostFrom rest 0 false
      else if !hostAlnum unit && (unit ≠ wide width '-' || label = 0) then false
      else if label + 1 > 63 then false
      else validSipHostFrom rest (label + 1) (hostAlnum unit)

def validSipHost (host : WString width) : Bool :=
  if host.isEmpty || host.length > 253 then false else validSipHostFrom host 0 false

/-- The loop over the digits of a port. -/
def portNumberFrom : WString width → Nat → Option Nat
  | [], number => some number
  | unit :: rest, number =>
      if unit.within '0' '9' then portNumberFrom rest (number * 10 + (unit.toNat - '0'.toNat))
      else none

def validPort (port : WString width) : Bool :=
  if port.isEmpty || port.length > 5 then false
  else
    match portNumberFrom port 0 with
    | none => false
    | some number => !(number = 0 || number > 65535)

/-- The dial strings: digits, plus, star and hash. -/
def dialUnit (ctype : WideCtype width) (unit : WChar width) : Bool :=
  ctype.iswdigit unit || unit = wide width '+' || unit = wide width '*' || unit = wide width '#'

/-- The checks on what follows the `@` of a URI. -/
def validateHostPort (host : WString width) : AddressError :=
  let portColon := host.find ':'
  if !validSipHost (host.take (portColon.getD host.length)) then .invalidHost
  else
    match portColon with
    | none => .none
    | some position => if validPort (host.drop (position + 1)) then .none else .invalidPort

/-- The checks on a destination whose scheme, if any, is taken off. -/
def validateSchemeless (ctype : WideCtype width) (input value : WString width) :
    AddressResult width :=
  if value.isEmpty then ⟨.invalidUser, []⟩
  else if value.findFirstOf "<>\\\"?;" then ⟨.invalidUser, []⟩
  else
    match value.find '@' with
    | none =>
        if value.all (dialUnit ctype) then ⟨.none, if input.contains ':' then input else value⟩
        else ⟨.invalidUser, []⟩
    | some position =>
        if position = 0 || position = value.length - 1 ||
            WString.contains (value.drop (position + 1)) '@' then
          ⟨.invalidHost, []⟩
        else
          match validateHostPort (value.drop (position + 1)) with
          | .none =>
              ⟨.none, if input.contains ':' then input else wideText width "sip:" ++ value⟩
          | error => ⟨error, []⟩

def validateAddress (ctype : WideCtype width) (input : WString width) : AddressResult width :=
  if input.isEmpty then ⟨.empty, []⟩
  else if input.any fun unit => ctype.iswspace unit || ctype.iswcntrl unit then ⟨.whitespace, []⟩
  else
    match input.find ':' with
    | none => validateSchemeless ctype input input
    | some colon =>
        let scheme := input.take colon
        if scheme ≠ wideText width "sip" && scheme ≠ wideText width "sips" then
          ⟨.invalidScheme, []⟩
        else validateSchemeless ctype input (input.drop (colon + 1))

end AxeVoice.Sip
