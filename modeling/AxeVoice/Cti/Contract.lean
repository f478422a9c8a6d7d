import AxeVoice.Foundation.AsciiText
import AxeVoice.Foundation.ByteText
import AxeVoice.Sip.Address
import AxeVoice.Cti.Requests

/-!
# The local CTI contract

The body of a call request is one small JSON object with a destination and
nothing else; retry keys, tokens and the content type have forms of their own.
-/

namespace AxeVoice.Cti

open Foundation Sip

variable {width : WCharWidth}

/-- `skip`: the white space of JSON. -/
def skip (rest : Bytes) : Bytes :=
  rest.dropWhile fun byte =>
    byte = asciiByte ' ' || byte = asciiByte '\t' || byte = asciiByte '\r' || byte = asciiByte '\n'

/-- `consume`: what is left behind the character, where it comes next. -/
def consume (character : Char) (rest : Bytes) : Option Bytes :=
  match skip rest with
  | [] => none
  | byte :: rest => if byte = asciiByte character then some rest else none

/-- The loop over the destination, up to its closing quote or the end of the body. -/
def destinationFrom (destination : WString width) : Bytes → Option (WString width × Bytes)
  | [] => some (destination, [])
  | byte :: rest =>
      if byte = asciiByte '"' then some (destination, byte :: rest)
      else if byte ≤ 0x20 || byte ≥ 0x7f || byte = asciiByte '\\' || destination.length ≥ 128 then
        none
      else destinationFrom (destination ++ [widenByte width byte]) rest

def destinationKey : Bytes := asciiBytes "destination"

/-- The destination as it is dialed, where it is valid and not too long. -/
def normalizedDestination (ctype : WideCtype width) (destination : WString width) :
    Option (WString width) :=
  let result := validateAddress ctype destination
  if !result.valid || result.normalized.length > 128 then none else some result.normalized

def parseCtiCallJson (ctype : WideCtype width) (body : Bytes) : Option (WString width) :=
  if body.isEmpty || body.length > 512 then none
  else do
    let rest ← consume '{' body
    let rest ← consume '"' rest
    if rest.take destinationKey.length ≠ destinationKey then none
    else do
      let rest ← consume '"' (rest.drop destinationKey.length)
      let rest ← consume ':' rest
      let rest ← consume '"' rest
      let (destination, rest) ← destinationFrom [] rest
      let rest ← consume '"' rest
      let rest ← consume '}' rest
      if !(skip rest).isEmpty then none else normalizedDestination ctype destination

def byteWithin (byte : UInt8) (low high : Char) : Bool :=
  asciiByte low ≤ byte && byte ≤ asciiByte high

/-- The letters of retry keys and tokens. -/
def tokenByte (byte : UInt8) : Bool :=
  byteWithin byte 'A' 'Z' || byteWithin byte 'a' 'z' || byteWithin byte '0' '9' ||
    byte = asciiByte '-' || byte = asciiByte '_'

def validCtiIdempotencyKey (key : IdempotencyKey) : Bool :=
  !(key.length < 16 || key.length > 64) && key.all tokenByte

def validCtiApiToken (token : Bytes) : Bool :=
  !(token.length < 32 || token.length > 128) && token.all tokenByte

def validCtiJsonType (value : Bytes) : Bool :=
  value = asciiBytes "application/json" || value = asciiBytes "application/json; charset=utf-8"

/-- The token a server is started with. -/
structure ApiToken where
  bytes : Bytes
  valid : validCtiApiToken bytes = true

theorem ApiToken.length_le (token : ApiToken) : token.bytes.length ≤ 128 := by
  have valid := token.valid
  simp only [validCtiApiToken, Bool.and_eq_true, Bool.not_eq_true', Bool.or_eq_false_iff,
    decide_eq_false_iff_not] at valid
  omega

end AxeVoice.Cti
