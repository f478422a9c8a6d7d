import AxeVoice.Contacts.Book
import AxeVoice.Foundation.ByteText

/-!
# The contact backup

The encoder writes a book as JSON in UTF-8, the parser reads it back.  The parser
is a function from the input that is left to what it read and the input after it;
a test that fails has moved over blanks only, which the next test skips as well.
-/

namespace AxeVoice.Contacts

open AxeVoice.Foundation

def contactBackupLimit : Nat := 512 * 1024

variable {width : WCharWidth}

def utf8 (cp : Nat) : Bytes :=
  if cp < 0x80 then [UInt8.ofNat cp]
  else if cp < 0x800 then
    [UInt8.ofNat (0xc0 ||| (cp >>> 6)), UInt8.ofNat (0x80 ||| (cp &&& 63))]
  else if cp < 0x10000 then
    [UInt8.ofNat (0xe0 ||| (cp >>> 12)), UInt8.ofNat (0x80 ||| ((cp >>> 6) &&& 63)),
      UInt8.ofNat (0x80 ||| (cp &&& 63))]
  else
    [UInt8.ofNat (0xf0 ||| (cp >>> 18)), UInt8.ofNat (0x80 ||| ((cp >>> 12) &&& 63)),
      UInt8.ofNat (0x80 ||| ((cp >>> 6) &&& 63)), UInt8.ofNat (0x80 ||| (cp &&& 63))]

/-- A code point of a quoted text, behind a backslash where it needs one. -/
def quotedScalar (cp : Nat) : Bytes :=
  if cp = '"'.toNat || cp = '\\'.toNat then asciiByte '\\' :: utf8 cp else utf8 cp

/-- The loop over the units of a text; behind a text stands its terminating zero. -/
def quotedFrom : WString width → Bytes
  | [] => []
  | [unit] =>
      if beginsPair unit then quotedScalar (joinSurrogates unit.toNat 0)
      else quotedScalar unit.toNat
  | unit :: low :: rest =>
      if beginsPair unit then
        quotedScalar (joinSurrogates unit.toNat low.toNat) ++ quotedFrom rest
      else quotedScalar unit.toNat ++ quotedFrom (low :: rest)

def quoted (value : WString width) : Bytes :=
  asciiByte '"' :: (quotedFrom value ++ [asciiByte '"'])

/-- What the encoder writes for one contact. -/
def encodedContact (contact : Contact width) : Bytes :=
  asciiBytes "\x7b\"name\":" ++ quoted contact.name ++
    asciiBytes ",\"destination\":" ++ quoted contact.destination ++
    asciiBytes (if contact.favorite then ",\"favorite\":true\x7d" else ",\"favorite\":false\x7d")

/-- The loop over the contacts. -/
def encodeContacts (ctype : WideCtype width) : List (Contact width) → Bool → Bytes → Option Bytes
  | [], _, out => some out
  | contact :: rest, first, out =>
      if !validDraft ctype contact.draft then none
      else
        let separated := if first then out else out ++ asciiBytes ","
        let written := separated ++ encodedContact contact
        if written.length > contactBackupLimit then none
        else encodeContacts ctype rest false written

def encodeContactBackup (ctype : WideCtype width) (book : ContactBook width) : Option Bytes :=
  if book.items.length > ContactBook.capacity then none
  else do
    let out ← encodeContacts ctype book.items true
      (asciiBytes "\x7b\"version\":1,\"contacts\":[")
    let closed := out ++ asciiBytes "]\x7d"
    if closed.length > contactBackupLimit then none else some closed

/-- What a step of the parser read, and the input behind it. -/
abbrev Parsed (α : Type) := Option (α × Bytes)

namespace Parser

def space (input : Bytes) : Bytes :=
  input.dropWhile fun b =>
    b = asciiByte ' ' || b = asciiByte '\r' || b = asciiByte '\n' || b = asciiByte '\t'

def take (character : Char) (input : Bytes) : Option Bytes :=
  match space input with
  | [] => none
  | b :: rest => if b = asciiByte character then some rest else none

def literal (text : String) (input : Bytes) : Option Bytes :=
  if (asciiBytes text).isPrefixOf (space input) then
    some ((space input).drop (asciiBytes text).length)
  else none

def hexDigit (b : UInt8) : Option Nat :=
  let c := b.toNat
  if 48 ≤ c && c ≤ 57 then some (c - 48)
  else if 97 ≤ c && c ≤ 102 then some (c - 97 + 10)
  else if 65 ≤ c && c ≤ 70 then some (c - 65 + 10)
  else none

/-- The loop over the digits of an escape. -/
def hexFrom : Nat → Nat → Bytes → Parsed Nat
  | 0, cp, input => some (cp, input)
  | _ + 1, _, [] => none
  | n + 1, cp, b :: rest =>
      match hexDigit b with
      | none => none
      | some digit => hexFrom n ((cp <<< 4) ||| digit) rest

def hex (input : Bytes) : Parsed Nat := hexFrom 4 0 input

/-- The loop over the continuation bytes of a code point. -/
def continuation : Nat → Nat → Bytes → Parsed Nat
  | 0, cp, input => some (cp, input)
  | _ + 1, _, [] => none
  | count + 1, cp, b :: rest =>
      if b.toNat &&& 0xc0 ≠ 0x80 then none
      else continuation count ((cp <<< 6) ||| (b.toNat &&& 63)) rest

/-- The continuation bytes, and the check on the code point that they complete. -/
def longCodepoint (count cp minimum : Nat) (input : Bytes) : Parsed Nat :=
  match continuation count cp input with
  | none => none
  | some (cp, rest) =>
      if cp ≥ minimum && cp ≤ 0x10ffff && !(0xd800 ≤ cp && cp ≤ 0xdfff) then some (cp, rest)
      else none

def codepoint : Bytes → Parsed Nat
  | [] => none
  | b :: rest =>
      let first := b.toNat
      if first < 0x80 then some (first, rest)
      else if 0xc2 ≤ first && first ≤ 0xdf then longCodepoint 1 (first &&& 31) 0x80 rest
      else if 0xe0 ≤ first && first ≤ 0xef then longCodepoint 2 (first &&& 15) 0x800 rest
      else if 0xf0 ≤ first && first ≤ 0xf4 then longCodepoint 3 (first &&& 7) 0x10000 rest
      else none

/-- What follows `\u`: one escape, or two that make a pair of surrogates. -/
def unicodeEscape (input : Bytes) : Parsed Nat :=
  match hex input with
  | none => none
  | some (cp, rest) =>
      if isHighSurrogate cp then
        if rest.take 2 ≠ asciiBytes "\\u" then none
        else
          match hex (rest.drop 2) with
          | none => none
          | some (low, rest) =>
              if !isLowSurrogate low then none else some (joinSurrogates cp low, rest)
      else if isLowSurrogate cp then none
      else some (cp, rest)

/-- What follows a backslash; the other escapes of JSON denote forbidden controls. -/
def escape : Bytes → Parsed Nat
  | [] => none
  | b :: rest =>
      if b = asciiByte '"' || b = asciiByte '\\' || b = asciiByte '/' then some (b.toNat, rest)
      else if b = asciiByte 'u' then unicodeEscape rest
      else none

/-- One code point of a string, escaped or not. -/
def scalar : Bytes → Parsed Nat
  | [] => none
  | b :: rest => if b = asciiByte '\\' then escape rest else codepoint (b :: rest)

/-- The code points that no string may hold. -/
def refused (ascii : Bool) (cp : Nat) : Bool :=
  cp < 0x20 || (0x7f ≤ cp && cp ≤ 0x9f) || (ascii && 0x7f ≤ cp)

/-! Every step that reads something leaves less input. -/

theorem space_length (input : Bytes) : (space input).length ≤ input.length :=
  (List.dropWhile_suffix _).length_le

theorem take_shorter {character : Char} {input rest : Bytes} (taken : take character input = some rest) :
    rest.length < input.length := by
  have blanks := space_length input
  unfold take at taken
  split at taken
  · cases taken
  next b behind found =>
  split at taken
  · cases taken
    rw [found, List.length_cons] at blanks
    omega
  · cases taken

theorem literal_shorter {text : String} {input rest : Bytes} (read : literal text input = some rest) :
    rest.length ≤ input.length := by
  have blanks := space_length input
  unfold literal at read
  split at read
  · cases read
    rw [List.length_drop]
    omega
  · cases read

theorem hexFrom_shorter {n cp value : Nat} {input rest : Bytes}
    (read : hexFrom n cp input = some (value, rest)) : rest.length ≤ input.length := by
  induction n generalizing cp input with
  | zero =>
      cases read
      exact Nat.le_refl _
  | succ n ih =>
      cases input with
      | nil => cases read
      | cons b behind =>
          rw [hexFrom] at read
          split at read
          · cases read
          · exact Nat.le_succ_of_le (ih read)

theorem continuation_shorter {count cp value : Nat} {input rest : Bytes}
    (read : continuation count cp input = some (value, rest)) : rest.length ≤ input.length := by
  induction count generalizing cp input with
  | zero =>
      cases read
      exact Nat.le_refl _
  | succ count ih =>
      cases input with
      | nil => cases read
      | cons b behind =>
          rw [continuation] at read
          split at read
          · cases read
          · exact Nat.le_succ_of_le (ih read)

theorem longCodepoint_shorter {count cp minimum value : Nat} {input rest : Bytes}
    (read : longCodepoint count cp minimum input = some (value, rest)) :
    rest.length ≤ input.length := by
  unfold longCodepoint at read
  split at read
  · cases read
  next continued =>
  split at read
  · cases read
    exact continuation_shorter continued
  · cases read

theorem codepoint_shorter {value : Nat} {input rest : Bytes}
    (read : codepoint input = some (value, rest)) : rest.length < input.length := by
  cases input with
  | nil => cases read
  | cons b behind =>
      have behind_lt : ∀ {left : Bytes}, left.length ≤ behind.length →
          left.length < (b :: behind).length := fun bound => Nat.lt_succ_of_le bound
      rw [codepoint] at read
      split at read
      · cases read
        exact behind_lt (Nat.le_refl _)
      split at read
      · exact behind_lt (longCodepoint_shorter read)
      split at read
      · exact behind_lt (longCodepoint_shorter read)
      split at read
      · exact behind_lt (longCodepoint_shorter read)
      · cases read

theorem unicodeEscape_shorter {value : Nat} {input rest : Bytes}
    (read : unicodeEscape input = some (value, rest)) : rest.length ≤ input.length := by
  unfold unicodeEscape at read
  split at read
  · cases read
  next cp behind first =>
  have firstShorter := hexFrom_shorter first
  split at read
  · split at read
    · cases read
    split at read
    · cases read
    next low left second =>
    have secondShorter := hexFrom_shorter second
    split at read
    · cases read
    · have same : left = rest := congrArg Prod.snd (Option.some.inj read)
      rw [List.length_drop] at secondShorter
      rw [← same]
      omega
  split at read
  · cases read
  · cases read
    exact firstShorter

theorem scalar_shorter {value : Nat} {input rest : Bytes}
    (read : scalar input = some (value, rest)) : rest.length < input.length := by
  cases input with
  | nil => cases read
  | cons b behind =>
      rw [scalar] at read
      split at read
      · cases behind with
        | nil => cases read
        | cons escaped left =>
            rw [escape] at read
            split at read
            · cases read
              exact Nat.lt_succ_of_lt (Nat.lt_succ_self _)
            split at read
            · have shorter := unicodeEscape_shorter read
              simp only [List.length_cons]
              omega
            · cases read
      · exact codepoint_shorter read

/-- The loop over a string, behind its opening quote. -/
def stringFrom (width : WCharWidth) (limit : Nat) (ascii : Bool) (input : Bytes) (units : Nat)
    (out : WString width) : Parsed (WString width) :=
  match input with
  | [] => none
  | b :: rest =>
      if b = asciiByte '"' then some (out, rest)
      else
        match _read : scalar (b :: rest) with
        | none => none
        | some (cp, left) =>
            if refused ascii cp then none
            else if units + utf16Length cp > limit then none
            else
              stringFrom width limit ascii left (units + utf16Length cp)
                (out ++ scalarUnits width cp)
termination_by input.length
decreasing_by exact scalar_shorter _read

def string (width : WCharWidth) (limit : Nat) (ascii : Bool) (input : Bytes) :
    Parsed (WString width) :=
  match take '"' input with
  | none => none
  | some rest => stringFrom width limit ascii rest 0 []

section Turns

variable {limit units cp : Nat} {ascii : Bool} {b : UInt8} {rest left : Bytes} {out : WString width}

theorem stringFrom_quote :
    stringFrom width limit ascii (asciiByte '"' :: rest) units out = some (out, rest) := by
  rw [stringFrom, if_pos rfl]

theorem stringFrom_stuck (inside : b ≠ asciiByte '"') (stuck : scalar (b :: rest) = none) :
    stringFrom width limit ascii (b :: rest) units out = none := by
  rw [stringFrom, if_neg inside]
  split
  · rfl
  · next read =>
      rw [stuck] at read
      cases read

/-- One turn of the loop. -/
theorem stringFrom_scalar (inside : b ≠ asciiByte '"') (read : scalar (b :: rest) = some (cp, left)) :
    stringFrom width limit ascii (b :: rest) units out =
      if refused ascii cp then none
      else if units + utf16Length cp > limit then none
      else
        stringFrom width limit ascii left (units + utf16Length cp) (out ++ scalarUnits width cp) := by
  rw [stringFrom, if_neg inside]
  split
  · next stuck =>
      rw [stuck] at read
      cases read
  · next found =>
      rw [found] at read
      cases read
      rfl

end Turns

theorem stringFrom_shorter {limit : Nat} {ascii : Bool} {input rest : Bytes} {units : Nat}
    {out text : WString width}
    (read : stringFrom width limit ascii input units out = some (text, rest)) :
    rest.length < input.length := by
  induction input, units, out using stringFrom.induct width limit ascii with
  | case1 =>
      rw [stringFrom] at read
      cases read
  | case2 =>
      rw [stringFrom_quote] at read
      cases read
      exact Nat.lt_succ_self _
  | case3 units out b behind inside stuck =>
      rw [stringFrom_stuck inside stuck] at read
      cases read
  | case4 units out b behind inside cp left scanned forbidden =>
      rw [stringFrom_scalar inside scanned, if_pos forbidden] at read
      cases read
  | case5 units out b behind inside cp left scanned allowed long =>
      rw [stringFrom_scalar inside scanned, if_neg allowed, if_pos long] at read
      cases read
  | case6 units out b behind inside cp left scanned allowed fits ih =>
      rw [stringFrom_scalar inside scanned, if_neg allowed, if_neg fits] at read
      exact Nat.lt_trans (ih read) (scalar_shorter scanned)

theorem string_shorter {limit : Nat} {ascii : Bool} {input rest : Bytes} {text : WString width}
    (read : string width limit ascii input = some (text, rest)) : rest.length < input.length := by
  unfold string at read
  split at read
  · cases read
  · next taken => exact Nat.lt_trans (stringFrom_shorter read) (take_shorter taken)

section WhileComma

variable {σ : Type}

/-- Where the turn reads something it leaves less input. -/
def Shortens (turn : σ → Bytes → Parsed σ) : Prop :=
  ∀ state input after rest, turn state input = some (after, rest) → rest.length < input.length

/-- `do turn while (take(','))`, for a turn that leaves less input. -/
def whileComma (turn : σ → Bytes → Parsed σ) (shorter : Shortens turn) (state : σ)
    (input : Bytes) : Parsed σ :=
  match _read : turn state input with
  | none => none
  | some (state, rest) =>
      match _more : take ',' rest with
      | none => some (state, rest)
      | some rest => whileComma turn shorter state rest
termination_by input.length
decreasing_by exact Nat.lt_trans (take_shorter _more) (shorter _ _ _ _ _read)

variable {turn : σ → Bytes → Parsed σ} {shorter : Shortens turn} {state after : σ}
  {input rest behind : Bytes}

theorem whileComma_stuck (stuck : turn state input = none) :
    whileComma turn shorter state input = none := by
  rw [whileComma]
  split
  · rfl
  · next read =>
      rw [stuck] at read
      cases read

theorem whileComma_last (read : turn state input = some (after, rest))
    (last : take ',' rest = none) :
    whileComma turn shorter state input = some (after, rest) := by
  rw [whileComma]
  split
  · next stuck =>
      rw [stuck] at read
      cases read
  next found =>
  rw [found] at read
  cases read
  split
  · rfl
  · next more =>
      rw [last] at more
      cases more

theorem whileComma_more (read : turn state input = some (after, rest))
    (more : take ',' rest = some behind) :
    whileComma turn shorter state input = whileComma turn shorter after behind := by
  rw [whileComma]
  split
  · next stuck =>
      rw [stuck] at read
      cases read
  next found =>
  rw [found] at read
  cases read
  split
  · next last =>
      rw [last] at more
      cases more
  · next another =>
      rw [another] at more
      cases more
      rfl

theorem whileComma_shorter (read : whileComma turn shorter state input = some (after, rest)) :
    rest.length < input.length := by
  induction state, input using whileComma.induct turn shorter with
  | case1 state input stuck =>
      rw [whileComma_stuck stuck] at read
      cases read
  | case2 state input next behind found last =>
      rw [whileComma_last found last] at read
      cases read
      exact shorter _ _ _ _ found
  | case3 state input next behind found left more ih =>
      rw [whileComma_more found more] at read
      exact Nat.lt_trans (ih read) (Nat.lt_trans (take_shorter more) (shorter _ _ _ _ found))

end WhileComma

/-! ## Contacts -/

/-- The fields of an object that were read, one bit for each, and the draft that they make. -/
structure DraftFields (width : WCharWidth) where
  fields : Nat := 0
  draft : ContactDraft width := ⟨[], [], false⟩

def contactBit (key : WString width) : Nat :=
  if key = wideText width "name" then 1
  else if key = wideText width "destination" then 2
  else if key = wideText width "favorite" then 4
  else 0

/-- The value of the field with this bit. -/
def contactValue (bit : Nat) (draft : ContactDraft width) (input : Bytes) :
    Parsed (ContactDraft width) :=
  if bit = 1 then
    match string width 64 false input with
    | none => none
    | some (name, rest) => some ({ draft with name := name }, rest)
  else if bit = 2 then
    match string width 128 true input with
    | none => none
    | some (destination, rest) => some ({ draft with destination := destination }, rest)
  else
    match literal "true" input with
    | some rest => some ({ draft with favorite := true }, rest)
    | none =>
        match literal "false" input with
        | some rest => some ({ draft with favorite := false }, rest)
        | none => none

/-- One turn of the loop over the fields of a contact. -/
def contactField (state : DraftFields width) (input : Bytes) : Parsed (DraftFields width) :=
  match string width 11 true input with
  | none => none
  | some (key, rest) =>
      match take ':' rest with
      | none => none
      | some rest =>
          let bit := contactBit key
          if bit = 0 || state.fields &&& bit ≠ 0 then none
          else
            match contactValue bit state.draft rest with
            | none => none
            | some (draft, rest) => some (⟨state.fields ||| bit, draft⟩, rest)

theorem contactValue_shorter {bit : Nat} {draft after : ContactDraft width} {input rest : Bytes}
    (read : contactValue bit draft input = some (after, rest)) : rest.length ≤ input.length := by
  unfold contactValue at read
  split at read
  · split at read
    · cases read
    · next found =>
        cases read
        exact Nat.le_of_lt (string_shorter found)
  split at read
  · split at read
    · cases read
    · next found =>
        cases read
        exact Nat.le_of_lt (string_shorter found)
  split at read
  · next found =>
      cases read
      exact literal_shorter found
  split at read
  · next found =>
      cases read
      exact literal_shorter found
  · cases read

theorem contactField_shorter {state after : DraftFields width} {input rest : Bytes}
    (read : contactField state input = some (after, rest)) : rest.length < input.length := by
  unfold contactField at read
  split at read
  · cases read
  next key =>
  split at read
  · cases read
  next colon =>
  dsimp only at read
  split at read
  · cases read
  split at read
  · cases read
  next value =>
  cases read
  exact Nat.lt_of_le_of_lt (contactValue_shorter value)
    (Nat.lt_trans (take_shorter colon) (string_shorter key))

/-- The loop over the fields of a contact. -/
def contactFrom (state : DraftFields width) (input : Bytes) : Parsed (DraftFields width) :=
  whileComma contactField (fun _ _ _ _ => contactField_shorter) state input

def contact (ctype : WideCtype width) (input : Bytes) : Parsed (ContactDraft width) :=
  match take '{' input with
  | none => none
  | some rest =>
      match contactFrom {} rest with
      | none => none
      | some (state, rest) =>
          match take '}' rest with
          | none => none
          | some rest =>
              if state.fields = 7 && validDraft ctype state.draft then some (state.draft, rest)
              else none

theorem contact_shorter {ctype : WideCtype width} {draft : ContactDraft width} {input rest : Bytes}
    (read : contact ctype input = some (draft, rest)) : rest.length < input.length := by
  unfold contact at read
  split at read
  · cases read
  next opened =>
  split at read
  · cases read
  next fields =>
  split at read
  · cases read
  next closed =>
  split at read
  · cases read
    exact Nat.lt_trans (take_shorter closed)
      (Nat.lt_trans (whileComma_shorter fields) (take_shorter opened))
  · cases read

/-- One turn of the loop over the contacts: one more contact, whose destination is new. -/
def nextContact (ctype : WideCtype width) (out : List (ContactDraft width)) (input : Bytes) :
    Parsed (List (ContactDraft width)) :=
  if out.length = ContactBook.capacity then none
  else
    match contact ctype input with
    | none => none
    | some (draft, rest) =>
        if out.any fun existing => existing.destination = draft.destination then none
        else some (out ++ [draft], rest)

theorem nextContact_shorter {ctype : WideCtype width} {out after : List (ContactDraft width)}
    {input rest : Bytes} (read : nextContact ctype out input = some (after, rest)) :
    rest.length < input.length := by
  unfold nextContact at read
  split at read
  · cases read
  split at read
  · cases read
  next found =>
  split at read
  · cases read
  · cases read
    exact contact_shorter found

/-- The loop over the contacts. -/
def contactsFrom (ctype : WideCtype width) (out : List (ContactDraft width)) (input : Bytes) :
    Parsed (List (ContactDraft width)) :=
  whileComma (nextContact ctype) (fun _ _ _ _ => nextContact_shorter) out input

def contacts (ctype : WideCtype width) (out : List (ContactDraft width)) (input : Bytes) :
    Parsed (List (ContactDraft width)) :=
  match take '[' input with
  | none => none
  | some rest =>
      match take ']' rest with
      | some rest => some (out, rest)
      | none =>
          match contactsFrom ctype out rest with
          | none => none
          | some (out, rest) =>
              match take ']' rest with
              | none => none
              | some rest => some (out, rest)

theorem contacts_shorter {ctype : WideCtype width} {out after : List (ContactDraft width)}
    {input rest : Bytes} (read : contacts ctype out input = some (after, rest)) :
    rest.length < input.length := by
  unfold contacts at read
  split at read
  · cases read
  next opened =>
  have inside := take_shorter opened
  split at read
  · next closed =>
      cases read
      exact Nat.lt_trans (take_shorter closed) inside
  split at read
  · cases read
  next found =>
  split at read
  · cases read
  next closed =>
  cases read
  exact Nat.lt_trans (take_shorter closed) (Nat.lt_trans (whileComma_shorter found) inside)

/-- The fields of the document that were read, and the contacts. -/
structure DocumentFields (width : WCharWidth) where
  fields : Nat := 0
  out : List (ContactDraft width) := []

def documentBit (key : WString width) : Nat :=
  if key = wideText width "version" then 1
  else if key = wideText width "contacts" then 2
  else 0

/-- One turn of the loop over the fields of the document. -/
def documentField (ctype : WideCtype width) (state : DocumentFields width) (input : Bytes) :
    Parsed (DocumentFields width) :=
  match string width 8 true input with
  | none => none
  | some (key, rest) =>
      match take ':' rest with
      | none => none
      | some rest =>
          let bit := documentBit key
          if bit = 0 || state.fields &&& bit ≠ 0 then none
          else if bit = 1 then
            match literal "1" rest with
            | none => none
            | some rest => some (⟨state.fields ||| bit, state.out⟩, rest)
          else
            match contacts ctype state.out rest with
            | none => none
            | some (out, rest) => some (⟨state.fields ||| bit, out⟩, rest)

theorem documentField_shorter {ctype : WideCtype width} {state after : DocumentFields width}
    {input rest : Bytes} (read : documentField ctype state input = some (after, rest)) :
    rest.length < input.length := by
  unfold documentField at read
  split at read
  · cases read
  next key =>
  split at read
  · cases read
  next colon =>
  have behind := Nat.lt_trans (take_shorter colon) (string_shorter key)
  dsimp only at read
  split at read
  · cases read
  split at read
  · split at read
    · cases read
    · next version =>
        cases read
        exact Nat.lt_of_le_of_lt (literal_shorter version) behind
  · split at read
    · cases read
    · next found =>
        cases read
        exact Nat.lt_trans (contacts_shorter found) behind

/-- The loop over the fields of the document. -/
def documentFrom (ctype : WideCtype width) (state : DocumentFields width) (input : Bytes) :
    Parsed (DocumentFields width) :=
  whileComma (documentField ctype) (fun _ _ _ _ => documentField_shorter) state input

def parse (ctype : WideCtype width) (input : Bytes) : Option (List (ContactDraft width)) :=
  match take '{' input with
  | none => none
  | some rest =>
      match documentFrom ctype {} rest with
      | none => none
      | some (state, rest) =>
          match take '}' rest with
          | none => none
          | some rest =>
              if state.fields ≠ 3 then none
              else if (space rest).isEmpty then some state.out
              else none

end Parser

def decodeContactBackup (ctype : WideCtype width) (bytes : Bytes) :
    Option (List (ContactDraft width)) :=
  if bytes.length > contactBackupLimit then none else Parser.parse ctype bytes

end AxeVoice.Contacts
