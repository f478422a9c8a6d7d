import Mathlib.Data.List.Basic

/-!
# Wide strings

Strings over `wchar_t`, whose width is fixed by the platform: sixteen bits where
a text is UTF-16, thirty-two bits where it is UTF-32.  A wide string is the list
of its units; positions in it are those of `std::wstring::find`.  The locale's
character classes are a parameter.
-/

namespace AxeVoice.Foundation

/-- The platform's choice of `wchar_t`. -/
inductive WCharWidth where
  | utf16
  | utf32
  deriving DecidableEq, Repr

def WCharWidth.bits : WCharWidth → Nat
  | .utf16 => 16
  | .utf32 => 32

abbrev WChar (width : WCharWidth) := BitVec width.bits

abbrev WString (width : WCharWidth) := List (WChar width)

/-- The wide character literal of a character. -/
def wide (width : WCharWidth) (character : Char) : WChar width :=
  BitVec.ofNat width.bits character.toNat

/-- The wide string literal of an ASCII text. -/
def wideText (width : WCharWidth) (text : String) : WString width :=
  text.toList.map (wide width)

/-- The character classes of the C locale in force. -/
structure WideCtype (width : WCharWidth) where
  iswspace : WChar width → Bool
  iswcntrl : WChar width → Bool
  iswdigit : WChar width → Bool

/-- The classes of the "C" locale: those of ASCII. -/
def WideCtype.ascii (width : WCharWidth) : WideCtype width where
  iswspace unit := unit.toNat = 32 || (9 ≤ unit.toNat && unit.toNat ≤ 13)
  iswcntrl unit := unit.toNat < 32 || unit.toNat = 127
  iswdigit unit := 48 ≤ unit.toNat && unit.toNat ≤ 57

variable {width : WCharWidth}

/-- The unit lies between two characters, inclusive. -/
def WChar.within (unit : WChar width) (low high : Char) : Bool :=
  low.toNat ≤ unit.toNat && unit.toNat ≤ high.toNat

/-- The position of the first occurrence of a character. -/
def WString.find (text : WString width) (character : Char) : Option Nat :=
  text.idxOf? (wide width character)

def WString.contains (text : WString width) (character : Char) : Bool :=
  text.any (· == wide width character)

/-- One of the listed characters occurs. -/
def WString.findFirstOf (text : WString width) (characters : String) : Bool :=
  text.any fun unit => characters.toList.any fun character => unit == wide width character

/-- The text begins with a literal. -/
def WString.startsWith (text : WString width) (literal : String) : Bool :=
  (wideText width literal).isPrefixOf text

theorem WString.find_none {text : WString width} {character : Char} :
    text.find character = none ↔ wide width character ∉ text :=
  List.idxOf?_eq_none_iff

/-- The text around the first occurrence of a character. -/
theorem WString.find_some {text : WString width} {character : Char} {position : Nat}
    (found : text.find character = some position) :
    position < text.length ∧
      text = text.take position ++ wide width character :: text.drop (position + 1) ∧
      wide width character ∉ text.take position := by
  obtain ⟨inside, same, earlier⟩ := List.idxOf?_eq_some_iff.mp found
  refine ⟨inside, ?_, ?_⟩
  · rw [← same, ← List.drop_eq_getElem_cons inside, List.take_append_drop]
  · intro member
    obtain ⟨index, bound, at_index⟩ := List.mem_take_iff_getElem.mp member
    have before : index < position := Nat.lt_of_lt_of_le bound (Nat.min_le_left _ _)
    exact earlier index before at_index

theorem WString.find_append {front rest : WString width} {character : Char}
    (absent : wide width character ∉ front) :
    WString.find (front ++ wide width character :: rest) character = some front.length := by
  apply List.idxOf?_eq_some_iff.mpr
  refine ⟨by simp, by simp, ?_⟩
  intro index before same
  rw [List.getElem_append_left before] at same
  exact absent (same ▸ List.getElem_mem before)

end AxeVoice.Foundation
