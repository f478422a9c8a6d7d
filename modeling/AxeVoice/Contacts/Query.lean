import Mathlib.Data.List.Lex
import Mathlib.Data.Prod.Lex
import AxeVoice.Contacts.Book
import AxeVoice.Foundation.KeySort

/-!
# Contact search

The search over the book: a folded substring test, and the order of the answer.
The order is that of a key, which no two contacts of a book share, so the answer
does not depend on how the contacts are stored.
-/

namespace AxeVoice.Contacts

open AxeVoice.Foundation

variable {width : WCharWidth}

namespace ContactQuery

/-- ASCII and Latin-1 capitals become small letters. -/
def fold (unit : WChar width) : WChar width :=
  if unit.within 'A' 'Z' || unit.within '\u00c0' '\u00d6' || unit.within '\u00d8' '\u00de' then
    unit + BitVec.ofNat _ 0x20
  else unit

/-- The inner loop: the query's units against those of the text from here on. -/
def foldedPrefix : WString width → WString width → Bool
  | _, [] => true
  | [], _ :: _ => false
  | unit :: text, wanted :: query => fold unit = fold wanted && foldedPrefix text query

def contains (text query : WString width) : Bool :=
  if query.length > text.length then false
  else
    (List.range (text.length - query.length + 1)).any fun start =>
      foldedPrefix (text.drop start) query

/-- The sign of the comparison: the first units that differ when folded, then the lengths. -/
def compare : WString width → WString width → Ordering
  | [], [] => .eq
  | [], _ :: _ => .lt
  | _ :: _, [] => .gt
  | left :: rest, right :: others =>
      if (fold left).toNat < (fold right).toNat then .lt
      else if (fold left).toNat > (fold right).toNat then .gt
      else compare rest others

/-- The comparator of the sort. -/
def before (first second : Contact width) : Bool :=
  if first.favorite ≠ second.favorite then first.favorite
  else
    match compare first.name second.name with
    | .lt => true
    | .gt => false
    | .eq =>
        match compare first.destination second.destination with
        | .lt => true
        | .gt => false
        | .eq => first.id < second.id

def admits (query : WString width) (favoritesOnly : Bool) (contact : Contact width) : Bool :=
  if favoritesOnly && !contact.favorite then false
  else contains contact.name query || contains contact.destination query

end ContactQuery

open ContactQuery

section WellFormed

variable {ctype : WideCtype width} {book : ContactBook width}

theorem scalarUnits_length_le (cp : ℕ) : (scalarUnits width cp).length ≤ utf16Length cp := by
  rw [scalarUnits]
  split
  · next pair =>
      rw [utf16Length, if_pos pair.2]
      exact le_rfl
  · exact utf16Length_pos cp

/-- A name has no more units than the limit of its UTF-16 units. -/
theorem SpelledName.length_le {name : WString width} (spelled : SpelledName name 0) :
    name.length ≤ 64 := by
  obtain ⟨scalars, rfl, -, bound⟩ := spelled
  have units : (scalars.flatMap (scalarUnits width)).length ≤ (scalars.map utf16Length).sum := by
    induction scalars with
    | nil => exact le_rfl
    | cons cp rest ih =>
        rw [List.map_cons, List.sum_cons] at bound
        rw [List.flatMap_cons, List.length_append, List.map_cons, List.sum_cons]
        exact Nat.add_le_add (scalarUnits_length_le cp) (ih (by omega))
  omega

end WellFormed

end AxeVoice.Contacts
