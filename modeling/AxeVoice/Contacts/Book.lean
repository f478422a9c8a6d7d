import Mathlib.Logic.Function.Basic
import AxeVoice.Foundation.Reactive
import AxeVoice.Foundation.Unicode
import AxeVoice.Sip.Address

/-!
# The contact book

The drafts that the validator admits, and the book with its operations.  The
classes of the C locale are a parameter, as they are for the destinations.
-/

namespace AxeVoice.Contacts

open AxeVoice.Foundation
open AxeVoice.Sip

structure ContactDraft (width : WCharWidth) where
  name : WString width
  destination : WString width
  favorite : Bool := false
  deriving DecidableEq

structure Contact (width : WCharWidth) where
  id : UInt64
  name : WString width
  destination : WString width
  favorite : Bool := false
  deriving DecidableEq

inductive ContactResult where
  | ok
  | invalid
  | duplicate
  | full
  | notFound
  | error
  deriving DecidableEq, Repr

variable {width : WCharWidth}

/-- Controls, directional marks and other code points without a picture. -/
def forbiddenInName (cp : Nat) : Bool :=
  cp < 0x20 || (0x7f ≤ cp && cp ≤ 0x9f) || cp = 0x061c || (0x200b ≤ cp && cp ≤ 0x200f) ||
    (0x2028 ≤ cp && cp ≤ 0x202e) || (0x2060 ≤ cp && cp ≤ 0x206f) || cp = 0xfeff

def invisibleInName (cp : Nat) : Bool :=
  cp = 0x20 || cp = 0xa0 || cp = 0x1680 || (0x2000 ≤ cp && cp ≤ 0x200a) || cp = 0x202f ||
    cp = 0x205f || cp = 0x3000

/-- What the loop over a name has seen: the UTF-16 units, and whether one code point shows. -/
structure NameSeen where
  units : Nat := 0
  visible : Bool := false

/-- The checks of the loop on one code point. -/
def admitInName (cp : Nat) (seen : NameSeen) : Option NameSeen :=
  let units := seen.units + utf16Length cp
  if units > 64 || forbiddenInName cp then none
  else some ⟨units, seen.visible || !invisibleInName cp⟩

/-- A unit that may stand without a partner: the tests that depend on the width of `wchar_t`. -/
def standsAlone (unit : WChar width) : Bool :=
  match width with
  | .utf16 => !isLowSurrogate unit.toNat
  | .utf32 => !(unit.toNat > 0x10ffff || (0xd800 ≤ unit.toNat && unit.toNat ≤ 0xdfff))

def admitPair (unit low : WChar width) (seen : NameSeen) : Option NameSeen :=
  if !isLowSurrogate low.toNat then none
  else admitInName (joinSurrogates unit.toNat low.toNat) seen

def admitUnit (unit : WChar width) (seen : NameSeen) : Option NameSeen :=
  if !standsAlone unit then none else admitInName unit.toNat seen

/-- The loop over the units of a name. -/
def validNameFrom : WString width → NameSeen → Bool
  | [], seen => seen.visible
  | [unit], seen =>
      if beginsPair unit then false
      else
        match admitUnit unit seen with
        | none => false
        | some seen => seen.visible
  | unit :: low :: rest, seen =>
      if beginsPair unit then
        match admitPair unit low seen with
        | none => false
        | some seen => validNameFrom rest seen
      else
        match admitUnit unit seen with
        | none => false
        | some seen => validNameFrom (low :: rest) seen

def validName (name : WString width) : Bool :=
  if name.isEmpty then false else validNameFrom name {}

/-- The characters before the `@` of a destination. -/
def contactUserUnit (unit : WChar width) : Bool :=
  unit.within 'a' 'z' || unit.within 'A' 'Z' || unit.within '0' '9' || unit = wide width '_' ||
    unit = wide width '.' || unit = wide width '-' || unit = wide width '+' ||
    unit = wide width '*' || unit = wide width '#'

/-- Where the user begins: behind an explicit scheme. -/
def schemeLength (destination : WString width) : Nat :=
  if destination.startsWith "sips:" then 5
  else if destination.startsWith "sip:" then 4
  else 0

/-- The loop over the destination's characters: none is a blank, a control or outside ASCII. -/
def printableUnit (unit : WChar width) : Bool := !(unit.toNat ≤ 32 || unit.toNat ≥ 127)

def validDraft (ctype : WideCtype width) (draft : ContactDraft width) : Bool :=
  if !validName draft.name || draft.destination.isEmpty || draft.destination.length > 128 then false
  else if !draft.destination.all printableUnit then false
  else if !(validateAddress ctype draft.destination).valid then false
  else
    match draft.destination.find '@' with
    | none => true
    | some position =>
        ((draft.destination.take position).drop (schemeLength draft.destination)).all
          contactUserUnit

structure ContactBook (width : WCharWidth) where
  items : List (Contact width) := []
  nextId : UInt64 := 1

def ContactDraft.toContact (draft : ContactDraft width) (id : UInt64) : Contact width :=
  ⟨id, draft.name, draft.destination, draft.favorite⟩

def Contact.draft (contact : Contact width) : ContactDraft width :=
  ⟨contact.name, contact.destination, contact.favorite⟩

namespace ContactBook

def capacity : Nat := 500

def find (book : ContactBook width) (id : UInt64) : Option (Contact width) :=
  book.items.find? fun contact => contact.id = id

/-- An identity of zero marks that all were issued; none is issued twice. -/
def add (ctype : WideCtype width) (book : ContactBook width) (draft : ContactDraft width) :
    ContactResult × ContactBook width :=
  if !validDraft ctype draft then (.invalid, book)
  else if book.items.any fun contact => contact.destination = draft.destination then
    (.duplicate, book)
  else if book.items.length ≥ capacity then (.full, book)
  else if book.nextId = 0 then (.error, book)
  else
    (.ok, { items := book.items ++ [draft.toContact book.nextId], nextId := book.nextId + 1 })

/-- The contacts with the first one of this identity replaced. -/
def replaceFirst (id : UInt64) (change : Contact width → Contact width) :
    List (Contact width) → List (Contact width)
  | [] => []
  | contact :: rest =>
      if contact.id = id then change contact :: rest else contact :: replaceFirst id change rest

def update (ctype : WideCtype width) (book : ContactBook width) (id : UInt64)
    (draft : ContactDraft width) : ContactResult × ContactBook width :=
  if (book.find id).isNone then (.notFound, book)
  else if !validDraft ctype draft then (.invalid, book)
  else if book.items.any fun contact =>
      contact.id ≠ id && contact.destination = draft.destination then (.duplicate, book)
  else (.ok, { book with items := replaceFirst id (fun _ => draft.toContact id) book.items })

def remove (book : ContactBook width) (id : UInt64) : ContactResult × ContactBook width :=
  if (book.find id).isNone then (.notFound, book)
  else (.ok, { book with items := book.items.eraseP fun contact => contact.id = id })

def setFavorite (book : ContactBook width) (id : UInt64) (favorite : Bool) :
    ContactResult × ContactBook width :=
  if (book.find id).isNone then (.notFound, book)
  else
    let marked := fun contact : Contact width => { contact with favorite := favorite }
    (.ok, { book with items := replaceFirst id marked book.items })

end ContactBook

/-- What the validator admits into a name. -/
def NameScalar (cp : Nat) : Prop := IsScalar cp ∧ forbiddenInName cp = false

theorem admitInName_some {cp : Nat} {seen next : NameSeen}
    (admitted : admitInName cp seen = some next) :
    forbiddenInName cp = false ∧ next.units = seen.units + utf16Length cp ∧ next.units ≤ 64 := by
  unfold admitInName at admitted
  dsimp only at admitted
  split at admitted
  · cases admitted
  · next passed =>
      cases admitted
      simp only [Bool.or_eq_true, decide_eq_true_eq, not_or, Nat.not_lt, Bool.not_eq_true] at passed
      exact ⟨passed.2, rfl, passed.1⟩

/-- A scalar value that the loop has admitted, with the units that spell it. -/
structure AdmitsScalar (width : WCharWidth) (cp : Nat) (front : WString width)
    (seen next : NameSeen) : Prop where
  scalar : NameScalar cp
  units : scalarUnits width cp = front
  counted : next.units = seen.units + utf16Length cp
  bound : next.units ≤ 64

/-- A unit that neither begins a pair nor ends one is a scalar value. -/
theorem admitUnit_some {unit : WChar width} {seen next : NameSeen}
    (single : beginsPair unit = false) (admitted : admitUnit unit seen = some next) :
    ∃ cp, AdmitsScalar width cp [unit] seen next := by
  unfold admitUnit at admitted
  split at admitted
  · cases admitted
  next alone =>
  obtain ⟨allowed, counted, bound⟩ := admitInName_some admitted
  simp only [Bool.not_eq_true', Bool.not_eq_false] at alone
  refine ⟨unit.toNat, ⟨?_, allowed⟩, ?_, counted, bound⟩
  · cases width with
    | utf16 =>
        have small : unit.toNat < 2 ^ 16 := unit.isLt
        refine ⟨by omega, ?_, ?_⟩
        · simpa [beginsPair] using single
        · simpa [standsAlone] using alone
    | utf32 =>
        apply isScalar_iff.mpr
        simp only [standsAlone, Bool.not_eq_true', Bool.or_eq_false_iff, decide_eq_false_iff_not,
          Bool.and_eq_false_iff] at alone
        omega
  · apply scalarUnits_toNat
    rintro rfl
    have small : unit.toNat < 2 ^ 16 := unit.isLt
    omega

theorem admitPair_some {unit low : WChar width} {seen next : NameSeen}
    (pair : beginsPair unit = true) (admitted : admitPair unit low seen = some next) :
    ∃ cp, AdmitsScalar width cp [unit, low] seen next := by
  unfold admitPair at admitted
  split at admitted
  · cases admitted
  next paired =>
  simp only [Bool.not_eq_true', Bool.not_eq_false] at paired
  obtain ⟨allowed, counted, bound⟩ := admitInName_some admitted
  cases width with
  | utf32 => simp [beginsPair] at pair
  | utf16 =>
      obtain ⟨scalar, units, _⟩ := scalarUnits_join (by simpa [beginsPair] using pair) paired
      exact ⟨_, ⟨scalar, allowed⟩, units, counted, bound⟩

/-- The text spells scalar values that a name may hold, within the limit of its units. -/
def SpelledName (text : WString width) (units : Nat) : Prop :=
  ∃ scalars : List Nat, text = scalars.flatMap (scalarUnits width) ∧
    (∀ cp ∈ scalars, NameScalar cp) ∧ units + (scalars.map utf16Length).sum ≤ 64

theorem SpelledName.nil {seen : NameSeen} (bound : seen.units ≤ 64) :
    SpelledName ([] : WString width) seen.units :=
  ⟨[], rfl, by simp, by simpa using bound⟩

theorem SpelledName.cons {cp : Nat} {seen next : NameSeen} {front rest : WString width}
    (admits : AdmitsScalar width cp front seen next) (spelled : SpelledName rest next.units) :
    SpelledName (front ++ rest) seen.units := by
  obtain ⟨scalars, rfl, names, bound⟩ := spelled
  refine ⟨cp :: scalars, ?_, ?_, ?_⟩
  · rw [List.flatMap_cons, admits.units]
  · intro later member
    rcases List.mem_cons.mp member with rfl | older
    · exact admits.scalar
    · exact names later older
  · rw [List.map_cons, List.sum_cons, ← Nat.add_assoc, ← admits.counted]
    exact bound

/-- A name that passes the loop spells scalar values within the limit. -/
theorem spelledName_of_validNameFrom (text : WString width) (seen : NameSeen)
    (start : seen.units ≤ 64) (valid : validNameFrom text seen = true) :
    SpelledName text seen.units := by
  -- along the recursion of the loop: the end, a last unit, a pair, a unit before others
  induction text, seen using validNameFrom.induct with
  | case1 seen => exact .nil start
  | case2 unit seen pair =>
      rw [validNameFrom, if_pos pair] at valid
      cases valid
  | case3 unit seen single refused =>
      rw [validNameFrom, if_neg single, refused] at valid
      cases valid
  | case4 unit seen single next admitted =>
      obtain ⟨cp, admits⟩ := admitUnit_some (by simpa using single) admitted
      exact .cons admits (.nil admits.bound)
  | case5 unit low rest seen pair refused =>
      rw [validNameFrom, if_pos pair, refused] at valid
      cases valid
  | case6 unit low rest seen pair next admitted ih =>
      rw [validNameFrom, if_pos pair, admitted] at valid
      obtain ⟨cp, admits⟩ := admitPair_some pair admitted
      exact .cons admits (ih admits.bound valid)
  | case7 unit low rest seen single refused =>
      rw [validNameFrom, if_neg single, refused] at valid
      cases valid
  | case8 unit low rest seen single next admitted ih =>
      rw [validNameFrom, if_neg single, admitted] at valid
      obtain ⟨cp, admits⟩ := admitUnit_some (by simpa using single) admitted
      exact .cons admits (ih admits.bound valid)

theorem spelledName_of_validName {name : WString width} (valid : validName name = true) :
    SpelledName name 0 := by
  unfold validName at valid
  split at valid
  · cases valid
  · exact spelledName_of_validNameFrom name {} (Nat.zero_le _) valid

/-- Neither a quote nor a backslash. -/
def plainUnit (unit : WChar width) : Prop := unit ≠ wide width '"' ∧ unit ≠ wide width '\\'

theorem plain_of_validateSchemeless {ctype : WideCtype width} {input value : WString width}
    (valid : (validateSchemeless ctype input value).valid = true) :
    ∀ unit ∈ value, plainUnit unit := by
  unfold validateSchemeless at valid
  split at valid
  · cases valid
  split at valid
  · cases valid
  next free =>
  intro unit member
  simp only [WString.findFirstOf, List.any_eq_true, not_exists, not_and] at free
  constructor
  · rintro rfl
    exact free _ member '"' (by decide) (beq_self_eq_true _)
  · rintro rfl
    exact free _ member '\\' (by decide) (beq_self_eq_true _)

theorem wide_ne {first second : Char} (small : first.toNat < 128 ∧ second.toNat < 128)
    (apart : first.toNat ≠ second.toNat) : wide width first ≠ wide width second := by
  intro same
  have values := congrArg BitVec.toNat same
  have bits : 2 ^ 7 ≤ 2 ^ width.bits := by cases width <;> decide
  rw [wide, wide, toNat_unit (by omega), toNat_unit (by omega)] at values
  exact apart values

theorem plain_of_scheme {scheme : WString width}
    (known : scheme = wideText width "sip" ∨ scheme = wideText width "sips") :
    ∀ unit ∈ scheme, plainUnit unit := by
  have apart : ∀ letter ∈ "sips".toList, letter.toNat < 128 ∧ letter.toNat ≠ '"'.toNat ∧
      letter.toNat ≠ '\\'.toNat := by simp
  have letters : ∀ unit ∈ wideText width "sips", plainUnit unit := by
    intro unit member
    obtain ⟨letter, found, rfl⟩ := List.mem_map.mp member
    obtain ⟨small, noQuote, noBackslash⟩ := apart letter found
    exact ⟨wide_ne ⟨small, by decide⟩ noQuote, wide_ne ⟨small, by decide⟩ noBackslash⟩
  rcases known with rfl | rfl
  · intro unit member
    apply letters
    exact List.mem_of_mem_take (i := 3) member
  · exact letters

theorem plain_of_validateAddress {ctype : WideCtype width} {input : WString width}
    (valid : (validateAddress ctype input).valid = true) : ∀ unit ∈ input, plainUnit unit := by
  unfold validateAddress at valid
  split at valid
  · cases valid
  split at valid
  · cases valid
  split at valid
  · exact plain_of_validateSchemeless valid
  next colon found =>
  dsimp only at valid
  split at valid
  · cases valid
  next scheme =>
  simp only [Bool.and_eq_true, decide_eq_true_eq, not_and_or, not_not, ne_eq] at scheme
  obtain ⟨_, around, _⟩ := WString.find_some found
  intro unit member
  rw [around, List.mem_append, List.mem_cons] at member
  rcases member with before | rfl | behind
  · exact plain_of_scheme scheme unit before
  · exact ⟨wide_ne (by decide) (by decide), wide_ne (by decide) (by decide)⟩
  · exact plain_of_validateSchemeless valid unit behind

/-- What a destination that the validator admits is made of. -/
structure SpelledDestination (destination : WString width) : Prop where
  length : destination.length ≤ 128
  printable : ∀ unit ∈ destination, printableUnit unit = true
  plain : ∀ unit ∈ destination, plainUnit unit

theorem spelled_of_validDraft {ctype : WideCtype width} {draft : ContactDraft width}
    (valid : validDraft ctype draft = true) :
    SpelledName draft.name 0 ∧ SpelledDestination draft.destination := by
  unfold validDraft at valid
  split at valid
  · cases valid
  next first =>
  split at valid
  · cases valid
  next printable =>
  split at valid
  · cases valid
  next address =>
  simp only [Bool.or_eq_true, Bool.not_eq_true', not_or, Bool.not_eq_false, decide_eq_true_eq,
    Nat.not_lt, List.all_eq_true] at first printable address
  exact ⟨spelledName_of_validName first.1.1,
    first.2, printable, plain_of_validateAddress address⟩

/-! ## What holds of every book -/

namespace ContactBook

variable {ctype : WideCtype width} {book : ContactBook width}

/-- The contacts are valid, within the capacity, and told apart by their identities and by their
destinations. -/
structure WellFormed (ctype : WideCtype width) (book : ContactBook width) : Prop where
  capacity : book.items.length ≤ capacity
  valid : ∀ contact ∈ book.items, validDraft ctype contact.draft = true
  distinct : book.items.Pairwise fun older newer =>
    older.id < newer.id ∧ older.destination ≠ newer.destination
  issued : ∀ contact ∈ book.items, contact.id ≠ 0 ∧ (book.nextId ≠ 0 → contact.id < book.nextId)

theorem wellFormed_empty : WellFormed ctype {} :=
  ⟨Nat.zero_le _, nofun, List.Pairwise.nil, nofun⟩

/-- Identities tell the contacts apart. -/
theorem WellFormed.eq_of_id (wellFormed : book.WellFormed ctype) {first second : Contact width}
    (firstIn : first ∈ book.items) (secondIn : second ∈ book.items) (same : first.id = second.id) :
    first = second := by
  refine List.Pairwise.forall_of_forall_of_flip
    (R := fun first second => first.id = second.id → first = second) ?_ ?_ ?_ firstIn secondIn same
  · exact fun _ _ _ => rfl
  · exact wellFormed.distinct.imp fun apart same => absurd (same ▸ apart.1) (UInt64.lt_irrefl _)
  · exact wellFormed.distinct.imp fun apart same => absurd (same ▸ apart.1) (UInt64.lt_irrefl _)

/-- Contacts with different identities have different destinations. -/
theorem WellFormed.destination_ne (wellFormed : book.WellFormed ctype) {first second : Contact width}
    (firstIn : first ∈ book.items) (secondIn : second ∈ book.items) (apart : first.id ≠ second.id) :
    first.destination ≠ second.destination := by
  refine List.Pairwise.forall_of_forall_of_flip
    (R := fun first second => first.id ≠ second.id → first.destination ≠ second.destination)
    ?_ ?_ ?_ firstIn secondIn apart
  · exact fun _ _ different => absurd rfl different
  · exact wellFormed.distinct.imp fun distinct _ => distinct.2
  · exact wellFormed.distinct.imp fun distinct _ => distinct.2.symm

theorem find_none {id : UInt64} : book.find id = none ↔ ∀ contact ∈ book.items, contact.id ≠ id := by
  simp [find]

theorem find_mem {id : UInt64} {contact : Contact width} (found : book.find id = some contact) :
    contact ∈ book.items ∧ contact.id = id :=
  ⟨List.mem_of_find?_eq_some found, by simpa using List.find?_some found⟩

/-- Where identities are distinct, the first contact of an identity is the only one. -/
theorem replaceFirst_eq_map {id : UInt64} {change : Contact width → Contact width} :
    ∀ {items : List (Contact width)}, items.Pairwise (fun older newer => older.id ≠ newer.id) →
      replaceFirst id change items =
        items.map fun contact => if contact.id = id then change contact else contact
  | [], _ => rfl
  | contact :: rest, distinct => by
      obtain ⟨apart, later⟩ := List.pairwise_cons.mp distinct
      rw [replaceFirst, List.map_cons]
      split
      · next same =>
          have kept : ∀ other ∈ rest, (if other.id = id then change other else other) = other :=
            fun other member => if_neg fun equal => apart other member (same.trans equal.symm)
          rw [List.map_congr_left kept, List.map_id']
      · rw [replaceFirst_eq_map later]

theorem WellFormed.replaceFirst (wellFormed : book.WellFormed ctype) (id : UInt64)
    (change : Contact width → Contact width) :
    replaceFirst id change book.items =
      book.items.map fun contact => if contact.id = id then change contact else contact :=
  replaceFirst_eq_map <| wellFormed.distinct.imp fun apart same =>
    absurd (same ▸ apart.1) (UInt64.lt_irrefl _)

/-- A change of one contact that keeps its identity, is valid, and takes no other's destination. -/
theorem WellFormed.changed (wellFormed : book.WellFormed ctype) {id : UInt64}
    {change : Contact width → Contact width} (identity : ∀ contact, contact.id = id →
      (change contact).id = id)
    (valid : ∀ contact ∈ book.items, contact.id = id →
      validDraft ctype (change contact).draft = true)
    (free : ∀ contact ∈ book.items, ∀ other ∈ book.items, contact.id = id → other.id ≠ id →
      (change contact).destination ≠ other.destination) :
    WellFormed ctype { book with items := ContactBook.replaceFirst id change book.items } := by
  rw [wellFormed.replaceFirst]
  have kept (contact : Contact width) :
      (if contact.id = id then change contact else contact).id = contact.id := by
    split
    · next same => rw [identity contact same, same]
    · rfl
  constructor
  · simpa using wellFormed.capacity
  · intro contact member
    obtain ⟨before, found, rfl⟩ := List.mem_map.mp member
    split
    · next same => exact valid before found same
    · exact wellFormed.valid before found
  · rw [List.pairwise_map]
    refine wellFormed.distinct.imp_of_mem fun {older newer} olderIn newerIn apart => ?_
    refine ⟨by rw [kept, kept]; exact apart.1, ?_⟩
    split
    · next same =>
        have other : newer.id ≠ id := fun equal =>
          absurd (same.trans equal.symm ▸ apart.1) (UInt64.lt_irrefl _)
        rw [if_neg other]
        exact free older olderIn newer newerIn same other
    · next other =>
        split
        · next same => exact (free newer newerIn older olderIn same other).symm
        · exact apart.2
  · intro contact member
    obtain ⟨before, found, rfl⟩ := List.mem_map.mp member
    rw [kept]
    exact wellFormed.issued before found

theorem WellFormed.add (wellFormed : book.WellFormed ctype) (draft : ContactDraft width) :
    (book.add ctype draft).2.WellFormed ctype := by
  unfold ContactBook.add
  split
  · exact wellFormed
  next valid =>
  split
  · exact wellFormed
  next free =>
  split
  · exact wellFormed
  next room =>
  split
  · exact wellFormed
  next issuable =>
  simp only [Bool.not_eq_true', Bool.not_eq_false, List.any_eq_true, decide_eq_true_eq, not_exists,
    not_and, ge_iff_le, Nat.not_le] at valid free room
  constructor
  · simpa using Nat.succ_le_of_lt room
  · intro contact member
    rcases List.mem_append.mp member with older | newest
    · exact wellFormed.valid contact older
    · rw [List.mem_singleton.mp newest]
      exact valid
  · refine List.pairwise_append.mpr ⟨wellFormed.distinct, List.pairwise_singleton _ _, ?_⟩
    intro older found newest added
    rw [List.mem_singleton.mp added]
    exact ⟨(wellFormed.issued older found).2 issuable, free older found⟩
  · have next : book.nextId + 1 ≠ 0 → book.nextId < book.nextId + 1 := by grind
    intro contact member
    rcases List.mem_append.mp member with older | newest
    · obtain ⟨nonzero, below⟩ := wellFormed.issued contact older
      exact ⟨nonzero, fun more => UInt64.lt_trans (below issuable) (next more)⟩
    · rw [List.mem_singleton.mp newest]
      exact ⟨issuable, next⟩

theorem WellFormed.update (wellFormed : book.WellFormed ctype) (id : UInt64)
    (draft : ContactDraft width) : (book.update ctype id draft).2.WellFormed ctype := by
  unfold ContactBook.update
  split
  · exact wellFormed
  split
  · exact wellFormed
  next valid =>
  split
  · exact wellFormed
  next free =>
  simp only [Bool.not_eq_true', Bool.not_eq_false, List.any_eq_true, Bool.and_eq_true,
    decide_eq_true_eq, ne_eq, not_exists, not_and] at valid free
  apply wellFormed.changed
  · exact fun _ _ => rfl
  · exact fun _ _ _ => valid
  · exact fun _ _ other found _ apart equal => free other found apart equal.symm

theorem WellFormed.remove (wellFormed : book.WellFormed ctype) (id : UInt64) :
    (book.remove id).2.WellFormed ctype := by
  unfold ContactBook.remove
  split
  · exact wellFormed
  have fewer : (book.items.eraseP fun contact => contact.id = id).Sublist book.items :=
    List.eraseP_sublist
  exact ⟨Nat.le_trans fewer.length_le wellFormed.capacity,
    fun contact member => wellFormed.valid contact (fewer.subset member),
    wellFormed.distinct.sublist fewer,
    fun contact member => wellFormed.issued contact (fewer.subset member)⟩

theorem WellFormed.setFavorite (wellFormed : book.WellFormed ctype) (id : UInt64)
    (favorite : Bool) : (book.setFavorite id favorite).2.WellFormed ctype := by
  unfold ContactBook.setFavorite
  split
  · exact wellFormed
  apply wellFormed.changed
  · exact fun _ same => same
  · exact fun contact found _ => (wellFormed.valid contact found :)
  · intro contact found other otherIn same apart
    have different : contact.id ≠ other.id := fun equal => apart (equal.symm.trans same)
    exact (wellFormed.destination_ne found otherIn different :)

/-- What a successful `add` does to the book. -/
theorem add_of_ok {draft : ContactDraft width} (succeeded : (book.add ctype draft).1 = .ok) :
    book.nextId ≠ 0 ∧ (book.add ctype draft).2 =
      { items := book.items ++ [draft.toContact book.nextId], nextId := book.nextId + 1 } := by
  rw [add] at succeeded ⊢
  split at succeeded
  · cases succeeded
  next valid =>
  split at succeeded
  · cases succeeded
  next free =>
  split at succeeded
  · cases succeeded
  next room =>
  split at succeeded
  · cases succeeded
  next issuable =>
  rw [if_neg valid, if_neg free, if_neg room, if_neg issuable]
  exact ⟨issuable, rfl⟩

end ContactBook

/-- An operation on one of several books, or the exchange of two. -/
inductive BookCall (width : WCharWidth) where
  | add (book : Nat) (draft : ContactDraft width)
  | update (book : Nat) (id : UInt64) (draft : ContactDraft width)
  | remove (book : Nat) (id : UInt64)
  | setFavorite (book : Nat) (id : UInt64) (favorite : Bool)
  | swap (first second : Nat)

abbrev Books (width : WCharWidth) := Nat → ContactBook width

/-- The answer of an operation on one book, and the books after it. -/
def Books.answered (books : Books width) (book : Nat)
    (answer : ContactResult × ContactBook width) : ContactResult × Books width :=
  (answer.1, Function.update books book answer.2)

def bookStep (ctype : WideCtype width) (books : Books width) :
    BookCall width → ContactResult × Books width
  | .add book draft => books.answered book ((books book).add ctype draft)
  | .update book id draft => books.answered book ((books book).update ctype id draft)
  | .remove book id => books.answered book ((books book).remove id)
  | .setFavorite book id favorite => books.answered book ((books book).setFavorite id favorite)
  | .swap first second =>
      (.ok, Function.update (Function.update books first (books second)) second (books first))

theorem bookStep_wellFormed {ctype : WideCtype width} {books : Books width}
    (wellFormed : ∀ book, (books book).WellFormed ctype) (call : BookCall width) :
    ∀ book, ((bookStep ctype books call).2 book).WellFormed ctype := by
  have replaced (books : Books width) (known : ∀ book, (books book).WellFormed ctype) (book : Nat)
      {after : ContactBook width} (next : after.WellFormed ctype) :
      ∀ other, (Function.update books book after other).WellFormed ctype :=
    (Function.forall_update_iff _ fun _ (book : ContactBook width) => book.WellFormed ctype).mpr
      ⟨next, fun other _ => known other⟩
  cases call with
  | add book draft => exact replaced books wellFormed book ((wellFormed book).add draft)
  | update book id draft => exact replaced books wellFormed book ((wellFormed book).update id draft)
  | remove book id => exact replaced books wellFormed book ((wellFormed book).remove id)
  | setFavorite book id favorite =>
      exact replaced books wellFormed book ((wellFormed book).setFavorite id favorite)
  | swap first second =>
      exact replaced _ (replaced books wellFormed first (wellFormed second)) second (wellFormed first)

/-- Every book that operations make of empty ones is well-formed. -/
theorem reachable_wellFormed (ctype : WideCtype width) (calls : List (BookCall width)) (book : Nat) :
    (finalState (bookStep ctype) (fun _ => {}) calls book).WellFormed ctype := by
  have initial : ∀ _ : Nat, ContactBook.WellFormed ctype {} := fun _ =>
    ContactBook.wellFormed_empty
  have invariant := finalState_invariant (fun (books : Books width) call
    (known : ∀ book, (books book).WellFormed ctype) => bookStep_wellFormed known call) initial calls
  exact invariant book

end AxeVoice.Contacts
