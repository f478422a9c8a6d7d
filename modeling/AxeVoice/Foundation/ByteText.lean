import AxeVoice.Foundation.Unicode
import Mathlib.Data.List.Infix

/-!
# Texts of bytes

Searching a text for a pattern, as `std::string::find` does, and splitting it
into the lines that CRLF separates.  A pattern found in the front of a text is
found there whatever follows.
-/

namespace AxeVoice.Foundation

/-- The byte of an ASCII character. -/
def asciiByte (character : Char) : UInt8 := UInt8.ofNat character.toNat

theorem asciiByte_toNat {c : Char} (small : c.toNat < 0x80) : (asciiByte c).toNat = c.toNat := by
  rw [asciiByte, UInt8.toNat_ofNat']
  omega

/-- The position of the first occurrence of a pattern. -/
def Bytes.find : Bytes → Bytes → Option ℕ
  | [], pattern => if pattern.isEmpty then some 0 else none
  | byte :: rest, pattern =>
      if pattern.isPrefixOf (byte :: rest) then some 0
      else (Bytes.find rest pattern).map (· + 1)

/-- The text begins with a pattern and ends with another, with something in between. -/
def Bytes.brackets (text opening closing : Bytes) : Bool :=
  opening.isPrefixOf text && text.length > opening.length + closing.length &&
    closing.isSuffixOf text

/-- What stands between a pattern at the beginning and another at the end. -/
def Bytes.between (text opening closing : Bytes) : Bytes :=
  (text.drop opening.length).take (text.length - opening.length - closing.length)

/-- A position at which a pattern occurs, the first one. -/
structure FirstAt (text pattern : Bytes) (position : ℕ) : Prop where
  occurs : pattern <+: text.drop position
  inside : position ≤ text.length
  first : ∀ earlier < position, ¬ pattern <+: text.drop earlier

theorem Bytes.find_some {text pattern : Bytes} {position : ℕ}
    (found : text.find pattern = some position) : FirstAt text pattern position := by
  induction text generalizing position with
  | nil =>
      unfold Bytes.find at found
      split at found
      · next empty =>
          cases found
          have none_ := List.isEmpty_iff.mp empty
          subst none_
          exact ⟨List.nil_prefix, Nat.le_refl _, fun earlier before => absurd before (by omega)⟩
      · cases found
  | cons byte rest ih =>
      unfold Bytes.find at found
      split at found
      · next here =>
          cases found
          exact ⟨List.isPrefixOf_iff_prefix.mp here, Nat.zero_le _,
            fun earlier before => absurd before (by omega)⟩
      · next elsewhere =>
          obtain ⟨later, later_found, rfl⟩ := Option.map_eq_some_iff.mp found
          have below := ih later_found
          constructor
          · exact below.occurs
          · exact Nat.succ_le_succ below.inside
          · intro earlier before
            cases earlier with
            | zero => exact fun here => elsewhere (List.isPrefixOf_iff_prefix.mpr here)
            | succ earlier => exact below.first earlier (Nat.lt_of_succ_lt_succ before)

theorem Bytes.find_none {text pattern : Bytes} (missing : text.find pattern = none) (position : ℕ)
    (inside : position ≤ text.length) : ¬ pattern <+: text.drop position := by
  induction text generalizing position with
  | nil =>
      unfold Bytes.find at missing
      split at missing
      · cases missing
      · next nonempty =>
          intro occurs
          rw [List.drop_nil] at occurs
          exact nonempty (List.isEmpty_iff.mpr (List.prefix_nil.mp occurs))
  | cons byte rest ih =>
      unfold Bytes.find at missing
      split at missing
      · cases missing
      · next elsewhere =>
          have below := Option.map_eq_none_iff.mp missing
          cases position with
          | zero => exact fun here => elsewhere (List.isPrefixOf_iff_prefix.mpr here)
          | succ position => exact ih below position (Nat.le_of_succ_le_succ inside)

/-- A pattern is found where it occurs at all. -/
theorem Bytes.find_isSome_iff {text pattern : Bytes} :
    (text.find pattern).isSome = true ↔ pattern <:+: text := by
  constructor
  · intro found
    obtain ⟨position, found⟩ := Option.isSome_iff_exists.mp found
    exact (Bytes.find_some found).occurs.isInfix.trans (List.drop_suffix position text).isInfix
  · rintro ⟨front, rest, rfl⟩
    cases found : Bytes.find (front ++ pattern ++ rest) pattern with
    | some position => rfl
    | none =>
        have here : pattern <+: (front ++ pattern ++ rest).drop front.length := by
          rw [List.append_assoc, List.drop_left]
          exact List.prefix_append pattern rest
        have inside : front.length ≤ (front ++ pattern ++ rest).length := by
          simp only [List.length_append]
          omega
        exact absurd here (Bytes.find_none found front.length inside)

theorem FirstAt.unique {text pattern : Bytes} {one other : ℕ} (first : FirstAt text pattern one)
    (second : FirstAt text pattern other) : one = other := by
  rcases Nat.lt_trichotomy one other with before | same | after
  · exact absurd first.occurs (second.first one before)
  · exact same
  · exact absurd second.occurs (first.first other after)

theorem Bytes.find_of_firstAt {text pattern : Bytes} {position : ℕ}
    (first : FirstAt text pattern position) : text.find pattern = some position := by
  cases found : text.find pattern with
  | none => exact absurd first.occurs (Bytes.find_none found position first.inside)
  | some other => rw [(Bytes.find_some found).unique first]

/-- An occurrence ends within the text. -/
theorem FirstAt.ends {text pattern : Bytes} {position : ℕ}
    (first : FirstAt text pattern position) : position + pattern.length ≤ text.length := by
  have length := first.occurs.length_le
  have inside := first.inside
  rw [List.length_drop] at length
  omega

/-- The text around the first occurrence of a pattern. -/
theorem FirstAt.split {text pattern : Bytes} {position : ℕ}
    (first : FirstAt text pattern position) :
    text = text.take position ++ (pattern ++ text.drop (position + pattern.length)) := by
  obtain ⟨rest, split⟩ := first.occurs
  have tail : rest = text.drop (position + pattern.length) := by
    rw [← List.drop_drop, ← split, List.drop_left]
  rw [← tail, split, List.take_append_drop]

/-- An occurrence that ends within the front of a text is one of the front. -/
theorem prefix_drop_append_iff {front rest pattern : Bytes} {position : ℕ}
    (ends : position + pattern.length ≤ front.length) :
    pattern <+: (front ++ rest).drop position ↔ pattern <+: front.drop position := by
  rw [List.drop_append_of_le_length (by omega)]
  constructor
  · intro occurs
    exact List.prefix_of_prefix_length_le occurs (List.prefix_append _ _)
      (by rw [List.length_drop]; omega)
  · intro occurs
    exact occurs.trans (List.prefix_append _ _)

theorem firstAt_append_iff {front rest pattern : Bytes} {position : ℕ}
    (ends : position + pattern.length ≤ front.length) :
    FirstAt (front ++ rest) pattern position ↔ FirstAt front pattern position := by
  constructor
  · rintro ⟨occurs, -, first⟩
    refine ⟨(prefix_drop_append_iff ends).mp occurs, by omega, fun earlier before found => ?_⟩
    exact first earlier before ((prefix_drop_append_iff (by omega)).mpr found)
  · rintro ⟨occurs, -, first⟩
    refine ⟨(prefix_drop_append_iff ends).mpr occurs, ?_, fun earlier before found => ?_⟩
    · rw [List.length_append]
      omega
    · exact first earlier before ((prefix_drop_append_iff (by omega)).mp found)

/-- A pattern found in the front of a text is found there whatever follows. -/
theorem Bytes.find_append {front pattern : Bytes} {position : ℕ} (rest : Bytes)
    (found : front.find pattern = some position) :
    Bytes.find (front ++ rest) pattern = some position := by
  have first := Bytes.find_some found
  exact Bytes.find_of_firstAt ((firstAt_append_iff first.ends).mpr first)

/-- A pattern that is not found in the front of a text ends behind the front. -/
theorem Bytes.find_append_behind {front rest pattern : Bytes} {position : ℕ}
    (missing : front.find pattern = none)
    (found : Bytes.find (front ++ rest) pattern = some position) :
    front.length < position + pattern.length := by
  by_contra within
  have first := (firstAt_append_iff (by omega)).mp (Bytes.find_some found)
  exact Bytes.find_none missing position first.inside first.occurs

theorem Bytes.brackets_iff {text opening closing : Bytes} :
    text.brackets opening closing = true ↔
      text.between opening closing ≠ [] ∧
        text = opening ++ (text.between opening closing ++ closing) := by
  unfold Bytes.brackets Bytes.between
  simp only [Bool.and_eq_true, decide_eq_true_eq, List.isPrefixOf_iff_prefix,
    List.isSuffixOf_iff_suffix]
  constructor
  · rintro ⟨⟨⟨rest, rfl⟩, long⟩, ends⟩
    rw [List.length_append] at long
    rw [List.drop_left, List.length_append]
    have suffix : closing <:+ rest :=
      List.suffix_of_suffix_length_le ends (List.suffix_append opening rest) (by omega)
    obtain ⟨middle, rfl⟩ := suffix
    rw [List.length_append] at long ⊢
    have size : opening.length + (middle.length + closing.length) - opening.length -
        closing.length = middle.length := by omega
    rw [size, List.take_left]
    refine ⟨fun empty => ?_, rfl⟩
    rw [empty, List.length_nil] at long
    omega
  · rintro ⟨nonempty, split⟩
    have middle := List.length_pos_iff.mpr nonempty
    have length := congrArg List.length split
    rw [List.length_append, List.length_append] at length
    have regrouped := split.trans (List.append_assoc _ _ _).symm
    exact ⟨⟨⟨_, split.symm⟩, by omega⟩, ⟨_, regrouped.symm⟩⟩

def crlf : Bytes := asciiBytes "\r\n"

theorem FirstAt.shortens {text : Bytes} {position : ℕ} (first : FirstAt text crlf position) :
    (text.drop (position + crlf.length)).length < text.length := by
  have ends := first.ends
  have long : 0 < crlf.length := by decide
  rw [List.length_drop]
  omega

/-- A text that does not end a line goes on behind every line it ends. -/
theorem FirstAt.more {text : Bytes} {position : ℕ} (first : FirstAt text crlf position)
    (unended : ¬ crlf <:+ text) : text.drop (position + crlf.length) ≠ [] := by
  intro empty
  have split := first.split
  rw [empty, List.append_nil] at split
  exact unended ⟨_, split.symm⟩

/-- The lines of a text that CRLF separates. -/
def lines (text : Bytes) : List Bytes :=
  match _found : text.find crlf with
  | none => [text]
  | some position => text.take position :: lines (text.drop (position + crlf.length))
termination_by text.length
decreasing_by exact (Bytes.find_some _found).shortens

theorem lines_none {text : Bytes} (missing : text.find crlf = none) : lines text = [text] := by
  rw [lines]
  split
  · rfl
  · next found => cases missing.symm.trans found

theorem lines_some {text : Bytes} {position : ℕ} (found : text.find crlf = some position) :
    lines text = text.take position :: lines (text.drop (position + crlf.length)) := by
  rw [lines]
  split
  · next missing => cases missing.symm.trans found
  · next other => cases other.symm.trans found; rfl

/-- No line is longer than the text. -/
theorem length_le_of_mem_lines {text line : Bytes} (member : line ∈ lines text) :
    line.length ≤ text.length := by
  induction text using lines.induct with
  | case1 text missing =>
      rw [lines_none missing] at member
      rw [List.mem_singleton.mp member]
  | case2 text position found ih =>
      rw [lines_some found] at member
      rcases List.mem_cons.mp member with rfl | later
      · exact List.length_take_le' _ _
      · exact Nat.le_trans (ih later) (Nat.le_of_lt (Bytes.find_some found).shortens)

end AxeVoice.Foundation
