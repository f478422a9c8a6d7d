import Mathlib.Data.List.Basic

/-!
# Delimited texts

Texts that are put together from parts without a delimiter: the delimiters alone
tell the parts apart, so that no part can pass for more than one of them.  Of a
text with two kinds of delimiters, the parts are the parts of its parts.
-/

namespace AxeVoice.Foundation

universe u

variable {α : Type u}

/-- The first occurrence of a delimiter ends the same part in equal texts. -/
theorem append_delimiter_inj {delimiter : α} {first second rest other : List α}
    (firstFree : delimiter ∉ first) (secondFree : delimiter ∉ second)
    (same : first ++ delimiter :: rest = second ++ delimiter :: other) :
    first = second ∧ rest = other := by
  induction first generalizing second with
  | nil =>
      cases second with
      | nil => exact ⟨rfl, (List.cons.inj same).2⟩
      | cons symbol symbols =>
          have head := (List.cons.inj same).1
          exact absurd (head ▸ List.mem_cons_self) secondFree
  | cons symbol symbols ih =>
      cases second with
      | nil =>
          have head := (List.cons.inj same).1
          exact absurd (head ▸ List.mem_cons_self) firstFree
      | cons head tail =>
          obtain ⟨rfl, behind⟩ := List.cons.inj same
          obtain ⟨rfl, rest_⟩ := ih (fun member => firstFree (List.mem_cons_of_mem _ member))
            (fun member => secondFree (List.mem_cons_of_mem _ member)) behind
          exact ⟨rfl, rest_⟩

/-- The lines of a text, each with the delimiter behind it. -/
def terminated (delimiter : α) (lines : List (List α)) : List α :=
  lines.flatMap fun line => line ++ [delimiter]

@[simp] theorem terminated_nil (delimiter : α) : terminated delimiter [] = [] := rfl

@[simp] theorem terminated_cons (delimiter : α) (line : List α) (lines : List (List α)) :
    terminated delimiter (line :: lines) = line ++ delimiter :: terminated delimiter lines := by
  simp [terminated]

@[simp] theorem terminated_append (delimiter : α) (first second : List (List α)) :
    terminated delimiter (first ++ second) =
      terminated delimiter first ++ terminated delimiter second :=
  List.flatMap_append

/-- A part of a text, from one delimiter or the beginning to the next one or the end. -/
structure PartOf (delimits : α → Prop) (text front part rest : List α) : Prop where
  whole : text = front ++ part ++ rest
  free : ∀ symbol ∈ part, ¬ delimits symbol
  opens : front = [] ∨ ∃ before symbol, front = before ++ [symbol] ∧ delimits symbol
  closes : rest = [] ∨ ∃ symbol behind, rest = symbol :: behind ∧ delimits symbol

variable {delimits coarse fine : α → Prop}

/-- What stands behind the last delimiter. -/
theorem exists_last_part (delimits : α → Prop) (text : List α) :
    ∃ front part, text = front ++ part ∧ (∀ symbol ∈ part, ¬ delimits symbol) ∧
      (front = [] ∨ ∃ before symbol, front = before ++ [symbol] ∧ delimits symbol) := by
  induction text with
  | nil => exact ⟨[], [], rfl, fun symbol member => absurd member List.not_mem_nil, .inl rfl⟩
  | cons head tail ih =>
      obtain ⟨front, part, rfl, free, opens⟩ := ih
      rcases opens with rfl | ⟨before, symbol, rfl, last⟩
      · by_cases ends : delimits head
        · exact ⟨[head], part, rfl, free, .inr ⟨[], head, rfl, ends⟩⟩
        · refine ⟨[], head :: part, rfl, ?_, .inl rfl⟩
          rw [List.forall_mem_cons]
          exact ⟨ends, free⟩
      · exact ⟨head :: before ++ [symbol], part, rfl, free, .inr ⟨head :: before, symbol, rfl, last⟩⟩

/-- What stands before the first delimiter. -/
theorem exists_first_part (delimits : α → Prop) (text : List α) :
    ∃ part rest, text = part ++ rest ∧ (∀ symbol ∈ part, ¬ delimits symbol) ∧
      (rest = [] ∨ ∃ symbol behind, rest = symbol :: behind ∧ delimits symbol) := by
  induction text with
  | nil => exact ⟨[], [], rfl, fun symbol member => absurd member List.not_mem_nil, .inl rfl⟩
  | cons head tail ih =>
      by_cases ends : delimits head
      · exact ⟨[], head :: tail, rfl, fun symbol member => absurd member List.not_mem_nil,
          .inr ⟨head, tail, rfl, ends⟩⟩
      · obtain ⟨part, rest, rfl, free, closes⟩ := ih
        refine ⟨head :: part, rest, rfl, ?_, closes⟩
        rw [List.forall_mem_cons]
        exact ⟨ends, free⟩

/-- The parts that both kinds of delimiters make lie within those that one kind makes. -/
theorem PartOf.nested {text front part rest : List α}
    (inner : PartOf (fun symbol => coarse symbol ∨ fine symbol) text front part rest) :
    ∃ before line behind first last, PartOf coarse text before line behind ∧
      PartOf fine line first part last := by
  obtain ⟨before, first, rfl, firstFree, opens⟩ := exists_last_part coarse front
  obtain ⟨last, behind, rfl, lastFree, closes⟩ := exists_first_part coarse rest
  refine ⟨before, first ++ part ++ last, behind, first, last, ⟨?_, ?_, opens, closes⟩,
    rfl, fun symbol member coarse_ => inner.free symbol member (.inr coarse_), ?_, ?_⟩
  · rw [inner.whole]
    simp only [List.append_assoc]
  · simp only [List.forall_mem_append]
    exact ⟨⟨firstFree, fun symbol member ends => inner.free symbol member (.inl ends)⟩, lastFree⟩
  · rcases List.eq_nil_or_concat' first with rfl | ⟨earlier, symbol, rfl⟩
    · exact .inl rfl
    · refine .inr ⟨earlier, symbol, rfl, ?_⟩
      have noCoarse := firstFree symbol (List.mem_append_right _ List.mem_cons_self)
      rcases inner.opens with nothing | ⟨earlier', symbol', same, ends⟩
      · simp at nothing
      · rw [← List.append_assoc] at same
        obtain ⟨-, last_⟩ := List.append_inj' same rfl
        obtain rfl := List.singleton_injective last_
        exact ends.resolve_left noCoarse
  · cases last with
    | nil => exact .inl rfl
    | cons symbol later =>
        refine .inr ⟨symbol, later, rfl, ?_⟩
        have noCoarse := lastFree symbol List.mem_cons_self
        rcases inner.closes with nothing | ⟨symbol', later', same, ends⟩
        · simp at nothing
        · obtain ⟨rfl, -⟩ := List.cons.inj same
          exact ends.resolve_left noCoarse

/-- A part of a part is one that both kinds of delimiters make. -/
theorem PartOf.within {text before line behind first part last : List α}
    (outer : PartOf coarse text before line behind) (inner : PartOf fine line first part last) :
    PartOf (fun symbol => coarse symbol ∨ fine symbol) text (before ++ first) part
      (last ++ behind) := by
  have lineFree := outer.free
  rw [inner.whole] at lineFree
  simp only [List.forall_mem_append] at lineFree
  refine ⟨?_, ?_, ?_, ?_⟩
  · rw [outer.whole, inner.whole]
    simp only [List.append_assoc]
  · intro symbol member ends
    exact ends.elim (lineFree.1.2 symbol member) (inner.free symbol member)
  · rcases inner.opens with rfl | ⟨earlier, symbol, rfl, ends⟩
    · rw [List.append_nil]
      exact outer.opens.imp_right fun ⟨earlier, symbol, same, ends⟩ =>
        ⟨earlier, symbol, same, .inl ends⟩
    · exact .inr ⟨before ++ earlier, symbol, by rw [List.append_assoc], .inr ends⟩
  · rcases inner.closes with rfl | ⟨symbol, later, rfl, ends⟩
    · exact outer.closes.imp_right fun ⟨symbol, later, same, ends⟩ =>
        ⟨symbol, later, same, .inl ends⟩
    · exact .inr ⟨symbol, later ++ behind, rfl, .inr ends⟩

variable [BEq α] [LawfulBEq α]

/-- Splitting at the delimiter gives the lines back, and the empty text behind the last one. -/
theorem splitOn_terminated {delimiter : α} {lines : List (List α)}
    (free : ∀ line ∈ lines, delimiter ∉ line) :
    (terminated delimiter lines).splitOn delimiter = lines ++ [[]] := by
  induction lines with
  | nil => rfl
  | cons line lines ih =>
      rw [terminated_cons, List.splitOn_append_cons_self,
        List.splitOn_eq_singleton (free line List.mem_cons_self),
        ih fun other member => free other (List.mem_cons_of_mem _ member)]
      rfl

theorem terminated_inj {delimiter : α} {first second : List (List α)}
    (firstFree : ∀ line ∈ first, delimiter ∉ line) (secondFree : ∀ line ∈ second, delimiter ∉ line)
    (same : terminated delimiter first = terminated delimiter second) : first = second := by
  have split := congrArg (List.splitOn delimiter) same
  rw [splitOn_terminated firstFree, splitOn_terminated secondFree] at split
  exact List.append_cancel_right split

end AxeVoice.Foundation
