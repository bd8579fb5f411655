/-
  StakeRelay.Proofs.Text.Blank — what trimming takes away.

  Trimming takes white space from both ends of a text and nothing else. What is left is the
  same for any white space around it, as long as it holds none itself.

  Main statements:
    * `exists_trimChars` — a text is what is left of it, with white space around;
    * `trimChars_blank_append` — white space around a text without any is taken away;
    * `trimChars_of_not_isBlank` — and a text without any stays as it is.
-/

import StakeRelay.Text.Blank

namespace StakeRelay.Text

/-- Nothing but white space. -/
def AllBlank (cs : List Char) : Prop := ∀ c ∈ cs, isBlank c = true

instance (cs : List Char) : Decidable (AllBlank cs) :=
  decidable_of_iff (cs.all isBlank = true) List.all_eq_true

theorem dropWhile_blank_append {blanks cs : List Char} (blank : AllBlank blanks) :
    (blanks ++ cs).dropWhile isBlank = cs.dropWhile isBlank :=
  List.dropWhile_append_of_pos blank

theorem allBlank_takeWhile (cs : List Char) : AllBlank (cs.takeWhile isBlank) :=
  List.all_eq_true.mp List.all_takeWhile

/-- What trimming leaves stands in the text between white space. -/
theorem exists_trimChars (cs : List Char) :
    ∃ before after, cs = before ++ trimChars cs ++ after ∧ AllBlank before ∧ AllBlank after := by
  have front : cs.takeWhile isBlank ++ cs.dropWhile isBlank = cs := List.takeWhile_append_dropWhile
  have back := List.takeWhile_append_dropWhile (p := isBlank) (l := (cs.dropWhile isBlank).reverse)
  have back := congrArg List.reverse back
  rw [List.reverse_append, List.reverse_reverse] at back
  refine ⟨cs.takeWhile isBlank, ((cs.dropWhile isBlank).reverse.takeWhile isBlank).reverse, ?_,
    allBlank_takeWhile cs, fun c member => ?_⟩
  · unfold trimChars
    rw [List.append_assoc, back, front]
  · exact allBlank_takeWhile _ c (List.mem_reverse.mp member)

theorem dropWhile_solid {cs : List Char} (solid : ∀ c ∈ cs, isBlank c = false) :
    cs.dropWhile isBlank = cs := by
  cases cs with
  | nil => rfl
  | cons c cs => rw [List.dropWhile_cons, solid c List.mem_cons_self]; rfl

theorem trimChars_blank_append {before core after : List Char} (first : AllBlank before)
    (last : AllBlank after) (solid : ∀ c ∈ core, isBlank c = false) :
    trimChars (before ++ core ++ after) = core := by
  unfold trimChars
  rw [List.append_assoc, dropWhile_blank_append first]
  cases core with
  | nil =>
    rw [List.nil_append, ← List.append_nil after, dropWhile_blank_append last]
    rfl
  | cons d core =>
    have kept : (d :: core ++ after).dropWhile isBlank = d :: core ++ after := by
      rw [List.cons_append, List.dropWhile_cons, solid d List.mem_cons_self]
      rfl
    have blank : AllBlank after.reverse := fun c member => last c (List.mem_reverse.mp member)
    have solid : ∀ c ∈ (d :: core).reverse, isBlank c = false := fun c member =>
      solid c (List.mem_reverse.mp member)
    rw [kept, List.reverse_append, dropWhile_blank_append blank, dropWhile_solid solid,
      List.reverse_reverse]

theorem trimChars_of_not_isBlank {cs : List Char} (solid : ∀ c ∈ cs, isBlank c = false) :
    trimChars cs = cs := by
  have trimmed : trimChars ([] ++ cs ++ []) = cs := trimChars_blank_append nofun nofun solid
  rwa [List.nil_append, List.append_nil] at trimmed

end StakeRelay.Text
