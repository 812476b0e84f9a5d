import CertWire.Text.Blank
import CertWire.Text.Lines
import Mathlib.Data.List.Basic

/-! Text cut at its line breaks, and lines cut at their white space. A break of any kind parts what is
before it from what is after it, up to an empty line: a carriage return and the line feed that
follows it are one break, also where the one ends a text and the other begins the next. -/

namespace CertWire.Text

variable {before after line text word gap rest : List Char} {character : Char}

theorem isBlank_of_isLineBreak (breaks : isLineBreak character = true) : isBlank character = true := by
  simp only [isLineBreak, isBlank, isBlankPoint, Bool.or_eq_true, Bool.and_eq_true, decide_eq_true_eq, beq_iff_eq]
    at breaks ⊢
  omega

private theorem normalizeNewlines_cons (other : character ≠ '\r') (rest : List Char) :
    normalizeNewlines (character :: rest) = character :: normalizeNewlines rest :=
  normalizeNewlines.eq_4 character rest (fun _ same => absurd same other) other

private theorem normalizeNewlines_return (alone : rest.head? ≠ some '\n') :
    normalizeNewlines ('\r' :: rest) = '\n' :: normalizeNewlines rest := by
  apply normalizeNewlines.eq_3
  rintro others rfl
  exact alone rfl

theorem return_not_mem_normalizeNewlines (text : List Char) : '\r' ∉ normalizeNewlines text := by
  induction text using normalizeNewlines.induct with
  | case1 => exact List.not_mem_nil
  | case2 rest ih => exact List.not_mem_cons_of_ne_of_not_mem (by decide) ih
  | case3 rest alone ih =>
    rw [normalizeNewlines.eq_3 rest alone]
    exact List.not_mem_cons_of_ne_of_not_mem (by decide) ih
  | case4 character rest apart other ih =>
    rw [normalizeNewlines.eq_4 character rest apart other]
    exact List.not_mem_cons_of_ne_of_not_mem (fun same => other same.symm) ih

theorem normalizeNewlines_eq_self (clean : '\r' ∉ text) : normalizeNewlines text = text := by
  induction text with
  | nil => rfl
  | cons character rest ih =>
    obtain ⟨other, others⟩ := List.ne_and_not_mem_of_not_mem_cons clean
    rw [normalizeNewlines_cons other.symm, ih others]

/-- Texts are read apart, unless a carriage return ends the one and a line feed begins the other. -/
theorem normalizeNewlines_append (apart : before.getLast? ≠ some '\r' ∨ after.head? ≠ some '\n') :
    normalizeNewlines (before ++ after) = normalizeNewlines before ++ normalizeNewlines after := by
  have onward {first : Char} {rest : List Char}
      (apart : (first :: rest).getLast? ≠ some '\r' ∨ after.head? ≠ some '\n') :
      rest.getLast? ≠ some '\r' ∨ after.head? ≠ some '\n' := by
    refine apart.imp_left fun ends last => ends ?_
    rw [List.getLast?_cons, last]
    rfl
  induction before using normalizeNewlines.induct with
  | case1 => rfl
  | case2 rest ih => exact congrArg ('\n' :: ·) (ih (onward (onward apart)))
  | case3 rest alone ih =>
    have remains : (rest ++ after).head? ≠ some '\n' := by
      cases rest with
      | nil => exact apart.resolve_left (by simp)
      | cons first others =>
        rintro ⟨⟩
        exact alone others rfl
    rw [List.cons_append, normalizeNewlines_return remains, normalizeNewlines.eq_3 rest alone, ih (onward apart)]
    rfl
  | case4 character rest _ other ih =>
    rw [List.cons_append, normalizeNewlines_cons other, normalizeNewlines_cons other, ih (onward apart)]
    rfl

/-- What ends a line: one character, or a carriage return and a line feed. -/
inductive LineEnd : List Char → Prop
  | pair : LineEnd ['\r', '\n']
  | single {character : Char} (breaks : isLineBreak character = true) : LineEnd [character]

/-- Two texts and the line end between them, as they are read: a break is left that is no carriage return. One
more line feed may have been read at the end of the first text, or at the beginning of the second, if that
is all they have of a pair. -/
structure Parted (before lineEnd after left : List Char) (character : Char) (right : List Char) : Prop where
  breaks : isLineBreak character = true
  other : character ≠ '\r'
  whole : normalizeNewlines (before ++ lineEnd ++ after) = left ++ character :: right
  first : normalizeNewlines before = left ∨ normalizeNewlines before = left ++ ['\n']
  second : normalizeNewlines after = right ∨ normalizeNewlines after = '\n' :: right

private theorem parted_pair (before after : List Char) :
    Parted before ['\r', '\n'] after (normalizeNewlines before) '\n' (normalizeNewlines after) := by
  refine ⟨rfl, by decide, ?_, .inl rfl, .inl rfl⟩
  rw [List.append_assoc]
  exact normalizeNewlines_append (.inr (by simp))

private theorem exists_parted_return (before after : List Char) :
    ∃ right, Parted before ['\r'] after (normalizeNewlines before) '\n' right := by
  have parts : normalizeNewlines (before ++ ['\r'] ++ after) =
      normalizeNewlines before ++ normalizeNewlines ('\r' :: after) := by
    rw [List.append_assoc]
    exact normalizeNewlines_append (.inr (by simp))
  by_cases feeds : after.head? = some '\n'
  · obtain ⟨others, rfl⟩ := List.head?_eq_some_iff.mp feeds
    exact ⟨_, rfl, by decide, parts, .inl rfl, .inr (normalizeNewlines_cons (by decide) others)⟩
  · rw [normalizeNewlines_return feeds] at parts
    exact ⟨_, rfl, by decide, parts, .inl rfl, .inl rfl⟩

private theorem exists_parted_single (breaks : isLineBreak character = true) (other : character ≠ '\r')
    (before after : List Char) : ∃ left, Parted before [character] after left character (normalizeNewlines after) := by
  by_cases pair : before.getLast? = some '\r' ∧ character = '\n'
  · obtain ⟨last, rfl⟩ := pair
    obtain ⟨front, rfl⟩ := List.getLast?_eq_some_iff.mp last
    have parts : normalizeNewlines (front ++ '\r' :: '\n' :: after) = _ := normalizeNewlines_append (.inr (by simp))
    have read : normalizeNewlines (front ++ ['\r']) = _ := normalizeNewlines_append (.inr (by simp))
    refine ⟨_, rfl, other, ?_, .inr read, .inl rfl⟩
    rw [List.append_assoc, List.append_assoc]
    exact parts
  · have apart : before.getLast? ≠ some '\r' ∨ (character :: after).head? ≠ some '\n' := by
      rw [List.head?_cons, Ne, Ne, Option.some.injEq]
      exact not_and_or.mp pair
    refine ⟨_, breaks, other, ?_, .inl rfl, .inl rfl⟩
    rw [List.append_assoc, ← normalizeNewlines_cons other]
    exact normalizeNewlines_append apart

theorem exists_parted {lineEnd : List Char} (ends : LineEnd lineEnd) (before after : List Char) :
    ∃ left character right, Parted before lineEnd after left character right := by
  cases ends with
  | pair => exact ⟨_, _, _, parted_pair before after⟩
  | @single character breaks =>
    by_cases isReturn : character = '\r'
    · subst isReturn
      obtain ⟨right, parted⟩ := exists_parted_return before after
      exact ⟨_, _, right, parted⟩
    · obtain ⟨left, parted⟩ := exists_parted_single breaks isReturn before after
      exact ⟨left, _, _, parted⟩

theorem lines_cons (other : character ≠ '\r') (rest : List Char) :
    lines (character :: rest) =
      if isLineBreak character then [] :: lines rest
      else match lines rest with
        | line :: others => (character :: line) :: others
        | [] => [[character]] :=
  lines.eq_3 character rest fun _ same => absurd same other

theorem lines_cons_break (breaks : isLineBreak character = true) (other : character ≠ '\r') (rest : List Char) :
    lines (character :: rest) = [] :: lines rest := by
  rw [lines_cons other, if_pos breaks]

private theorem lines_eq_nil (clean : '\r' ∉ text) (none : lines text = []) : text = [] := by
  cases text with
  | nil => rfl
  | cons character rest =>
    rw [lines_cons (List.ne_and_not_mem_of_not_mem_cons clean).1.symm] at none
    split at none
    · cases none
    · split at none <;> cases none

/-- A break ends the last line before it, or makes an empty one if that has ended already. -/
theorem lines_append_break (breaks : isLineBreak character = true) (other : character ≠ '\r') (clean : '\r' ∉ before)
    (after : List Char) :
    lines (before ++ character :: after) = lines before ++ lines after ∨
      lines (before ++ character :: after) = lines before ++ [] :: lines after := by
  induction before with
  | nil => exact .inr (lines_cons_break breaks other after)
  | cons first rest ih =>
    obtain ⟨differs, others⟩ := List.ne_and_not_mem_of_not_mem_cons clean
    by_cases ended : isLineBreak first = true
    · rw [List.cons_append, lines_cons_break ended differs.symm, lines_cons_break ended differs.symm]
      exact (ih others).imp (congrArg ([] :: ·)) (congrArg ([] :: ·))
    · rw [List.cons_append, lines_cons differs.symm, lines_cons differs.symm, if_neg ended, if_neg ended]
      cases begun : lines rest with
      | cons line more =>
        rw [begun] at ih
        refine (ih others).imp ?_ ?_ <;>
        · intro same
          rw [same]
          rfl
      | nil =>
        -- The first character is the whole of the last line, which the break ends.
        left
        rw [lines_eq_nil others begun, List.nil_append, lines_cons_break breaks other]
        rfl

theorem lines_of_unbroken (unbroken : ∀ character ∈ line, isLineBreak character = false) :
    lines line = if line = [] then [] else [line] := by
  induction line with
  | nil => rfl
  | cons first rest ih =>
    obtain ⟨solid, others⟩ := List.forall_mem_cons.mp unbroken
    have other : first ≠ '\r' := by
      rintro rfl
      cases solid
    rw [lines_cons other, if_neg (by simp [solid]), ih others, if_neg (List.cons_ne_nil first rest)]
    by_cases last : rest = []
    · rw [if_pos last, last]
    · rw [if_neg last]

/-- There is no white space in the text, and some character. -/
structure IsWord (text : List Char) : Prop where
  occupied : text ≠ []
  solid : ∀ character ∈ text, isBlank character = false

instance (text : List Char) : Decidable (IsWord text) :=
  decidable_of_iff (text ≠ [] ∧ text.all fun character => !isBlank character)
    ⟨fun ⟨occupied, solid⟩ => ⟨occupied, by simpa using solid⟩, fun ⟨occupied, solid⟩ => ⟨occupied, by simpa using solid⟩⟩

private theorem stripLeft_gap (blank : ∀ character ∈ gap, isBlank character = true) (rest : List Char) :
    stripLeft (gap ++ rest) = stripLeft rest :=
  List.dropWhile_append_of_pos blank

private theorem stripLeft_solid (solid : isBlank character = false) (rest : List Char) :
    stripLeft (character :: rest) = character :: rest :=
  List.dropWhile_cons_of_neg (by simp [solid])

private theorem stripLeft_word (isWord : IsWord word) (rest : List Char) : stripLeft (word ++ rest) = word ++ rest := by
  obtain ⟨first, others, rfl⟩ := List.exists_cons_of_ne_nil isWord.occupied
  exact stripLeft_solid (isWord.solid first List.mem_cons_self) (others ++ rest)

theorem IsWord.reverse (isWord : IsWord word) : IsWord word.reverse where
  occupied := by simpa using isWord.occupied
  solid := by simpa using isWord.solid

theorem strip_blank (blank : ∀ character ∈ text, isBlank character = true) : strip text = [] := by
  have none := stripLeft_gap blank []
  rw [List.append_nil] at none
  rw [strip, none]
  rfl

private theorem stripLeft_append_solid (solid : isBlank character = false) (text : List Char) :
    stripLeft (text ++ [character]) = stripLeft text ++ [character] := by
  have kept : [character].dropWhile isBlank = [character] := stripLeft_solid solid []
  rw [stripLeft, stripLeft, List.dropWhile_append, kept]
  split
  next none => rw [List.isEmpty_iff.mp none, List.nil_append]
  next => rfl

/-- The first character that is not blank stays in front. -/
theorem head?_strip (blank : ∀ character ∈ gap, isBlank character = true) (solid : isBlank character = false)
    (rest : List Char) : (strip (gap ++ character :: rest)).head? = some character := by
  rw [strip, stripLeft_gap blank, stripLeft_solid solid, List.reverse_cons, stripLeft_append_solid solid,
    List.reverse_append, List.reverse_singleton, List.singleton_append, List.head?_cons]

/-- From one word to another nothing is taken off. -/
theorem strip_words {last : List Char} (blankBefore : ∀ character ∈ before, isBlank character = true) (first : IsWord word)
    (final : IsWord last) (blankAfter : ∀ character ∈ after, isBlank character = true) :
    strip (before ++ (word ++ gap ++ last) ++ after) = word ++ gap ++ last := by
  have blankEnd : ∀ character ∈ after.reverse, isBlank character = true := by simpa using blankAfter
  have front : stripLeft (before ++ (word ++ gap ++ last) ++ after) = word ++ (gap ++ last ++ after) := by
    rw [List.append_assoc, stripLeft_gap blankBefore, List.append_assoc, List.append_assoc, stripLeft_word first,
      List.append_assoc]
  have back : (word ++ (gap ++ last ++ after)).reverse = after.reverse ++ (last.reverse ++ (word ++ gap).reverse) := by
    simp only [List.reverse_append, List.append_assoc]
  rw [strip, front, back, stripLeft_gap blankEnd, stripLeft_word final.reverse, List.reverse_append, List.reverse_reverse,
    List.reverse_reverse]

theorem fields_blank (blank : ∀ character ∈ text, isBlank character = true) : fields text = [] := by
  have none := stripLeft_gap blank []
  rw [List.append_nil] at none
  rw [fields]
  split
  next => rfl
  next shown => cases none.symm.trans shown

/-- A word ends where white space follows, or nothing. -/
theorem fields_word (blank : ∀ character ∈ gap, isBlank character = true) (isWord : IsWord word)
    (ended : ∀ character ∈ rest.head?, isBlank character = true) :
    fields (gap ++ word ++ rest) = word :: fields rest := by
  obtain ⟨first, others, rfl⟩ := List.exists_cons_of_ne_nil isWord.occupied
  have front : stripLeft (gap ++ first :: others ++ rest) = first :: (others ++ rest) := by
    rw [List.append_assoc, stripLeft_gap blank, stripLeft_word isWord, List.cons_append]
  have solid : ∀ character ∈ others, (!isBlank character) = true := by
    intro character member
    rw [isWord.solid character (List.mem_cons_of_mem first member)]
    rfl
  have none : rest.takeWhile (!isBlank ·) = [] ∧ rest.dropWhile (!isBlank ·) = rest := by
    cases rest with
    | nil => exact ⟨rfl, rfl⟩
    | cons next more =>
      have blank := ended next rfl
      exact ⟨List.takeWhile_cons_of_neg (by simp [blank]), List.dropWhile_cons_of_neg (by simp [blank])⟩
  rw [fields]
  split
  next shown => cases front.symm.trans shown
  next shown =>
    obtain ⟨rfl, rfl⟩ := List.cons.inj (front.symm.trans shown)
    rw [List.takeWhile_append_of_pos solid, List.dropWhile_append_of_pos solid, none.1, none.2, List.append_nil]

end CertWire.Text
