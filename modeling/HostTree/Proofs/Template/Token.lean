/-
This file cuts templates into tokens and shows that a template is read token by token.
-/

import HostTree.Proofs.Template.Reading

namespace HostTree

/-- This is the number of octets of the characters in UTF-8. -/
def Text.byteSize (characters : List Char) : Nat :=
  (String.ofList characters).utf8ByteSize

theorem Text.byteSize_append (front back : List Char) :
    byteSize (front ++ back) = byteSize front + byteSize back := by
  rw [byteSize, String.ofList_append, String.utf8ByteSize_append]
  rfl

theorem Text.byteSize_cons (character : Char) (rest : List Char) :
    byteSize (character :: rest) = character.utf8Size + byteSize rest := by
  have single : byteSize [character] = character.utf8Size := by
    rw [byteSize, ← String.singleton_eq_ofList, String.utf8ByteSize_singleton]
  rw [← List.singleton_append, byteSize_append, single]

namespace Template

open Text

/-- Such a token stands for one character. -/
inductive LiteralToken : List Char → Prop where
  | single {character : Char} (left : character ≠ '{') (right : character ≠ '}') :
    LiteralToken [character]
  | opening : LiteralToken ['{', '{']
  | closing : LiteralToken ['}', '}']

inductive Token : List Char → Prop where
  | literal {text : List Char} (literal : LiteralToken text) : Token text
  | placeholder {name : List Char} (plain : Plain name) : Token ('{' :: name ++ ['}'])

/-- The parts are of one kind, and the text is what they are together. -/
structure Composes (kind : List Char → Prop) (parts : List (List Char)) (text : List Char) :
    Prop where
  each : ∀ part ∈ parts, kind part
  joined : parts.flatten = text

/-- Every brace of such a text belongs to a token. -/
def Balanced (text : List Char) : Prop :=
  ∃ tokens, Composes Token tokens text

/-- There is no placeholder among the tokens. -/
def WithoutPlaceholder (text : List Char) : Prop :=
  ∃ tokens, Composes LiteralToken tokens text

/-- There is something left, but it begins with no token. -/
structure Stuck (text : List Char) : Prop where
  nonempty : text ≠ []
  unfit : ∀ token, Token token → ¬ token <+: text

/-- This is what a segment is written as. -/
def Segment.token (segment : Segment) : List Char :=
  write [segment]

/-- The segments are written as tokens, so that no name among them has a brace. -/
def Sound (segments : List Segment) : Prop :=
  ∀ segment ∈ segments, Token segment.token

theorem write_cons (segment : Segment) (segments : List Segment) :
    write (segment :: segments) = segment.token ++ write segments := by
  simp only [Segment.token, write, List.flatMap_cons, List.flatMap_nil, List.append_nil]

theorem write_eq_flatten (segments : List Segment) :
    write segments = (segments.map Segment.token).flatten := by
  induction segments with
  | nil => rfl
  | cons segment rest ih => rw [write_cons, ih, List.map_cons, List.flatten_cons]

theorem token_placeholder (name : List Char) :
    (Segment.placeholder name).token = '{' :: name ++ ['}'] :=
  List.flatMap_singleton _ _

theorem token_literal (character : Char) :
    (Segment.literal character).token = escape [character] :=
  List.flatMap_singleton _ _

theorem escape_singleton_of_plain {character : Char} (left : character ≠ '{')
    (right : character ≠ '}') : escape [character] = [character] := by
  rw [escape, List.flatMap_singleton, if_neg (not_or.mpr ⟨left, right⟩)]

theorem escape_cons (character : Char) (rest : List Char) :
    escape (character :: rest) = escape [character] ++ escape rest := by
  rw [escape, escape, escape, List.flatMap_cons, List.flatMap_singleton]

theorem exists_character_of_literalToken {token : List Char} (literal : LiteralToken token) :
    ∃ character, escape [character] = token := by
  cases literal with
  | @single character left right => exact ⟨character, escape_singleton_of_plain left right⟩
  | opening => exact ⟨'{', rfl⟩
  | closing => exact ⟨'}', rfl⟩

theorem literalToken_escape (character : Char) : LiteralToken (escape [character]) := by
  by_cases left : character = '{'
  · rw [left]
    exact .opening
  · by_cases right : character = '}'
    · rw [right]
      exact .closing
    · rw [escape_singleton_of_plain left right]
      exact .single left right

theorem exists_segment_of_token {token : List Char} (sound : Token token) :
    ∃ segment : Segment, segment.token = token := by
  cases sound with
  | literal literal =>
    obtain ⟨character, rfl⟩ := exists_character_of_literalToken literal
    exact ⟨.literal character, token_literal character⟩
  | @placeholder name plain => exact ⟨.placeholder name, token_placeholder name⟩

theorem plain_of_token {name : List Char} (token : Token ('{' :: name ++ ['}'])) : Plain name := by
  generalize written : '{' :: name ++ ['}'] = text at token
  cases token with
  | literal literal =>
    cases literal with
    | single left right => simp_all
    | opening => simp [List.append_eq_cons_iff] at written
    | closing => simp at written
  | placeholder plain =>
    simp only [List.cons_append, List.cons.injEq, true_and, List.append_cancel_right_eq] at written
    rwa [written]

/-- Tokens are what some segments are written as. -/
theorem exists_segments_of_tokens {tokens : List (List Char)}
    (each : ∀ token ∈ tokens, Token token) :
    ∃ segments : List Segment, segments.map Segment.token = tokens := by
  induction tokens with
  | nil => exact ⟨[], rfl⟩
  | cons token rest ih =>
    obtain ⟨now, later⟩ := List.forall_mem_cons.mp each
    obtain ⟨segment, written⟩ := exists_segment_of_token now
    obtain ⟨segments, writtenRest⟩ := ih later
    exact ⟨segment :: segments, by rw [List.map_cons, written, writtenRest]⟩

/-- Without a brace the name goes on. -/
theorem readFrom_inside {name : List Char} (plain : Plain name) (offset opening : Nat)
    (reversedName rest : List Char) :
    readFrom offset (.inside opening reversedName) (name ++ rest) =
      readFrom (offset + byteSize name) (.inside opening (name.reverse ++ reversedName)) rest := by
  induction name generalizing offset reversedName with
  | nil => rfl
  | cons character others ih =>
    obtain ⟨⟨left, right⟩, plainRest⟩ := List.forall_mem_cons.mp plain
    rw [List.cons_append, readFrom.eq_10 _ _ _ _ _ right left, ih plainRest, byteSize_cons,
      Nat.add_assoc, List.reverse_cons, List.append_assoc, List.singleton_append]

/-- A single brace that opens is read into the name behind it. -/
theorem readFrom_opening {name : List Char} (plain : Plain name) (offset : Nat)
    {rest : List Char} (single : name = [] → ∀ others, rest ≠ '{' :: others) :
    readFrom offset .outside ('{' :: (name ++ rest)) =
      readFrom (offset + 1 + byteSize name) (.inside offset name.reverse) rest := by
  have behind (others : List Char) : name ++ rest ≠ '{' :: others := by
    cases name with
    | nil => exact single rfl others
    | cons character more =>
      rintro same
      exact (List.forall_mem_cons.mp plain).1.1 (List.cons.inj same).1
  rw [readFrom.eq_4 offset _ behind, readFrom_inside plain, List.append_nil]

/-- Reading a token gives its segment, whatever follows. -/
theorem readFrom_token {segment : Segment} (token : Token segment.token) (offset : Nat)
    (rest : List Char) :
    readFrom offset .outside (segment.token ++ rest) =
      (readFrom (offset + byteSize segment.token) .outside rest).map (segment :: ·) := by
  cases segment with
  | literal character =>
    rw [token_literal]
    by_cases left : character = '{'
    · rw [left]
      rfl
    · by_cases right : character = '}'
      · rw [right]
        rfl
      · rw [escape_singleton_of_plain left right, List.singleton_append, readFrom_cons left right,
          byteSize_cons]
        rfl
  | placeholder name =>
    rw [token_placeholder] at token ⊢
    have joined : '{' :: name ++ ['}'] ++ rest = '{' :: (name ++ '}' :: rest) := by simp
    have size : offset + byteSize ('{' :: name ++ ['}']) = offset + 1 + byteSize name + 1 := by
      rw [List.cons_append, byteSize_cons, byteSize_append]
      change offset + (1 + (byteSize name + 1)) = _
      omega
    rw [joined, readFrom_opening (plain_of_token token) offset fun _ _ => by simp, readFrom.eq_7,
      List.reverse_reverse, size]

theorem readFrom_write {segments : List Segment} (sound : Sound segments) (offset : Nat)
    (rest : List Char) :
    readFrom offset .outside (write segments ++ rest) =
      (readFrom (offset + byteSize (write segments)) .outside rest).map (segments ++ ·) := by
  induction segments generalizing offset with
  | nil =>
    change readFrom offset .outside rest = (readFrom offset .outside rest).map id
    cases readFrom offset .outside rest <;> rfl
  | cons segment others ih =>
    obtain ⟨now, later⟩ := List.forall_mem_cons.mp sound
    rw [write_cons, List.append_assoc, readFrom_token now, ih later, byteSize_append,
      Nat.add_assoc]
    cases readFrom _ _ rest <;> rfl

/-- Segments are read back from what they are written as. -/
theorem read_write {segments : List Segment} (sound : Sound segments) :
    read (write segments) = .ok segments := by
  have whole := readFrom_write sound 0 []
  rwa [List.append_nil, readFrom, Except.map, List.append_nil] at whole

/-- The text up to its first brace is plain. -/
theorem exists_plain_append (text : List Char) :
    ∃ name rest, text = name ++ rest ∧ Plain name ∧
      (rest = [] ∨ ∃ others, rest = '{' :: others ∨ rest = '}' :: others) := by
  induction text with
  | nil => exact ⟨[], [], rfl, fun _ => nofun, .inl rfl⟩
  | cons character others ih =>
    by_cases left : character = '{'
    · exact ⟨[], _, rfl, fun _ => nofun, .inr ⟨others, .inl (by rw [left])⟩⟩
    · by_cases right : character = '}'
      · exact ⟨[], _, rfl, fun _ => nofun, .inr ⟨others, .inr (by rw [right])⟩⟩
      · obtain ⟨name, rest, rfl, plain, ending⟩ := ih
        have plainName := List.forall_mem_cons.mpr ⟨⟨left, right⟩, plain⟩
        exact ⟨character :: name, rest, rfl, plainName, ending⟩

/-- An opening brace that no token begins with is refused where it stands. -/
theorem readFrom_stuck_opening {rest : List Char}
    (unfit : ∀ token, Token token → ¬ token <+: '{' :: rest) (offset : Nat) :
    readFrom offset .outside ('{' :: rest) = .error (.unbalanced '{' offset) := by
  obtain ⟨name, behind, rfl, plain, ending⟩ := exists_plain_append rest
  have single (empty : name = []) (others : List Char) : behind ≠ '{' :: others := by
    rintro rfl
    exact unfit _ (.literal .opening) ⟨others, by rw [empty]; rfl⟩
  rw [readFrom_opening plain offset single]
  rcases ending with rfl | ⟨others, rfl | rfl⟩
  · rfl
  · rfl
  · exact absurd ⟨others, by simp⟩ (unfit _ (.placeholder plain))

/-- Where no token begins, the reader refuses the brace that stands there. -/
theorem readFrom_stuck {text : List Char} (stuck : Stuck text) (offset : Nat) :
    ∃ brace rest, text = brace :: rest ∧ (brace = '{' ∨ brace = '}') ∧
      readFrom offset .outside text = .error (.unbalanced brace offset) := by
  obtain ⟨brace, rest, rfl⟩ := List.exists_cons_of_ne_nil stuck.nonempty
  refine ⟨brace, rest, rfl, ?_⟩
  by_cases left : brace = '{'
  · subst left
    exact ⟨.inl rfl, readFrom_stuck_opening stuck.unfit offset⟩
  · by_cases right : brace = '}'
    · subst right
      refine ⟨.inr rfl, readFrom.eq_5 offset rest ?_⟩
      rintro others rfl
      exact stuck.unfit _ (.literal .closing) ⟨others, rfl⟩
    · exact absurd ⟨rest, rfl⟩ (stuck.unfit _ (.literal (.single left right)))

theorem Token.ne_nil {token : List Char} (sound : Token token) : token ≠ [] := by
  cases sound with
  | literal literal => cases literal <;> exact List.cons_ne_nil _ _
  | placeholder plain => exact List.cons_ne_nil _ _

/-- A text is a row of tokens up to its end or up to where none begins. -/
theorem exists_write_append (text : List Char) :
    ∃ segments rest, text = write segments ++ rest ∧ Sound segments ∧ (rest = [] ∨ Stuck rest) := by
  -- The induction is on what is left behind the first token.
  induction size : text.length using Nat.strongRecOn generalizing text with
  | ind size ih =>
    subst size
    by_cases ended : text = []
    · exact ⟨[], [], ended, fun _ => nofun, .inl rfl⟩
    · by_cases fits : ∃ token, Token token ∧ token <+: text
      · obtain ⟨token, first, behind, rfl⟩ := fits
        obtain ⟨segment, rfl⟩ := exists_segment_of_token first
        have shorter : behind.length < (segment.token ++ behind).length := by
          have := List.length_pos_iff.mpr first.ne_nil
          rw [List.length_append]
          omega
        obtain ⟨segments, rest, rfl, sound, ending⟩ := ih _ shorter behind rfl
        refine ⟨segment :: segments, rest, ?_, List.forall_mem_cons.mpr ⟨first, sound⟩, ending⟩
        rw [write_cons, List.append_assoc]
      · exact ⟨[], text, rfl, fun _ => nofun,
          .inr ⟨ended, fun token first front => fits ⟨token, first, front⟩⟩⟩

variable {text : List Char}

theorem composes_write {segments : List Segment} (sound : Sound segments) :
    Composes Token (segments.map Segment.token) (write segments) where
  each := List.forall_mem_map.mpr sound
  joined := (write_eq_flatten segments).symm

/-- A balanced text is what some segments are written as. -/
theorem Composes.exists_segments {tokens : List (List Char)}
    (composes : Composes Token tokens text) :
    ∃ segments : List Segment, tokens = segments.map Segment.token ∧ text = write segments ∧
      Sound segments := by
  obtain ⟨segments, written⟩ := exists_segments_of_tokens composes.each
  refine ⟨segments, written.symm, ?_, List.forall_mem_map.mp (written ▸ composes.each)⟩
  rw [← composes.joined, ← written, write_eq_flatten]

end Template
end HostTree
