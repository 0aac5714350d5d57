/-
This file shows which expressions are read as ranges and that a mapping with the same numbers is
read as the same range.
-/

import HostTree.Proofs.Loop.Writing

namespace HostTree

namespace Text

/-- A run of characters of a class ends where the next one is not of the class. -/
theorem span_append {kind : Char → Bool} {run rest : List Char} (all : run.all kind)
    (ended : ∀ character ∈ rest.head?, ¬ kind character) :
    (run ++ rest).takeWhile kind = run ∧ (run ++ rest).dropWhile kind = rest := by
  have inside := List.all_eq_true.mp all
  rw [List.takeWhile_append_of_pos inside, List.dropWhile_append_of_pos inside]
  cases rest with
  | nil => simp
  | cons character others =>
    have other : ¬ kind character := ended character rfl
    rw [List.takeWhile_cons_of_neg other, List.dropWhile_cons_of_neg other]
    simp

theorem dropBlanks_append {blanks rest : List Char} (blank : blanks.all isBlank)
    (ended : ∀ character ∈ rest.head?, ¬ isBlank character) : dropBlanks (blanks ++ rest) = rest :=
  (span_append blank ended).2

theorem not_isDigit_of_isBlank {character : Char} (blank : isBlank character) :
    ¬ isDigit character := by
  have apart : blankCharacters.all fun blank => !isDigit blank := by decide
  simpa using List.all_eq_true.mp apart character (List.contains_iff_mem.mp blank)

end Text

namespace Range

variable {bound rest : List Char} {number : Int}

/-- Digits have no minus sign before them. -/
theorem ne_cons_of_digits {digits : List Char} (present : digits ≠ [])
    (decimal : ∀ character ∈ digits, character.isDigit) (tail : List Char) :
    digits ++ rest ≠ '-' :: tail := by
  obtain ⟨first, others, rfl⟩ := List.exists_cons_of_ne_nil present
  intro same
  have digit := decimal first List.mem_cons_self
  rw [(List.cons.inj same).1] at digit
  exact absurd digit (by decide)

theorem bound?_append (written : IsBound bound number)
    (ended : ∀ character ∈ rest.head?, ¬ Text.isDigit character) :
    bound? (bound ++ rest) = some (bound, rest) := by
  have run {digits : List Char} (decimal : ∀ character ∈ digits, character.isDigit) :
      (digits ++ rest).takeWhile Text.isDigit = digits ∧
        (digits ++ rest).dropWhile Text.isDigit = rest := by
    apply Text.span_append _ ended
    exact List.all_eq_true.mpr fun character among =>
      Text.isDigit_of_asciiDigit character (decimal character among)
  cases written with
  | positive present decimal =>
    obtain ⟨taken, dropped⟩ := run decimal
    unfold bound?
    split
    next sign unsigned cut =>
      split at cut
      · next tail same => exact absurd same (ne_cons_of_digits present decimal tail)
      · cases cut
        dsimp only
        rw [taken, dropped, if_neg (by simpa using present), List.nil_append]
  | negative present decimal =>
    obtain ⟨taken, dropped⟩ := run decimal
    simp only [List.cons_append, bound?]
    rw [taken, dropped, if_neg (by simpa using present), List.nil_append]

theorem boundValue?_of_isBound {value : Int64} (written : IsBound bound value.toInt) :
    boundValue? bound = some value := by
  generalize same : value.toInt = number at written
  cases written with
  | positive present decimal =>
    unfold boundValue?
    split
    next negative digits cut =>
      split at cut
      · exact absurd (decimal '-' List.mem_cons_self) (by decide)
      · cases cut
        dsimp only
        rw [if_pos (List.all_eq_true.mpr decimal), fitting?_eq_some_iff, same]
        rfl
  | negative present decimal =>
    simp only [boundValue?]
    rw [if_pos (List.all_eq_true.mpr decimal), fitting?_eq_some_iff, same]
    rfl

theorem boundValue_of_isBound {value : Int64} (written : IsBound bound value.toInt) :
    boundValue bound = .ok value := by
  rw [boundValue, boundValue?_of_isBound written]

/-- Blanks end before a bound. -/
theorem IsBound.ends_blanks (written : IsBound bound number) (rest : List Char) :
    ∀ character ∈ (bound ++ rest).head?, ¬ Text.isBlank character := by
  intro character first
  cases written with
  | positive present decimal =>
    rw [List.head?_append_of_ne_nil _ present] at first
    intro blank
    have digit := decimal character (List.mem_of_mem_head? first)
    exact Text.not_isDigit_of_isBlank blank (Text.isDigit_of_asciiDigit character digit)
  | negative present decimal =>
    cases first
    decide

/-- Digits end before blanks and before what follows them. -/
theorem blanks_end_digits {blanks : List Char} (blank : blanks.all Text.isBlank) {next : Char}
    (other : ¬ Text.isDigit next) (rest : List Char) :
    ∀ character ∈ (blanks ++ next :: rest).head?, ¬ Text.isDigit character := by
  intro character first
  cases blanks with
  | nil =>
    cases first
    exact other
  | cons space others =>
    cases first
    exact Text.not_isDigit_of_isBlank (List.all_eq_true.mp blank character List.mem_cons_self)

/-- A bound is read with the blanks around it. -/
theorem bound?_dropBlanks {before after : List Char} (blankBefore : before.all Text.isBlank)
    (written : IsBound bound number) (blankAfter : after.all Text.isBlank) (next : Char)
    (other : ¬ Text.isDigit next) (inked : ¬ Text.isBlank next) (rest : List Char) :
    bound? (Text.dropBlanks (before ++ bound ++ after ++ next :: rest)) =
        some (bound, after ++ next :: rest) ∧
      Text.dropBlanks (after ++ next :: rest) = next :: rest := by
  constructor
  · rw [List.append_assoc, List.append_assoc,
      Text.dropBlanks_append blankBefore (written.ends_blanks _),
      bound?_append written (blanks_end_digits blankAfter other rest)]
  · exact Text.dropBlanks_append blankAfter fun character first => by
      cases first
      exact inked

/-- Bounds are read as the numbers that they are written for. -/
theorem bounds?_of_areBounds {text : List Char} {numbers : List Int64}
    (written : AreBounds text numbers) {limit : Nat} (few : numbers.length ≤ limit) :
    ∃ bounds, bounds? limit text = some bounds ∧ bounds.mapM boundValue = .ok numbers := by
  induction written generalizing limit with
  | @last before bound after behind number blankBefore value blankAfter blankBehind =>
    obtain ⟨limit, rfl⟩ : ∃ less, limit = less + 1 := Nat.exists_eq_add_one.mpr few
    obtain ⟨first, next⟩ :=
      bound?_dropBlanks blankBefore value blankAfter ')' (by decide) (by decide) behind
    have ends : Text.dropBlanks behind = [] :=
      List.dropWhile_eq_nil_iff.mpr (List.all_eq_true.mp blankBehind)
    refine ⟨[bound], ?_, ?_⟩
    · rw [bounds?, first]
      simp [next, ends]
    · rw [List.mapM_cons, boundValue_of_isBound value]
      rfl
  | @more before bound after rest number numbers blankBefore value blankAfter others ih =>
    rw [List.length_cons] at few
    obtain ⟨limit, rfl⟩ : ∃ less, limit = less + 1 := Nat.exists_eq_add_one.mpr (by omega)
    obtain ⟨first, next⟩ :=
      bound?_dropBlanks blankBefore value blankAfter ',' (by decide) (by decide) rest
    obtain ⟨bounds, read, valued⟩ := ih (Nat.le_of_succ_le_succ few)
    refine ⟨bound :: bounds, ?_, ?_⟩
    · rw [bounds?, first]
      simp [next, read]
    · rw [List.mapM_cons, boundValue_of_isBound value, valued]
      rfl

/-- The expression is written with up to three numbers. -/
def IsExpression (expression : String) (numbers : List Int64) : Prop :=
  numbers.length ≤ 3 ∧ ∃ before rest, before.all Text.isBlank ∧ AreBounds rest numbers ∧
    expression.toList = before ++ "range(".toList ++ rest

/-- These are the fields of a mapping for the numbers of an expression. -/
def fields : List Int64 → List (String × Value)
  | [stop] => [("stop", .integer stop)]
  | [start, stop] => [("start", .integer start), ("stop", .integer stop)]
  | [start, stop, step] =>
    [("start", .integer start), ("stop", .integer stop), ("step", .integer step)]
  | _ => []

theorem exists_ofBounds? {text : List Char} {numbers : List Int64}
    (written : AreBounds text numbers) (few : numbers.length ≤ 3) :
    ∃ range, ofBounds? numbers = some range := by
  have present : numbers ≠ [] := by cases written <;> simp
  match numbers with
  | [] => exact absurd rfl present
  | [stop] => exact ⟨_, rfl⟩
  | [start, stop] => exact ⟨_, rfl⟩
  | [start, stop, step] => exact ⟨_, rfl⟩
  | _ :: _ :: _ :: _ :: _ => exact absurd few (by simp)

theorem ofExpression_of_isExpression {expression : String} {numbers : List Int64}
    (written : IsExpression expression numbers) {range : Range}
    (numbered : ofBounds? numbers = some range) :
    ofExpression expression = checked range.start range.stop range.step := by
  obtain ⟨few, before, rest, blank, bounds, split⟩ := written
  obtain ⟨found, read, valued⟩ := bounds?_of_areBounds bounds few
  have inside : expressionBounds? expression.toList = some found := by
    have begins : Text.dropBlanks (before ++ ("range(".toList ++ rest)) = "range(".toList ++ rest :=
      Text.dropBlanks_append blank fun character first => by
        cases first
        decide
    rw [split, List.append_assoc, expressionBounds?, begins]
    exact read
  rw [ofExpression, inside]
  dsimp only
  rw [valued]
  unfold ofBounds? at numbered
  split at numbered <;> cases numbered <;> rfl

/-- Only such expressions are read. -/
theorem isExpression_of_ofExpression {expression : String} {range : Range}
    (read : ofExpression expression = .ok range) :
    ∃ numbers, IsExpression expression numbers ∧ ofBounds? numbers = some range := by
  have written := (isWritten_of_ofExpression read).1
  generalize same : Value.string expression = content at written
  cases written with
  | mapping fields => cases same
  | @expression before rest numbers blank bounds numbered =>
    cases same
    have few : numbers.length ≤ 3 := by
      unfold ofBounds? at numbered
      split at numbered <;> simp at numbered ⊢
    exact ⟨numbers, ⟨few, before, rest, blank, bounds, String.toList_ofList⟩, numbered⟩

theorem ofExpression_eq_ok_iff {expression : String} {range : Range} :
    ofExpression expression = .ok range ↔
      ∃ numbers, IsExpression expression numbers ∧ ofBounds? numbers = some range ∧
        range.IsAdmissible := by
  constructor
  · intro read
    obtain ⟨numbers, written, numbered⟩ := isExpression_of_ofExpression read
    exact ⟨numbers, written, numbered, (isWritten_of_ofExpression read).2⟩
  · rintro ⟨numbers, written, numbered, admissible⟩
    rw [ofExpression_of_isExpression written numbered]
    exact checked_eq_ok_iff.mpr ⟨rfl, admissible⟩

end Range

namespace Loop

/-- Entries with integers for the known fields are all assigned. -/
theorem Fields.exists_assignAll {entries : List (String × Value)}
    (known : ∀ entry ∈ entries, entry.1 ∈ ["start", "stop", "step"] ∧
      ∃ number, entry.2 = .integer number) (fields : Fields) :
    ∃ last, entries.foldlM (fun fields entry => fields.assign entry.1 entry.2) fields =
      .ok last := by
  induction entries generalizing fields with
  | nil => exact ⟨fields, rfl⟩
  | cons entry rest ih =>
    obtain ⟨⟨named, number, content⟩, later⟩ := List.forall_mem_cons.mp known
    have now : ∃ next, fields.assign entry.1 entry.2 = .ok next := by
      rw [content, assign]
      simp only [List.mem_cons, List.not_mem_nil, or_false] at named
      rcases named with same | same | same <;> simp [same]
    obtain ⟨next, assigned⟩ := now
    rw [List.foldlM_cons, assigned]
    exact ih later next

/-- With distinct names each entry counts, so that each content is an integer. -/
theorem known_of_isOfFields {range : Range} {entries : List (String × Value)}
    (distinct : Entries.Distinct entries) (fields : range.IsOfFields entries) :
    ∀ entry ∈ entries, entry.1 ∈ ["start", "stop", "step"] ∧
      ∃ number, entry.2 = .integer number := by
  intro entry among
  have named := fields.names entry among
  have found : Entries.get? entry.1 entries.reverse = some entry.2 :=
    (Entries.get?_eq_some_iff (distinct.perm entries.reverse_perm)).mpr (List.mem_reverse.mpr among)
  have start := fields.start
  have stop := fields.stop
  have step := fields.step
  refine ⟨named, ?_⟩
  simp only [List.mem_cons, List.not_mem_nil, or_false] at named
  rcases named with same | same | same
  · rw [← same, found, Option.getD_some] at start
    exact ⟨_, start⟩
  · rw [← same, found] at stop
    exact ⟨_, Option.some.inj stop⟩
  · rw [← same, found, Option.getD_some] at step
    exact ⟨_, step⟩

theorem ofMapping_of_isOfFields {range : Range} {entries : List (String × Value)}
    (distinct : Entries.Distinct entries) (fields : range.IsOfFields entries) :
    ofMapping entries = Range.checked range.start range.stop range.step := by
  obtain ⟨last, assigned⟩ := Fields.exists_assignAll (known_of_isOfFields distinct fields) {}
  obtain ⟨_, contents⟩ := Fields.of_assignAll assigned
  have start := contents "start"
  have stop := contents "stop"
  have step := contents "step"
  simp only [Fields.content?, String.reduceEq, if_true, if_false, Option.map_none, Option.or_none,
    Option.or_some, fields.start, fields.stop, fields.step, Option.some.injEq,
    Value.integer.injEq] at start stop step
  obtain ⟨number, found, same⟩ := Option.map_eq_some_iff.mp stop
  cases same
  rw [ofMapping, assigned]
  dsimp only [bind, Except.bind]
  rw [found, start, step]

end Loop

namespace Range

/-- The fields for the numbers stay those of the range in any order. -/
theorem isOfFields_of_perm {numbers : List Int64} {range : Range}
    (numbered : ofBounds? numbers = some range) {entries : List (String × Value)}
    (perm : entries.Perm (fields numbers)) :
    Entries.Distinct entries ∧ range.IsOfFields entries := by
  have distinct : Entries.Distinct (fields numbers) := by
    unfold fields
    split <;> simp [Entries.Distinct]
  have reversed (name : String) :
      Entries.get? name entries.reverse = Entries.get? name (fields numbers) :=
    Entries.get?_eq_of_perm distinct (entries.reverse_perm.trans perm)
  have names : ∀ entry ∈ fields numbers, entry.1 ∈ ["start", "stop", "step"] := by
    unfold fields
    split <;> simp
  refine ⟨distinct.perm perm, fun entry among => names entry (perm.mem_iff.mp among), ?_, ?_, ?_⟩
  all_goals
    rw [reversed]
    unfold ofBounds? at numbered
    split at numbered <;> cases numbered <;> rfl

end Range

theorem Loop.ofValue_string_eq_ok_iff {expression : String} {loop : Option Loop} :
    ofValue (.string expression) = .ok loop ↔
      ∃ numbers range, Range.IsExpression expression numbers ∧
        Range.ofBounds? numbers = some range ∧ range.IsAdmissible ∧
        loop = some (.range range) := by
  rw [ofValue]
  constructor
  · intro read
    obtain ⟨range, found, same⟩ := Except.exists_of_map_eq_ok read
    obtain ⟨numbers, written, numbered, admissible⟩ := Range.ofExpression_eq_ok_iff.mp found
    exact ⟨numbers, range, written, numbered, admissible, same.symm⟩
  · rintro ⟨numbers, range, written, numbered, admissible, rfl⟩
    rw [Range.ofExpression_eq_ok_iff.mpr ⟨numbers, written, numbered, admissible⟩]
    rfl

/-- An expression is read if and only if it has the form of a range with up to three decimal numbers
of sixty-four bits and loops may run over this range. Every other expression is refused. A mapping
with the same numbers does what the expression does, whether it is refused or not, and the order of
its entries does not matter. -/
theorem expression_agrees_with_mapping (expression : String) :
    (∀ loop, Loop.ofValue (.string expression) = .ok loop ↔
      ∃ numbers range, Range.IsExpression expression numbers ∧
        Range.ofBounds? numbers = some range ∧ range.IsAdmissible ∧
        loop = some (.range range)) ∧
    ((∀ numbers range, Range.IsExpression expression numbers →
        Range.ofBounds? numbers = some range → ¬ range.IsAdmissible) →
      ∃ flaw, Loop.ofValue (.string expression) = .error flaw) ∧
    ∀ numbers, Range.IsExpression expression numbers →
      ∀ entries, entries.Perm (Range.fields numbers) →
        Loop.ofValue (.mapping entries) = Loop.ofValue (.string expression) := by
  refine ⟨fun loop => Loop.ofValue_string_eq_ok_iff, fun refused => ?_,
    fun numbers written entries perm => ?_⟩
  · cases read : Loop.ofValue (.string expression) with
    | error flaw => exact ⟨flaw, rfl⟩
    | ok loop =>
      obtain ⟨numbers, range, written, numbered, admissible, _⟩ :=
        Loop.ofValue_string_eq_ok_iff.mp read
      exact absurd admissible (refused numbers range written numbered)
  · obtain ⟨few, _, _, _, bounds, _⟩ := id written
    obtain ⟨range, numbered⟩ := Range.exists_ofBounds? bounds few
    obtain ⟨distinct, fields⟩ := Range.isOfFields_of_perm numbered perm
    rw [Loop.ofValue, Loop.ofValue, Loop.ofMapping_of_isOfFields distinct fields,
      Range.ofExpression_of_isExpression written numbered]

/-- Blanks of any script stand around the numbers, and zeros before them. -/
theorem expression_agrees_with_mapping_blanks :
    Range.IsExpression " range(\u3000-03 , 0)\n" [-3, 0] ∧
      Loop.ofValue (.mapping [("stop", .integer 0), ("start", .integer (-3))]) =
        .ok (some (.range ⟨-3, 0, 1⟩)) := by
  have stop : Range.IsBound ['0'] (0 : Int64).toInt :=
    .positive (List.cons_ne_nil '0' []) (List.all_eq_true.mp rfl)
  have start : Range.IsBound ['-', '0', '3'] (-3 : Int64).toInt :=
    .negative (List.cons_ne_nil '0' ['3']) (List.all_eq_true.mp rfl)
  have last : Range.AreBounds ([' '] ++ ['0'] ++ [] ++ ')' :: ['\n']) [0] :=
    .last (by decide) stop (by decide) (by decide)
  have bounds : Range.AreBounds (['\u3000'] ++ ['-', '0', '3'] ++ [' '] ++
      ',' :: ([' '] ++ ['0'] ++ [] ++ ')' :: ['\n'])) [-3, 0] :=
    .more (by decide) start (by decide) last
  have written : Range.IsExpression " range(\u3000-03 , 0)\n" [-3, 0] :=
    ⟨by decide, [' '], _, by decide, bounds, by decide⟩
  obtain ⟨reads, _, agrees⟩ := expression_agrees_with_mapping " range(\u3000-03 , 0)\n"
  refine ⟨written, (agrees _ written _ (.swap _ _ [])).trans ((reads _).mpr ?_)⟩
  exact ⟨_, _, written, rfl, by decide, rfl⟩

end HostTree
